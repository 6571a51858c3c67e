import ServiceApi.Proofs.Mirrors
import ServiceApi.Proofs.Repository.Calls
import ServiceApi.Proofs.Schema.Replay

/-! # A used repository beside a new one

The same calls on a repository that has been used before and on one that has not. What was compiled
before is what the calls would compile, or belongs to other rules, so the calls answer the same. The
indexes of the API differ by what was in them before. -/

namespace ServiceApi

open Schema Compile

namespace Repository

variable {P : Catalog → Prop} {D : SerializationRules → Catalog → Prop} {api : ApiKey}
  {old : OrderedMap String Compiled} {s t u v cold warm : Repository} {slots slots' : Slots}
  {config : ApiConfig} {type resolved : TypeExpr} {fuel : Nat} {a : Compiled} {key : SchemaKey}

/-! ## What indexing keeps -/

/-- Keeps one schema after the other. -/
def keepAll (api : ApiKey) (kept : List Compiled) (repo : Repository) : Repository :=
  kept.foldl (fun r a => r.keep api a) repo

theorem get?_indexOf_keepAll (kept : List Compiled) (repo : Repository) (name : String) :
    ((repo.keepAll api kept).indexOf api).get? name =
      ((repo.indexOf api).get? name).or (kept.find? (·.schema.name = name)) := by
  induction kept generalizing repo with
  | nil => exact Option.or_none.symm
  | cons a kept ih =>
    rw [keepAll, List.foldl_cons, ← keepAll, ih, indexOf_keep, if_pos rfl,
      OrderedMap.get?_insertNew, Option.or_assoc]
    congr 1
    by_cases h : name = a.schema.name
    · rw [if_pos h, Option.some_or, List.find?_cons_of_pos (by simp [h])]
    · rw [if_neg h, Option.none_or, List.find?_cons_of_neg (by simp [Ne.symm h])]

theorem KeepsSlots.resolve (h : KeepsSlots s t) (hs : s.slots.resolve key = .ok a) :
    t.slots.resolve key = .ok a :=
  Slots.resolve_eq_ok.mpr (h key _ (Slots.resolve_eq_ok.mp hs))

theorem KeepsSlots.mapM_resolve (h : KeepsSlots s t) : ∀ {keys : List SchemaKey}
    {targets : List Compiled}, keys.mapM s.slots.resolve = .ok targets →
      keys.mapM t.slots.resolve = .ok targets
  | [], _, hs => hs
  | key :: keys, targets, hs => by
    rw [List.mapM_cons] at hs ⊢
    cases hkey : s.slots.resolve key with
    | error e => rw [hkey] at hs; cases hs
    | ok a =>
      rw [hkey] at hs
      rw [h.resolve hkey]
      cases hrest : keys.mapM s.slots.resolve with
      | error e => rw [hrest] at hs; cases hs
      | ok rest =>
        rw [hrest] at hs
        rw [h.mapM_resolve hrest]
        exact hs

/-- Indexing reads only slots that are filled: where these are the same, it keeps the same. -/
theorem indexAll_keeps : ∀ {fuel : Nat} {seen : List String} {pending : List Compiled}
    {s u : Repository}, (indexAll api fuel seen pending).result s = (.ok ⟨⟩, u) →
      ∃ kept, u = s.keepAll api kept ∧ ∀ t, KeepsSlots s t → ∀ fuel' v,
        (indexAll api fuel' seen pending).result t = (.ok ⟨⟩, v) → v = t.keepAll api kept
  | fuel, seen, [], s, u, h => by
    rw [indexAll, result_pure] at h
    cases h
    refine ⟨[], rfl, fun t _ fuel' v hv => ?_⟩
    rw [indexAll, result_pure] at hv
    cases hv
    rfl
  | 0, _, _ :: _, _, _, h => by cases h
  | fuel + 1, seen, a :: pending, s, u, h => by
    rw [indexAll] at h
    by_cases hskip : (a.schema.isAny || seen.contains a.schema.name) = true
    · rw [if_pos hskip] at h
      obtain ⟨kept, hu, hkept⟩ := indexAll_keeps h
      refine ⟨kept, hu, fun t ht fuel' v hv => ?_⟩
      cases fuel' with
      | zero => cases hv
      | succ fuel' =>
        rw [indexAll, if_pos hskip] at hv
        exact hkept t ht fuel' v hv
    · rw [if_neg hskip] at h
      obtain ⟨targets, htargets, h⟩ := ok_of_ofExcept ((bind_of_ok (result_get s)).symm.trans h)
      rw [bind_of_ok (result_modify _ s)] at h
      obtain ⟨kept, hu, hkept⟩ := indexAll_keeps h
      refine ⟨a :: kept, hu, fun t ht fuel' v hv => ?_⟩
      cases fuel' with
      | zero => cases hv
      | succ fuel' =>
        rw [indexAll, if_neg hskip, bind_of_ok (result_get t), ht.mapM_resolve htargets,
          bind_of_ok (result_ofExcept _ t), bind_of_ok (result_modify _ t)] at hv
        exact hkept (t.keep api a) ht fuel' v hv

theorem addToApi_keeps (hs : (addToApi api a).result s = (.ok ⟨⟩, u))
    (ht : (addToApi api a).result t = (.ok ⟨⟩, v)) (hst : KeepsSlots s t) :
    ∃ kept, u = s.keepAll api kept ∧ v = t.keepAll api kept := by
  rw [addToApi, bind_of_ok (result_get _)] at hs ht
  obtain ⟨kept, hu, hkept⟩ := indexAll_keeps hs
  exact ⟨kept, hu, hkept t hst _ v ht⟩

/-! ## Repositories side by side -/

/-- `warm` holds what `cold` holds, and beyond that what was there before: slots that are settled
for whatever is built from now on by `D`, and in the index of `api` the schemas of `old`. -/
structure Alike (D : SerializationRules → Catalog → Prop) (api : ApiKey)
    (old : OrderedMap String Compiled) (cold warm : Repository) : Prop where
  sound : Sound (fun _ => True) cold
  soundWarm : Sound (fun _ => True) warm
  slots : ∃ W, (∀ rules c, D rules c → SettledOn rules c W) ∧ Warms W cold.slots warm.slots
  index : ∀ name, (warm.indexOf api).get? name =
    (old.get? name).or ((cold.indexOf api).get? name)

namespace Alike

/-- Whatever has been used is like a new repository with it before. -/
theorem start (hs : Sound (fun _ => True) s)
    (hD : ∀ rules c, D rules c → SettledOn rules c s.slots) : Alike D api (s.indexOf api) {} s :=
  ⟨.new _, hs, ⟨s.slots, hD, .start s.slots⟩, fun _ => Option.or_none.symm⟩

theorem keepsSlots (h : Alike D api old cold warm) : KeepsSlots cold warm := by
  obtain ⟨W, -, hw⟩ := h.slots
  intro key x hx
  rw [hw key, hx, Option.some_or]

/-- Finding a finished schema and indexing it, on both sides. -/
theorem addToApi (h : Alike D api old cold warm) (api' : ApiKey)
    (hkey : cold.slots.get? key = some (.done a)) :
    ∃ u v, (addToApi api' a).result cold = (.ok ⟨⟩, u) ∧
      (Repository.addToApi api' a).result warm = (.ok ⟨⟩, v) ∧ Alike D api old u v := by
  obtain ⟨u, hu, hindexes⟩ := addToApi_indexes h.sound.settled hkey (h.sound.indexed api')
  obtain ⟨v, hv, hindexes'⟩ :=
    addToApi_indexes h.soundWarm.settled (h.keepsSlots key _ hkey) (h.soundWarm.indexed api')
  refine ⟨u, v, hu, hv, h.sound.indexes hindexes, h.soundWarm.indexes hindexes', ?_, fun name => ?_⟩
  · rw [hindexes.slots, hindexes'.slots]
    exact h.slots
  · by_cases hapi : api = api'
    · subst hapi
      obtain ⟨kept, rfl, rfl⟩ := addToApi_keeps hu hv h.keepsSlots
      rw [get?_indexOf_keepAll, get?_indexOf_keepAll, h.index name, Option.or_assoc]
    · rw [hindexes.others api hapi, hindexes'.others api hapi]
      exact h.index name

end Alike

/-! ## Calls -/

/-- The two sides of a call whose schema is compiled on both. -/
theorem Alike.call_of_slots_ok (h : Alike D api old cold warm)
    (ht : config.catalog.schemaType config.rules type = .ok resolved)
    (hf : Fills config.catalog cold.slots [⟨config.rules, resolved⟩] (.ok slots))
    (hf' : Fills config.catalog warm.slots [⟨config.rules, resolved⟩] (.ok slots'))
    (hwarms : ∃ W, (∀ rules c, D rules c → SettledOn rules c W) ∧ Warms W slots slots') :
    ∃ a u v, Alike D api old u v ∧
      (∀ fuel, slotsWith config.catalog fuel ⟨config.rules, resolved⟩ cold = .ok slots →
        (getOrAdd fuel type config).result cold = (.ok a, u)) ∧
      ∀ fuel, slotsWith config.catalog fuel ⟨config.rules, resolved⟩ warm = .ok slots' →
        (getOrAdd fuel type config).result warm = (.ok a, v) := by
  obtain ⟨hg, hk⟩ := hf.grows slots rfl
  obtain ⟨hg', -⟩ := hf'.grows slots' rfl
  have hsides : Alike D api old { cold with slots } { warm with slots := slots' } :=
    ⟨h.sound.grows hg trivial, h.soundWarm.grows hg' trivial, hwarms, h.index⟩
  obtain ⟨a, ha⟩ := hsides.sound.settled.done_of_contains (hk _ (List.mem_singleton.mpr rfl))
  obtain ⟨u, v, hu, hv, halike⟩ := hsides.addToApi config.key.withoutRoot ha
  exact ⟨a, u, v, halike, fun fuel hslots => getOrAdd_of_indexed h.sound ht hslots ha hu,
    fun fuel hslots =>
      getOrAdd_of_indexed h.soundWarm ht hslots (hsides.keepsSlots _ _ ha) hv⟩

theorem slotsWith_of_fills {c : Catalog} {r : Except ApiError Slots}
    (hf : Fills c s.slots [key] r) : ∃ n, ∀ fuel ≥ n, slotsWith c fuel key s = r := by
  obtain ⟨n, hn⟩ := hf.slotsAfter_eq
  refine ⟨n, fun fuel hfuel => ?_⟩
  rw [slotsWith, ← slotsAfter_forM_singleton]
  exact hn fuel hfuel s rfl

theorem slotsWith_warm {c : Catalog} {r : Except ApiError Slots} (hf : Fills c s.slots [key] r) :
    ∃ n, ∀ fuel ≥ n, ∀ W, SettledOn key.rules c W → ∀ t : Repository, Warms W s.slots t.slots →
      SameOutcome W r (slotsWith c fuel key t) := by
  obtain ⟨n, hn⟩ := hf.slotsAfter_warm fun k hk => by rw [List.mem_singleton.mp hk]
  refine ⟨n, fun fuel hfuel W hW t hw => ?_⟩
  rw [slotsWith, ← slotsAfter_forM_singleton]
  exact hn fuel hfuel W hW t hw

/-- What a call comes to, by what compiling comes to. -/
theorem Sound.getOrAdd_split (hs : Sound P s) {r : Except ApiError Compiled}
    (ht : config.catalog.schemaType config.rules type = .ok resolved)
    (h : (getOrAdd fuel type config).result s = (r, u)) (hr : r ≠ .error .outOfFuel) :
    (∃ e, r = .error e ∧ u = s ∧
      Fills config.catalog s.slots [⟨config.rules, resolved⟩] (.error e)) ∨
    ∃ slots, slotsWith config.catalog fuel ⟨config.rules, resolved⟩ s = .ok slots ∧
      Fills config.catalog s.slots [⟨config.rules, resolved⟩] (.ok slots) := by
  cases hslots : slotsWith config.catalog fuel ⟨config.rules, resolved⟩ s with
  | error e =>
    cases (getOrAdd_of_slots_error hs ht hslots).symm.trans h
    exact Or.inl ⟨e, rfl, rfl, fills_of_slotsWith hslots fun he => hr (by cases he; rfl)⟩
  | ok slots => exact Or.inr ⟨slots, rfl, fills_of_slotsWith hslots (by simp)⟩

/-- A call that comes to an end comes to the same end with more fuel. -/
theorem Sound.getOrAdd_settles (hs : Sound (fun _ => True) s) {r : Except ApiError Compiled}
    (h : (getOrAdd fuel type config).result s = (r, u)) (hr : r ≠ .error .outOfFuel) :
    ∃ n, ∀ fuel' ≥ n, (getOrAdd fuel' type config).result s = (r, u) := by
  cases ht : config.catalog.schemaType config.rules type with
  | error e =>
    refine ⟨0, fun fuel' _ => ?_⟩
    rw [← h, getOrAdd_of_type_error fuel s ht, getOrAdd_of_type_error fuel' s ht]
  | ok resolved =>
    rcases hs.getOrAdd_split ht h hr with ⟨e, rfl, rfl, hf⟩ | ⟨slots, hslots, hf⟩
    · obtain ⟨n, hn⟩ := slotsWith_of_fills hf
      exact ⟨n, fun fuel' hfuel => getOrAdd_of_slots_error hs ht (hn fuel' hfuel)⟩
    · obtain ⟨n, hn⟩ := slotsWith_of_fills hf
      obtain ⟨hg, hk⟩ := hf.grows slots rfl
      have hs' := hs.grows hg trivial
      obtain ⟨a, ha⟩ := hs'.settled.done_of_contains (hk _ (List.mem_singleton.mpr rfl))
      obtain ⟨v, hv, -⟩ := addToApi_indexes hs'.settled ha (hs'.indexed config.key.withoutRoot)
      cases (getOrAdd_of_indexed hs ht hslots ha hv).symm.trans h
      exact ⟨n, fun fuel' hfuel => getOrAdd_of_indexed hs ht (hn fuel' hfuel) ha hv⟩

theorem mirrors_getOrAdd (hc : D config.rules config.catalog) (type : TypeExpr) :
    Mirrors (Alike D api old) (fun _ => True) fun fuel => getOrAdd fuel type config := by
  cases ht : config.catalog.schemaType config.rules type with
  | error e =>
    refine ⟨fun s fuel r u h _ _ => ?_, fun s t hA fuel r v h _ => ?_⟩
    · cases (getOrAdd_of_type_error fuel s ht).symm.trans h
      exact ⟨0, fun fuel' _ t hA => ⟨t, getOrAdd_of_type_error fuel' t ht, hA⟩⟩
    · cases (getOrAdd_of_type_error fuel t ht).symm.trans h
      have hs (fuel' : Nat) := getOrAdd_of_type_error fuel' s ht
      exact ⟨s, hA, ⟨0, fun fuel' _ => by rw [hs fuel']⟩, fun _ => ⟨0, fun fuel' _ => hs fuel'⟩⟩
  | ok resolved =>
    refine ⟨fun s fuel r u h hr _ => ?_, fun s t hA fuel r v h hr => ?_⟩
    · -- Where nothing is like `s` there is nothing to show, and nothing is known of `s`.
      by_cases hany : ∃ t, Alike D api old s t
      swap
      · exact ⟨0, fun _ _ t hA => (hany ⟨t, hA⟩).elim⟩
      obtain ⟨t₀, hA₀⟩ := hany
      rcases hA₀.sound.getOrAdd_split ht h hr with ⟨e, rfl, rfl, hf⟩ | ⟨slots, hslots, hf⟩
      · obtain ⟨n, hn⟩ := slotsWith_warm hf
        refine ⟨n, fun fuel' hfuel t hA => ⟨t, ?_, hA⟩⟩
        obtain ⟨W, hW, hw⟩ := hA.slots
        have hsame := hn fuel' hfuel W (hW _ _ hc) t hw
        exact getOrAdd_of_slots_error hA.soundWarm ht hsame.eq_of_error
      · obtain ⟨n, hn⟩ := slotsWith_warm hf
        refine ⟨n, fun fuel' hfuel t hA => ?_⟩
        obtain ⟨W, hW, hw⟩ := hA.slots
        obtain ⟨slots', hslots', hw'⟩ := (hn fuel' hfuel W (hW _ _ hc) t hw).ok_of_ok
        have hf' := fills_of_slotsWith hslots' (by simp)
        obtain ⟨a, u', v, hA', hcold, hwarm⟩ := hA.call_of_slots_ok ht hf hf' ⟨W, hW, hw'⟩
        cases (hcold fuel hslots).symm.trans h
        exact ⟨v, hwarm fuel' hslots', hA'⟩
    · suffices hback : ∃ u, Alike D api old u v ∧
          ∃ n, ∀ fuel' ≥ n, (getOrAdd fuel' type config).result s = (r, u) by
        obtain ⟨u, hA', n, hn⟩ := hback
        exact ⟨u, hA', ⟨n, fun fuel' hfuel => by rw [hn fuel' hfuel]⟩, fun _ => ⟨n, hn⟩⟩
      obtain ⟨W, hW, hw⟩ := hA.slots
      rcases hA.soundWarm.getOrAdd_split ht h hr with ⟨e, rfl, rfl, hf⟩ | ⟨slots', hslots', hf'⟩
      · obtain ⟨r', hf₀, hsame⟩ := cold_of_warm (hW _ _ hc) hf
          (fun k hk => by rw [List.mem_singleton.mp hk]) s.slots hw
        rw [hsame.error_of_eq] at hf₀
        obtain ⟨n, hn⟩ := slotsWith_of_fills hf₀
        exact ⟨s, hA, n, fun fuel' hfuel => getOrAdd_of_slots_error hA.sound ht (hn fuel' hfuel)⟩
      · obtain ⟨r', hf, hsame⟩ := cold_of_warm (hW _ _ hc) hf'
          (fun k hk => by rw [List.mem_singleton.mp hk]) s.slots hw
        obtain ⟨slots, rfl, hw'⟩ := hsame.ok_of_eq
        obtain ⟨a, u, v', hA', hcold, hwarm⟩ := hA.call_of_slots_ok ht hf hf' ⟨W, hW, hw'⟩
        cases (hwarm fuel hslots').symm.trans h
        obtain ⟨n, hn⟩ := slotsWith_of_fills hf
        exact ⟨u, hA', n, fun fuel' hfuel => hcold fuel' (hn fuel' hfuel)⟩

theorem keeps_sound (fuel : Nat) (type : TypeExpr) (hc : P config.catalog) :
    Keeps (Sound P) (getOrAdd fuel type config) := by
  intro s hs
  rcases getOrAdd_cases hs hc fuel type with ⟨e, he, -⟩ | ⟨resolved, a, u, -, hu, hg, ha⟩
  · rw [he]
    exact hs
  · rw [hu]
    exact hs.adds hc hg ha

/-- One repository on both sides. -/
def Twice (s t : Repository) : Prop := Sound (fun _ => True) s ∧ s = t

/-- Doing it again changes nothing but the fuel. -/
theorem mirrors_getOrAdd_again (type : TypeExpr) (config : ApiConfig) :
    Mirrors Twice (fun _ => True) fun fuel => getOrAdd fuel type config := by
  have hsound {s : Repository} (hs : Sound (fun _ => True) s) (fuel : Nat) :
      Sound (fun _ => True) ((getOrAdd fuel type config).result s).2 :=
    keeps_sound fuel type trivial s hs
  refine ⟨fun s fuel r u h hr _ => ?_, fun s t ⟨hs, hst⟩ fuel r v h hr => ?_⟩
  · by_cases hs : Sound (fun _ => True) s
    swap
    · exact ⟨0, fun _ _ t hA => (hs hA.1).elim⟩
    obtain ⟨n, hn⟩ := hs.getOrAdd_settles h hr
    have hu := hsound hs fuel
    rw [h] at hu
    exact ⟨n, fun fuel' hfuel t hA => ⟨u, hA.2 ▸ hn fuel' hfuel, hu, rfl⟩⟩
  · subst hst
    obtain ⟨n, hn⟩ := hs.getOrAdd_settles h hr
    have hv := hsound hs fuel
    rw [h] at hv
    exact ⟨v, ⟨hv, rfl⟩, ⟨n, fun fuel' hfuel => congrArg Prod.snd (hn fuel' hfuel)⟩,
      fun _ => ⟨n, hn⟩⟩

theorem settles {α : Type} {m : Nat → Compile α} (h : Mirrors Twice (fun _ => True) m)
    (hs : Sound (fun _ => True) s) {r : Except ApiError α} (hm : (m fuel).result s = (r, u))
    (hr : r ≠ .error .outOfFuel) : ∃ n, ∀ fuel' ≥ n, (m fuel').result s = (r, u) := by
  obtain ⟨n, hn⟩ := h.forth s fuel r u hm hr trivial
  refine ⟨n, fun fuel' hfuel => ?_⟩
  obtain ⟨v, hv, -, rfl⟩ := hn fuel' hfuel s ⟨hs, rfl⟩
  exact hv

end Repository

end ServiceApi
