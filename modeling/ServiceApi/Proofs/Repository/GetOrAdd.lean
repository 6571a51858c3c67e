import ServiceApi.Proofs.Repository.Index
import ServiceApi.Proofs.Repository.RollBack

/-! # What a call comes to

Between calls a repository is settled and its indexes are closed. From there a call fails only for
the sake of its type: before anything is compiled, or because compiling fails. Finding the compiled
schema again and indexing it cannot fail. -/

namespace ServiceApi

open Schema Compile

variable {c : Catalog} {P : Catalog → Prop} {s t u : Repository} {key : SchemaKey} {fuel : Nat}
  {type : TypeExpr} {config : ApiConfig} {e : ApiError} {slots : Slots} {a : Compiled}

/-- No schema that compiling fails on is blamed on the repository. -/
theorem Fills.spares {keys : List SchemaKey} {r : Except ApiError Slots}
    (h : Fills c slots keys r) : SparesRepository r := by
  induction h with
  | nil => exact .ok _
  | known _ _ ih => exact ih
  | needFails _ _ _ ih => exact ih
  | @fails _ _ key _ _ fuel _ _ ho _ =>
    have hplan := (planOf_failsBy c fuel key).spares
    rw [ho] at hplan
    exact .error fun t fault he => hplan t fault (congrArg Except.error he)
  | fills _ _ _ _ _ _ ih => exact ih

namespace Repository

/-- A repository between two calls, the catalogs of the past calls being in `P`. -/
structure Sound (P : Catalog → Prop) (s : Repository) : Prop where
  settled : Settled P s.slots
  idle : s.installed = []
  indexed : ∀ api, IndexedUpTo s.slots [] (s.indexOf api)

theorem Sound.new (P : Catalog → Prop) : Sound P {} :=
  ⟨.empty P, rfl, fun _ => .empty _ _⟩

theorem Sound.forgetInstalled_eq (h : Sound P s) : s.forgetInstalled = s := by
  rw [forgetInstalled, ← h.idle]

/-- The slots after compiling the schema of `key` alone. -/
def slotsWith (c : Catalog) (fuel : Nat) (key : SchemaKey) (s : Repository) :
    Except ApiError Slots :=
  (ensure c fuel key).slotsAfter s

theorem slotsAfter_forM_singleton (f : SchemaKey → Compile Unit) (key : SchemaKey)
    (s : Repository) : ([key].forM f).slotsAfter s = (f key).slotsAfter s := by
  rw [forM_cons]
  unfold slotsAfter
  rw [result_bind]
  rcases (f key).result s with ⟨r, t⟩
  cases r <;> rfl

theorem fills_of_slotsWith {r : Except ApiError Slots} (h : slotsWith c fuel key s = r)
    (hr : r ≠ .error .outOfFuel) : Fills c s.slots [key] r :=
  fillsOrStops c fuel [key] s r ((slotsAfter_forM_singleton _ _ _).trans h) hr

theorem slotsWith_spares (c : Catalog) (fuel : Nat) (key : SchemaKey) (s : Repository) :
    SparesRepository (slotsWith c fuel key s) := by
  by_cases hr : slotsWith c fuel key s = .error .outOfFuel
  · rw [hr]
    exact .error (by simp)
  · exact (fills_of_slotsWith rfl hr).spares

theorem compile_of_slots_error (hs : Sound P s) (h : slotsWith c fuel key s = .error e) :
    (compile c fuel key).result s = (.error e, s) := by
  obtain ⟨u, hu⟩ := result_of_slotsAfter_error h
  have hresult : (compile c fuel key).result s = (.error e, u.rollBack) := by
    rw [compile, bind_of_ok (result_modify _ _), hs.forgetInstalled_eq, result_bind,
      result_tryCatch, hu]
    rfl
  have hback := compile_of_error hresult
  rw [hs.forgetInstalled_eq] at hback
  rw [hresult, hback]

theorem compile_of_slots_ok (hs : Sound P s) (h : slotsWith c fuel key s = .ok slots) :
    (compile c fuel key).result s = (.ok ⟨⟩, { s with slots }) := by
  obtain ⟨u, hu, rfl⟩ := result_of_slotsAfter_ok h
  have hsince := keeps_ensure c fuel key s.forgetInstalled (.start s)
  rw [hs.forgetInstalled_eq, hu] at hsince
  rw [compile, bind_of_ok (result_modify _ _), hs.forgetInstalled_eq, result_bind,
    result_tryCatch, hu]
  change (Except.ok (), u.forgetInstalled) = _
  rw [forgetInstalled, hsince.byApi, ← hs.idle]

/-- What a call that answers `a` makes of a repository. -/
structure Adds (api : ApiKey) (key : SchemaKey) (a : Compiled) (s u : Repository) : Prop where
  slot : u.slots.get? key = some (.done a)
  indexes : Indexes api [a] { s with slots := u.slots } u

theorem getOrAdd_of_type_error (fuel : Nat) (s : Repository)
    (h : config.catalog.schemaType config.rules type = .error e) :
    (getOrAdd fuel type config).result s = (.error e, s) := by
  rw [getOrAdd, h, bind_of_error (result_ofExcept _ _)]

theorem getOrAdd_of_slots_error {resolved : TypeExpr} (hs : Sound P s)
    (ht : config.catalog.schemaType config.rules type = .ok resolved)
    (h : slotsWith config.catalog fuel ⟨config.rules, resolved⟩ s = .error e) :
    (getOrAdd fuel type config).result s = (.error e, s) := by
  rw [getOrAdd, ht, bind_of_ok (result_ofExcept _ _)]
  exact bind_of_error (compile_of_slots_error hs h)

theorem Sound.grows (hs : Sound P s) (hg : Grows c s.slots slots) (hc : P c) :
    Sound P { s with slots } :=
  ⟨hs.settled.grows hg hc, hs.idle, fun api => (hs.indexed api).grows hs.settled hg⟩

/-- A call whose schema is compiled has it indexed, and that is all. -/
theorem getOrAdd_of_indexed {resolved : TypeExpr} (hs : Sound P s)
    (ht : config.catalog.schemaType config.rules type = .ok resolved)
    (h : slotsWith config.catalog fuel ⟨config.rules, resolved⟩ s = .ok slots)
    (ha : slots.get? ⟨config.rules, resolved⟩ = some (.done a))
    (hu : (addToApi config.key.withoutRoot a).result { s with slots } = (.ok ⟨⟩, u)) :
    (getOrAdd fuel type config).result s = (.ok a, u) := by
  rw [getOrAdd, ht, bind_of_ok (result_ofExcept _ _), bind_of_ok (compile_of_slots_ok hs h),
    bind_of_ok (result_get _)]
  dsimp only
  rw [Slots.lookup_eq_some.mpr ha, bind_of_ok (result_ofExcept _ _)]
  dsimp only
  rw [bind_of_ok hu, result_pure]

/-- What has been compiled is found, and can be indexed. -/
theorem indexes_of_slots_ok (hs : Sound P s) (hc : P c) (h : slotsWith c fuel key s = .ok slots)
    (api : ApiKey) : ∃ a u, slots.get? key = some (.done a) ∧
      (addToApi api a).result { s with slots } = (.ok ⟨⟩, u) ∧ Indexes api [a] { s with slots } u ∧
      Grows c s.slots slots := by
  obtain ⟨hgrows, hkeys⟩ := (fills_of_slotsWith h (by simp)).grows slots rfl
  have hs' := hs.grows hgrows hc
  obtain ⟨a, ha⟩ := hs'.settled.done_of_contains (hkeys _ (List.mem_singleton.mpr rfl))
  obtain ⟨u, hu, hindexes⟩ := addToApi_indexes hs'.settled ha (hs'.indexed api)
  exact ⟨a, u, ha, hu, hindexes, hgrows⟩

theorem getOrAdd_of_slots_ok {resolved : TypeExpr} (hs : Sound P s) (hc : P config.catalog)
    (ht : config.catalog.schemaType config.rules type = .ok resolved)
    (h : slotsWith config.catalog fuel ⟨config.rules, resolved⟩ s = .ok slots) :
    ∃ a u, (getOrAdd fuel type config).result s = (.ok a, u) ∧ u.slots = slots ∧
      Grows config.catalog s.slots slots ∧
      Adds config.key.withoutRoot ⟨config.rules, resolved⟩ a s u := by
  obtain ⟨a, u, ha, hu, hindexes, hgrows⟩ := indexes_of_slots_ok hs hc h config.key.withoutRoot
  refine ⟨a, u, getOrAdd_of_indexed hs ht h ha hu, hindexes.slots, hgrows, ?_, ?_⟩
  · rw [hindexes.slots]
    exact ha
  · rw [hindexes.slots]
    exact hindexes

/-- Types that become one type under their transformers are one to a repository. -/
theorem getOrAdd_congr {type' resolved : TypeExpr} (hs : Sound P s) (hc : P config.catalog)
    (ht : config.catalog.schemaType config.rules type = .ok resolved)
    (ht' : config.catalog.schemaType config.rules type' = .ok resolved) (fuel : Nat) :
    (getOrAdd fuel type config).result s = (getOrAdd fuel type' config).result s := by
  cases h : slotsWith config.catalog fuel ⟨config.rules, resolved⟩ s with
  | error e => rw [getOrAdd_of_slots_error hs ht h, getOrAdd_of_slots_error hs ht' h]
  | ok slots =>
    obtain ⟨a, u, ha, hu, -, -⟩ := indexes_of_slots_ok hs hc h config.key.withoutRoot
    rw [getOrAdd_of_indexed hs ht h ha hu, getOrAdd_of_indexed hs ht' h ha hu]

/-- A call fails and changes nothing, or it adds a schema. -/
theorem getOrAdd_cases (hs : Sound P s) (hc : P config.catalog) (fuel : Nat) (type : TypeExpr) :
    (∃ e, (getOrAdd fuel type config).result s = (.error e, s) ∧
      ∀ t fault, e ≠ .repositoryIntegrity t fault) ∨
    ∃ resolved a u, config.catalog.schemaType config.rules type = .ok resolved ∧
      (getOrAdd fuel type config).result s = (.ok a, u) ∧
      Grows config.catalog s.slots u.slots ∧
      Adds config.key.withoutRoot ⟨config.rules, resolved⟩ a s u := by
  cases ht : config.catalog.schemaType config.rules type with
  | error e =>
    have hspares := (config.catalog.schemaType_failsBy config.rules type).ofTypes.spares
    rw [ht] at hspares
    exact Or.inl ⟨e, getOrAdd_of_type_error fuel s ht,
      fun t fault he => hspares t fault (congrArg Except.error he)⟩
  | ok resolved =>
    have hspares := slotsWith_spares config.catalog fuel ⟨config.rules, resolved⟩ s
    cases hslots : slotsWith config.catalog fuel ⟨config.rules, resolved⟩ s with
    | error e =>
      rw [hslots] at hspares
      exact Or.inl ⟨e, getOrAdd_of_slots_error hs ht hslots,
        fun t fault he => hspares t fault (congrArg Except.error he)⟩
    | ok slots =>
      obtain ⟨a, u, hu, rfl, hg, ha⟩ := getOrAdd_of_slots_ok hs hc ht hslots
      exact Or.inr ⟨resolved, a, u, rfl, hu, hg, ha⟩

theorem Sound.indexes {api : ApiKey} {pending : List Compiled} (hs : Sound P s)
    (h : Indexes api pending s u) : Sound P u := by
  refine ⟨h.slots ▸ hs.settled, h.installed ▸ hs.idle, fun api' => ?_⟩
  rw [h.slots]
  by_cases hapi : api' = api
  · rw [hapi]
    exact h.indexed
  · rw [h.others api' hapi]
    exact hs.indexed api'

theorem Sound.adds {api : ApiKey} (hs : Sound P s) (hc : P c) (hg : Grows c s.slots u.slots)
    (ha : Adds api key a s u) : Sound P u := (hs.grows hg hc).indexes ha.indexes

end Repository

end ServiceApi
