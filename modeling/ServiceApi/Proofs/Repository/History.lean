import ServiceApi.Proofs.Repository.Calls
import ServiceApi.Proofs.Schema.Replay

/-! # What came before makes no difference

All calls with one catalog: what a call answers is what the same call answers on a new repository,
and once it has answered a schema, the same schema is answered ever after. The fuel that is needed
may differ, since what is found need not be compiled. -/

namespace ServiceApi

open Schema Compile

namespace Repository

variable {c : Catalog} {P : Catalog → Prop} {repo : Repository} {type resolved : TypeExpr}
  {config : ApiConfig} {fuel : Nat} {a : Compiled} {r : Except ApiError Compiled}

/-- With enough fuel, `r` is the answer. -/
def Answers (repo : Repository) (type : TypeExpr) (config : ApiConfig)
    (r : Except ApiError Compiled) : Prop :=
  r ≠ .error .outOfFuel ∧ ∃ n, ∀ fuel ≥ n, ((getOrAdd fuel type config).result repo).1 = r

/-- A call answers what is found at its key after filling it. -/
theorem Sound.getOrAdd_answer (hs : Sound P repo) (hc : P config.catalog) (fuel : Nat)
    (ht : config.catalog.schemaType config.rules type = .ok resolved) :
    ((getOrAdd fuel type config).result repo).1 =
      slotsWith config.catalog fuel ⟨config.rules, resolved⟩ repo >>= fun slots =>
        slots.resolve ⟨config.rules, resolved⟩ := by
  cases h : slotsWith config.catalog fuel ⟨config.rules, resolved⟩ repo with
  | error e =>
    rw [getOrAdd_of_slots_error hs ht h]
    rfl
  | ok slots =>
    obtain ⟨a, u, hu, rfl, -, ha⟩ := getOrAdd_of_slots_ok hs hc ht h
    rw [hu]
    exact (Slots.resolve_eq_ok.mpr ha.slot).symm

/-- What filling `key` from the slots of `repo` leads to. -/
def Yields (c : Catalog) (key : SchemaKey) (slots : Slots) (r : Except ApiError Compiled) : Prop :=
  ∃ r', Fills c slots [key] r' ∧ (r' >>= fun slots' => slots'.resolve key) = r

theorem Yields.answers (hs : Sound P repo) (hc : P config.catalog)
    (ht : config.catalog.schemaType config.rules type = .ok resolved)
    (h : Yields config.catalog ⟨config.rules, resolved⟩ repo.slots r)
    (hr : r ≠ .error .outOfFuel) : Answers repo type config r := by
  obtain ⟨r', hf, hr'⟩ := h
  obtain ⟨n, hn⟩ := hf.slotsAfter_eq
  refine ⟨hr, n, fun fuel hfuel => ?_⟩
  have hslots := hn fuel hfuel repo rfl
  rw [slotsAfter_forM_singleton] at hslots
  rw [hs.getOrAdd_answer hc fuel ht, slotsWith, hslots, hr']

/-- An answer that some fuel leads to is what filling leads to. -/
theorem Sound.yields (hs : Sound P repo) (hc : P config.catalog)
    (ht : config.catalog.schemaType config.rules type = .ok resolved)
    (h : ((getOrAdd fuel type config).result repo).1 = r) (hr : r ≠ .error .outOfFuel) :
    Yields config.catalog ⟨config.rules, resolved⟩ repo.slots r := by
  rw [hs.getOrAdd_answer hc fuel ht] at h
  refine ⟨_, fills_of_slotsWith rfl fun hout => hr ?_, h⟩
  rw [← h, hout]
  rfl

/-- Settled slots make no difference to what filling a key leads to. -/
theorem yields_iff {W : Slots} (key : SchemaKey) (hW : SettledOn key.rules c W) :
    Yields c key W r ↔ Yields c key .empty r := by
  have hrules : ∀ k ∈ [key], k.rules = key.rules := fun k hk => by rw [List.mem_singleton.mp hk]
  -- What was filled from the start has a finished schema at the key, and the other one is the same.
  have same {r₀ r₁ : Except ApiError Slots} (hf : Fills c .empty [key] r₀)
      (h : SameOutcome W r₀ r₁) :
      (r₁ >>= fun slots => slots.resolve key) = r₀ >>= fun slots => slots.resolve key := by
    rcases r₀ with e | cold
    · rcases r₁ with e' | warm
      · cases h; rfl
      · exact h.elim
    · rcases r₁ with e' | warm
      · exact h.elim
      · obtain ⟨hg, hk⟩ := hf.grows cold rfl
        have hset : Settled (· = c) cold := (Settled.empty _).grows hg rfl
        obtain ⟨a, ha⟩ := hset.done_of_contains (hk key (List.mem_singleton.mpr rfl))
        have hwarm : warm.get? key = some (.done a) := by rw [h key, ha]; rfl
        exact (Slots.resolve_eq_ok.mpr hwarm).trans (Slots.resolve_eq_ok.mpr ha).symm
  constructor
  · rintro ⟨r₁, hf₁, rfl⟩
    obtain ⟨r₀, hf₀, h⟩ := cold_of_warm hW hf₁ hrules .empty (.start W)
    exact ⟨r₀, hf₀, (same hf₀ h).symm⟩
  · rintro ⟨r₀, hf₀, rfl⟩
    obtain ⟨r₁, hf₁, h⟩ := warm_of_cold hW hf₀ hrules W (.start W)
    exact ⟨r₁, hf₁, same hf₀ h⟩

/-- Whatever fuel does for an answer, more fuel does. -/
theorem Sound.answers (hs : Sound P repo) (hc : P config.catalog)
    (h : ((getOrAdd fuel type config).result repo).1 = r) (hr : r ≠ .error .outOfFuel) :
    Answers repo type config r := by
  cases ht : config.catalog.schemaType config.rules type with
  | error e =>
    refine ⟨hr, 0, fun fuel' _ => ?_⟩
    rw [← h, getOrAdd_of_type_error fuel' repo ht, getOrAdd_of_type_error fuel repo ht]
  | ok resolved => exact (hs.yields hc ht h hr).answers hs hc ht hr

theorem Sound.answers_iff_new (hs : Sound (· = c) repo) (hc : config.catalog = c) :
    Answers repo type config r ↔ Answers {} type config r := by
  have hnew : Sound (· = c) {} := .new _
  cases ht : config.catalog.schemaType config.rules type with
  | error e =>
    refine and_congr_right fun _ => exists_congr fun n => forall_congr' fun fuel => ?_
    rw [getOrAdd_of_type_error fuel repo ht, getOrAdd_of_type_error fuel {} ht]
  | ok resolved =>
    subst hc
    have hyields := yields_iff (r := r) ⟨config.rules, resolved⟩ (hs.settled.on config.rules)
    constructor
    · rintro ⟨hr, n, hn⟩
      exact (hyields.mp (hs.yields rfl ht (hn n (Nat.le_refl n)) hr)).answers hnew rfl ht hr
    · rintro ⟨hr, n, hn⟩
      exact (hyields.mpr (hnew.yields rfl ht (hn n (Nat.le_refl n)) hr)).answers hs rfl ht hr

/-- A schema that has been answered is found again, by either call and with any fuel. -/
theorem Sound.found (hs : Sound P repo) (hc : P config.catalog)
    (ht : config.catalog.schemaType config.rules type = .ok resolved)
    (hslot : repo.slots.get? ⟨config.rules, resolved⟩ = some (.done a))
    (hplan : ∃ fuel, (planOf config.catalog fuel ⟨config.rules, resolved⟩).outcome = .ok a) :
    repo.get? type config = .ok (some a) ∧
      ∀ fuel, ((getOrAdd fuel type config).result repo).1 = .ok a := by
  refine ⟨?_, fun fuel => ?_⟩
  · obtain ⟨fuel, hplan⟩ := hplan
    rw [planOf] at hplan
    rw [get?_of_type_ok ht]
    by_cases hany : resolved.isAnyObject
    · rw [if_pos hany] at hplan ⊢
      cases hplan
      rfl
    · rw [if_neg hany] at hplan ⊢
      by_cases hmap : config.catalog.isMap resolved
      · rw [if_pos hmap] at hplan ⊢
        cases hplan
        rfl
      · rw [if_neg hmap]
        exact Slots.lookup_eq_some.mpr hslot
  · have hcontains := OrderedMap.contains_iff.mpr ⟨_, hslot⟩
    rw [hs.getOrAdd_answer hc fuel ht, slotsWith,
      slotsAfter_of_ok (ensure_of_contains config.catalog fuel hcontains)]
    exact Slots.resolve_eq_ok.mpr hslot

/-- A call after any others with its catalog answers what it answers on a new repository. What it
has answered once stays the answer, whatever is called after it. -/
theorem history_makes_no_difference (c : Catalog) (calls : List Call)
    (hcalls : ∀ call ∈ calls, call.Within (· = c)) (type : TypeExpr) (config : ApiConfig)
    (hc : config.catalog = c) :
    let repo := ({} : Repository).after calls
    (∀ r, Answers repo type config r ↔ Answers {} type config r) ∧
    (∀ fuel r, ((getOrAdd fuel type config).result repo).1 = r → r ≠ .error .outOfFuel →
      Answers {} type config r) ∧
    ∀ fuel a, ((getOrAdd fuel type config).result repo).1 = .ok a → ∀ later,
      let repo' := ({} : Repository).after (calls ++ .getOrAdd fuel type config :: later)
      repo'.get? type config = .ok (some a) ∧
        ∀ fuel', ((getOrAdd fuel' type config).result repo').1 = .ok a := by
  intro repo
  have hs : Sound (· = c) repo := ((Sound.new _).after calls hcalls).1
  have hany : Sound (fun _ => True) repo := sound_after calls
  refine ⟨fun r => hs.answers_iff_new hc, fun fuel r h hr => ?_, fun fuel a h later => ?_⟩
  · exact (hs.answers_iff_new hc).mp (hs.answers hc h hr)
  · rcases getOrAdd_cases hs hc fuel type with ⟨e, he, -⟩ | ⟨resolved, a', u, ht, hu, hg, ha⟩
    · rw [he] at h
      cases h
    · rw [hu] at h
      cases h
      have hcall : (Call.result repo (.getOrAdd fuel type config)).2 = u := by
        rw [Call.result, hu]
      obtain ⟨a', heq, c', rfl, fuel₀, hplan, -⟩ :=
        (hs.adds hc hg ha).settled _ _ ha.slot
      cases heq
      have hlater := (hany.adds trivial hg ha).after later fun call _ => call.within_any
      rw [after_append, after_cons]
      rw [hcall]
      exact hlater.1.found trivial ht (hlater.2 _ _ ha.slot) ⟨fuel₀, hc ▸ hplan⟩

theorem history_makes_no_difference_node :
    let broken := Call.getOrAdd 9 (.raw "Broken") selfReferringConfig
    let node := Call.getOrAdd 9 (.raw "Node") selfReferringConfig
    ∃ a, Answers {} (.raw "Node") selfReferringConfig (.ok a) ∧
      (({} : Repository).after ([broken] ++ node :: [broken])).get? (.raw "Node")
        selfReferringConfig = .ok (some a) := by
  intro broken node
  obtain ⟨-, hanswers, hkept⟩ := history_makes_no_difference selfReferring [broken]
    (fun call hcall => by rw [List.mem_singleton.mp hcall]; rfl)
    (.raw "Node") selfReferringConfig rfl
  have hok : ((getOrAdd 9 (.raw "Node") selfReferringConfig).result
      (({} : Repository).after [broken])).1.isOk = true := by decide +kernel
  cases hr : ((getOrAdd 9 (.raw "Node") selfReferringConfig).result
      (({} : Repository).after [broken])).1 with
  | error e => rw [hr] at hok; cases hok
  | ok a => exact ⟨a, hanswers 9 _ hr (by simp), (hkept 9 a hr [broken]).1⟩

end Repository

end ServiceApi
