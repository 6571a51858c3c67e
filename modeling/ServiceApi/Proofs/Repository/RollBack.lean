import ServiceApi.Proofs.Compile

/-! # A failed call leaves nothing behind

Three things share the work: a key is written down only when its slot was empty, a placeholder is
taken away as soon as what it stands for fails, and what was written down is emptied in the end. So
at any time the slots of the start come first, as they were, and each slot after them is written
down. -/

namespace ServiceApi.Repository

open Compile

variable {base s t : Repository} {key : SchemaKey} {c : Catalog} {fuel : Nat} {e : ApiError}

/-- What a call that began in `base` may have come to. -/
structure Since (base s : Repository) : Prop where
  slots : ∃ new, s.slots.entries = base.slots.entries ++ new ∧ ∀ e ∈ new, e.1 ∈ s.installed
  installed : ∀ key ∈ s.installed, key ∉ base.slots.keys
  byApi : s.byApi = base.byApi

namespace Since

theorem start (s : Repository) : Since s.forgetInstalled s.forgetInstalled :=
  ⟨⟨[], (List.append_nil _).symm, fun _ he => (List.not_mem_nil he).elim⟩,
    fun _ hk => (List.not_mem_nil hk).elim, rfl⟩

theorem not_mem_of_contains (h : Since base s) (hc : s.slots.contains key = false) :
    key ∉ base.slots.keys := by
  obtain ⟨new, hnew, -⟩ := h.slots
  rw [OrderedMap.contains_eq_false_iff_not_mem, OrderedMap.keys, hnew, List.map_append,
    List.mem_append, not_or] at hc
  exact hc.1

theorem install (h : Since base s) (hk : key ∉ base.slots.keys) (slot : Slot) :
    Since base (s.install key slot) := by
  obtain ⟨new, hnew, hold⟩ := h.slots
  have hinstalled : ∀ k, k ∈ (s.install key slot).installed ↔ k = key ∨ k ∈ s.installed := by
    intro k
    rw [Repository.install]
    dsimp only
    split
    · rename_i hc
      -- A slot that was filled already is one of the new ones, and so is written down.
      have hkey : key ∈ s.installed := by
        have hmem := OrderedMap.contains_iff_mem.mp hc
        rw [OrderedMap.keys, hnew, List.map_append] at hmem
        obtain ⟨e, he, rfl⟩ := List.mem_map.mp ((List.mem_append.mp hmem).resolve_left hk)
        exact hold e he
      exact ⟨Or.inr, fun h => h.elim (fun he => he ▸ hkey) id⟩
    · rw [List.mem_append, List.mem_singleton, or_comm]
  refine ⟨⟨Entries.put key slot new, ?_, fun e he => ?_⟩, fun k hmem => ?_, h.byApi⟩
  · rw [Repository.install, OrderedMap.entries_insert, hnew, Entries.put_append hk]
  · rw [hinstalled]
    rcases Entries.mem_put he with rfl | he
    · exact Or.inl rfl
    · exact Or.inr (hold e he)
  · rcases (hinstalled k).mp hmem with rfl | hmem
    · exact hk
    · exact h.installed k hmem

theorem discard (h : Since base s) (hk : key ∉ base.slots.keys) : Since base (s.discard key) := by
  obtain ⟨new, hnew, hold⟩ := h.slots
  refine ⟨⟨new.filter (·.1 ≠ key), ?_, fun e he => hold e (List.mem_filter.mp he).1⟩,
    h.installed, h.byApi⟩
  rw [Repository.discard, OrderedMap.entries_erase, hnew, List.filter_append]
  congr 1
  refine List.filter_eq_self.mpr fun e he => decide_eq_true ?_
  rintro rfl
  exact hk (List.mem_map_of_mem he)

end Since

theorem slots_foldl_discard (keys : List SchemaKey) (s : Repository) :
    (keys.foldl (fun r key => r.discard key) s).slots.entries =
      s.slots.entries.filter (·.1 ∉ keys) := by
  induction keys generalizing s with
  | nil => exact (List.filter_eq_self.mpr fun _ _ => decide_eq_true List.not_mem_nil).symm
  | cons key keys ih =>
    rw [List.foldl_cons, ih, discard, OrderedMap.entries_erase, List.filter_filter]
    refine List.filter_congr fun e _ => ?_
    simp [Bool.and_comm]

theorem byApi_foldl_discard (keys : List SchemaKey) (s : Repository) :
    (keys.foldl (fun r key => r.discard key) s).byApi = s.byApi := by
  induction keys generalizing s with
  | nil => rfl
  | cons key keys ih => exact ih (s.discard key)

/-- Emptying what is written down restores every slot, in its place. -/
theorem Since.rollBack_eq (h : Since base s) : s.rollBack = base.forgetInstalled := by
  obtain ⟨new, hnew, hold⟩ := h.slots
  have hslots : (s.installed.foldl (fun r key => r.discard key) s).slots = base.slots := by
    refine OrderedMap.ext ?_
    rw [slots_foldl_discard, hnew, List.filter_append]
    have hbase : base.slots.entries.filter (·.1 ∉ s.installed) = base.slots.entries := by
      refine List.filter_eq_self.mpr fun e he => decide_eq_true fun hmem => ?_
      exact h.installed e.1 hmem (List.mem_map_of_mem he)
    have hgone : new.filter (·.1 ∉ s.installed) = [] := by
      refine List.filter_eq_nil_iff.mpr fun e he hkept => ?_
      exact of_decide_eq_true hkept (hold e he)
    rw [hbase, hgone, List.append_nil]
  rw [rollBack, forgetInstalled, forgetInstalled, hslots, byApi_foldl_discard, h.byApi]

/-! ## Compiling -/

theorem keeps_install (hk : key ∉ base.slots.keys) (slot : Slot) :
    Keeps (Since base) (modify (·.install key slot) : Compile PUnit) :=
  fun _ h => h.install hk slot

theorem keeps_discard (hk : key ∉ base.slots.keys) :
    Keeps (Since base) (modify (·.discard key) : Compile PUnit) := fun _ h => h.discard hk

theorem keeps_behindPlaceholder {α : Type} (hk : key ∉ base.slots.keys) {work : Compile α}
    (hw : Keeps (Since base) work) : Keeps (Since base) (Schema.behindPlaceholder key work) :=
  (keeps_install hk .building).bind fun _ =>
    hw.tryCatch fun _ => (keeps_discard hk).bind fun _ => .throw _

theorem keeps_build (hk : key ∉ base.slots.keys) {meet : SchemaKey → Compile Unit}
    (hm : ∀ k, Keeps (Since base) (meet k)) :
    Keeps (Since base) (Schema.build c fuel key meet) := by
  unfold Schema.build
  split
  · exact .throw _
  · exact .ofExcept _
  · exact keeps_behindPlaceholder hk (.carryOut hm _)
  · exact keeps_behindPlaceholder hk (.carryOut hm _)
  · exact .throw _

theorem keeps_ensure (c : Catalog) : ∀ (fuel : Nat) (key : SchemaKey),
    Keeps (Since base) (Schema.ensure c fuel key) := by
  intro fuel
  induction fuel with
  | zero =>
    intro key s h
    by_cases hc : s.slots.contains key = true <;> simpa [Schema.ensure, result_bind, hc] using h
  | succ fuel ih =>
    intro key s h
    rw [Schema.ensure, bind_of_ok (result_get s)]
    by_cases hc : s.slots.contains key = true
    · rw [if_pos hc]
      exact h
    · rw [if_neg hc]
      have hk := h.not_mem_of_contains (by simpa using hc)
      by_cases hany : key.type.isAnyObject
      · rw [if_pos hany]
        exact h.install hk _
      · rw [if_neg hany]
        by_cases hmap : c.isMap key.type
        · rw [if_pos hmap]
          exact h.install hk _
        · rw [if_neg hmap]
          exact (keeps_build hk ih).bind (fun _ => keeps_install hk _) s h

/-- A call that fails to compile leaves all slots and all indexes as they were. -/
theorem compile_of_error (h : (compile c fuel key).result s = (.error e, t)) :
    t = s.forgetInstalled := by
  have hsince := keeps_ensure c fuel key s.forgetInstalled (Since.start s)
  rw [compile, bind_of_ok (result_modify forgetInstalled s), result_bind, result_tryCatch] at h
  rcases hr : (Schema.ensure c fuel key).result s.forgetInstalled with ⟨r, u⟩
  rw [hr] at h hsince
  cases r with
  | ok a => cases h
  | error e => cases h; exact hsince.rollBack_eq

end ServiceApi.Repository
