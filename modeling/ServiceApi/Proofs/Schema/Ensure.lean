import ServiceApi.Proofs.Schema.Whole

/-! # Compiling, one schema at a time -/

namespace ServiceApi.Schema

open Compile

variable {c : Catalog} {fuel : Nat} {key : SchemaKey} {s : Repository}

theorem ensure_of_contains (c : Catalog) (fuel : Nat) (h : s.slots.contains key = true) :
    (ensure c fuel key).result s = (.ok ⟨⟩, s) := by
  cases fuel <;> simp only [ensure, result_bind, result_get, h, if_true, result_pure]

theorem ensure_zero (c : Catalog) (h : s.slots.contains key = false) :
    (ensure c 0 key).result s = (.error .outOfFuel, s) := by
  simp [ensure, result_bind, h]

/-- What follows from carrying out a plan behind a placeholder and filling the slot with its
outcome. -/
theorem slotsAfter_behindPlaceholder {α : Type} (p : Plan α) (meet : SchemaKey → Compile Unit)
    (f : α → Compiled) (s : Repository) :
    (behindPlaceholder key (p.carryOut meet) >>= fun a =>
      modify (·.install key (.done (f a)))).slotsAfter s =
      (p.needs.forM meet).slotsAfter (s.install key .building) >>= fun slots =>
        p.outcome.map fun a => slots.insert key (.done (f a)) := by
  rcases hr : (p.needs.forM meet).result (s.install key .building) with ⟨r, t⟩
  cases r with
  | error e =>
    rw [slotsAfter_of_error hr]
    refine slotsAfter_of_error (t := t.discard key) (bind_of_error ?_)
    rw [behindPlaceholder, result_bind, result_modify]
    simp only [result_tryCatch, Plan.carryOut, bind_of_error hr, result_bind, result_modify,
      result_throw]
  | ok _ =>
    rw [slotsAfter_of_ok hr]
    cases ho : p.outcome with
    | error e =>
      refine slotsAfter_of_error (t := t.discard key) (bind_of_error ?_)
      rw [behindPlaceholder, result_bind, result_modify]
      simp only [result_tryCatch, Plan.carryOut, bind_of_ok hr, ho, result_bind, result_modify,
        result_throw, result_ofExcept]
    | ok a =>
      refine slotsAfter_of_ok (t := t.install key (.done (f a))) ?_
      rw [bind_of_ok (a := a) (t := t), result_modify]
      rw [behindPlaceholder, result_bind, result_modify]
      simp only [result_tryCatch, Plan.carryOut, bind_of_ok hr, ho, result_ofExcept]

theorem slotsAfter_build (c : Catalog) (fuel : Nat) (meet : SchemaKey → Compile Unit)
    (f : Schema → Compiled) (s : Repository) :
    (build c fuel key meet >>= fun a => modify (·.install key (.done (f a)))).slotsAfter s =
      ((ownPlan c fuel key).needs.forM meet).slotsAfter (s.install key .building) >>= fun slots =>
        (ownPlan c fuel key).outcome.map fun a => slots.insert key (.done (f a)) := by
  unfold build ownPlan
  cases c.fieldType? key.type with
  | none => rfl
  | some type =>
    cases type with
    | enum =>
      -- An enumeration fills its slot at once, as if a placeholder had been there before.
      cases ofEnum c key.rules fuel key.type with
      | error e => rfl
      | ok a =>
        exact congrArg Except.ok (OrderedMap.insert_insert s.slots key .building (.done (f a))).symm
    | array => exact slotsAfter_behindPlaceholder (ofArray c fuel key) meet f s
    | object => exact slotsAfter_behindPlaceholder (ofBean c fuel key) meet f s
    | _ => rfl

/-- Filling an empty slot has the needs of its plan met behind a placeholder. -/
theorem slotsAfter_ensure_succ (c : Catalog) (fuel : Nat) (h : s.slots.contains key = false) :
    (ensure c (fuel + 1) key).slotsAfter s =
      ((planOf c fuel key).needs.forM (ensure c fuel)).slotsAfter (s.install key .building) >>=
        fun slots => (planOf c fuel key).outcome.map fun a => slots.insert key (.done a) := by
  have hshared (a : Compiled) : s.slots.insert key (.done a) =
      (s.install key .building).slots.insert key (.done a) :=
    (OrderedMap.insert_insert s.slots key .building (.done a)).symm
  rw [ensure, slotsAfter, bind_of_ok (result_get s), if_neg (by simp [h]), planOf]
  by_cases hany : key.type.isAnyObject
  · rw [if_pos hany, if_pos hany]
    exact congrArg Except.ok (hshared .anyValue)
  · rw [if_neg hany, if_neg hany]
    by_cases hmap : c.isMap key.type
    · rw [if_pos hmap, if_pos hmap]
      exact congrArg Except.ok (hshared .anyMap)
    · rw [if_neg hmap, if_neg hmap, Plan.bind_pure]
      refine (slotsAfter_build c fuel (ensure c fuel) (Compiled.mk (.built key)) s).trans ?_
      cases (ownPlan c fuel key).outcome <;> rfl

end ServiceApi.Schema
