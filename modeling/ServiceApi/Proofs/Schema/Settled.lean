import ServiceApi.Proofs.Schema.Filling

/-! # Slots between calls

While a schema is compiled its slot holds a placeholder, and fields that refer to it are finished
before it is. What saves the references is that a plan asks for each of them: when the slot of a key
is filled, all that its plan needs has a slot, and once the outermost key is filled no placeholder
is left. -/

namespace ServiceApi

open Schema

variable {c : Catalog} {P : Catalog → Prop} {slots slots' slots'' : Slots} {key : SchemaKey}
  {keys : List SchemaKey} {s : Compiled}

/-- `s` comes of the plan for `key`, and all that the plan needs has a slot. -/
def Made (c : Catalog) (key : SchemaKey) (s : Compiled) (slots : Slots) : Prop :=
  ∃ fuel, (planOf c fuel key).outcome = .ok s ∧
    ∀ need ∈ (planOf c fuel key).needs, slots.contains need = true

/-- The old slots stay as they are, and the new ones are made. -/
structure Grows (c : Catalog) (slots slots' : Slots) : Prop where
  keeps : ∀ key x, slots.get? key = some x → slots'.get? key = some x
  made : ∀ key x, slots'.get? key = some x →
    slots.get? key = some x ∨ ∃ s, x = .done s ∧ Made c key s slots'

namespace Grows

theorem contains (h : Grows c slots slots') (hc : slots.contains key = true) :
    slots'.contains key = true := by
  obtain ⟨x, hx⟩ := OrderedMap.contains_iff.mp hc
  exact OrderedMap.contains_iff.mpr ⟨x, h.keeps key x hx⟩

theorem made_mono (h : Grows c slots slots') {c' : Catalog} (hm : Made c' key s slots) :
    Made c' key s slots' := by
  obtain ⟨fuel, ho, hn⟩ := hm
  exact ⟨fuel, ho, fun need hneed => h.contains (hn need hneed)⟩

theorem refl (c : Catalog) (slots : Slots) : Grows c slots slots :=
  ⟨fun _ _ h => h, fun _ _ h => Or.inl h⟩

theorem trans (h : Grows c slots slots') (h' : Grows c slots' slots'') : Grows c slots slots'' := by
  refine ⟨fun key x hx => h'.keeps key x (h.keeps key x hx), fun key x hx => ?_⟩
  rcases h'.made key x hx with hx | hx
  · rcases h.made key x hx with hx | ⟨s, rfl, hs⟩
    · exact Or.inl hx
    · exact Or.inr ⟨s, rfl, h'.made_mono hs⟩
  · exact Or.inr hx

/-- The placeholder of a key gives way to what its plan makes. -/
theorem fill {fuel : Nat} (h : Grows c (slots.insert key .building) slots')
    (hc : slots.contains key = false) (ho : (planOf c fuel key).outcome = .ok s)
    (hn : ∀ need ∈ (planOf c fuel key).needs, slots'.contains need = true) :
    Grows c slots (slots'.insert key (.done s)) := by
  refine ⟨fun k x hx => ?_, fun k x hx => ?_⟩
  · have hne : k ≠ key := by
      rintro rfl
      rw [OrderedMap.contains_eq_false_iff.mp hc] at hx
      cases hx
    rw [OrderedMap.get?_insert, if_neg hne]
    exact h.keeps k x (by rw [OrderedMap.get?_insert, if_neg hne, hx])
  · rw [OrderedMap.get?_insert] at hx
    split at hx
    · rename_i heq
      subst heq
      cases hx
      exact Or.inr ⟨s, rfl, fuel, ho, fun need hneed =>
        OrderedMap.contains_insert_of_contains (hn need hneed) _ _⟩
    · rename_i hne
      rcases h.made k x hx with hx | ⟨a, rfl, fuel', ho', hn'⟩
      · rw [OrderedMap.get?_insert, if_neg hne] at hx
        exact Or.inl hx
      · exact Or.inr ⟨a, rfl, fuel', ho', fun need hneed =>
          OrderedMap.contains_insert_of_contains (hn' need hneed) key _⟩

end Grows

/-- Filling leaves no new placeholder, and every key that was asked for has a slot. -/
theorem Fills.grows {r : Except ApiError Slots} (h : Fills c slots keys r) :
    ∀ slots', r = .ok slots' → Grows c slots slots' ∧ ∀ key ∈ keys, slots'.contains key = true := by
  induction h with
  | nil =>
    intro slots' hr
    cases hr
    exact ⟨.refl _ _, fun _ hk => by cases hk⟩
  | known hc _ ih =>
    intro slots' hr
    obtain ⟨hg, hk⟩ := ih slots' hr
    refine ⟨hg, fun k hmem => ?_⟩
    rcases List.mem_cons.mp hmem with rfl | hmem
    · exact hg.contains hc
    · exact hk k hmem
  | needFails => intro slots' hr; cases hr
  | fails => intro slots' hr; cases hr
  | @fills slots slots₁ key keys r s fuel hc _ ho _ ihNeeds ihRest =>
    intro slots' hr
    obtain ⟨hgNeeds, hkNeeds⟩ := ihNeeds slots₁ rfl
    obtain ⟨hgRest, hkRest⟩ := ihRest slots' hr
    refine ⟨(hgNeeds.fill hc ho hkNeeds).trans hgRest, fun k hmem => ?_⟩
    rcases List.mem_cons.mp hmem with rfl | hmem
    · exact hgRest.contains (slots₁.contains_insert_self _ _)
    · exact hkRest k hmem

/-- Every slot is finished, from a plan of a catalog of `P` whose needs have slots too. -/
def Settled (P : Catalog → Prop) (slots : Slots) : Prop :=
  ∀ key x, slots.get? key = some x → ∃ s, x = .done s ∧ ∃ c, P c ∧ Made c key s slots

namespace Settled

theorem empty (P : Catalog → Prop) : Settled P .empty := fun _ _ h => by cases h

theorem grows (h : Settled P slots) (hg : Grows c slots slots') (hc : P c) : Settled P slots' := by
  intro key x hx
  rcases hg.made key x hx with hx | ⟨s, rfl, hs⟩
  · obtain ⟨s, rfl, c', hc', hs⟩ := h key x hx
    exact ⟨s, rfl, c', hc', hg.made_mono hs⟩
  · exact ⟨s, rfl, c, hc, hs⟩

theorem no_placeholder (h : Settled P slots) (key : SchemaKey) :
    slots.get? key ≠ some .building := by
  intro hb
  obtain ⟨s, hs, -⟩ := h key .building hb
  cases hs

theorem done_of_contains (h : Settled P slots) (hc : slots.contains key = true) :
    ∃ s, slots.get? key = some (.done s) := by
  obtain ⟨x, hx⟩ := OrderedMap.contains_iff.mp hc
  obtain ⟨s, rfl, -⟩ := h key x hx
  exact ⟨s, hx⟩

theorem closed (h : Settled P slots) (hs : slots.get? key = some (.done s)) {target : SchemaKey}
    (ht : target ∈ s.schema.targets) : ∃ a, slots.get? target = some (.done a) := by
  obtain ⟨s', he, c, -, fuel, ho, hn⟩ := h key _ hs
  cases he
  exact h.done_of_contains (hn target (planOf_asks ho target ht))

theorem lookup_eq (h : Settled P slots) (key : SchemaKey) :
    slots.lookup key = .ok none ∨ ∃ s, slots.lookup key = .ok (some s) := by
  rw [Slots.lookup]
  cases hx : slots.get? key with
  | none => exact Or.inl rfl
  | some x =>
    obtain ⟨s, rfl, -⟩ := h key x hx
    exact Or.inr ⟨s, rfl⟩

end Settled

namespace Slots

theorem lookup_eq_some : slots.lookup key = .ok (some s) ↔ slots.get? key = some (.done s) := by
  rw [lookup]
  rcases slots.get? key with _ | _ | a
  · constructor <;> intro h <;> cases h
  · constructor <;> intro h <;> cases h
  · constructor <;> intro h <;> cases h <;> rfl

theorem resolve_eq_ok : slots.resolve key = .ok s ↔ slots.get? key = some (.done s) := by
  rw [← lookup_eq_some, resolve]
  rcases slots.lookup key with e | _ | a
  · constructor <;> intro h <;> cases h
  · constructor <;> intro h <;> cases h
  · constructor <;> intro h <;> cases h <;> rfl

end Slots

end ServiceApi
