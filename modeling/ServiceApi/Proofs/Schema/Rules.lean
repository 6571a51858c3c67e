import ServiceApi.Proofs.Schema.Needs
import ServiceApi.Proofs.Schema.Settled

/-! # Rules do not mix

A schema needs schemas of its own serialization rules only. So filling keys of some rules touches no
slot of others, and what is known of the slots of some rules can be known apart from the rest. -/

namespace ServiceApi

open Schema

variable {c : Catalog} {rules : SerializationRules} {slots slots' W : Slots} {key : SchemaKey}
  {keys : List SchemaKey}

/-- Filling keys of `rules` leaves the slots of other rules as they are. -/
theorem Fills.others {r : Except ApiError Slots} (h : Fills c slots keys r)
    (hkeys : ∀ k ∈ keys, k.rules = rules) : ∀ slots', r = .ok slots' →
      ∀ key, key.rules ≠ rules → slots'.get? key = slots.get? key := by
  induction h with
  | nil => intro slots' hr; cases hr; exact fun _ _ => rfl
  | known _ _ ih => exact ih fun k hk => hkeys k (List.mem_cons_of_mem _ hk)
  | needFails => intro slots' hr; cases hr
  | fails => intro slots' hr; cases hr
  | @fills slots slots₁ k keys r s fuel _ _ _ _ ihNeeds ihRest =>
    intro slots' hr key hne
    have hk : k.rules = rules := hkeys k List.mem_cons_self
    have hother : key ≠ k := fun he => hne (he ▸ hk)
    rw [ihRest (fun k' hk' => hkeys k' (List.mem_cons_of_mem _ hk')) slots' hr key hne,
      OrderedMap.get?_insert, if_neg hother,
      ihNeeds (fun need hneed => (planOf_needs c fuel k need hneed).1.trans hk) slots₁ rfl key hne,
      OrderedMap.get?_insert, if_neg hother]

/-- The slots of `rules` are finished, from plans of `c` whose needs have slots too. -/
def SettledOn (rules : SerializationRules) (c : Catalog) (slots : Slots) : Prop :=
  ∀ key x, key.rules = rules → slots.get? key = some x → ∃ s, x = .done s ∧ Made c key s slots

namespace SettledOn

theorem of_unused (h : ∀ key, key.rules = rules → slots.get? key = none) :
    SettledOn rules c slots := by
  intro key x hkey hx
  rw [h key hkey] at hx
  cases hx

theorem grows (h : SettledOn rules c slots) (hg : Grows c slots slots') :
    SettledOn rules c slots' := by
  intro key x hkey hx
  rcases hg.made key x hx with hx | hmade
  · obtain ⟨s, rfl, hs⟩ := h key x hkey hx
    exact ⟨s, rfl, hg.made_mono hs⟩
  · exact hmade

/-- Slots that are added to other rules make no difference. -/
theorem of_others {c' : Catalog} (h : SettledOn rules c slots) (hg : Grows c' slots slots')
    (hsame : ∀ key, key.rules = rules → slots'.get? key = slots.get? key) :
    SettledOn rules c slots' := by
  intro key x hkey hx
  rw [hsame key hkey] at hx
  obtain ⟨s, rfl, hs⟩ := h key x hkey hx
  exact ⟨s, rfl, hg.made_mono hs⟩

end SettledOn

theorem Settled.on (h : Settled (· = c) slots) (rules : SerializationRules) :
    SettledOn rules c slots := by
  intro key x _ hx
  obtain ⟨s, rfl, c', rfl, hs⟩ := h key x hx
  exact ⟨s, rfl, hs⟩

end ServiceApi
