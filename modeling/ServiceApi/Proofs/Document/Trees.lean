import ServiceApi.Document.ResourceTree
import ServiceApi.Proofs.Json.References

/-! # References in nested resources

Putting methods into resources adds no references: what a tree is written as refers to what its
methods refer to. -/

namespace ServiceApi.ResourceTree

open Json

variable {P : String → Prop}

mutual

/-- All references of all methods are in `P`. -/
def Within (P : String → Prop) : ResourceTree → Prop
  | node methods resources => FieldsWithin P methods ∧ AllWithin P resources

def AllWithin (P : String → Prop) : List (String × ResourceTree) → Prop
  | [] => True
  | (_, t) :: rest => Within P t ∧ AllWithin P rest

end

theorem within_empty : Within P empty := by
  simp [empty, Within, AllWithin]

mutual

theorem fieldsWithin_fields : ∀ {t : ResourceTree}, Within P t → FieldsWithin P t.fields
  | node methods resources, h => by
    rw [Within] at h
    rw [fields]
    simp [h.1, fieldsWithin_resourceFields h.2]

theorem fieldsWithin_resourceFields : ∀ {ts : List (String × ResourceTree)}, AllWithin P ts →
    FieldsWithin P (resourceFields ts)
  | [], _ => by simp [resourceFields]
  | (name, t) :: rest, h => by
    rw [AllWithin] at h
    rw [resourceFields, fieldsWithin_cons, fieldWithin_obj]
    exact ⟨fieldsWithin_fields h.1, fieldsWithin_resourceFields h.2⟩

end

theorem AllWithin.lookup {name : String} : ∀ {ts : List (String × ResourceTree)}, AllWithin P ts →
    Within P ((ts.lookup name).getD empty)
  | [], _ => within_empty
  | (name', t) :: rest, h => by
    rw [AllWithin] at h
    by_cases hn : name = name'
    · rw [hn, List.lookup_cons_self]
      exact h.1
    · rw [List.lookup_cons, beq_false_of_ne hn]
      exact h.2.lookup

theorem AllWithin.putSorted {name : String} {t : ResourceTree} (ht : Within P t) :
    ∀ {ts : List (String × ResourceTree)}, AllWithin P ts → AllWithin P (putSorted name t ts)
  | [], _ => by
    rw [ResourceTree.putSorted, AllWithin, AllWithin]
    exact ⟨ht, trivial⟩
  | (name', t') :: rest, h => by
    have hrest := h
    rw [AllWithin] at hrest
    rw [ResourceTree.putSorted]
    split
    · rw [AllWithin]
      exact ⟨ht, h⟩
    · split
      · rw [AllWithin]
        exact ⟨ht, hrest.2⟩
      · rw [AllWithin]
        exact ⟨hrest.1, hrest.2.putSorted ht⟩

theorem Within.insert {leaf : String} {method : Json} (hm : FieldWithin P leaf method) :
    ∀ {path : List String} {t : ResourceTree}, Within P t → Within P (t.insert leaf method path)
  | [], node methods resources, h => by
    rw [Within] at h
    rw [ResourceTree.insert, Within]
    exact ⟨h.1.setField hm, h.2⟩
  | r :: path, node methods resources, h => by
    rw [Within] at h
    rw [ResourceTree.insert, Within]
    exact ⟨h.1, h.2.putSorted (Within.insert hm h.2.lookup)⟩

theorem Within.insertAt {pieces : List String} {method : Json} {t : ResourceTree} (h : Within P t)
    (hm : ∀ name, FieldWithin P name method) : Within P (t.insertAt pieces method) :=
  h.insert (hm _)

end ServiceApi.ResourceTree
