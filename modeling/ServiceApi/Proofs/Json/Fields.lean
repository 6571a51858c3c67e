import ServiceApi.Document.Fields

/-! # Fields by their names

The parts of a document stand among fields of other names, so that they are what is found under
their own. -/

namespace ServiceApi

namespace Json

variable {names : List String} {fields fields' : List (String × Json)}

/-- None of the fields has one of the names. -/
def Avoids (names : List String) (fields : List (String × Json)) : Prop := ∀ e ∈ fields, e.1 ∉ names

@[simp] theorem avoids_nil : Avoids names [] := fun _ h => (List.not_mem_nil h).elim

@[simp] theorem avoids_cons (name : String) (v : Json) :
    Avoids names ((name, v) :: fields) ↔ name ∉ names ∧ Avoids names fields := List.forall_mem_cons

@[simp] theorem avoids_append :
    Avoids names (fields ++ fields') ↔ Avoids names fields ∧ Avoids names fields' :=
  List.forall_mem_append

@[simp] theorem avoids_unless {c : Prop} [Decidable c] (h : Avoids names fields) :
    Avoids names (if c then [] else fields) := by
  split
  · exact avoids_nil
  · exact h

@[simp] theorem avoids_textField {name : String} (text : Option String) (h : name ∉ names) :
    Avoids names (textField name text) := by
  cases text <;> simp [textField, h]

theorem Avoids.mono {names' : List String} (h : Avoids names fields) (hsub : names' ⊆ names) :
    Avoids names' fields := fun e he hmem => h e he (hsub hmem)

theorem Avoids.lookup {name : String} (h : Avoids names fields) (hname : name ∈ names) :
    fields.lookup name = none := by
  refine Entries.lookup_eq_none_iff.mpr fun hmem => ?_
  obtain ⟨e, he, rfl⟩ := List.mem_map.mp hmem
  exact h e he hname

/-- What the names of fields lead to, one after the other. -/
def get? : Json → List String → Option Json
  | v, [] => some v
  | v, name :: path => (v.fields.lookup name).bind fun w => w.get? path

theorem get?_cons {name : String} {v w : Json} (h : v.fields.lookup name = some w)
    (path : List String) : v.get? (name :: path) = w.get? path := by
  rw [get?, h, Option.bind_some]

theorem get?_obj_cons {name : String} {w : Json} (h : fields.lookup name = some w)
    (path : List String) : (obj fields).get? (name :: path) = w.get? path := get?_cons h path

theorem Avoids.get?_append {name : String} (h : Avoids names fields) (hname : name ∈ names)
    (path : List String) :
    (obj (fields ++ fields')).get? (name :: path) = (obj fields').get? (name :: path) := by
  rw [get?, get?, Json.fields, Json.fields, List.lookup_append, h.lookup hname, Option.none_or]

/-- The names of the parts that are put together into documents. -/
def partNames : List String := ["methods", "resources", "schemas", "descriptor"]

theorem mem_partNames {name : String} : name ∈ partNames ↔
    name = "methods" ∨ name = "resources" ∨ name = "schemas" ∨ name = "descriptor" := by
  simp [partNames]

end Json

@[simp] theorem PackageNaming.avoids_fields (n : PackageNaming) :
    Json.Avoids Json.partNames n.fields := by
  simp [fields, Json.mem_partNames]

end ServiceApi
