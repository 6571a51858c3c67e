import ServiceApi.Json

/-! # References in JSON values

A reference is the text of a field called `$ref`, at any depth. Whatever else a field holds, its
name does not matter. -/

namespace ServiceApi

namespace Json

/-- Somewhere in the value there is a reference to `ref`. -/
inductive Refers (ref : String) : Json → Prop
  | here {fields : List (String × Json)} : ("$ref", .str ref) ∈ fields → Refers ref (.obj fields)
  | field {fields : List (String × Json)} {name : String} {v : Json} :
      (name, v) ∈ fields → Refers ref v → Refers ref (.obj fields)
  | item {items : List Json} {v : Json} : v ∈ items → Refers ref v → Refers ref (.arr items)

variable {P Q : String → Prop}

/-- All references in the value are in `P`. -/
def RefersWithin (P : String → Prop) (v : Json) : Prop := ∀ ref, v.Refers ref → P ref

/-- All references in the field, and the one that it may be, are in `P`. -/
def FieldWithin (P : String → Prop) (name : String) (v : Json) : Prop :=
  (name = "$ref" → ∀ ref, v = .str ref → P ref) ∧ v.RefersWithin P

def FieldsWithin (P : String → Prop) (fields : List (String × Json)) : Prop :=
  ∀ e ∈ fields, FieldWithin P e.1 e.2

theorem RefersWithin.mono {v : Json} (h : v.RefersWithin P) (hPQ : ∀ ref, P ref → Q ref) :
    v.RefersWithin Q := fun ref hr => hPQ ref (h ref hr)

theorem FieldWithin.mono {name : String} {v : Json} (h : FieldWithin P name v)
    (hPQ : ∀ ref, P ref → Q ref) : FieldWithin Q name v :=
  ⟨fun hname ref hv => hPQ ref (h.1 hname ref hv), h.2.mono hPQ⟩

theorem FieldsWithin.mono {fields : List (String × Json)} (h : FieldsWithin P fields)
    (hPQ : ∀ ref, P ref → Q ref) : FieldsWithin Q fields := fun e he => (h e he).mono hPQ

theorem refersWithin_obj {fields : List (String × Json)} :
    RefersWithin P (.obj fields) ↔ FieldsWithin P fields := by
  constructor
  · intro h e he
    refine ⟨fun hname ref hv => h ref (.here ?_), fun ref hr => h ref (.field he hr)⟩
    rw [← hname, ← hv]
    exact he
  · rintro h ref (hmem | ⟨hmem, hr⟩)
    · exact (h _ hmem).1 rfl ref rfl
    · exact (h _ hmem).2 ref hr

theorem refersWithin_arr {items : List Json} :
    RefersWithin P (.arr items) ↔ ∀ v ∈ items, v.RefersWithin P := by
  constructor
  · exact fun h v hv ref hr => h ref (.item hv hr)
  · rintro h ref (_ | _ | ⟨hmem, hr⟩)
    exact h _ hmem ref hr

theorem fieldWithin_of_silent (name : String) {v : Json} (htext : ∀ text, v ≠ .str text)
    (h : ∀ ref, ¬ v.Refers ref) : FieldWithin P name v :=
  ⟨fun _ ref hv => (htext ref hv).elim, fun ref hr => (h ref hr).elim⟩

@[simp] theorem fieldWithin_null (name : String) : FieldWithin P name .null :=
  fieldWithin_of_silent name (by simp) (by rintro ref ⟨⟩)

@[simp] theorem fieldWithin_bool (name : String) (b : Bool) : FieldWithin P name (.bool b) :=
  fieldWithin_of_silent name (by simp) (by rintro ref ⟨⟩)

@[simp] theorem fieldWithin_int (name : String) (n : Int) : FieldWithin P name (.int n) :=
  fieldWithin_of_silent name (by simp) (by rintro ref ⟨⟩)

@[simp] theorem fieldWithin_real (name text : String) : FieldWithin P name (.real text) :=
  fieldWithin_of_silent name (by simp) (by rintro ref ⟨⟩)

@[simp] theorem fieldWithin_str (name text : String) :
    FieldWithin P name (.str text) ↔ (name = "$ref" → P text) := by
  constructor
  · exact fun h hname => h.1 hname text rfl
  · intro h
    refine ⟨fun hname ref hv => ?_, fun _ hr => by cases hr⟩
    cases hv
    exact h hname

@[simp] theorem fieldWithin_obj (name : String) (fields : List (String × Json)) :
    FieldWithin P name (.obj fields) ↔ FieldsWithin P fields := by
  constructor
  · exact fun h => refersWithin_obj.mp h.2
  · exact fun h => ⟨fun _ _ hv => (by cases hv), refersWithin_obj.mpr h⟩

@[simp] theorem fieldWithin_arr (name : String) (items : List Json) :
    FieldWithin P name (.arr items) ↔ ∀ v ∈ items, v.RefersWithin P := by
  constructor
  · exact fun h => refersWithin_arr.mp h.2
  · exact fun h => ⟨fun _ _ hv => (by cases hv), refersWithin_arr.mpr h⟩

theorem refersWithin_str (text : String) : RefersWithin P (.str text) := fun _ h => by cases h

@[simp] theorem fieldWithin_strs (name : String) (texts : List String) :
    FieldWithin P name (strs texts) := by
  refine (fieldWithin_arr name _).mpr fun v hv => ?_
  obtain ⟨text, -, rfl⟩ := List.mem_map.mp hv
  exact refersWithin_str text

@[simp] theorem fieldsWithin_nil : FieldsWithin P [] := fun _ h => by cases h

@[simp] theorem fieldsWithin_cons (name : String) (v : Json) (fields : List (String × Json)) :
    FieldsWithin P ((name, v) :: fields) ↔ FieldWithin P name v ∧ FieldsWithin P fields :=
  List.forall_mem_cons

@[simp] theorem fieldsWithin_append (fields fields' : List (String × Json)) :
    FieldsWithin P (fields ++ fields') ↔ FieldsWithin P fields ∧ FieldsWithin P fields' :=
  List.forall_mem_append

@[simp] theorem fieldsWithin_elim {α : Type} (o : Option α) (f : α → List (String × Json)) :
    FieldsWithin P (o.elim [] f) ↔ ∀ a ∈ o, FieldsWithin P (f a) := by
  cases o <;> simp

@[simp] theorem fieldsWithin_map {α : Type} (f : α → String × Json) (as : List α) :
    FieldsWithin P (as.map f) ↔ ∀ a ∈ as, FieldWithin P (f a).1 (f a).2 := List.forall_mem_map

@[simp] theorem fieldsWithin_unless {c : Prop} [Decidable c] {fields : List (String × Json)}
    (h : FieldsWithin P fields) : FieldsWithin P (if c then [] else fields) := by
  split
  · exact fieldsWithin_nil
  · exact h

@[simp] theorem fieldsWithin_when {c : Prop} [Decidable c] {fields : List (String × Json)}
    (h : FieldsWithin P fields) : FieldsWithin P (if c then fields else []) := by
  split
  · exact h
  · exact fieldsWithin_nil

theorem RefersWithin.fields {v : Json} (h : v.RefersWithin P) : FieldsWithin P v.fields := by
  cases v with
  | obj fields => exact refersWithin_obj.mp h
  | _ => exact fieldsWithin_nil

theorem FieldsWithin.setField {name : String} {v : Json} {fields : List (String × Json)}
    (hv : FieldWithin P name v) (h : FieldsWithin P fields) :
    FieldsWithin P (setField name v fields) := by
  intro e he
  rcases Entries.mem_put he with rfl | he
  · exact hv
  · exact h e he

/-- The fields of an object that entries are put into one after the other. -/
def putAll (entries acc : List (String × Json)) : List (String × Json) :=
  entries.foldl (fun fs (k, v) => setField k v fs) acc

theorem fieldsWithin_putAll {entries acc : List (String × Json)} (h : FieldsWithin P entries)
    (hacc : FieldsWithin P acc) : FieldsWithin P (putAll entries acc) := by
  induction entries generalizing acc with
  | nil => exact hacc
  | cons e entries ih =>
    exact ih (fun e' he' => h e' (List.mem_cons_of_mem e he'))
      (hacc.setField (h e List.mem_cons_self))

@[simp] theorem fieldWithin_objOf (name : String) {entries : List (String × Json)}
    (h : FieldsWithin P entries) : FieldWithin P name (objOf entries) :=
  (fieldWithin_obj name _).mpr (fieldsWithin_putAll h fieldsWithin_nil)

theorem lookup_putAll {name : String} {v : Json} {entries acc : List (String × Json)}
    (h : (name, v) ∈ entries ∨ acc.lookup name = some v)
    (hall : ∀ w, (name, w) ∈ entries → w = v) : (putAll entries acc).lookup name = some v := by
  induction entries generalizing acc with
  | nil => exact h.resolve_left List.not_mem_nil
  | cons e entries ih =>
    have hput (acc : List (String × Json)) : (Json.setField e.1 e.2 acc).lookup name =
        if name = e.1 then some e.2 else acc.lookup name := Entries.lookup_put e.1 name e.2 acc
    refine ih ?_ fun w hw => hall w (List.mem_cons_of_mem e hw)
    rw [hput]
    by_cases hname : name = e.1
    · subst hname
      rw [if_pos rfl]
      exact Or.inr (congrArg some (hall e.2 List.mem_cons_self))
    · rw [if_neg hname]
      refine h.imp_left fun hmem => (List.mem_cons.mp hmem).resolve_left fun he => ?_
      exact hname (congrArg Prod.fst he)

/-- An entry whose name has no other value is one of the object. -/
theorem lookup_objOf {name : String} {v : Json} {entries : List (String × Json)}
    (h : (name, v) ∈ entries) (hall : ∀ w, (name, w) ∈ entries → w = v) :
    (objOf entries).fields.lookup name = some v :=
  lookup_putAll (Or.inl h) hall

end Json

end ServiceApi
