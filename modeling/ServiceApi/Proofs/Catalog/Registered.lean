import ServiceApi.Proofs.Catalog.Canonical
import ServiceApi.Proofs.Model.RoundTrip

/-! # The canonical bytes identify a catalog

A catalog is built by calls that register classes and transformers on top of the built-in ones. Of
each name it holds what was registered last. Since declarations are read back from what is written
of them, no two of them are written alike, and the bytes tell catalogs apart just as their
declarations do. -/

namespace ServiceApi

/-- A call that adds to a catalog. -/
inductive Registration where
  | ofClass (decl : ClassDecl)
  | ofTransformer (decl : TransformerDecl)

namespace Registration

/-- The catalog after the call. A class that is refused leaves it as it was. -/
def apply (c : Catalog) : Registration → Catalog
  | .ofClass decl => (c.register decl).toOption.getD c
  | .ofTransformer decl => c.addTransformer decl

/-- The class that the call adds, under its name. -/
def class? : Registration → Option (String × ClassDecl)
  | .ofClass decl => if Text.isAllBlank decl.name then none else some (decl.name, decl)
  | .ofTransformer _ => none

def transformer? : Registration → Option (String × TransformerDecl)
  | .ofClass _ => none
  | .ofTransformer decl => some (decl.name, decl)

def Fits : Registration → Prop
  | .ofClass decl => decl.Fits
  | .ofTransformer decl => decl.Fits

instance : DecidablePred Fits
  | .ofClass decl => inferInstanceAs (Decidable decl.Fits)
  | .ofTransformer decl => inferInstanceAs (Decidable decl.Fits)

end Registration

/-- The class of the name that the calls register last. -/
def lastClass? (rs : List Registration) (name : String) : Option ClassDecl :=
  (rs.filterMap Registration.class?).reverse.lookup name

def lastTransformer? (rs : List Registration) (name : String) : Option TransformerDecl :=
  (rs.filterMap Registration.transformer?).reverse.lookup name

namespace Catalog

/-- The built-in classes and whatever the calls register, one after the other. -/
def registered (rs : List Registration) : Catalog := rs.foldl Registration.apply builtin

/-! ## The last registration of a name -/

theorem classes_foldl_apply (rs : List Registration) (c : Catalog) :
    (rs.foldl Registration.apply c).classes =
      (rs.filterMap Registration.class?).foldl (fun m e => m.insert e.1 e.2) c.classes := by
  induction rs generalizing c with
  | nil => rfl
  | cons r rs ih =>
    rw [List.foldl_cons, ih, List.filterMap_cons]
    cases r with
    | ofClass decl =>
      rw [Registration.apply, register, Registration.class?]
      split <;> rfl
    | ofTransformer decl => rfl

theorem transformers_foldl_apply (rs : List Registration) (c : Catalog) :
    (rs.foldl Registration.apply c).transformers =
      (rs.filterMap Registration.transformer?).foldl (fun m e => m.insert e.1 e.2)
        c.transformers := by
  induction rs generalizing c with
  | nil => rfl
  | cons r rs ih =>
    rw [List.foldl_cons, ih, List.filterMap_cons]
    cases r with
    | ofClass decl =>
      rw [Registration.apply, register]
      split <;> rfl
    | ofTransformer decl => rfl

theorem class?_registered (rs : List Registration) (name : String) :
    (registered rs).class? name = (lastClass? rs name).or (builtin.class? name) := by
  rw [class?, registered, classes_foldl_apply, OrderedMap.get?_foldl_insert]
  rfl

/-- No transformer is built in. -/
theorem transformer?_registered (rs : List Registration) (name : String) :
    (registered rs).transformer? name = lastTransformer? rs name := by
  rw [transformer?, registered, transformers_foldl_apply, OrderedMap.get?_foldl_insert]
  exact Option.or_none

theorem registered_same {rs rs' : List Registration}
    (hclass : ∀ name, lastClass? rs name = lastClass? rs' name)
    (htransformer : ∀ name, lastTransformer? rs name = lastTransformer? rs' name) :
    SameDeclarations (registered rs) (registered rs') where
  classes name := by
    have h := class?_registered rs name
    rw [hclass name, ← class?_registered rs' name] at h
    exact h
  transformers name := by
    have h := transformer?_registered rs name
    rw [htransformer name, ← transformer?_registered rs' name] at h
    exact h

/-! ## Declarations are told apart -/

/-- Every declaration can be read back. -/
structure Fits (c : Catalog) : Prop where
  classes : ∀ name d, c.class? name = some d → d.Fits
  transformers : ∀ name d, c.transformer? name = some d → d.Fits

namespace Fits

variable {c c' : Catalog}

theorem addClass (h : c.Fits) {decl : ClassDecl} (hdecl : decl.Fits) : (c.addClass decl).Fits := by
  refine ⟨fun name d hd => ?_, h.transformers⟩
  rw [class?, Catalog.addClass, OrderedMap.get?_insert] at hd
  split at hd
  · cases hd
    exact hdecl
  · exact h.classes name d hd

theorem addTransformer (h : c.Fits) {decl : TransformerDecl} (hdecl : decl.Fits) :
    (c.addTransformer decl).Fits := by
  refine ⟨h.classes, fun name d hd => ?_⟩
  rw [transformer?, Catalog.addTransformer, OrderedMap.get?_insert] at hd
  split at hd
  · cases hd
    exact hdecl
  · exact h.transformers name d hd

theorem builtin : builtin.Fits := by
  have hdecls : ∀ decl ∈ builtinClasses, decl.Fits := by decide
  have hempty : Fits {} := ⟨fun _ _ => nofun, fun _ _ => nofun⟩
  exact List.foldlRecOn builtinClasses Catalog.addClass hempty fun c hc decl hdecl =>
    hc.addClass (hdecls decl hdecl)

theorem apply (h : c.Fits) {r : Registration} (hr : r.Fits) : (r.apply c).Fits := by
  cases r with
  | ofClass decl =>
    rw [Registration.apply, register]
    split
    · exact h
    · exact h.addClass hr
  | ofTransformer decl => exact h.addTransformer hr

theorem registered {rs : List Registration} (h : ∀ r ∈ rs, r.Fits) : (registered rs).Fits :=
  List.foldlRecOn rs Registration.apply builtin fun _ hc r hr => hc.apply (h r hr)

/-- What is read back of two declarations that are written alike is one declaration. -/
theorem writtenApart (h : c.Fits) (h' : c'.Fits) : WrittenApart c c' where
  classes name d d' hd hd' hjson :=
    (ClassDecl.reads (h.classes name d hd)).unique
      (hjson ▸ ClassDecl.reads (h'.classes name d' hd'))
  transformers name d d' hd hd' hjson :=
    (TransformerDecl.reads (h.transformers name d hd)).unique
      (hjson ▸ TransformerDecl.reads (h'.transformers name d' hd'))

end Fits

theorem canonicalText_eq_iff {c c' : Catalog} (h : c.Fits) (h' : c'.Fits) :
    c.canonicalText = c'.canonicalText ↔ SameDeclarations c c' := by
  constructor
  · intro htext
    exact (h.writtenApart h').sameDeclarations
      (Json.eq_of_compact c.realFree_toJson c'.realFree_toJson htext)
  · exact fun hsame => congrArg Json.compact hsame.toJson

/-- The bytes of two catalogs are the same just if the catalogs declare the same by name. In which
order it was registered does not show, and neither does what was replaced later. -/
theorem canonical_bytes_identify_a_catalog {rs rs' : List Registration} (h : ∀ r ∈ rs, r.Fits)
    (h' : ∀ r ∈ rs', r.Fits) :
    ((registered rs).canonicalText.toUTF8 = (registered rs').canonicalText.toUTF8 ↔
        SameDeclarations (registered rs) (registered rs')) ∧
      ((∀ name, lastClass? rs name = lastClass? rs' name) →
        (∀ name, lastTransformer? rs name = lastTransformer? rs' name) →
          (registered rs).canonicalText.toUTF8 = (registered rs').canonicalText.toUTF8) := by
  have hiff := String.toByteArray_inj.trans (canonicalText_eq_iff (.registered h) (.registered h'))
  exact ⟨hiff, fun hclass htransformer => hiff.mpr (registered_same hclass htransformer)⟩

/-- A class that can be declared in several ways. -/
def shelf (constants : List String) : ClassDecl :=
  { name := "Shelf", typeParams := ["T"], interfaces := [.named "List" [.var "T"]],
    enumConstants := constants }

def shelfToText : TransformerDecl :=
  { name := "ToText", source := .raw "Shelf", target := .raw "String" }

def shelfOnce : List Registration := [.ofClass (shelf []), .ofTransformer shelfToText]

/-- A class is registered again, and another one is refused. -/
def shelfTwice : List Registration :=
  [.ofClass (shelf ["A"]), .ofTransformer shelfToText, .ofClass { name := " " },
    .ofClass (shelf [])]

def otherShelf : List Registration := [.ofTransformer shelfToText, .ofClass (shelf ["A"])]

theorem canonical_bytes_identify_a_catalog_shelf :
    (∀ r ∈ shelfTwice, r.Fits) ∧ (∀ r ∈ shelfOnce, r.Fits) ∧ (∀ r ∈ otherShelf, r.Fits) ∧
      (registered shelfTwice).canonicalText.toUTF8 = (registered shelfOnce).canonicalText.toUTF8 ∧
      (registered shelfTwice).canonicalText.toUTF8 ≠
        (registered otherShelf).canonicalText.toUTF8 := by
  have htwice : ∀ r ∈ shelfTwice, r.Fits := by decide
  have honce : ∀ r ∈ shelfOnce, r.Fits := by decide
  have hother : ∀ r ∈ otherShelf, r.Fits := by decide
  refine ⟨htwice, honce, hother, ?_, ?_⟩
  · refine (canonical_bytes_identify_a_catalog htwice honce).2 (fun name => ?_) fun name => rfl
    show [("Shelf", shelf []), ("Shelf", shelf ["A"])].lookup name =
      [("Shelf", shelf [])].lookup name
    rw [List.lookup_cons, List.lookup_cons, List.lookup_cons]
    cases name == "Shelf" <;> rfl
  · intro hbytes
    have hsame := (canonical_bytes_identify_a_catalog htwice hother).1.mp hbytes
    have hclass : (registered shelfTwice).class? "Shelf" = (registered otherShelf).class? "Shelf" :=
      hsame.classes "Shelf"
    rw [class?_registered, class?_registered] at hclass
    cases hclass

end Catalog

end ServiceApi
