import ServiceApi.Catalog.Canonical
import ServiceApi.Proofs.Catalog.Declarations
import ServiceApi.Proofs.List

/-! # The canonical text shows the declarations

Catalogs that declare the same have one canonical text, and where declarations are written apart,
one text means the same declarations. -/

namespace ServiceApi

namespace OrderedMap

variable {ν : Type} {a b : OrderedMap String ν}

theorem byName_congr (h : ∀ name, a.get? name = b.get? name) :
    Catalog.byName a = Catalog.byName b := by
  refine mergeSort_eq_of_perm Prod.fst (perm_entries h) fun e he e' he' hname => ?_
  obtain ⟨name, v⟩ := e
  obtain ⟨name', v'⟩ := e'
  obtain rfl : name = name' := hname
  rw [Option.some.inj ((mem_entries_iff.mp he).symm.trans (mem_entries_iff.mp he'))]

/-- What is written of the entries in the order of the names says what there is under each name, if
different values of one name are written differently. -/
theorem get?_of_byName {f : ν → Json}
    (hf : ∀ name v w, a.get? name = some v → b.get? name = some w → f v = f w → v = w)
    (h : (Catalog.byName a).map (fun e => (e.1, f e.2)) =
      (Catalog.byName b).map fun e => (e.1, f e.2))
    (name : String) : a.get? name = b.get? name := by
  have hsame : Catalog.byName a = Catalog.byName b := by
    rw [← List.forall₂_eq_eq_eq]
    refine (forall₂_of_map_eq h).imp fun e e' ⟨he, he', heq⟩ => ?_
    obtain ⟨name, v⟩ := e
    obtain ⟨name', v'⟩ := e'
    obtain ⟨rfl, hvalue⟩ := Prod.mk.inj heq
    rw [hf name v v' (mem_entries_iff.mp (List.mem_mergeSort.mp he))
      (mem_entries_iff.mp (List.mem_mergeSort.mp he')) hvalue]
  have hmem (e : String × ν) : e ∈ a.entries ↔ e ∈ b.entries := by
    rw [← List.mem_mergeSort (l := a.entries), ← List.mem_mergeSort (l := b.entries)]
    exact iff_of_eq (congrArg (e ∈ ·) hsame)
  refine Option.ext fun v => ?_
  rw [← Option.mem_def]
  exact (mem_entries_iff.symm.trans (hmem (name, v))).trans mem_entries_iff

end OrderedMap

/-- Where the two catalogs have different declarations of one name, these are written
differently. -/
structure WrittenApart (c c' : Catalog) : Prop where
  classes : ∀ name d d', c.class? name = some d → c'.class? name = some d' →
    d.toJson = d'.toJson → d = d'
  transformers : ∀ name d d', c.transformer? name = some d → c'.transformer? name = some d' →
    d.toJson = d'.toJson → d = d'

variable {c c' : Catalog}

/-- The order of registration does not show. -/
theorem SameDeclarations.toJson (h : SameDeclarations c c') : c.toJson = c'.toJson := by
  rw [Catalog.toJson, Catalog.toJson, OrderedMap.byName_congr h.classes,
    OrderedMap.byName_congr h.transformers]

theorem WrittenApart.sameDeclarations (h : WrittenApart c c') (htext : c.toJson = c'.toJson) :
    SameDeclarations c c' := by
  rw [Catalog.toJson, Catalog.toJson] at htext
  simp only [Json.arr.injEq, List.cons.injEq, Json.obj.injEq, and_true] at htext
  exact ⟨OrderedMap.get?_of_byName h.classes htext.1,
    OrderedMap.get?_of_byName h.transformers htext.2⟩

theorem WrittenApart.refl (c : Catalog) : WrittenApart c c :=
  ⟨fun _ _ _ hd hd' _ => Option.some.inj (hd.symm.trans hd'),
    fun _ _ _ hd hd' _ => Option.some.inj (hd.symm.trans hd')⟩

theorem WrittenApart.symm (h : WrittenApart c c') : WrittenApart c' c :=
  ⟨fun name d d' hd hd' hjson => (h.classes name d' d hd' hd hjson.symm).symm,
    fun name d d' hd hd' hjson => (h.transformers name d' d hd' hd hjson.symm).symm⟩

/-- A class that is declared anew has to be written differently. -/
theorem WrittenApart.addClass {decl : ClassDecl}
    (h : ∀ d, c.class? decl.name = some d → d.toJson = decl.toJson → d = decl) :
    WrittenApart c (c.addClass decl) := by
  refine ⟨fun name d d' hd hd' hjson => ?_, (refl c).transformers⟩
  rw [Catalog.class?, Catalog.addClass, OrderedMap.get?_insert] at hd'
  split at hd'
  · rename_i hname
    subst hname
    cases hd'
    exact h d hd hjson
  · exact (refl c).classes name d d' hd hd' hjson

end ServiceApi
