import ServiceApi.Proofs.Catalog.Ancestry

/-! # All ancestors, each once

The walk passes over a second view of a class, with whatever arguments. Where clauses name classes
this loses nothing, for which classes a class extends does not depend on its arguments; nor does it
go on for ever where a class is its own ancestor with ever larger arguments. -/

namespace ServiceApi.Catalog

open TypeExpr

variable {c : Catalog} {t : TypeExpr} {name : String}

/-- Every superclass and every interface is declared as a class type, known or not. -/
def ExtendsClasses (c : Catalog) : Prop :=
  ∀ decl ∈ c.classes.values, ∀ clause ∈ decl.clauses, clause.all (·.rawName?.isSome) = true

instance (c : Catalog) : Decidable c.ExtendsClasses :=
  inferInstanceAs (Decidable (∀ decl ∈ c.classes.values, ∀ clause ∈ decl.clauses,
    clause.all (·.rawName?.isSome) = true))

theorem ExtendsClasses.uniform (h : c.ExtendsClasses) : c.Uniform := by
  refine uniform_of_clauses fun {n m decl clause args} hclass hclause hm => ?_
  have hdecl : decl ∈ c.classes.values :=
    List.mem_map.mpr ⟨(n, decl), OrderedMap.mem_entries_iff.mpr hclass, rfl⟩
  have hnamed : clause.rawName?.isSome = true := h decl hdecl (some clause) hclause
  obtain ⟨k, hk⟩ := Option.isSome_iff_exists.mp hnamed
  rw [eq_named_of_rawName? hk] at hm ⊢
  exact hm

theorem Ends.unique {seen queue found found' : List TypeExpr} (h : c.Ends seen queue found)
    (h' : c.Ends seen queue found') : found = found' := by
  induction h generalizing found' with
  | done => cases h'; rfl
  | passed hseen _ ih =>
    cases h' with
    | passed _ h' => exact ih h'
    | visited hnew _ => exact absurd hseen hnew
  | visited hnew _ ih =>
    cases h' with
    | passed hseen _ => exact absurd hseen hnew
    | visited _ h' => rw [ih h']

theorem head?_supertypes (c : Catalog) (t : TypeExpr) : (c.supertypes t).head? = some t := by
  cases ends_supertypes c t with
  | passed hseen => exact absurd hseen List.not_mem_nil
  | visited => rfl

/-- Some view of every ancestor that is a class is found. -/
theorem Uniform.mem_supertypes_of_ancestor (h : c.Uniform) {b : TypeExpr}
    (hb : Relation.ReflTransGen (fun x y => y ∈ c.directSupertypes x) t b)
    (hname : b.rawName? = some name) :
    ∃ a ∈ c.supertypes t, a.rawName? = some name := by
  induction hb generalizing name with
  | refl =>
    obtain ⟨a, ha, hself⟩ := self_mem_supertypes c t
    exact ⟨a, ha, by rw [← rawName?_erased, hself, rawName?_erased, hname]⟩
  | @tail x y _ hy ih =>
    cases x with
    | named n args => exact h.mem_supertypes (ih rfl) ⟨args, y, hy, hname⟩
    | _ => cases hy

theorem Uniform.isSubtype_iff_ancestor (h : c.Uniform) : c.isSubtype t name = true ↔
    ∃ b, Relation.ReflTransGen (fun x y => y ∈ c.directSupertypes x) t b ∧
      b.rawName? = some name := by
  rw [isSubtype_iff_mem]
  constructor
  · rintro ⟨a, ha, hname⟩
    exact ⟨a, ancestor_of_mem ha, hname⟩
  · rintro ⟨b, hb, hname⟩
    exact h.mem_supertypes_of_ancestor hb hname

theorem Uniform.isSubtype_trans (h : c.Uniform) {n m : String} {v : TypeExpr}
    (hv : c.asSupertype? t n = some v) (hm : c.isSubtype v m = true) : c.isSubtype t m = true := by
  obtain ⟨b, hb, hname⟩ := h.isSubtype_iff_ancestor.mp hm
  have hview := ancestor_of_mem (List.mem_of_find?_eq_some hv)
  exact h.isSubtype_iff_ancestor.mpr ⟨b, hview.trans hb, hname⟩

/-- The walk from any type ends, and just with the list of its supertypes: itself first, no class
twice, and the classes that clauses lead to, one after the other. So being a subtype is reflexive
and transitive. -/
theorem supertypes_are_the_ancestors (h : c.ExtendsClasses) :
    (∀ t, (∀ found, c.Ends [] [t] found ↔ found = c.supertypes t) ∧
      (c.supertypes t).head? = some t ∧ ((c.supertypes t).map erased).Nodup ∧
      ∀ name, some name ∈ (c.supertypes t).map rawName? ↔
        ∃ b, Relation.ReflTransGen (fun x y => y ∈ c.directSupertypes x) t b ∧
          b.rawName? = some name) ∧
    (∀ name args, c.isSubtype (.named name args) name = true) ∧
    ∀ t n m v, c.asSupertype? t n = some v → c.isSubtype v m = true → c.isSubtype t m = true := by
  refine ⟨fun t => ⟨fun found => ⟨fun hends => ?_, ?_⟩, head?_supertypes c t,
    (walks_supertypes c t).distinct,
    fun name => ?_⟩, fun name args => ?_, fun t n m v => h.uniform.isSubtype_trans⟩
  · exact hends.unique (ends_supertypes c t)
  · rintro rfl
    exact ends_supertypes c t
  · rw [← h.uniform.isSubtype_iff_ancestor, isSubtype_iff_mem, List.mem_map]
  · exact h.uniform.isSubtype_iff_ancestor.mpr ⟨_, .refl, rfl⟩

/-- Two classes that extend each other with ever larger arguments, one with an interface that is not
declared. -/
def ring : Catalog :=
  (Catalog.builtin.addClass
    { name := "Link", typeParams := ["T"],
      superclass := some (.named "Chain" [.array (.var "T")]) }).addClass
    { name := "Chain", typeParams := ["T"],
      superclass := some (.named "Link" [.named "List" [.var "T"]]),
      interfaces := [.raw "Missing"] }

theorem supertypes_are_the_ancestors_ring :
    let link (t : TypeExpr) : TypeExpr := .named "Link" [t]
    let chain (t : TypeExpr) : TypeExpr := .named "Chain" [t]
    ring.ExtendsClasses ∧ (∀ found, ring.Ends [] [link (.raw "String")] found ↔
        found = [link (.raw "String"), chain (.array (.raw "String")), .raw "Missing"]) ∧
      ring.asSupertype? (link (.raw "String")) "Chain" = some (chain (.array (.raw "String"))) ∧
      ring.isSubtype (chain (.array (.raw "String"))) "Missing" = true ∧
      ring.isSubtype (link (.raw "String")) "Missing" = true := by
  intro link chain
  have hclasses : ring.ExtendsClasses := by decide +kernel
  have hlist : ring.supertypes (link (.raw "String")) =
      [link (.raw "String"), chain (.array (.raw "String")), .raw "Missing"] := by decide +kernel
  have hview :
      ring.asSupertype? (link (.raw "String")) "Chain" = some (chain (.array (.raw "String"))) := by
    decide +kernel
  have hmissing :
      ring.isSubtype (chain (.array (.raw "String"))) "Missing" = true := by decide +kernel
  obtain ⟨hwalk, -, htrans⟩ := supertypes_are_the_ancestors hclasses
  refine ⟨hclasses, ?_, hview, hmissing, htrans _ _ _ _ hview hmissing⟩
  rw [← hlist]
  exact (hwalk _).1

end ServiceApi.Catalog
