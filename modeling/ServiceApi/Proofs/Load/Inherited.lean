import ServiceApi.Proofs.Load.Exposed

/-! # The annotations that apply to a service class

Those of its superclasses come first, from the base on, then those that apply to the class that it
refers to, and its own come last. The walk up comes to an end in every catalog and meets no class
twice. A reference leads to the class that it names and to the superclasses of that, but no further:
where that class refers to yet another one, the annotations behind the second reference are left
out. -/

namespace ServiceApi.Catalog

variable {c : Catalog} {visited : List String} {decl next r : ClassDecl}
  {above above' : List ClassDecl} {chain chain' : List ApiAnnotation}

/-- The declaration of the superclass. -/
def superclassDecl? (c : Catalog) (decl : ClassDecl) : Option ClassDecl :=
  decl.superclass.bind c.declOf?

/-- The class whose annotations apply as well. -/
def reference? (c : Catalog) (decl : ClassDecl) : Option ClassDecl :=
  decl.apiReference.bind c.class?

/-- `above` are the superclasses of `decl`, nearest first, up to one that was met before or to where
there is none. -/
inductive Inherits (c : Catalog) : (visited : List String) → ClassDecl → List ClassDecl → Prop
  | stop {visited : List String} {decl : ClassDecl}
      (h : ∀ next ∈ c.superclassDecl? decl, next.name ∈ visited) : Inherits c visited decl []
  | up {visited : List String} {decl next : ClassDecl} {above : List ClassDecl}
      (hnext : c.superclassDecl? decl = some next) (hnew : next.name ∉ visited)
      (h : Inherits c (next.name :: visited) next above) : Inherits c visited decl (next :: above)

theorem Inherits.unique (h : c.Inherits visited decl above) (h' : c.Inherits visited decl above') :
    above = above' := by
  induction h generalizing above' with
  | stop hstop =>
    cases h' with
    | stop => rfl
    | up hnext hnew => exact absurd (hstop _ hnext) hnew
  | up hnext hnew _ ih =>
    cases h' with
    | stop hstop => exact absurd (hstop _ hnext) hnew
    | up hnext' _ h' =>
      cases hnext.symm.trans hnext'
      rw [ih h']

/-- No class is met twice. -/
theorem Inherits.distinct (h : c.Inherits visited decl above) :
    (above.map (·.name)).Nodup ∧ ∀ d ∈ above, d.name ∉ visited := by
  induction h with
  | stop => exact ⟨List.nodup_nil, List.forall_mem_nil _⟩
  | @up visited decl next above _ hnew _ ih =>
    obtain ⟨hdistinct, hfresh⟩ := ih
    have hnew' : next.name ∉ above.map (·.name) := by
      intro hmem
      obtain ⟨d, hd, hname⟩ := List.mem_map.mp hmem
      refine hfresh d hd ?_
      rw [hname]
      exact List.mem_cons_self
    refine ⟨List.nodup_cons.mpr ⟨hnew', hdistinct⟩,
      List.forall_mem_cons.mpr ⟨hnew, fun d hd hmet => ?_⟩⟩
    exact hfresh d hd (List.mem_cons_of_mem _ hmet)

theorem unmet_lt_of_superclassDecl? (hnext : c.superclassDecl? decl = some next)
    (hnew : next.name ∉ visited) :
    (c.unmet (next.name :: visited)).length < (c.unmet visited).length := by
  obtain ⟨t, -, hdecl⟩ := Option.bind_eq_some_iff.mp hnext
  exact unmet_step hdecl hnew

theorem Inherits.length_le (h : c.Inherits visited decl above) :
    above.length ≤ (c.unmet visited).length := by
  induction h with
  | stop => exact Nat.zero_le _
  | up hnext hnew _ ih =>
    have hless := unmet_lt_of_superclassDecl? hnext hnew
    rw [List.length_cons]
    omega

/-- Each step meets a class, so the walk ends before the fuel does. -/
theorem inherits_superclassDecls : ∀ (fuel : Nat) (visited : List String) (decl : ClassDecl),
    (c.unmet visited).length < fuel → c.Inherits visited decl (c.superclassDecls fuel visited decl)
  | 0, _, _, h => absurd h (Nat.not_lt_zero _)
  | fuel + 1, visited, decl, h => by
    unfold superclassDecls
    split
    · rename_i hnone
      exact .stop fun next hnext => by cases hnone.symm.trans hnext
    · rename_i next hnext
      split
      · rename_i hmet
        refine .stop fun next' hnext' => ?_
        cases hnext.symm.trans hnext'
        exact List.contains_iff_mem.mp hmet
      · rename_i hgo
        have hnew : next.name ∉ visited := fun hmem => hgo (List.contains_iff_mem.mpr hmem)
        have hless := unmet_lt_of_superclassDecl? hnext hnew
        exact .up hnext hnew (inherits_superclassDecls fuel _ next (by omega))

/-- The annotations of superclasses that are listed nearest first, from the base on. -/
def annotationsAbove (above : List ClassDecl) : List ApiAnnotation :=
  above.reverse.filterMap (·.api)

theorem exists_inherits (c : Catalog) (decl : ClassDecl) :
    ∃ above, c.Inherits [decl.name] decl above ∧
      c.inheritedAnnotations decl = annotationsAbove above := by
  refine ⟨_, inherits_superclassDecls _ _ _ (Nat.lt_succ_of_le (c.unmet_length_le _)), ?_⟩
  rw [inheritedAnnotations, annotationsAbove, List.filterMap_reverse]

theorem Inherits.inheritedAnnotations_eq (h : c.Inherits [decl.name] decl above) :
    c.inheritedAnnotations decl = annotationsAbove above := by
  obtain ⟨above', h', heq⟩ := exists_inherits c decl
  rw [heq, h.unique h']

/-- `chain` are the annotations that apply to `decl` if a reference passes on all that apply to the
class it names. -/
inductive PassesOn (c : Catalog) : ClassDecl → List ApiAnnotation → Prop
  | last {decl : ClassDecl} {above : List ClassDecl} (hnone : c.reference? decl = none)
      (h : c.Inherits [decl.name] decl above) :
        PassesOn c decl (annotationsAbove above ++ decl.api.toList)
  | through {decl r : ClassDecl} {above : List ClassDecl} {chain : List ApiAnnotation}
      (href : c.reference? decl = some r) (h : c.Inherits [decl.name] decl above)
      (hchain : PassesOn c r chain) :
      PassesOn c decl (annotationsAbove above ++ chain ++ decl.api.toList)

theorem PassesOn.unique (h : c.PassesOn decl chain) (h' : c.PassesOn decl chain') :
    chain = chain' := by
  induction h generalizing chain' with
  | last hnone h =>
    cases h' with
    | last _ h' => rw [h.unique h']
    | through href => cases hnone.symm.trans href
  | through href h _ ih =>
    cases h' with
    | last hnone => cases hnone.symm.trans href
    | through href' h' hchain' =>
      cases href.symm.trans href'
      rw [h.unique h', ih hchain']

theorem annotationChain_of_none (hnone : c.reference? decl = none) :
    c.annotationChain decl = c.inheritedAnnotations decl ++ decl.api.toList := by
  unfold annotationChain
  rw [reference?] at hnone
  rw [hnone]
  dsimp only
  rw [List.append_nil]

theorem annotationChain_of_some (href : c.reference? decl = some r) : c.annotationChain decl =
    c.inheritedAnnotations decl ++ (c.inheritedAnnotations r ++ r.api.toList) ++
      decl.api.toList := by
  unfold annotationChain
  rw [reference?] at href
  rw [href]

/-- All that is passed on is found, just if there is nothing behind a second reference. -/
theorem PassesOn.annotationChain_eq_iff (h : c.PassesOn decl chain) :
    c.annotationChain decl = chain ↔
    ∀ r r', c.reference? decl = some r → c.reference? r = some r' → c.PassesOn r' [] := by
  cases h with
  | last hnone h =>
    rw [annotationChain_of_none hnone, h.inheritedAnnotations_eq]
    exact iff_of_true rfl fun r r' href => by cases hnone.symm.trans href
  | @through _ r above chain href h hchain =>
    rw [annotationChain_of_some href, h.inheritedAnnotations_eq, List.append_cancel_right_eq,
      List.append_cancel_left_eq]
    cases hchain with
    | last hnone hr =>
      rw [hr.inheritedAnnotations_eq]
      refine iff_of_true rfl fun r r' href' href'' => ?_
      cases href.symm.trans href'
      cases hnone.symm.trans href''
    | @through _ r' aboveR behind href' hr hbehind =>
      rw [hr.inheritedAnnotations_eq, List.append_cancel_right_eq, List.self_eq_append_right]
      constructor
      · intro hnil r₁ r₂ h₁ h₂
        cases href.symm.trans h₁
        cases href'.symm.trans h₂
        exact hnil ▸ hbehind
      · intro hnil
        exact hbehind.unique (hnil r r' href href')

/-- The annotations that apply to a class are those of its superclasses, which are found in every
catalog without meeting a class twice, from the base on; then those of the superclasses of the class
that it refers to, and of that class itself; and last its own. So where the class that it refers to
refers to none, what applies to that class is passed on as a whole; where references come to an end
at all, everything is passed on just if no annotation applies to what the second reference leads
to. -/
theorem annotations_follow_one_reference (c : Catalog) (decl : ClassDecl) :
    ∃ above, c.Inherits [decl.name] decl above ∧ (decl.name :: above.map (·.name)).Nodup ∧
      above.length ≤ c.classes.size ∧
      (c.reference? decl = none → c.annotationChain decl =
        annotationsAbove above ++ decl.api.toList) ∧
      (∀ r, c.reference? decl = some r → ∃ aboveR, c.Inherits [r.name] r aboveR ∧
        c.annotationChain decl =
          annotationsAbove above ++ (annotationsAbove aboveR ++ r.api.toList) ++ decl.api.toList) ∧
      (∀ r, c.reference? decl = some r → c.reference? r = none →
        c.annotationChain decl = annotationsAbove above ++ c.annotationChain r ++ decl.api.toList) ∧
      ∀ chain, c.PassesOn decl chain → (c.annotationChain decl = chain ↔
        ∀ r r', c.reference? decl = some r → c.reference? r = some r' → c.PassesOn r' []) := by
  obtain ⟨above, hinherits, habove⟩ := c.exists_inherits decl
  obtain ⟨hdistinct, hfresh⟩ := hinherits.distinct
  have hself : decl.name ∉ above.map (·.name) := by
    intro hmem
    obtain ⟨d, hd, hname⟩ := List.mem_map.mp hmem
    exact hfresh d hd (hname ▸ List.mem_cons_self)
  refine ⟨above, hinherits, List.nodup_cons.mpr ⟨hself, hdistinct⟩,
    Nat.le_trans hinherits.length_le (c.unmet_length_le _), fun hnone => ?_, fun r href => ?_,
    fun r href hnone => ?_, fun chain h => h.annotationChain_eq_iff⟩
  · rw [annotationChain_of_none hnone, habove]
  · obtain ⟨aboveR, hinheritsR, haboveR⟩ := c.exists_inherits r
    exact ⟨aboveR, hinheritsR, by rw [annotationChain_of_some href, habove, haboveR]⟩
  · rw [annotationChain_of_some href, annotationChain_of_none hnone, habove]

def titled (title : String) : Option ApiAnnotation := some { title }

/-- A shelf that extends a store, which extends the shelf in turn. -/
def roundShelf : ClassDecl :=
  { name := "Shelf", superclass := some (.raw "Store"), apiReference := some "Shop",
    api := titled "shelf" }

def roundStore : ClassDecl :=
  { name := "Store", superclass := some (.raw "Shelf"), api := titled "store" }

def housedShop : ClassDecl :=
  { name := "Shop", superclass := some (.raw "House"), api := titled "shop" }

def house : Catalog :=
  [{ name := "House", api := titled "house" }, housedShop, roundStore,
    roundShelf].foldl addClass builtin

theorem annotations_follow_one_reference_shelf :
    house.class? "Shelf" = some roundShelf ∧ house.reference? roundShelf = some housedShop ∧
      house.reference? housedShop = none ∧ house.Inherits ["Shelf"] roundShelf [roundStore] ∧
      house.annotationChain roundShelf =
        annotationsAbove [roundStore] ++ house.annotationChain housedShop ++ roundShelf.api.toList ∧
      (house.annotationChain roundShelf).map (·.title) =
        [some "store", some "house", some "shop", some "shelf"] := by
  have href : house.reference? roundShelf = some housedShop := by rfl
  have hnone : house.reference? housedShop = none := by rfl
  have hround : house.Inherits ["Shelf"] roundShelf [roundStore] :=
    .up (by rfl) (by decide) (.stop fun next hnext => by cases hnext; decide)
  obtain ⟨above, habove, -, -, -, -, hwhole, -⟩ := annotations_follow_one_reference house roundShelf
  cases hround.unique habove
  exact ⟨by rfl, href, hnone, hround, hwhole _ href hnone, by rfl⟩

/-- A shop that refers to its street. -/
def streetShop : ClassDecl :=
  { name := "Shop", apiReference := some "Street", api := titled "shop" }

def shopShelf : ClassDecl := { name := "Shelf", apiReference := some "Shop", api := titled "shelf" }

def street : Catalog :=
  [{ name := "Street", api := titled "street" }, streetShop, shopShelf].foldl addClass builtin

/-- What applies to the street applies to the shop, and yet not to the shelf, which refers to the
shop. -/
theorem a_second_reference_is_not_followed :
    street.class? "Shelf" = some shopShelf ∧ street.reference? shopShelf = some streetShop ∧
      street.Inherits ["Shelf"] shopShelf [] ∧
      (street.annotationChain streetShop).map (·.title) = [some "street", some "shop"] ∧
      (street.annotationChain shopShelf).map (·.title) = [some "shop", some "shelf"] ∧
      street.annotationChain shopShelf ≠
        annotationsAbove [] ++ street.annotationChain streetShop ++ shopShelf.api.toList := by
  have hshop :
      (street.annotationChain streetShop).map (·.title) = [some "street", some "shop"] := by rfl
  have hshelf :
      (street.annotationChain shopShelf).map (·.title) = [some "shop", some "shelf"] := by rfl
  have hnone : street.Inherits ["Shelf"] shopShelf [] := .stop fun next hnext => by cases hnext
  refine ⟨by rfl, by rfl, hnone, hshop, hshelf, fun hsame => ?_⟩
  have htitles := congrArg (List.map (·.title)) hsame
  rw [List.map_append, List.map_append, hshop, hshelf] at htitles
  exact absurd htitles (by decide)

end ServiceApi.Catalog
