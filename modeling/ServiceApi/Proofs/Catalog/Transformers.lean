import ServiceApi.Proofs.Catalog.Ancestry
import ServiceApi.Serialization

/-! # Which transformers apply

Every ancestor of a type may carry a transformer, and one that is more specific shadows those above
it. Only an ancestor that the walk has come to before can shadow another, so what is listed are the
most specific carriers as long as the walk comes to one of their subtypes before it comes to a
carrier that has any. An interface that is named before another one that extends it is found too
early. -/

namespace ServiceApi.Catalog

open TypeExpr

variable {c : Catalog} {rules : SerializationRules} {a b d t : TypeExpr}
  {n m name : String} {e : ApiError}

/-! ## Subtypes -/

/-- `a` is of another class than `b`, one that has the class of `b` among its ancestors. -/
def isProperSubtype (c : Catalog) (a b : TypeExpr) : Bool :=
  c.isSupertype b a && a.rawName? != b.rawName?

theorem not_isProperSubtype_self (c : Catalog) (a : TypeExpr) : c.isProperSubtype a a = false := by
  simp [isProperSubtype]

theorem isProperSubtype_of_isSupertype (h : c.isSupertype b a = true)
    (hne : a.rawName? ≠ b.rawName?) : c.isProperSubtype a b = true := by
  simp [isProperSubtype, h, hne]

theorem Acyclic.isProperSubtype_iff (h : c.Acyclic) (ha : a.rawName? = some n)
    (hb : b.rawName? = some m) :
    c.isProperSubtype a b = true ↔ Relation.TransGen c.Extends n m := by
  have hwalk : c.isSupertype b a = true ↔ Relation.ReflTransGen c.Extends n m := by
    rw [isSupertype, hb, eq_named_of_rawName? ha]
    exact h.isSubtype_iff a.args
  rw [isProperSubtype, Bool.and_eq_true, hwalk, bne_iff_ne, ha, hb,
    Relation.reflTransGen_iff_eq_or_transGen]
  constructor
  · rintro ⟨rfl | hnm, hne⟩
    · exact absurd rfl hne
    · exact hnm
  · exact fun hnm => ⟨Or.inr hnm, fun he => h n (Option.some.inj he ▸ hnm)⟩

theorem Acyclic.isProperSubtype_trans (h : c.Acyclic) (ha : a.rawName?.isSome)
    (hb : b.rawName?.isSome) (hd : d.rawName?.isSome)
    (hab : c.isProperSubtype a b = true)
    (hbd : c.isProperSubtype b d = true) :
    c.isProperSubtype a d = true := by
  obtain ⟨n, ha⟩ := Option.isSome_iff_exists.mp ha
  obtain ⟨m, hb⟩ := Option.isSome_iff_exists.mp hb
  obtain ⟨k, hd⟩ := Option.isSome_iff_exists.mp hd
  exact (h.isProperSubtype_iff ha hd).mpr
    (((h.isProperSubtype_iff ha hb).mp hab).trans ((h.isProperSubtype_iff hb hd).mp hbd))

/-! ## Carriers -/

/-- The ancestors of a type, itself included, that carry a transformer. -/
def carriers (c : Catalog) (rules : SerializationRules) (t : TypeExpr) : List TypeExpr :=
  (c.supertypes t).filter fun a => (c.ownTransformer? rules a).isSome

/-- The carriers that have no proper subtype among the carriers. -/
def mostSpecific (c : Catalog) (rules : SerializationRules) (t : TypeExpr) : List TypeExpr :=
  (c.carriers rules t).filter fun a => !(c.carriers rules t).any (c.isProperSubtype · a)

/-- The types of a list that have no proper subtype before them, be it in the list or in
`before`. -/
def unshadowed (c : Catalog) : (before : List TypeExpr) → List TypeExpr → List TypeExpr
  | _, [] => []
  | before, a :: as =>
    if before.any (c.isProperSubtype · a) then unshadowed c (before ++ [a]) as
    else a :: unshadowed c (before ++ [a]) as

/-- A carrier with a proper subtype after it has one before it too. -/
def SubtypesFirst (c : Catalog) (rules : SerializationRules) (t : TypeExpr) : Prop :=
  ∀ before a after, c.carriers rules t = before ++ a :: after →
    after.any (c.isProperSubtype · a) = true → before.any (c.isProperSubtype · a) = true

theorem rawName?_of_carries (h : (c.ownTransformer? rules a).isSome) : a.rawName?.isSome := by
  cases a with
  | named name args => rfl
  | _ => cases h

/-- The walk comes to each class once. -/
theorem carriers_distinct (c : Catalog) (rules : SerializationRules) (t : TypeExpr) :
    (c.carriers rules t).Pairwise fun a b => a.rawName? ≠ b.rawName? := by
  have h := (List.pairwise_map.mp (walks_supertypes c t).distinct).filter
    fun a => (c.ownTransformer? rules a).isSome
  refine h.imp_of_mem fun {a b} ha _ hne he => hne ?_
  obtain ⟨n, ha⟩ := Option.isSome_iff_exists.mp (rawName?_of_carries (List.mem_filter.mp ha).2)
  rw [eq_named_of_rawName? ha, eq_named_of_rawName? (he.symm.trans ha)]
  rfl

/-! ## What is listed -/

/-- An ancestor without a transformer makes no difference. -/
theorem transformersAlong_filter (found ts : List TypeExpr) :
    c.transformersAlong rules found (ts.filter fun a => (c.ownTransformer? rules a).isSome) =
      c.transformersAlong rules found ts := by
  induction ts generalizing found with
  | nil => rfl
  | cons a ts ih =>
    cases hown : c.ownTransformer? rules a with
    | none =>
      rw [List.filter_cons_of_neg (by simp [hown]), ih, transformersAlong, hown, ite_self]
    | some name =>
      rw [List.filter_cons_of_pos (by simp [hown]), transformersAlong, transformersAlong, hown]
      simp only [ih]

/-- What is listed is carried by an ancestor. -/
theorem mem_transformersAlong :
    ∀ {ts found : List TypeExpr}, name ∈ c.transformersAlong rules found ts →
    ∃ a ∈ ts, c.ownTransformer? rules a = some name
  | [], _, h => (List.not_mem_nil h).elim
  | t :: ts, found, h => by
    have later {found : List TypeExpr} (h : name ∈ c.transformersAlong rules found ts) :
        ∃ a ∈ t :: ts, c.ownTransformer? rules a = some name := by
      obtain ⟨a, ha, hown⟩ := mem_transformersAlong h
      exact ⟨a, List.mem_cons_of_mem t ha, hown⟩
    rw [transformersAlong] at h
    split at h
    · exact later h
    · split at h
      · rename_i hown
        rcases List.mem_cons.mp h with rfl | h
        · exact ⟨t, List.mem_cons_self, hown⟩
        · exact later h
      · exact later h

theorem mem_transformersOf (h : name ∈ c.transformersOf rules t) :
    ∃ a ∈ c.supertypes t, c.ownTransformer? rules a = some name := by
  cases t with
  | named => exact mem_transformersAlong h
  | _ => cases h

/-- The first that is listed is put to use. -/
theorem primaryTransformer_of_head? (h : (c.transformersOf rules t).head? = some name) :
    c.primaryTransformer rules t = (c.instantiate name t).map some := by
  obtain ⟨rest, hlisted⟩ := List.head?_eq_some_iff.mp h
  rw [primaryTransformer, hlisted]

theorem primaryTransformer_eq_error_iff :
    c.primaryTransformer rules t = .error e ↔
      ∃ name ∈ (c.transformersOf rules t).head?, c.instantiate name t = .error e := by
  cases hhead : (c.transformersOf rules t).head? with
  | none =>
    rw [primaryTransformer, List.head?_eq_none_iff.mp hhead]
    exact iff_of_false nofun fun ⟨_, h, _⟩ => Option.not_mem_none _ h
  | some name =>
    rw [primaryTransformer_of_head? hhead]
    cases hinst : c.instantiate name t <;> simp [Except.map, hinst]

/-- It is enough to look for a subtype among those that have matched: a carrier that has not is
itself above one that has. -/
theorem Acyclic.transformersAlong_eq (h : c.Acyclic) {found before as : List TypeExpr}
    (hcarry : ∀ a ∈ before ++ as, (c.ownTransformer? rules a).isSome)
    (hdistinct : (before ++ as).Pairwise fun a b => a.rawName? ≠ b.rawName?)
    (hsub : found ⊆ before)
    (habove : ∀ b ∈ before, ∃ f ∈ found, f = b ∨ c.isProperSubtype f b = true) :
    c.transformersAlong rules found as =
      (c.unshadowed before as).filterMap (c.ownTransformer? rules) := by
  induction as generalizing found before with
  | nil => rfl
  | cons a as ih =>
    have hnamed {b : TypeExpr} (hb : b ∈ before ++ a :: as) : b.rawName?.isSome :=
      rawName?_of_carries (hcarry b hb)
    have ha : a ∈ before ++ a :: as := List.mem_append_right _ List.mem_cons_self
    have hfound {b : TypeExpr} (hb : b ∈ before) (hba : c.isProperSubtype b a = true) :
        ∃ f ∈ found, c.isProperSubtype f a = true := by
      obtain ⟨f, hf, rfl | hfb⟩ := habove b hb
      · exact ⟨f, hf, hba⟩
      · exact ⟨f, hf, h.isProperSubtype_trans (hnamed (List.mem_append_left _ (hsub hf)))
          (hnamed (List.mem_append_left _ hb)) (hnamed ha) hfb hba⟩
    have hshadow : found.any (c.isSupertype a) = before.any (c.isProperSubtype · a) := by
      rw [Bool.eq_iff_iff, List.any_eq_true, List.any_eq_true]
      constructor
      · rintro ⟨f, hf, hfa⟩
        refine ⟨f, hsub hf, isProperSubtype_of_isSupertype hfa ?_⟩
        exact (List.pairwise_append.mp hdistinct).2.2 f (hsub hf) a List.mem_cons_self
      · rintro ⟨b, hb, hba⟩
        obtain ⟨f, hf, hfa⟩ := hfound hb hba
        exact ⟨f, hf, (Bool.and_eq_true_iff.mp hfa).1⟩
    obtain ⟨name, hown⟩ := Option.isSome_iff_exists.mp (hcarry a ha)
    rw [List.append_cons] at hcarry hdistinct
    rw [transformersAlong, unshadowed, hshadow]
    split
    · rename_i hb
      obtain ⟨b, hb, hba⟩ := List.any_eq_true.mp hb
      refine ih hcarry hdistinct (List.subset_append_of_subset_left _ hsub) ?_
      refine List.forall_mem_append.mpr ⟨habove, List.forall_mem_singleton.mpr ?_⟩
      obtain ⟨f, hf, hfa⟩ := hfound hb hba
      exact ⟨f, hf, Or.inr hfa⟩
    · rw [hown, List.filterMap_cons_some hown]
      refine congrArg _ (ih hcarry hdistinct ?_ (List.forall_mem_append.mpr ⟨fun b hb => ?_, ?_⟩))
      · exact List.append_subset.mpr ⟨List.subset_append_of_subset_left _ hsub,
          List.subset_append_right _ _⟩
      · obtain ⟨f, hf, hfb⟩ := habove b hb
        exact ⟨f, List.mem_append_left _ hf, hfb⟩
      · exact List.forall_mem_singleton.mpr
          ⟨a, List.mem_append_right _ List.mem_cons_self, Or.inl rfl⟩

theorem unshadowed_eq_filter {before as : List TypeExpr}
    (h : ∀ l a r, as = l ++ a :: r → r.any (c.isProperSubtype · a) = true →
      (before ++ l).any (c.isProperSubtype · a) = true) :
    c.unshadowed before as = as.filter fun a => !(before ++ as).any (c.isProperSubtype · a) := by
  induction as generalizing before with
  | nil => rfl
  | cons a as ih =>
    have hnext : ∀ l b r, as = l ++ b :: r → r.any (c.isProperSubtype · b) = true →
        (before ++ [a] ++ l).any (c.isProperSubtype · b) = true := fun l b r hl hr => by
      rw [← List.append_cons]
      exact h (a :: l) b r (hl ▸ rfl) hr
    have hrest := ih hnext
    rw [← List.append_cons] at hrest
    have hself :
        (before ++ a :: as).any (c.isProperSubtype · a) = before.any (c.isProperSubtype · a) := by
      rw [List.any_append, List.any_cons, not_isProperSubtype_self, Bool.false_or]
      cases hr : as.any (c.isProperSubtype · a) with
      | false => exact Bool.or_false _
      | true => simpa using h [] a as rfl hr
    rw [unshadowed, hrest]
    cases hb : before.any (c.isProperSubtype · a) with
    | true => exact (List.filter_cons_of_neg (by rw [hself, hb]; decide)).symm
    | false => exact (List.filter_cons_of_pos (by rw [hself, hb]; rfl)).symm

theorem mem_unshadowed {before l r : List TypeExpr}
    (h : (before ++ l).any (c.isProperSubtype · a) = false) :
    a ∈ c.unshadowed before (l ++ a :: r) := by
  induction l generalizing before with
  | nil =>
    rw [List.append_nil] at h
    rw [List.nil_append, unshadowed, if_neg (by simp [h])]
    exact List.mem_cons_self
  | cons b l ih =>
    have hnext : (before ++ [b] ++ l).any (c.isProperSubtype · a) = false := by
      rw [← List.append_cons]
      exact h
    have hrest := ih hnext
    rw [List.cons_append, unshadowed]
    split
    · exact hrest
    · exact List.mem_cons_of_mem b hrest

/-- What is listed are the most specific carriers just if subtypes come first. -/
theorem unshadowed_eq_mostSpecific_iff :
    c.unshadowed [] (c.carriers rules t) = c.mostSpecific rules t ↔ c.SubtypesFirst rules t := by
  constructor
  · intro h before a after hsplit hafter
    by_contra hbefore
    have hmem : a ∈ c.mostSpecific rules t := by
      rw [← h, hsplit]
      exact mem_unshadowed (Bool.not_eq_true _ ▸ hbefore)
    have hnone := (List.mem_filter.mp hmem).2
    rw [hsplit, List.any_append, List.any_cons, hafter] at hnone
    simp at hnone
  · exact fun h => unshadowed_eq_filter h

/-- Of the most specific carriers none is above another. -/
theorem mostSpecific_pairwise (c : Catalog) (rules : SerializationRules) (t : TypeExpr) :
    (c.mostSpecific rules t).Pairwise fun a b => c.isSupertype a b = false ∧
      c.isSupertype b a = false := by
  have hspecific {a b : TypeExpr} (ha : a ∈ c.mostSpecific rules t)
      (hb : b ∈ c.mostSpecific rules t)
      (hne : b.rawName? ≠ a.rawName?) : c.isSupertype a b = false := by
    by_contra h
    have hnone := (List.mem_filter.mp ha).2
    have hany : (c.carriers rules t).any (c.isProperSubtype · a) = true :=
      List.any_eq_true.mpr ⟨b, List.mem_of_mem_filter hb,
        isProperSubtype_of_isSupertype (Bool.not_eq_false _ ▸ h) hne⟩
    rw [hany] at hnone
    cases hnone
  refine ((carriers_distinct c rules t).filter _).imp_of_mem fun {a b} ha hb hne => ?_
  exact ⟨hspecific ha hb (Ne.symm hne), hspecific hb ha hne⟩

/-- Which transformers apply to a type of a class, and in which order: those of the ancestors that
no carrier before them is a subtype of. These are the most specific ones, if the walk comes to
subtypes first, and only then. Of the most specific ones no class is above another, and no carrier
is below the first. -/
theorem most_specific_transformers_apply (hc : c.Acyclic)
    (rules : SerializationRules) (name : String) (args : List TypeExpr) :
    let t : TypeExpr := .named name args
    let listed := c.unshadowed [] (c.carriers rules t)
    c.transformersOf rules t = listed.filterMap (c.ownTransformer? rules) ∧
      (listed = c.mostSpecific rules t ↔ c.SubtypesFirst rules t) ∧
      (c.SubtypesFirst rules t →
        c.transformersOf rules t = (c.mostSpecific rules t).filterMap (c.ownTransformer? rules)) ∧
      (c.mostSpecific rules t).Pairwise
        (fun a b => c.isSupertype a b = false ∧ c.isSupertype b a = false) ∧
      ∀ a ∈ (c.mostSpecific rules t).head?, ∀ b ∈ c.carriers rules t,
        c.isProperSubtype b a = false := by
  intro t listed
  have hlisted : c.transformersOf rules t = listed.filterMap (c.ownTransformer? rules) := by
    rw [transformersOf, ← transformersAlong_filter]
    exact hc.transformersAlong_eq (fun a ha => (List.mem_filter.mp ha).2)
      (carriers_distinct c rules t) (List.nil_subset _) (fun b hb => (List.not_mem_nil hb).elim)
  refine ⟨hlisted, unshadowed_eq_mostSpecific_iff, fun h => ?_, mostSpecific_pairwise c rules t,
    fun a ha b hb => ?_⟩
  · exact hlisted.trans (congrArg _ (unshadowed_eq_mostSpecific_iff.mpr h))
  · have hnone := (List.mem_filter.mp (List.mem_of_mem_head? ha)).2
    by_contra hba
    have hany : (c.carriers rules t).any (c.isProperSubtype · a) = true :=
      List.any_eq_true.mpr ⟨b, hb, Bool.not_eq_false _ ▸ hba⟩
    rw [hany] at hnone
    cases hnone

/-- Squares are figures. A tile is both, and says so in the order of `interfaces`. The transformer
of squares is annotated, that of figures is registered. -/
def figures (interfaces : List String) : Catalog :=
  ((builtin.addClass { name := "Figure", kind := .interface }).addClass
    { name := "Square", kind := .interface, interfaces := [.raw "Figure"],
      transformer := some "SquareToText" }).addClass
    { name := "Tile", superclass := some (.raw objectName), interfaces := interfaces.map .raw }

def figureRules : SerializationRules := ⟨[⟨"Figure", "FigureToText"⟩]⟩

theorem most_specific_transformers_apply_square :
    let c := figures ["Square", "Figure"]
    c.Acyclic ∧ c.SubtypesFirst figureRules (.raw "Tile") ∧
      c.transformersOf figureRules (.raw "Tile") = ["SquareToText"] := by
  intro c
  have hc : c.Acyclic := acyclic_of_isInOrder (by decide +kernel)
  obtain ⟨-, hiff, happly, -, -⟩ := most_specific_transformers_apply hc figureRules "Tile" []
  have hfirst : c.SubtypesFirst figureRules (.raw "Tile") := hiff.mp (by decide +kernel)
  refine ⟨hc, hfirst, ?_⟩
  rw [happly hfirst]
  decide +kernel

/-- A tile that is said to be a figure first gets the transformer of figures, before that of
squares. -/
theorem interface_before_its_extension_is_listed :
    let c := figures ["Figure", "Square"]
    c.Acyclic ∧ c.transformersOf figureRules (.raw "Tile") = ["FigureToText", "SquareToText"] ∧
      (c.mostSpecific figureRules (.raw "Tile")).filterMap (c.ownTransformer? figureRules) =
        ["SquareToText"] :=
  ⟨acyclic_of_isInOrder (by decide +kernel), by decide +kernel, by decide +kernel⟩

end ServiceApi.Catalog
