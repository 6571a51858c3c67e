import ServiceApi.Proofs.Catalog.Registered
import ServiceApi.Proofs.Catalog.Transformers

/-! # What rules hold

Rules are built by calls that register transformers, each for its source class. Of every class they
hold the transformer that was registered last, and nothing else. So a transformer that is found for
an ancestor of a type is declared, and its source is the class of that ancestor: all that it may
lack is a constructor. -/

namespace ServiceApi

namespace Catalog

variable {c : Catalog} {rules : SerializationRules} {a t : TypeExpr} {name source : String}
  {calls : List String} {decl : TransformerDecl} {e : ApiError}

/-- Every transformer is declared under its own name. -/
def FilesByName (c : Catalog) : Prop :=
  ∀ name decl, c.transformer? name = some decl → decl.name = name

theorem filesByName_registered (rs : List Registration) : (registered rs).FilesByName := by
  intro name decl h
  rw [transformer?_registered] at h
  obtain ⟨r, -, hr⟩ := List.mem_filterMap.mp (List.mem_reverse.mp (Entries.mem_of_lookup h))
  cases r with
  | ofClass => cases hr
  | ofTransformer =>
    cases hr
    rfl

/-- The class that a transformer is registered for. -/
def sourceOf? (c : Catalog) (transformer : String) : Option String :=
  (c.transformer? transformer).bind (·.source.rawName?)

/-- The transformer that the last of the calls for the class names. -/
def lastFor? (c : Catalog) (calls : List String) (source : String) : Option String :=
  calls.reverse.find? (c.sourceOf? · = some source)

theorem lastFor?_concat : c.lastFor? (calls ++ [name]) source =
    if c.sourceOf? name = some source then some name else c.lastFor? calls source := by
  rw [lastFor?, List.reverse_concat, List.find?_cons]
  split <;> simp_all [lastFor?]

theorem sourceOf?_of_lastFor? (h : c.lastFor? calls source = some name) :
    c.sourceOf? name = some source := by
  simpa using List.find?_some h

/-! ## Putting a transformer to use -/

theorem find?_shape_eq_none_iff : ConstructorShape.all.find? decl.constructors.contains = none ↔
    decl.constructors = [] := by
  have hall (shape : ConstructorShape) : shape ∈ ConstructorShape.all := by cases shape <;> decide
  simp only [List.find?_eq_none, List.contains_iff_mem]
  exact ⟨fun h => List.eq_nil_iff_forall_not_mem.mpr fun shape => h shape (hall shape),
    fun h => by simp [h]⟩

/-- A declared transformer whose source is an ancestor of the type fails just if it has no
constructor. -/
theorem instantiate_eq_error_iff (hdecl : c.transformer? name = some decl)
    (hsource : decl.source.rawName? = some source) (hsub : c.isSubtype t source = true) :
    c.instantiate name t = .error e ↔ decl.constructors = [] ∧ e = .noConstructor decl.name t := by
  obtain ⟨view, hview⟩ := Option.isSome_iff_exists.mp hsub
  rw [← find?_shape_eq_none_iff]
  simp only [instantiate, requireTransformer, hdecl, hsource, Option.bind_some, hview,
    bind, Except.bind]
  cases ConstructorShape.all.find? decl.constructors.contains with
  | none => exact ⟨fun h => ⟨rfl, (Except.error.inj h).symm⟩, fun h => h.2 ▸ rfl⟩
  | some shape =>
    refine iff_of_false (fun h => ?_) fun h => Option.some_ne_none _ h.1
    cases h

end Catalog

namespace SerializationRules

variable {c : Catalog} {rules rules' : SerializationRules} {calls : List String}
  {name source : String} {t : TypeExpr}

/-! ## The last registration for a class -/

/-- The rules with the transformer in place of what they had for the class. -/
def replace (rules : SerializationRules) (source transformer : String) : SerializationRules :=
  ⟨rules.serializers.filter (·.source != source) ++ [⟨source, transformer⟩]⟩

/-- The rules after a call. One that fails leaves them as they were. -/
def attempt (c : Catalog) (rules : SerializationRules) (transformer : String) :
    SerializationRules :=
  (rules.add c transformer).toOption.getD rules

/-- The rules that calls build, one after the other, from none at all. -/
def built (c : Catalog) (calls : List String) : SerializationRules := calls.foldl (attempt c) {}

theorem add_eq (hc : c.FilesByName) (rules : SerializationRules)
    (h : c.sourceOf? name = some source) : rules.add c name = .ok (rules.replace source name) := by
  obtain ⟨decl, hdecl, hsource⟩ := Option.bind_eq_some_iff.mp h
  simp only [add, Catalog.requireTransformer, hdecl, bind, Except.bind, hsource,
    hc name decl hdecl, replace]
  rfl

theorem attempt_eq (hc : c.FilesByName) (rules : SerializationRules) (name : String) :
    rules.attempt c name = (c.sourceOf? name).elim rules (rules.replace · name) := by
  cases hsource : c.sourceOf? name with
  | some source => rw [attempt, add_eq hc rules hsource]; rfl
  | none =>
    rw [attempt, add, Catalog.requireTransformer]
    cases hdecl : c.transformer? name with
    | none => rfl
    | some decl =>
      have hraw : decl.source.rawName? = none := by simpa [Catalog.sourceOf?, hdecl] using hsource
      simp only [bind, Except.bind, hraw]
      rfl

/-- Of every class the rules hold the transformer that the last of the calls registers for it,
once. -/
structure HoldsLast (c : Catalog) (calls : List String) (rules : SerializationRules) : Prop where
  distinct : (rules.serializers.map (·.source)).Nodup
  mem_iff : ∀ s, s ∈ rules.serializers ↔ c.lastFor? calls s.source = some s.transformer

theorem HoldsLast.empty (c : Catalog) : HoldsLast c [] {} :=
  ⟨List.nodup_nil, fun _ => iff_of_false List.not_mem_nil nofun⟩

/-- A call that registers a transformer for another class changes nothing for this one. -/
theorem HoldsLast.attempt (hc : c.FilesByName) (h : HoldsLast c calls rules) (name : String) :
    HoldsLast c (calls ++ [name]) (rules.attempt c name) := by
  rw [attempt_eq hc]
  cases hsource : c.sourceOf? name with
  | none =>
    refine ⟨h.distinct, fun s => ?_⟩
    rw [Catalog.lastFor?_concat, hsource, if_neg nofun]
    exact h.mem_iff s
  | some source =>
    refine ⟨?_, fun s => ?_⟩
    · rw [Option.elim_some, replace, List.map_append, List.map_singleton, List.nodup_append_comm,
        List.singleton_append, List.nodup_cons]
      refine ⟨fun hmem => ?_, h.distinct.sublist (List.filter_sublist.map _)⟩
      obtain ⟨s, hs, hsame⟩ := List.mem_map.mp hmem
      exact bne_iff_ne.mp (List.mem_filter.mp hs).2 hsame
    · rw [Option.elim_some, replace, List.mem_append, List.mem_filter, h.mem_iff,
        List.mem_singleton, bne_iff_ne, Catalog.lastFor?_concat, hsource]
      obtain ⟨source', transformer⟩ := s
      by_cases hsame : source = source'
      · simp [hsame, eq_comm]
      · simp [hsame, Ne.symm hsame]

theorem holdsLast_built (hc : c.FilesByName) (calls : List String) :
    HoldsLast c calls (built c calls) := by
  induction calls using List.reverseRecOn with
  | nil => exact .empty c
  | append_singleton calls name ih =>
    rw [built, List.foldl_concat]
    exact ih.attempt hc name

/-- The rules that calls build if every one of them succeeds. -/
def registerAll (c : Catalog) (calls : List String) : Except ApiError SerializationRules :=
  calls.foldlM (fun rules transformer => rules.add c transformer) {}

theorem foldl_attempt_of_foldlM {start : SerializationRules}
    (h : calls.foldlM (fun rules transformer => rules.add c transformer) start = .ok rules) :
    rules = calls.foldl (attempt c) start := by
  induction calls generalizing start with
  | nil => exact (Except.ok.inj h).symm
  | cons name calls ih =>
    rw [List.foldlM_cons] at h
    cases hadd : start.add c name with
    | error e => rw [hadd] at h; cases h
    | ok next =>
      rw [hadd] at h
      rw [List.foldl_cons, attempt, hadd]
      exact ih h

theorem eq_built_of_registerAll (h : registerAll c calls = .ok rules) : rules = built c calls :=
  foldl_attempt_of_foldlM h

/-- A class is looked up as if the calls were gone through from the last one on. -/
theorem HoldsLast.find?_eq (h : HoldsLast c calls rules) (t : TypeExpr) :
    rules.find? t = t.rawName?.bind fun source => (c.lastFor? calls source).map (⟨source, ·⟩) := by
  rw [SerializationRules.find?]
  congr 1
  funext source
  cases hlast : c.lastFor? calls source with
  | none =>
    rw [Option.map_none, List.find?_eq_none]
    rintro s hs hsource
    rw [← eq_of_beq hsource, (h.mem_iff s).mp hs] at hlast
    cases hlast
  | some name =>
    have hmem : (⟨source, name⟩ : Serializer) ∈ rules.serializers :=
      (h.mem_iff ⟨source, name⟩).mpr hlast
    have hfound : (rules.serializers.find? (·.source == source)).isSome :=
      List.find?_isSome.mpr ⟨_, hmem, beq_self_eq_true source⟩
    obtain ⟨s, hs⟩ := Option.isSome_iff_exists.mp hfound
    have hsource : s.source = source := by simpa using List.find?_some hs
    have hname : some s.transformer = some name :=
      ((h.mem_iff s).mp (List.mem_of_find?_eq_some hs)).symm.trans (hsource ▸ hlast)
    rw [hs, Option.map_some, ← hsource, ← Option.some.inj hname]

end SerializationRules

namespace Catalog

open SerializationRules

variable {c : Catalog} {rules : SerializationRules} {t : TypeExpr} {name : String}
  {calls : List String}

/-! ## What is found fits -/

/-- No ancestor of the type, itself included, has a transformer by its own declaration. -/
def Unannotated (c : Catalog) (t : TypeExpr) : Prop :=
  ∀ a ∈ c.supertypes t, (c.declOf? a).bind (·.transformer) = none

instance (c : Catalog) (t : TypeExpr) : Decidable (c.Unannotated t) :=
  inferInstanceAs (Decidable (∀ a ∈ c.supertypes t, (c.declOf? a).bind (·.transformer) = none))

/-- A transformer that is listed for the type was registered for the class of an ancestor. -/
theorem Unannotated.sourceOf?_of_mem (ht : c.Unannotated t) (h : HoldsLast c calls rules)
    (hname : name ∈ c.transformersOf rules t) :
    ∃ source, c.sourceOf? name = some source ∧ c.isSubtype t source = true := by
  obtain ⟨a, ha, hown⟩ := mem_transformersOf hname
  rw [ownTransformer?, ht a ha, Option.none_or, h.find?_eq, Option.map_eq_some_iff] at hown
  obtain ⟨s, hs, rfl⟩ := hown
  obtain ⟨source, hsource, hs⟩ := Option.bind_eq_some_iff.mp hs
  obtain ⟨name, hlast, rfl⟩ := Option.map_eq_some_iff.mp hs
  exact ⟨source, sourceOf?_of_lastFor? hlast, isSubtype_iff_mem.mpr ⟨a, ha, hsource⟩⟩

/-- Whatever was registered for the classes of a type without annotated ancestors, be it with calls
that fail in between: what applies to the type is declared and has an ancestor of it as its source,
and so the type is refused just where the first of them has no constructor. -/
theorem registered_transformers_fit (rs : List Registration) (calls : List String) {t : TypeExpr}
    (ht : (registered rs).Unannotated t) :
    let c := registered rs
    let rules := SerializationRules.built c calls
    (∀ name ∈ c.transformersOf rules t, ∃ decl source view, c.transformer? name = some decl ∧
        decl.source.rawName? = some source ∧ c.asSupertype? t source = some view ∧
        ∀ e, c.instantiate name t = .error e ↔ decl.constructors = [] ∧ e = .noConstructor name t) ∧
      ∀ e, c.primaryTransformer rules t = .error e ↔
        ∃ name ∈ (c.transformersOf rules t).head?, ∃ decl, c.transformer? name = some decl ∧
          decl.constructors = [] ∧ e = .noConstructor name t := by
  intro c rules
  have hc : c.FilesByName := filesByName_registered rs
  have hfit : ∀ name ∈ c.transformersOf rules t, ∃ decl source view,
    c.transformer? name = some decl ∧
      decl.source.rawName? = some source ∧ c.asSupertype? t source = some view ∧
      ∀ e, c.instantiate name t = .error e ↔ decl.constructors = [] ∧
        e = .noConstructor name t := by
    intro name hname
    obtain ⟨source, hsource, hsub⟩ := ht.sourceOf?_of_mem (holdsLast_built hc calls) hname
    obtain ⟨decl, hdecl, hraw⟩ := Option.bind_eq_some_iff.mp hsource
    obtain ⟨view, hview⟩ := Option.isSome_iff_exists.mp hsub
    refine ⟨decl, source, view, hdecl, hraw, hview, fun e => ?_⟩
    rw [instantiate_eq_error_iff hdecl hraw hsub, hc name decl hdecl]
  refine ⟨hfit, fun e => primaryTransformer_eq_error_iff.trans ⟨?_, ?_⟩⟩
  · rintro ⟨name, hname, hfails⟩
    obtain ⟨decl, source, view, hdecl, -, -, hiff⟩ := hfit name (List.mem_of_mem_head? hname)
    exact ⟨name, hname, decl, hdecl, (hiff e).mp hfails⟩
  · rintro ⟨name, hname, decl, hdecl, hnone⟩
    obtain ⟨decl', source, view, hdecl', -, -, hiff⟩ := hfit name (List.mem_of_mem_head? hname)
    cases hdecl.symm.trans hdecl'
    exact ⟨name, hname, (hiff e).mpr hnone⟩

/-- Whatever is framed can be written as a text, or else as a list of what is in the frame. -/
def gallery : List Registration :=
  let framed : TypeExpr := .named "Framed" [.var "T"]
  [.ofClass { name := "Framed", kind := .interface, typeParams := ["T"] },
   .ofClass { name := "Painting", interfaces := [.named "Framed" [.raw "Canvas"]] },
   .ofTransformer { name := "FramedToText", source := framed, target := .raw "String" },
   .ofTransformer { name := "FramedToList", source := framed, target := .named "List" [.var "T"],
                    constructors := [] }]

/-- The last call decides, and what it names cannot be constructed. -/
theorem registered_transformers_fit_painting :
    let c := registered gallery
    let rules := SerializationRules.built c ["FramedToText", "FramedToList", "Missing"]
    c.Unannotated (.raw "Painting") ∧ c.transformersOf rules (.raw "Painting") = ["FramedToList"] ∧
      c.primaryTransformer rules (.raw "Painting") =
        .error (.noConstructor "FramedToList" (.raw "Painting")) := by
  intro c rules
  have ht : c.Unannotated (.raw "Painting") := by decide +kernel
  have hlisted : c.transformersOf rules (.raw "Painting") = ["FramedToList"] := by decide +kernel
  obtain ⟨-, hfails⟩ :=
    registered_transformers_fit gallery ["FramedToText", "FramedToList", "Missing"] ht
  have hdecl : ((c.transformer? "FramedToList").map (·.constructors)) = some [] := by decide +kernel
  obtain ⟨decl, hdecl, hnone⟩ := Option.map_eq_some_iff.mp hdecl
  exact ⟨ht, hlisted, (hfails _).mpr ⟨"FramedToList", by rw [hlisted]; rfl, decl,
    hdecl, hnone, rfl⟩⟩

end Catalog

end ServiceApi
