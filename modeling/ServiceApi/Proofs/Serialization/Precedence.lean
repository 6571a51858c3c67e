import ServiceApi.Proofs.Catalog.Transformers

/-! # Which of several transformers decides

Of the transformers that apply to a type the first one decides what the type is serialized as, and
it is that of the first ancestor that carries any. A resource transformer keeps the type and
supplies its schema if it comes first; behind another one it has no say. Where no two unrelated
ancestors carry transformers there is but one. -/

namespace ServiceApi.Catalog

variable {c : Catalog} {rules : SerializationRules} {t : TypeExpr} {name : String}
  {s : ResourceSchema}

/-- The schema that the transformer supplies for the type, where it can be put to use for it and is
a resource transformer. -/
def supplied? (c : Catalog) (t : TypeExpr) (name : String) : Option ResourceSchema :=
  (c.instantiate name t).toOption.bind (·.resource)

/-- The type is serialized as itself, with the schema `s` in place of its own. -/
structure ShownAs (c : Catalog) (rules : SerializationRules) (t : TypeExpr)
    (s : ResourceSchema) : Prop where
  type : c.schemaType rules t = .ok t
  schema : c.resourceSchema rules t = .ok (some s)

theorem supplied?_eq_some_iff :
    c.supplied? t name = some s ↔ ∃ b, c.instantiate name t = .ok b ∧ b.resource = some s := by
  rw [supplied?]
  cases c.instantiate name t <;> simp [Except.toOption]

/-! ## The first in the list -/

/-- Nothing is shadowed before anything has matched. -/
theorem head?_transformersAlong (c : Catalog) (rules : SerializationRules) (ts : List TypeExpr) :
    (c.transformersAlong rules [] ts).head? = ts.findSome? (c.ownTransformer? rules) := by
  induction ts with
  | nil => rfl
  | cons a ts ih =>
    rw [transformersAlong, List.any_nil, if_neg Bool.false_ne_true, List.findSome?_cons]
    cases c.ownTransformer? rules a with
    | some name => rfl
    | none => exact ih

theorem transformersAlong_eq_nil {found ts : List TypeExpr}
    (h : ∀ a ∈ ts, found.any (c.isSupertype a) = true) :
    c.transformersAlong rules found ts = [] := by
  induction ts with
  | nil => rfl
  | cons a ts ih =>
    obtain ⟨ha, hts⟩ := List.forall_mem_cons.mp h
    rw [transformersAlong, if_pos ha, ih hts]

/-- The first carrier shadows those above it. -/
theorem length_transformersOf_le_one
    (h : ∀ first ∈ (c.carriers rules t).head?, ∀ a ∈ c.carriers rules t,
      c.isSupertype a first = true) :
    (c.transformersOf rules t).length ≤ 1 := by
  cases t with
  | named n args =>
    -- Ancestors that carry nothing make no difference, so the walk may go through the carriers
    -- alone.
    rw [transformersOf, ← transformersAlong_filter]
    change (c.transformersAlong rules [] (c.carriers rules (.named n args))).length ≤ 1
    cases hcarriers : c.carriers rules (.named n args) with
    | nil => exact Nat.zero_le 1
    | cons first rest =>
      rw [hcarriers] at h
      have hrest : c.transformersAlong rules [first] rest = [] :=
        transformersAlong_eq_nil fun a ha => by
        rw [List.any_cons, h first rfl a (List.mem_cons_of_mem first ha), Bool.true_or]
      have hfirst : first ∈ c.carriers rules (.named n args) := hcarriers ▸ List.mem_cons_self
      obtain ⟨name, hname⟩ := Option.isSome_iff_exists.mp (List.mem_filter.mp hfirst).2
      rw [transformersAlong, List.any_nil, if_neg Bool.false_ne_true, hname, List.nil_append, hrest]
      exact Nat.le_refl 1
  | _ => exact Nat.zero_le 1

/-! ## What it decides -/

theorem schemaType_of_head? (h : (c.transformersOf rules t).head? = some name) :
    c.schemaType rules t = (c.instantiate name t).map fun b => applyTo (some b) t := by
  rw [schemaType, primaryTransformer_of_head? h]
  cases c.instantiate name t <;> rfl

theorem resourceSchema_of_head? (h : (c.transformersOf rules t).head? = some name) :
    c.resourceSchema rules t = (c.instantiate name t).map (·.resource) := by
  rw [resourceSchema, primaryTransformer_of_head? h]
  cases c.instantiate name t <;> rfl

theorem shownAs_iff (h : (c.transformersOf rules t).head? = some name) :
    c.ShownAs rules t s ↔ c.supplied? t name = some s := by
  rw [supplied?_eq_some_iff]
  constructor
  · intro hshown
    have hschema := hshown.schema
    rw [resourceSchema_of_head? h] at hschema
    cases hinst : c.instantiate name t with
    | error e => rw [hinst] at hschema; cases hschema
    | ok b =>
      rw [hinst] at hschema
      exact ⟨b, rfl, Except.ok.inj hschema⟩
  · rintro ⟨b, hinst, hresource⟩
    refine ⟨?_, ?_⟩
    · rw [schemaType_of_head? h, hinst]
      simp [Except.map, applyTo, hresource]
    · rw [resourceSchema_of_head? h, hinst, ← hresource]
      rfl

/-- One that cannot be put to use, or is no resource transformer, has no schema to show. -/
theorem shows_no_schema (h : (c.transformersOf rules t).head? = some name)
    (hnone : c.supplied? t name = none) :
    c.schemaType rules t = (c.instantiate name t).map (·.serializedType) ∧
      c.resourceSchema rules t = (c.instantiate name t).map fun _ => none := by
  rw [schemaType_of_head? h, resourceSchema_of_head? h]
  cases hinst : c.instantiate name t with
  | error e => exact ⟨rfl, rfl⟩
  | ok b =>
    have hplain : b.resource = none := by simpa [supplied?, hinst, Except.toOption] using hnone
    simp [Except.map, applyTo, hplain]

/-- The first that supplies a schema has its way just if none is listed before it. -/
theorem shownAs_iff_isSome (h : (c.transformersOf rules t).findSome? (c.supplied? t) = some s) :
    c.ShownAs rules t s ↔ ((c.transformersOf rules t).head?.bind (c.supplied? t)).isSome := by
  cases hhead : (c.transformersOf rules t).head? with
  | none => rw [List.head?_eq_none_iff.mp hhead] at h; cases h
  | some first =>
    obtain ⟨rest, hlisted⟩ := List.head?_eq_some_iff.mp hhead
    rw [hlisted, List.findSome?_cons] at h
    rw [shownAs_iff hhead, Option.bind_some]
    cases hfirst : c.supplied? t first with
    | none => simp
    | some s' =>
      rw [hfirst] at h
      exact iff_of_true h rfl

theorem shownAs_of_length_le_one (hlength : (c.transformersOf rules t).length ≤ 1)
    (h : (c.transformersOf rules t).findSome? (c.supplied? t) = some s) : c.ShownAs rules t s := by
  refine (shownAs_iff_isSome h).mpr ?_
  match hlisted : c.transformersOf rules t with
  | [] => rw [hlisted] at h; cases h
  | [first] =>
    rw [hlisted, List.findSome?_singleton] at h
    rw [List.head?_cons, Option.bind_some, h]
    rfl
  | _ :: _ :: _ => simp [hlisted] at hlength

/-- For a type of a class the first transformer that is listed decides, and it is that of the first
ancestor that carries one. So of several the first that supplies a schema has its way just if it is
listed first, and where another one is, that one has its way, or its error. One is listed at most,
and has its way, where all ancestors with transformers are above the first of them. -/
theorem the_first_transformer_decides (c : Catalog) (rules : SerializationRules) (name : String)
    (args : List TypeExpr) :
    let t : TypeExpr := .named name args
    let listed := c.transformersOf rules t
    listed.head? = (c.supertypes t).findSome? (c.ownTransformer? rules) ∧
      (∀ s, listed.findSome? (c.supplied? t) = some s →
        (c.ShownAs rules t s ↔ (listed.head?.bind (c.supplied? t)).isSome)) ∧
      (∀ first ∈ listed.head?, c.supplied? t first = none →
        c.schemaType rules t = (c.instantiate first t).map (·.serializedType) ∧
          c.resourceSchema rules t = (c.instantiate first t).map fun _ => none) ∧
      ((∀ first ∈ (c.carriers rules t).head?, ∀ a ∈ c.carriers rules t,
        c.isSupertype a first = true) →
        listed.length ≤ 1 ∧ ∀ s, listed.findSome? (c.supplied? t) = some s →
          c.ShownAs rules t s) := by
  intro t listed
  refine ⟨head?_transformersAlong c rules (c.supertypes t), fun s hs => shownAs_iff_isSome hs,
    fun first hfirst hnone => shows_no_schema hfirst hnone, fun habove => ?_⟩
  have hlength : listed.length ≤ 1 := length_transformersOf_le_one habove
  exact ⟨hlength, fun s hs => shownAs_of_length_le_one hlength hs⟩

/-- What is painted is shown by its colour. -/
def colour : ResourceSchema :=
  { name := some "Colour", properties := [{ name := "colour", type := .raw "String" }] }

/-- Panels are framed and painted, and say so in the order of `interfaces`. Whatever is framed is
written as a text, and whatever is painted is shown by its colour. -/
def panels (interfaces : List String) : Catalog :=
  ((((builtin.addClass { name := "Framed", kind := .interface }).addClass
    { name := "Painted", kind := .interface, transformer := some "PaintedView" }).addClass
    { name := "Panel", interfaces := interfaces.map .raw }).addTransformer
    { name := "FramedToText", source := .raw "Framed", target := .raw "String" }).addTransformer
    { name := "PaintedView", source := .raw "Painted", target := .raw "Painted",
      resource := some colour }

def panelRules : SerializationRules := ⟨[⟨"Framed", "FramedToText"⟩]⟩

theorem the_first_transformer_decides_panel :
    let c := panels ["Painted", "Framed"]
    let listed := c.transformersOf panelRules (.raw "Panel")
    listed = ["PaintedView", "FramedToText"] ∧
      listed.findSome? (c.supplied? (.raw "Panel")) = some colour ∧
        c.ShownAs panelRules (.raw "Panel") colour := by
  intro c listed
  have hlisted : listed = ["PaintedView", "FramedToText"] := by decide +kernel
  have hview : c.supplied? (.raw "Panel") "PaintedView" = some colour := by decide +kernel
  have hfirst : listed.findSome? (c.supplied? (.raw "Panel")) = some colour := by
    rw [hlisted, List.findSome?_cons, hview]
  obtain ⟨-, hprecedes, -, -⟩ := the_first_transformer_decides c panelRules "Panel" []
  refine ⟨hlisted, hfirst, (hprecedes colour hfirst).mpr ?_⟩
  change (listed.head?.bind (c.supplied? (.raw "Panel"))).isSome
  rw [hlisted, List.head?_cons, Option.bind_some, hview]
  rfl

/-- A panel that is said to be framed first is written as a text, and its colour is not shown. -/
theorem plain_transformer_hides_the_colour :
    let c := panels ["Framed", "Painted"]
    let listed := c.transformersOf panelRules (.raw "Panel")
    listed = ["FramedToText", "PaintedView"] ∧
      listed.findSome? (c.supplied? (.raw "Panel")) = some colour ∧
      c.schemaType panelRules (.raw "Panel") = .ok (.raw "String") ∧
      c.resourceSchema panelRules (.raw "Panel") = .ok none ∧
        ¬ c.ShownAs panelRules (.raw "Panel") colour := by
  intro c listed
  have htype : c.schemaType panelRules (.raw "Panel") = .ok (.raw "String") := by rfl
  have hschema : c.resourceSchema panelRules (.raw "Panel") = .ok none := by rfl
  refine ⟨by decide +kernel, by decide +kernel, htype, hschema, fun hshown => ?_⟩
  cases hschema.symm.trans hshown.schema

end ServiceApi.Catalog
