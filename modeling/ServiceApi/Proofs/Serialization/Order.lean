import ServiceApi.Config.Parameter
import ServiceApi.Proofs.Serialization.Rules

/-! # In which order transformers are registered

Rules are only ever asked which transformer they have for a class. They hold what was registered for
it last, so calls that end alike for every class build rules that answer alike, whatever else was
registered in between and in whatever order. -/

namespace ServiceApi

/-- The rules name the same transformer for every type. -/
def SerializationRules.SameLookups (rules rules' : SerializationRules) : Prop :=
  ∀ t, rules.find? t = rules'.find? t

namespace SerializationRules.SameLookups

variable {rules rules' : SerializationRules} (h : rules.SameLookups rules') (c : Catalog)
  (p : ParameterConfig)

include h

theorem ownTransformer? : c.ownTransformer? rules = c.ownTransformer? rules' := by
  funext t
  rw [Catalog.ownTransformer?, Catalog.ownTransformer?, h t]

theorem transformersOf : c.transformersOf rules = c.transformersOf rules' := by
  have halong (ts : List TypeExpr) : ∀ found,
      c.transformersAlong rules found ts = c.transformersAlong rules' found ts := by
    induction ts with
    | nil => exact fun _ => rfl
    | cons t ts ih =>
      intro found
      rw [Catalog.transformersAlong, Catalog.transformersAlong, h.ownTransformer?]
      simp only [ih]
  funext t
  simp only [Catalog.transformersOf, halong]

theorem primaryTransformer : c.primaryTransformer rules = c.primaryTransformer rules' := by
  funext t
  rw [Catalog.primaryTransformer, Catalog.primaryTransformer, h.transformersOf]

theorem schemaType : c.schemaType rules = c.schemaType rules' := by
  funext t
  rw [Catalog.schemaType, Catalog.schemaType, h.primaryTransformer]

theorem resourceSchema : c.resourceSchema rules = c.resourceSchema rules' := by
  funext t
  rw [Catalog.resourceSchema, Catalog.resourceSchema, h.primaryTransformer]

theorem itemTransformersOf : c.itemTransformersOf rules = c.itemTransformersOf rules' := by
  funext t
  rw [Catalog.itemTransformersOf, Catalog.itemTransformersOf, h.transformersOf]

theorem baseType : p.baseType c rules = p.baseType c rules' := by
  simp only [ParameterConfig.baseType, ParameterConfig.effectiveTransformers, h.transformersOf]

theorem itemBaseType? : p.itemBaseType? c rules = p.itemBaseType? c rules' := by
  simp only [ParameterConfig.itemBaseType?, ParameterConfig.itemType?,
    ParameterConfig.effectiveItemTransformers, h.baseType, h.itemTransformersOf]

theorem classification : p.classification c rules = p.classification c rules' := by
  simp only [ParameterConfig.classification, h.baseType, h.itemBaseType?]

end SerializationRules.SameLookups

namespace SerializationRules

variable {c : Catalog} {calls calls' : List String} {rules rules' : SerializationRules}

theorem HoldsLast.sameLookups (h : HoldsLast c calls rules) (h' : HoldsLast c calls' rules')
    (hlast : ∀ source, c.lastFor? calls source = c.lastFor? calls' source) :
    rules.SameLookups rules' := by
  intro t
  rw [h.find?_eq, h'.find?_eq]
  simp only [hlast]

theorem HoldsLast.perm (h : HoldsLast c calls rules) (h' : HoldsLast c calls' rules')
    (hlast : ∀ source, c.lastFor? calls source = c.lastFor? calls' source) :
    rules.serializers.Perm rules'.serializers := by
  refine (List.perm_ext_iff_of_nodup h.distinct.of_map h'.distinct.of_map).mpr fun s => ?_
  rw [h.mem_iff, h'.mem_iff, hlast]

/-- Calls that succeed, and of which the last for every class names the same transformer, build
rules with one entry for each of these classes. Under both the same transformers apply to every type
and to its items, every type is serialized alike, and every parameter travels alike. -/
theorem registration_order_is_immaterial (rs : List Registration)
    (h : registerAll (.registered rs) calls = .ok rules)
    (h' : registerAll (.registered rs) calls' = .ok rules')
    (hlast : ∀ source,
      (Catalog.registered rs).lastFor? calls source =
        (Catalog.registered rs).lastFor? calls' source) :
    let c := Catalog.registered rs
    HoldsLast c calls rules ∧ HoldsLast c calls' rules' ∧
      rules.serializers.Perm rules'.serializers ∧
      (∀ t, c.transformersOf rules t = c.transformersOf rules' t ∧
        c.schemaType rules t = c.schemaType rules' t ∧
        c.resourceSchema rules t = c.resourceSchema rules' t ∧
        c.itemTransformersOf rules t = c.itemTransformersOf rules' t) ∧
      ∀ p : ParameterConfig, p.classification c rules = p.classification c rules' := by
  intro c
  have hc : c.FilesByName := Catalog.filesByName_registered rs
  have hholds : HoldsLast c calls rules := eq_built_of_registerAll h ▸ holdsLast_built hc calls
  have hholds' : HoldsLast c calls' rules' := eq_built_of_registerAll h' ▸ holdsLast_built hc calls'
  have hsame := hholds.sameLookups hholds' hlast
  refine ⟨hholds, hholds', hholds.perm hholds' hlast, fun t => ⟨?_, ?_, ?_, ?_⟩,
    hsame.classification c⟩
  · rw [hsame.transformersOf]
  · rw [hsame.schemaType]
  · rw [hsame.resourceSchema]
  · rw [hsame.itemTransformersOf]

/-- A gallery in which paintings have a transformer of their own. -/
def paintings : List Registration :=
  Catalog.gallery ++ [.ofTransformer
    { name := "PaintingToText", source := .raw "Painting", target := .raw "String" }]

theorem registration_order_is_immaterial_paintings :
    let c := Catalog.registered paintings
    let calls := ["FramedToText", "PaintingToText", "FramedToList"]
    let calls' := ["FramedToList", "PaintingToText"]
    let rules : SerializationRules := ⟨[⟨"Painting", "PaintingToText"⟩, ⟨"Framed", "FramedToList"⟩]⟩
    let rules' : SerializationRules :=
      ⟨[⟨"Framed", "FramedToList"⟩, ⟨"Painting", "PaintingToText"⟩]⟩
    registerAll c calls = .ok rules ∧ registerAll c calls' = .ok rules' ∧
      (∀ source, c.lastFor? calls source = c.lastFor? calls' source) ∧
      c.transformersOf rules (.raw "Painting") = c.transformersOf rules' (.raw "Painting") := by
  intro c calls calls' rules rules'
  have h : registerAll c calls = .ok rules := by rfl
  have h' : registerAll c calls' = .ok rules' := by rfl
  have hlast (source : String) : c.lastFor? calls source = c.lastFor? calls' source := by
    have htext : c.sourceOf? "FramedToText" = some "Framed" := by decide +kernel
    have hlist : c.sourceOf? "FramedToList" = some "Framed" := by decide +kernel
    have hpainting : c.sourceOf? "PaintingToText" = some "Painting" := by decide +kernel
    by_cases hframed : source = "Framed"
    · rw [hframed]
      decide +kernel
    · simp [Catalog.lastFor?, calls, calls', List.find?_cons, htext, hlist,
        hpainting, Ne.symm hframed]
  obtain ⟨-, -, -, hsame, -⟩ := registration_order_is_immaterial paintings h h' hlast
  exact ⟨h, h', hlast, (hsame (.raw "Painting")).1⟩

end SerializationRules

end ServiceApi
