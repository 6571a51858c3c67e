import ServiceApi.Proofs.OrderedMap
import ServiceApi.Schema.Repository

/-! # A catalog is what it declares

Whatever is asked of a catalog is answered from the declarations of classes and transformers by
their names. In which order they were registered does not show, in a schema or anywhere else. -/

namespace ServiceApi

/-- The same classes and transformers by name, in whatever order. -/
structure SameDeclarations (c c' : Catalog) : Prop where
  classes : ∀ name, c.classes.get? name = c'.classes.get? name
  transformers : ∀ name, c.transformers.get? name = c'.transformers.get? name

namespace SameDeclarations

variable {c c' : Catalog} (h : SameDeclarations c c')

include h

/-! ## Ancestry -/

theorem class? : c.class? = c'.class? := funext h.classes

theorem transformer? : c.transformer? = c'.transformer? := funext h.transformers

theorem declOf? : c.declOf? = c'.declOf? := by
  funext t
  rw [Catalog.declOf?, Catalog.declOf?, h.class?]

theorem bindings : c.bindings = c'.bindings := by
  funext t
  rw [Catalog.bindings, Catalog.bindings, h.declOf?]

theorem directSupertypes : c.directSupertypes = c'.directSupertypes := by
  funext t
  unfold Catalog.directSupertypes
  rw [h.class?, h.bindings]

theorem closure (fuel : Nat) : c.closure fuel = c'.closure fuel := by
  induction fuel with
  | zero => rfl
  | succ fuel ih =>
    funext seen queue
    cases queue with
    | nil => rfl
    | cons t queue => rw [Catalog.closure, Catalog.closure, ih, h.directSupertypes]

theorem visits : c.visits = c'.visits := by
  have hvalues : c.classes.values.Perm c'.classes.values :=
    (OrderedMap.perm_entries h.classes).map Prod.snd
  rw [Catalog.visits, Catalog.visits, hvalues.length_eq, (hvalues.flatMap_right _).length_eq]

theorem asSupertype? : c.asSupertype? = c'.asSupertype? := by
  funext t name
  simp only [Catalog.asSupertype?, Catalog.supertypes, h.closure, h.visits]

theorem isSubtype : c.isSubtype = c'.isSubtype := by
  funext t name
  rw [Catalog.isSubtype, Catalog.isSubtype, h.asSupertype?]

theorem isSupertype : c.isSupertype = c'.isSupertype := by
  funext t t'
  simp only [Catalog.isSupertype, h.isSubtype]

/-! ## Field types -/

theorem arrayItem? : c.arrayItem? = c'.arrayItem? := by
  funext t
  simp only [Catalog.arrayItem?, Catalog.collectionItemVariable, h.asSupertype?, h.class?]

theorem isArray : c.isArray = c'.isArray := by
  funext t
  rw [Catalog.isArray, Catalog.isArray, h.arrayItem?]

theorem isEnum : c.isEnum = c'.isEnum := by
  funext t
  simp only [Catalog.isEnum, h.class?, h.isSubtype]

theorem isMap : c.isMap = c'.isMap := by
  funext t
  rw [Catalog.isMap, Catalog.isMap, h.isSubtype]

theorem isInjected : c.isInjected = c'.isInjected := by
  funext t
  rw [Catalog.isInjected, Catalog.isInjected, h.isSubtype]

theorem fieldType? : c.fieldType? = c'.fieldType? := by
  funext t
  simp only [Catalog.fieldType?, h.isEnum, h.isArray]

theorem isParameterType : c.isParameterType = c'.isParameterType := by
  funext t
  rw [Catalog.isParameterType, Catalog.isParameterType, h.fieldType?]

/-! ## Properties -/

theorem requireClass : c.requireClass = c'.requireClass := by
  funext name location
  rw [Catalog.requireClass, Catalog.requireClass, h.class?]

theorem superclass? : c.superclass? = c'.superclass? := by
  funext t
  rw [Catalog.superclass?, Catalog.superclass?, h.declOf?, h.bindings]

theorem superclassChain (fuel : Nat) : c.superclassChain fuel = c'.superclassChain fuel := by
  induction fuel with
  | zero => rfl
  | succ fuel ih =>
    funext visited t
    rw [Catalog.superclassChain, Catalog.superclassChain, ih, h.superclass?]

theorem properties : c.properties = c'.properties := by
  have hown : c.ownProperties = c'.ownProperties := by
    funext owner
    simp only [Catalog.ownProperties, h.declOf?, h.bindings]
  funext fuel t
  simp only [Catalog.properties, h.requireClass, h.superclassChain, hown]

/-! ## Transformers -/

theorem transformersOf : c.transformersOf = c'.transformersOf := by
  have hown : c.ownTransformer? = c'.ownTransformer? := by
    funext rules t
    rw [Catalog.ownTransformer?, Catalog.ownTransformer?, h.declOf?]
  have halong (rules : SerializationRules) (ts : List TypeExpr) : ∀ found,
      c.transformersAlong rules found ts = c'.transformersAlong rules found ts := by
    induction ts with
    | nil => exact fun _ => rfl
    | cons t ts ih =>
      intro found
      rw [Catalog.transformersAlong, Catalog.transformersAlong, h.isSupertype, hown]
      simp only [ih]
  funext rules t
  simp only [Catalog.transformersOf, Catalog.supertypes, halong, h.closure, h.visits]

theorem instantiate : c.instantiate = c'.instantiate := by
  funext name t
  simp only [Catalog.instantiate, Catalog.requireTransformer, h.transformer?, h.asSupertype?]

theorem primaryTransformer : c.primaryTransformer = c'.primaryTransformer := by
  funext rules t
  rw [Catalog.primaryTransformer, Catalog.primaryTransformer, h.transformersOf, h.instantiate]

theorem schemaType : c.schemaType = c'.schemaType := by
  funext rules t
  rw [Catalog.schemaType, Catalog.schemaType, h.primaryTransformer]

theorem resourceSchema : c.resourceSchema = c'.resourceSchema := by
  funext rules t
  rw [Catalog.resourceSchema, Catalog.resourceSchema, h.primaryTransformer]

theorem itemTransformersOf : c.itemTransformersOf = c'.itemTransformersOf := by
  funext rules t
  rw [Catalog.itemTransformersOf, Catalog.itemTransformersOf, h.arrayItem?, h.transformersOf]

end SameDeclarations

end ServiceApi
