import ServiceApi.Catalog.Classify
import ServiceApi.Catalog.Properties

/-!
# Serialization rules and transformers

A transformer applies to a type because it is annotated on the class or registered for it in the
rules of an API. Of all ancestors that have one, those count that are no supertype of one that was
found already; at one ancestor the annotation comes before the registration. The first transformer
decides: a plain one replaces the type by its target, a resource transformer keeps the type and
supplies the schema.
-/

namespace ServiceApi

/-- A transformer registered for the class `source`. -/
structure Serializer where
  source : String
  transformer : String
  deriving DecidableEq

/-- The serialization rules of an API, in the order of registration. -/
structure SerializationRules where
  serializers : List Serializer := []
  deriving DecidableEq

/-- A transformer in use for one type. -/
structure BoundTransformer where
  name : String
  boundType : TypeExpr
  shape : ConstructorShape
  /-- The target type, with the variables of the source bound. -/
  serializedType : TypeExpr
  resource : Option ResourceSchema
  deriving DecidableEq

namespace SerializationRules

/-- Registers a transformer for its source class, in place of an earlier one for that class. -/
def add (rules : SerializationRules) (c : Catalog) (transformer : String) :
    Except ApiError SerializationRules := do
  let decl ← c.requireTransformer transformer "serialization config"
  match decl.source.rawName? with
  | none =>
    throw (.unsupportedType ("transformer " ++ transformer) decl.source .transformerSource)
  | some source =>
    return ⟨rules.serializers.filter (·.source != source) ++ [⟨source, decl.name⟩]⟩

def find? (rules : SerializationRules) (t : TypeExpr) : Option Serializer :=
  t.rawName?.bind fun name => rules.serializers.find? (·.source == name)

end SerializationRules

namespace Catalog

/-- The transformer that `t` itself carries: its annotation, else its registration. -/
def ownTransformer? (c : Catalog) (rules : SerializationRules) (t : TypeExpr) : Option String :=
  ((c.declOf? t).bind (·.transformer)).or ((rules.find? t).map (·.transformer))

/-- Goes through ancestors, most specific first, with those that have matched so far. -/
def transformersAlong (c : Catalog) (rules : SerializationRules) :
    List TypeExpr → List TypeExpr → List String
  | _, [] => []
  | found, t :: ts =>
    if found.any (c.isSupertype t) then transformersAlong c rules found ts
    else
      match c.ownTransformer? rules t with
      | some name => name :: transformersAlong c rules (found ++ [t]) ts
      | none => transformersAlong c rules found ts

/-- The names of the transformers that apply to `t`, most specific first. -/
def transformersOf (c : Catalog) (rules : SerializationRules) (t : TypeExpr) : List String :=
  match t with
  | .named .. => c.transformersAlong rules [] (c.supertypes t)
  | _ => []

/-- What the variables among the declared arguments stand for in the actual ones. -/
def matchArguments (declared actual : List TypeExpr) : TypeExpr.Bindings :=
  (declared.zip actual).foldl (fun env (d, a) =>
    match d with
    | .var name => env.insert name a
    | _ => env) .empty

/-- Puts the transformer `name` to use for `t`, by the first constructor shape that it offers. -/
def instantiate (c : Catalog) (name : String) (t : TypeExpr) :
    Except ApiError BoundTransformer := do
  let decl ← c.requireTransformer name t.text
  match decl.source.rawName?.bind (c.asSupertype? t) with
  | none => throw (.sourceMismatch decl.name decl.source t)
  | some view =>
    match ConstructorShape.all.find? decl.constructors.contains with
    | none => throw (.noConstructor decl.name t)
    | some shape => return {
        name := decl.name
        boundType := t
        shape := shape
        serializedType := decl.target.substitute (matchArguments decl.source.args view.args)
        resource := decl.resource }

def primaryTransformer (c : Catalog) (rules : SerializationRules) (t : TypeExpr) :
    Except ApiError (Option BoundTransformer) :=
  match c.transformersOf rules t with
  | [] => .ok none
  | name :: _ => (c.instantiate name t).map some

/-- The type that `t` becomes under a transformer. -/
def applyTo (b : Option BoundTransformer) (t : TypeExpr) : TypeExpr :=
  match b with
  | some b => if b.resource.isSome then t else b.serializedType
  | none => t

/-- The type that a schema is built for. -/
def schemaType (c : Catalog) (rules : SerializationRules) (t : TypeExpr) :
    Except ApiError TypeExpr :=
  (c.primaryTransformer rules t).map (applyTo · t)

/-- The schema that the first transformer supplies, if it is a resource transformer. -/
def resourceSchema (c : Catalog) (rules : SerializationRules) (t : TypeExpr) :
    Except ApiError (Option ResourceSchema) :=
  (c.primaryTransformer rules t).map fun b => b.bind (·.resource)

/-- The transformers that apply to the items of `t`; none if `t` is not repeated. -/
def itemTransformersOf (c : Catalog) (rules : SerializationRules) (t : TypeExpr) : List String :=
  (c.arrayItem? t).elim [] (c.transformersOf rules)

end Catalog

end ServiceApi
