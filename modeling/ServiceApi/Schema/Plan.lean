import ServiceApi.Schema.Name

/-!
# Plans of schemas

How the schema of a type is put together: which other schemas have to be there, in the order in
which they are asked for, and what comes out in the end. This follows from the catalog and the key
alone, whatever has been compiled before.

A type may be repeated without end, so plans take fuel.
-/

namespace ServiceApi

/-- Asks for the schemas of `needs`, one after the other, and then comes to `outcome`. -/
structure Plan (α : Type) where
  needs : List SchemaKey
  outcome : Except ApiError α

namespace Plan

/-- A failure ends the asking. -/
instance : Monad Plan where
  pure a := ⟨[], .ok a⟩
  bind p f :=
    match p.outcome with
    | .ok a =>
      let rest := f a
      ⟨p.needs ++ rest.needs, rest.outcome⟩
    | .error e => ⟨p.needs, .error e⟩

def need (key : SchemaKey) : Plan Unit := ⟨[key], .ok ()⟩

def fail {α : Type} (e : ApiError) : Plan α := ⟨[], .error e⟩

instance : MonadLift (Except ApiError) Plan := ⟨fun r => ⟨[], r⟩⟩

end Plan

namespace Schema

def ofEnum (c : Catalog) (rules : SerializationRules) (fuel : Nat) (t : TypeExpr) :
    Except ApiError Schema := do
  let decl ← c.requireClass (t.rawName?.getD "") "schema repository"
  return {
    name := ← nameOf c rules fuel t
    kind := .string
    enumValues := decl.enumConstants
    description := decl.description }

/-- The shape of the field `name`, whose declared type is `t`. -/
def shapeOf (c : Catalog) (rules : SerializationRules) (name : String) :
    Nat → TypeExpr → Plan FieldShape
  | 0, _ => .fail .outOfFuel
  | fuel + 1, t => do
    let resolved ← c.schemaType rules t
    let location := s!"field '{name}'"
    match c.fieldType? resolved with
    | none => .fail (.unsupportedType location resolved .unresolvedOrVoid)
    | some .array =>
      match c.arrayItem? resolved with
      | none => .fail (.unsupportedType location resolved .notRepeated)
      | some item => return .array (← shapeOf c rules name fuel item)
    | some .object => do
      .need ⟨rules, resolved⟩
      return .object ⟨rules, resolved⟩
    | some .enum => do
      .need ⟨rules, resolved⟩
      return .enum ⟨rules, resolved⟩
    | some scalar => return .scalar scalar

def fieldsOf (c : Catalog) (rules : SerializationRules) (fuel : Nat) :
    List ResolvedProperty → Plan (List Field)
  | [] => return []
  | p :: ps => do
    let shape ← shapeOf c rules p.name fuel p.type
    let fields ← fieldsOf c rules fuel ps
    return ⟨p.name, shape, p.description, p.required⟩ :: fields

/-- An object whose one field holds the items. -/
def ofArray (c : Catalog) (fuel : Nat) (key : SchemaKey) : Plan Schema :=
  match c.arrayItem? key.type with
  | none => .fail (.unsupportedType "schema repository" key.type .notRepeated)
  | some item => do
    let shape ← shapeOf c key.rules "items" fuel item
    let name ← nameOf c key.rules fuel key.type
    return { name, fields := [{ name := "items", shape }] }

/-- The properties of the resource schema, or else of the class. -/
def propertiesOf (c : Catalog) (fuel : Nat) (key : SchemaKey) :
    Except ApiError (List ResolvedProperty) := do
  match ← c.resourceSchema key.rules key.type with
  | some resource => return resource.properties.map fun p => ⟨p.name, p.type, none, none⟩
  | none => c.properties fuel key.type

/-- An object with one field for each property. -/
def ofBean (c : Catalog) (fuel : Nat) (key : SchemaKey) : Plan Schema := do
  let name ← nameOf c key.rules fuel key.type
  let properties ← propertiesOf c fuel key
  let fields ← fieldsOf c key.rules fuel properties
  return {
    name
    fields := fields.foldl (fun fs f => insertField f fs) []
    description := (c.declOf? key.type).bind (·.description) }

end Schema

end ServiceApi
