import ServiceApi.Schema
import ServiceApi.Text.Case

/-!
# Names of schemas

The name of a resource schema where a transformer supplies one, `Foo_Bar` for `Foo<Bar>`, and the
item's name with `Collection` after it for a repeated type. A transformer may lead from an item to
ever new types, so naming takes fuel.
-/

namespace ServiceApi.Schema

/-- `parts` joined by underscores after `start`. -/
def joinName (start : String) (parts : List String) : String :=
  String.join (start :: parts.map ("_" ++ ·))

mutual

/-- The name for a type that has been through its transformer. -/
def nameOf (c : Catalog) (rules : SerializationRules) : Nat → TypeExpr → Except ApiError String
  | 0, _ => .error .outOfFuel
  | fuel + 1, t =>
    match c.arrayItem? t with
    | some item => do
      let item ← c.schemaType rules item
      return Text.capitalize ((← nameOf c rules fuel item) ++ "Collection")
    | none =>
      match t with
      | .primitive p => .ok p.name
      | .named name args => do
        match (← c.resourceSchema rules t).bind (·.name) with
        | some resourceName => return resourceName
        | none => return joinName (TypeExpr.simpleName name) (← namesOf c rules fuel args)
      | other => .error (.unsupportedType "schema naming" other .unresolvedName)

def namesOf (c : Catalog) (rules : SerializationRules) :
    Nat → List TypeExpr → Except ApiError (List String)
  | _, [] => .ok []
  | 0, _ :: _ => .error .outOfFuel
  | fuel + 1, t :: ts => do
    let name ← nameOf c rules fuel t
    return name :: (← namesOf c rules fuel ts)

end

end ServiceApi.Schema
