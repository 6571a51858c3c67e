import ServiceApi.Document.Body
import ServiceApi.Document.Fields

/-!
# Schemas in a document

Two dialects of JSON schemas. Discovery gives every schema an `id`, refers to it by that name, and
says of each field whether it is required; OpenAPI refers into its components and lists the required
fields. The schema of any value is written where it is used.
-/

namespace ServiceApi

open Json

inductive Dialect where
  | discovery | openApi
  deriving DecidableEq

namespace Dialect

/-- Where the definition of the schema `name` is. -/
def pointer (d : Dialect) (name : String) : String :=
  match d with
  | discovery => name
  | openApi => "#/components/schemas/" ++ name

def reference (d : Dialect) (name : String) : List (String × Json) :=
  [("$ref", .str (d.pointer name))]

/-- The schema of any value. -/
def untyped : Dialect → List (String × Json)
  | discovery => [("type", .str "any")]
  | openApi => []

def scalar (d : Dialect) (t : FieldType) : List (String × Json) :=
  let (type, format) := match d with
    | discovery => t.discovery
    | openApi => t.openApi
  ("type", .str type) :: (format.elim [] fun f => [("format", .str f)])

/-- A use of the schema `s`. -/
def use (d : Dialect) (s : Schema) : List (String × Json) :=
  if s.isAny then d.untyped else d.reference s.name

end Dialect

namespace FieldShape

def fields (d : Dialect) (repo : Repository) :
    FieldShape → Except ApiError (List (String × Json))
  | scalar t => .ok (d.scalar t)
  | object target | enum target => do return d.use (← repo.resolve target).schema
  | array item => do return [("type", .str "array"), ("items", .obj (← fields d repo item))]

end FieldShape

def Field.toJson (d : Dialect) (repo : Repository) (f : Field) : Except ApiError Json := do
  let shape ← f.shape.fields d repo
  return .obj (shape ++ textField "description" f.description
    ++ flagField "required" (d = .discovery && f.required = some true))

namespace Schema

/-- The properties and, in OpenAPI, which of them are required. An object without properties may
have any. -/
def objectFields (d : Dialect) (repo : Repository) (s : Schema) :
    Except ApiError (List (String × Json)) := do
  if s.fields.isEmpty then
    return flagField "additionalProperties" (d = .openApi)
  let properties ← s.fields.mapM fun f => do return (f.name, ← f.toJson d repo)
  let required := (s.fields.filter (·.required = some true)).map (·.name)
  return ("properties", objOf properties) ::
    (if d = .openApi && !required.isEmpty then [("required", strs required)] else [])

def enumFields (d : Dialect) (s : Schema) : List (String × Json) :=
  if s.isEnum then
    ("enum", strs s.enumValues) ::
      (if d = .discovery then [("enumDescriptions", strs s.enumDescriptions)] else [])
  else []

def toJson (d : Dialect) (repo : Repository) (s : Schema) : Except ApiError Json := do
  if s.isAny then return .obj d.untyped
  let own ← if s.kind = .object then s.objectFields d repo else pure []
  return .obj ((if d = .discovery then [("id", .str s.name)] else [])
    ++ [("type", .str s.kind.name)] ++ textField "description" s.description
    ++ s.enumFields d ++ own)

end Schema

/-- The definitions of all schemas that the API uses. -/
def Repository.definitionsJson (repo : Repository) (d : Dialect) (key : ApiKey) :
    Except ApiError Json := do
  let entries ← (repo.definitions key).mapM fun s => do return (s.name, ← s.toJson d repo)
  return objOf entries

end ServiceApi
