import ServiceApi.Config

/-!
# Parameters in a document

The API parameters of a method as every format shows them: those in the path come first, in the
order of the path, and then those in the query, in the order of declaration.
-/

namespace ServiceApi

/-- Where the value of an API parameter travels. -/
inductive ParameterLocation where
  | path | query
  deriving DecidableEq

def ParameterLocation.name : ParameterLocation → String
  | path => "path"
  | query => "query"

structure SentParameter where
  name : String
  location : ParameterLocation
  required : Bool
  repeated : Bool
  /-- Of a single value, if the parameter is repeated. -/
  fieldType : FieldType
  enumValues : List String
  defaultValue : Option String
  description : Option String
  deriving DecidableEq

namespace MethodScope

variable (m : MethodScope)

def locate (name : String) : ParameterLocation :=
  if m.method.pathParameters.contains name then .path else .query

/-- How `p` is sent; nothing if it is no API parameter, or has no name. -/
def sentParameter? (p : ParameterConfig) : Except ApiError (Option SentParameter) := do
  let c := m.api.catalog
  let rules := m.api.rules
  if (← p.classification c rules) != .apiParameter then return none
  match p.name with
  | none => return none
  | some name =>
    let item ← p.itemBaseType? c rules
    let type ← match item with
      | some type => pure type
      | none => p.baseType c rules
    match c.fieldType? type with
    | none =>
      throw (.unsupportedType m.method.endpoint.qualifiedName type .unresolvedParameter)
    | some fieldType =>
      return some {
        name
        location := m.locate name
        required := m.locate name = .path || p.isRequired
        repeated := item.isSome
        fieldType
        enumValues := if fieldType = .enum then (c.declOf? type).elim [] (·.enumConstants) else []
        defaultValue := p.defaultValue
        description := p.description }

/-- Parameters in the path by the first placeholder of their name, and then the others. -/
def arrange (ps : List SentParameter) : List SentParameter :=
  let place (p : SentParameter) : Nat := m.method.pathParameters.idxOf p.name
  (ps.filter (·.location == .path)).mergeSort (fun p q => place p ≤ place q)
    ++ ps.filter (·.location == .query)

def sentParameters : Except ApiError (List SentParameter) :=
  (m.method.parameters.mapM m.sentParameter?).map fun ps => m.arrange ps.reduceOption

end MethodScope

end ServiceApi
