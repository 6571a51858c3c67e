import ServiceApi.Schema.Repository

/-!
# Bodies

The schemas that a method takes and returns, and those that a document has to define. What has been
compiled for one part of a document is found again by the next.
-/

namespace ServiceApi

/-- What a method takes as the body of its request. -/
structure RequestBody where
  parameterName : String
  schema : Schema

namespace MethodScope

variable (m : MethodScope)

/-- The first of the parameters that is sent as a body. -/
def resourceAmong : List ParameterConfig → Except ApiError (Option ParameterConfig)
  | [] => .ok none
  | p :: ps => do
    if (← p.classification m.api.catalog m.api.rules) = .resource then return some p
    else resourceAmong ps

def requestBody (fuel : Nat) : Compile (Option RequestBody) := do
  match ← Compile.ofExcept (m.resourceAmong m.method.parameters) with
  | none => return none
  | some p =>
    let type ← Compile.ofExcept (p.baseType m.api.catalog m.api.rules)
    let s ← Repository.getOrAdd fuel type m.api
    return some { parameterName := p.name.getD "resource", schema := s.schema }

def responseSchema (fuel : Nat) : Compile (Option Schema) :=
  match m.method.returnType? with
  | none => return none
  | some t => do return some (← Repository.getOrAdd fuel t m.api).schema

end MethodScope

/-- The schemas that an API uses, by name; the one of any value is written in place. -/
def Repository.definitions (repo : Repository) (key : ApiKey) : List Schema :=
  (((repo.schemasOf key).map (·.schema)).filter (!·.isAny)).mergeSort fun a b => a.name ≤ b.name

end ServiceApi
