import ServiceApi.Config.HttpMethod
import ServiceApi.Config.Parameter
import ServiceApi.Config.Path
import ServiceApi.Config.Verb

/-!
# Methods

A method of a service class, and its configuration. The name, the path and the HTTP method follow
from the method's name until something else is said; what is left out falls back to the class.
-/

namespace ServiceApi

/-- A method in the view of the service class that exposes it. -/
structure EndpointMethod where
  serviceClass : String
  /-- The most derived class that declares it. -/
  declaringClass : String
  name : String
  parameterTypes : List TypeExpr := []
  /-- Nothing for a method without a return value. -/
  returnType : Option TypeExpr := none
  deriving DecidableEq

/-- What tells the methods of a service class apart: type arguments do not. -/
structure MethodKey where
  declaringClass : String
  name : String
  parameterTypes : List TypeExpr
  deriving DecidableEq

def MethodKey.text (k : MethodKey) : String :=
  k.declaringClass ++ "." ++ k.name ++
    "(" ++ ", ".intercalate (k.parameterTypes.map (·.text)) ++ ")"

namespace EndpointMethod

def key (m : EndpointMethod) : MethodKey :=
  ⟨m.declaringClass, m.name, m.parameterTypes.map (·.erased)⟩

def qualifiedName (m : EndpointMethod) : String := m.declaringClass ++ "." ++ m.name

end EndpointMethod

structure MethodConfig where
  endpoint : EndpointMethod
  /-- The name within the API. -/
  name : String
  description : Option String := none
  path : String
  httpMethod : String
  /-- The resource that the method's name gives, whatever is configured later. -/
  impliedResource : Option String
  authLevel : Option AuthLevel := none
  scopes : Option ScopeExpression := none
  audiences : Option (List String) := none
  issuerAudiences : Option IssuerAudiences := none
  clientIds : Option (List String) := none
  authenticators : Option (List String) := none
  peerAuthenticators : Option (List String) := none
  apiKeyRequired : Option Bool := none
  ignored : Bool := false
  metricCosts : List MetricCost := []
  parameters : List ParameterConfig := []
  deriving BEq

namespace MethodConfig

/-- The configuration that follows from the method alone. -/
def ofMethod (m : EndpointMethod) : MethodConfig :=
  let verb := Verb.ofMethodName m.name
  let implied := verb.resource? m.name
  { endpoint := m
    name := Text.decapitalize (TypeExpr.simpleName m.serviceClass) ++ "." ++ m.name
    path := implied.getD m.name
    httpMethod := verb.httpMethod
    impliedResource := implied }

def setHttpMethod (m : MethodConfig) (value : String) : Except ApiError MethodConfig :=
  match HttpMethod.parse? value with
  | some method => .ok { m with httpMethod := method }
  | none => .error (.invalidHttpMethod m.endpoint.qualifiedName value)

/-- Sets the return type that a text spells. -/
def setReturnType (m : MethodConfig) (value : Option String) :
    Except ApiError MethodConfig := do
  let returnType ← value.mapM fun s => (TypeExpr.parse s).mapError (.invalidTypeExpression s)
  return { m with endpoint := { m.endpoint with returnType } }

def returnType? (m : MethodConfig) : Option TypeExpr := m.endpoint.returnType.filter (!·.isVoid)

def responseStatus (m : MethodConfig) : Nat := if m.returnType?.isSome then 200 else 204

/-- The path once `p` is a parameter: a required, single API parameter stands in it. -/
def pathWith (m : MethodConfig) (p : ParameterConfig) (c : Catalog) (rules : SerializationRules) :
    Except ApiError String := do
  if !p.isRequired then return m.path
  if (← p.classification c rules) != .apiParameter then return m.path
  if ← p.isRepeated c rules then return m.path
  match p.name with
  | some name => return if Path.mentions m.path name then m.path else Path.extend m.path name
  | none => return m.path

/-- Appends a parameter. -/
def addParameter (m : MethodConfig) (p : ParameterConfig) (c : Catalog)
    (rules : SerializationRules) : Except ApiError MethodConfig := do
  p.checkDefault c rules m.endpoint.qualifiedName
  let path ← m.pathWith p c rules
  return { m with path, parameters := m.parameters ++ [p] }

def pathParameters (m : MethodConfig) : List String := Path.placeholders m.path

end MethodConfig

/-- The methods of a service class in the order of declaration. -/
abbrev MethodConfigs := OrderedMap MethodKey MethodConfig

namespace MethodConfigs

/-- Makes sure that `m` is configured. -/
def ensure (ms : MethodConfigs) (m : EndpointMethod) : MethodConfigs :=
  ms.insertNew m.key (.ofMethod m)

/-- Appends a parameter to the configuration of `m`. The method stays configured where the parameter
is refused. -/
def addParameter (ms : MethodConfigs) (m : EndpointMethod) (p : ParameterConfig) (c : Catalog)
    (rules : SerializationRules) : MethodConfigs × Except ApiError Unit :=
  let ms := ms.ensure m
  match ((ms.get? m.key).getD (.ofMethod m)).addParameter p c rules with
  | .ok config => (ms.insert m.key config, .ok ())
  | .error e => (ms, .error e)

end MethodConfigs

end ServiceApi
