import ServiceApi.Config.Write
import ServiceApi.Document.Parameter
import ServiceApi.Document.SchemaJson

/-!
# The gateway's configuration document

The settings of the API, one entry for each method with everything that the gateway checks and
forwards, and a descriptor with the schemas and what each backend method takes and returns.
-/

namespace ServiceApi.Legacy

open Json

/-- How many seconds the gateway waits for a backend. -/
def backendDeadline : Json := .real "65.0"

def limitRule (r : LimitRule) : Json := .obj [
  ("match", .str r.matchExpr),
  ("qps", .int r.qps),
  ("userQps", .int r.userQps),
  ("daily", .int r.daily),
  ("analyticsId", .str r.analyticsId)]

def frontendLimits (l : FrontendLimits) : Json := .obj [
  ("unregisteredUserQps", .int l.unregisteredUserQps),
  ("unregisteredQps", .int l.unregisteredQps),
  ("unregisteredDaily", .int l.unregisteredDaily),
  ("rules", list limitRule l.rules)]

def issuer (i : Issuer) : Json :=
  .obj [("issuer", .str i.issuer), ("jwksUri", .str i.jwksUri)]

def limitMetric (m : LimitMetric) : Json :=
  .obj [("name", .str m.name), ("displayName", .str m.displayName), ("limit", .int m.limit)]

def header (a : ApiConfig) : List (String × Json) :=
  [("extends", .str "thirdParty.api"), ("abstract", .bool a.isAbstract), ("root", .str a.root),
    ("name", .str a.name)]
  ++ textField "canonicalName" a.canonicalName
  ++ [("version", .str a.version)]
  ++ textField "title" a.title
  ++ textField "description" a.description
  ++ textField "documentation" a.documentationLink
  ++ [("defaultVersion", .bool a.isDefaultVersion),
    ("discovery", .bool a.discoverable),
    ("adapter", .obj [
      ("bns", .str a.backendRoot), ("deadline", backendDeadline), ("type", .str "lily")]),
    ("auth", .obj [
      ("allowCookieAuth", .bool a.cookieAuth.allowCookieAuth),
      ("blockedRegions", strs a.cookieAuth.blockedRegions)]),
    ("frontendLimits", frontendLimits a.frontendLimits),
    ("cacheControl", .obj [
      ("type", a.cacheControl.kind.toJson), ("maxAge", .int a.cacheControl.maxAge)])]
  ++ a.packageNaming.fields
  ++ (if a.issuers.isEmpty then []
    else [("issuers", .obj (a.issuers.entries.map fun (name, i) => (name, issuer i)))])
  ++ (if a.limitMetrics.isEmpty then []
    else [("limitDefinitions", list limitMetric a.limitMetrics)])

def typeName : FieldType → String
  | .string | .enum => "string"
  | .int8 | .int16 | .int32 => "int32"
  | .int64 => "int64"
  | .float => "float"
  | .double => "double"
  | .boolean => "boolean"
  | .byteString => "bytes"
  | .date => "date"
  | .dateTime => "datetime"
  | .object | .array => "object"

def parameter (p : SentParameter) : Json := .obj <|
  [("type", .str (typeName p.fieldType)), ("required", .bool p.required)]
  ++ flagField "repeated" p.repeated
  ++ textField "default" p.defaultValue
  ++ textField "description" p.description
  ++ (if p.enumValues.isEmpty then []
    else [("enum", objOf (p.enumValues.map fun v => (v, .obj [("backendValue", .str v)])))])

/-- The backend method that calls are forwarded to: `Class.method`. -/
def backendMethod (m : MethodScope) : String :=
  TypeExpr.simpleName m.method.endpoint.serviceClass ++ "." ++ m.method.endpoint.name

/-- What the method asks of its callers, and what it is called. -/
def methodHeader (m : MethodScope) : List (String × Json) :=
  [("path", .str m.method.path), ("httpMethod", .str m.method.httpMethod),
    ("authLevel", m.authLevel.toJson), ("scopes", strs m.scopes.toScopes),
    ("audiences", strs m.audiences)]
  ++ (if m.issuerAudiences.isEmpty then [] else [("issuerAudiences", m.issuerAudiences.toJson)])
  ++ [("clientIds", strs m.clientIds)]
  ++ (m.authenticators.elim [] fun v => [("authenticators", strs v)])
  ++ (m.peerAuthenticators.elim [] fun v => [("peerAuthenticators", strs v)])
  ++ flagField "apiKeyRequired" m.apiKeyRequired
  ++ [("rosyMethod", .str (backendMethod m))]
  ++ textField "description" m.method.description
  ++ (if m.method.metricCosts.isEmpty then []
    else [("metricCosts", objOf (m.method.metricCosts.map fun c => (c.name, .int c.cost)))])

/-- A method in the document. -/
structure Entry where
  /-- Under its full name. -/
  method : Json
  /-- What the backend method takes and returns; empty if neither. -/
  descriptor : List (String × Json)

def entry (fuel : Nat) (m : MethodScope) : Compile Entry := do
  let parameters ← Compile.ofExcept m.sentParameters
  let body ← m.requestBody fuel
  let response ← m.responseSchema fuel
  let requestFields := match body with
    | some _ => [("body", .str "autoTemplate(backendRequest)"), ("bodyName", .str "resource")]
    | none => [("body", .str "empty")]
  let parameterFields :=
    if parameters.isEmpty then []
    else [("parameters", objOf (parameters.map fun p => (p.name, parameter p)))]
  let responseFields := match response with
    | some _ => [("body", .str "autoTemplate(backendResponse)"), ("bodyName", .str "resource")]
    | none => [("body", .str "empty")]
  return {
    method := .obj (methodHeader m
      ++ [("request", .obj (requestFields ++ parameterFields)), ("response", .obj responseFields)])
    descriptor :=
      (body.elim [] fun b => [("request", .obj (Dialect.discovery.use b.schema))])
      ++ (response.elim [] fun s => [("response", .obj (Dialect.discovery.use s))]) }

/-- The document of an API whose representative is `a`. -/
def document (fuel : Nat) (a : ApiConfig) (configs : List ApiConfig) : Compile Json := do
  let entries ← (activeMethods configs).mapM fun m => do return (m, ← entry fuel m)
  let schemas ← Compile.ofExcept ((← get).definitionsJson .discovery a.key)
  let described := entries.filter fun (_, e) => !e.descriptor.isEmpty
  return .obj (header a ++ [
    ("methods", objOf (entries.map fun (m, e) => (m.fullName, e.method))),
    ("descriptor", .obj [
      ("schemas", schemas),
      ("methods", objOf (described.map fun (m, e) => (backendMethod m, .obj e.descriptor)))])])

end ServiceApi.Legacy
