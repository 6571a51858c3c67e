import ServiceApi.Config.Write
import ServiceApi.Document.Address
import ServiceApi.Document.Parameter
import ServiceApi.Document.ResourceTree
import ServiceApi.Document.SchemaJson
import ServiceApi.Sha256

/-!
# The Discovery document

A REST description for client libraries. Methods are nested in resources by the dots of their names.
The etag is the SHA-256 digest of the rest of the document.
-/

namespace ServiceApi.Discovery

open Json

def formatName : String := "discovery"

def queryString (description : String) : Json := .obj [
  ("type", .str "string"), ("description", .str description), ("location", .str "query")]

/-- The parameters that every method takes. -/
def standardParameters : Json := .obj [
  ("alt", .obj [
    ("type", .str "string"),
    ("description", .str "Data format for the response."),
    ("default", .str "json"),
    ("enum", strs ["json"]),
    ("enumDescriptions", strs ["Responses with Content-Type of application/json"]),
    ("location", .str "query")]),
  ("fields",
    queryString "Selector specifying which fields to include in a partial response."),
  ("key", queryString "API key. Required unless you provide an OAuth 2.0 token."),
  ("oauth_token", queryString "OAuth 2.0 token for the current user."),
  ("prettyPrint", .obj [
    ("type", .str "boolean"),
    ("description", .str "Returns response with indentations and line breaks."),
    ("default", .str "true"),
    ("location", .str "query")]),
  ("quotaUser", queryString "An opaque string that represents a user for quota purposes."),
  ("userIp", queryString "Deprecated. Please use quotaUser instead.")]

def header (a : ApiConfig) : Except ApiError (List (String × Json)) := do
  let root ← a.rootUrl formatName
  let servicePath := a.name ++ "/" ++ a.version ++ "/"
  let base ← a.urlBelow formatName root servicePath
  return [("discoveryVersion", .str "v1"), ("id", .str (a.name ++ ":" ++ a.version)),
      ("name", .str a.name), ("version", .str a.version)]
    ++ textField "title" a.title
    ++ [("description", .str (a.description.getD "This is an API"))]
    ++ a.packageNaming.fields
    ++ textField "documentationLink" a.documentationLink
    ++ [("protocol", .str "rest"), ("baseUrl", .str base.text), ("basePath", .str base.path),
      ("rootUrl", .str root.text), ("servicePath", .str servicePath), ("batchPath", .str "batch"),
      ("parameters", standardParameters)]

def parameter (p : SentParameter) : Json := .obj <|
  Dialect.discovery.scalar p.fieldType
  ++ textField "description" p.description
  ++ textField "default" p.defaultValue
  ++ (if p.enumValues.isEmpty then []
    else [("enum", strs p.enumValues), ("enumDescriptions", strs (p.enumValues.map fun _ => ""))])
  ++ [("location", .str p.location.name)]
  ++ flagField "required" p.required
  ++ flagField "repeated" p.repeated

def parameterFields (ps : List SentParameter) : List (String × Json) :=
  if ps.isEmpty then []
  else
    let order := (ps.filter (·.required)).map (·.name)
    ("parameters", objOf (ps.map fun p => (p.name, parameter p))) ::
      (if order.isEmpty then [] else [("parameterOrder", strs order)])

def method (fuel : Nat) (m : MethodScope) : Compile Json := do
  let parameters ← Compile.ofExcept m.sentParameters
  let body ← m.requestBody fuel
  let response ← m.responseSchema fuel
  let scopes := m.scopes.allScopes
  return .obj <|
    [("id", .str m.fullName), ("path", .str m.method.path),
      ("httpMethod", .str m.method.httpMethod)]
    ++ textField "description" m.method.description
    ++ parameterFields parameters
    ++ (body.elim [] fun b =>
      [("request", .obj (Dialect.discovery.use b.schema
        ++ [("parameterName", .str b.parameterName)]))])
    ++ (response.elim [] fun s => [("response", .obj (Dialect.discovery.use s))])
    ++ (if scopes.isEmpty then [] else [("scopes", strs scopes)])

/-- The scopes of all methods, which describe themselves. -/
def authFields (ms : List MethodScope) : List (String × Json) :=
  let scopes := ScopeExpression.sortedScopes (ms.flatMap (·.scopes.allScopes))
  if scopes.isEmpty then []
  else
    let described := scopes.map fun s => (s, Json.obj [("description", .str s)])
    [("auth", .obj [("oauth2", .obj [("scopes", .obj described)])])]

/-- The methods in their resources. -/
def tree (methods : List (MethodScope × Json)) : ResourceTree :=
  methods.foldl (fun t (m, json) => t.insertAt (Text.pieces '.' m.method.name) json) .empty

/-- The document of an API whose representative is `a`, without its kind and etag. -/
def body (fuel : Nat) (a : ApiConfig) (configs : List ApiConfig) :
    Compile (List (String × Json)) := do
  let header ← Compile.ofExcept (header a)
  let ms := activeMethods configs
  let methods ← ms.mapM fun m => do return (m, ← method fuel m)
  let schemas ← Compile.ofExcept ((← get).definitionsJson .discovery a.key)
  return header ++ authFields ms ++ [("schemas", schemas)] ++ (tree methods).fields

/-- The quoted digest of the compact text. -/
def etag (body : List (String × Json)) : String :=
  "\"" ++ Sha256.hex (Json.obj body).compact ++ "\""

def document (fuel : Nat) (a : ApiConfig) (configs : List ApiConfig) : Compile Json := do
  let body ← body fuel a configs
  return .obj <|
    [("kind", .str "discovery#restDescription"), ("etag", .str (etag body))] ++ body

end ServiceApi.Discovery
