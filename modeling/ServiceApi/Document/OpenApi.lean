import ServiceApi.Config.Write
import ServiceApi.Document.Address
import ServiceApi.Document.Parameter
import ServiceApi.Document.SchemaJson
import ServiceApi.Text.Case

/-!
# The OpenAPI document

Operations by path and verb, schemas as components, and one server.
-/

namespace ServiceApi.OpenApi

open Json

def formatName : String := "openapi"

/-- The name of the security scheme for API keys. -/
def apiKeyScheme : String := "api_key"

/-- `{root}/{name}/{version}` as an absolute URL. -/
def serverUrl (a : ApiConfig) : Except ApiError Url := do
  a.urlBelow formatName (← a.rootUrl formatName) (a.name ++ "/" ++ a.version)

def parameter (p : SentParameter) : Json :=
  let value := .obj <|
    Dialect.openApi.scalar p.fieldType
    ++ (if p.enumValues.isEmpty then [] else [("enum", strs p.enumValues)])
    ++ textField "default" p.defaultValue
  let schema := if p.repeated then .obj [("type", .str "array"), ("items", value)] else value
  .obj <|
    [("name", .str p.name), ("in", .str p.location.name)]
    ++ textField "description" p.description
    ++ [("required", .bool p.required), ("schema", schema)]

/-- A body that the schema `s` describes. -/
def content (s : Schema) : String × Json :=
  ("content", .obj [("application/json", .obj [("schema", .obj (Dialect.openApi.use s))])])

def responses (m : MethodScope) (response : Option Schema) : Json :=
  .obj [(toString m.method.responseStatus, .obj <|
    ("description", .str "A successful response") :: (response.elim [] fun s => [content s]))]

/-- API, version and method in one word. -/
def operationId (m : MethodScope) : String :=
  String.join ([m.api.name, m.api.version, m.method.endpoint.name].map Text.capitalize)

def operation (fuel : Nat) (m : MethodScope) : Compile Json := do
  let parameters ← Compile.ofExcept m.sentParameters
  let body ← m.requestBody fuel
  let response ← m.responseSchema fuel
  return .obj <|
    [("operationId", .str (operationId m))]
    ++ textField "description" m.method.description
    ++ (if parameters.isEmpty then [] else [("parameters", list parameter parameters)])
    ++ (body.elim [] fun b => [("requestBody", .obj [content b.schema])])
    ++ [("responses", responses m response)]
    ++ (if m.apiKeyRequired then [("security", .arr [.obj [(apiKeyScheme, .arr [])]])] else [])

/-- Sets an operation under its path and verb. -/
def addOperation (paths : List (String × Json)) (m : MethodScope) (operation : Json) :
    List (String × Json) :=
  let path := "/" ++ m.method.path
  let verb := String.ofList (m.method.httpMethod.toList.map Char.toLower)
  let item := ((paths.lookup path).getD (.obj [])).fields
  setField path (.obj (setField verb operation item)) paths

def info (a : ApiConfig) : Json := .obj <|
  [("title", .str (a.title.getD a.name)), ("version", .str a.version)]
  ++ textField "description" a.description

def securitySchemes : Json := .obj [(apiKeyScheme, .obj [
  ("type", .str "apiKey"), ("name", .str "key"), ("in", .str "query")])]

/-- The document of an API whose representative is `a`. -/
def document (fuel : Nat) (a : ApiConfig) (configs : List ApiConfig) : Compile Json := do
  let ms := activeMethods configs
  let operations ← ms.mapM fun m => do return (m, ← operation fuel m)
  let paths := operations.foldl (fun paths (m, op) => addOperation paths m op) []
  let schemas ← Compile.ofExcept ((← get).definitionsJson .openApi a.key)
  let server ← Compile.ofExcept (serverUrl a)
  let components := ("schemas", schemas) ::
    (if ms.any (·.apiKeyRequired) then [("securitySchemes", securitySchemes)] else [])
  return .obj [
    ("openapi", .str "3.1.0"),
    ("info", info a),
    ("servers", .arr [.obj [("url", .str server.text)]]),
    ("paths", .obj paths),
    ("components", .obj components)]

end ServiceApi.OpenApi
