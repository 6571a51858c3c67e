import ServiceApi.Catalog.Properties
import ServiceApi.Model.Read
import ServiceApi.Node.JsonReader
import ServiceApi.Yaml.Document

/-!
# From a service model to a catalog
-/

namespace ServiceApi

/-- Registers a class under its name, which must not be blank. -/
def Catalog.register (c : Catalog) (decl : ClassDecl) : Except ApiError Catalog :=
  if Text.isAllBlank decl.name then .error (.unknownClass "class registration" "<empty class name>")
  else .ok (c.addClass decl)

namespace ServiceModel

/-- The model's classes and transformers on top of the built-in ones. Every service must be a class
of the catalog. -/
def toCatalog (m : ServiceModel) : Except ApiError Catalog := do
  let c ← m.classes.foldlM Catalog.register .builtin
  let c := m.transformers.foldl Catalog.addTransformer c
  m.services.forM fun name => discard (c.requireClass name "services")
  return c

/-- The model that a JSON value describes. -/
def ofNode? : Node → Option ServiceModel := Node.readJson? read

def ofJson? (text : String) : Option ServiceModel := (Node.ofJson? text).bind ofNode?

def ofYaml? (text : String) : Option ServiceModel :=
  (Yaml.Document.ofText? text).bind (·.read? read)

end ServiceModel

end ServiceApi
