import ServiceApi.Model.Declaration

/-!
# The catalog of classes and transformers

Everything that types are resolved against. A catalog starts with the built-in classes (scalars,
collections, maps and the types that the framework injects), and a later declaration of a name
replaces the earlier one.
-/

namespace ServiceApi

structure Catalog where
  classes : OrderedMap String ClassDecl := .empty
  transformers : OrderedMap String TransformerDecl := .empty

namespace Catalog

def objectName : String := "Object"
def stringName : String := "String"
def enumName : String := "Enum"
def collectionName : String := "Collection"
def mapName : String := "Map"
def jsonMapName : String := "JsonMap"

/-- Supertype of generated client entities: a map by ancestry, but with fields of its own. -/
def genericDataName : String := "GenericData"

/-- Types that the framework supplies when a method is called. -/
def injectedNames : List String := ["HttpRequest", "User", "RequestContext"]

def scalarNames : List String := [
  stringName, "Boolean", "Byte", "Short", "Integer", "Long", "Float", "Double", "Character",
  "Void", "Date", "DateAndTime", "SimpleDate"]

def builtinClasses : List ClassDecl :=
  let object : Option TypeExpr := some (.raw objectName)
  let e : TypeExpr := .var "E"
  [{ name := objectName }] ++
  scalarNames.map (fun name => { name, superclass := object }) ++
  [{ name := enumName, typeParams := ["E"], superclass := object },
   { name := collectionName, kind := .interface, typeParams := ["E"] }] ++
  ["List", "Set"].map (fun name =>
    { name, kind := .interface, typeParams := ["E"], interfaces := [.named collectionName [e]] }) ++
  [("ArrayList", "List"), ("HashSet", "Set")].map (fun (name, interface) =>
    { name, typeParams := ["E"], superclass := object, interfaces := [.named interface [e]] }) ++
  [{ name := mapName, kind := .interface, typeParams := ["K", "V"] },
   { name := "HashMap", typeParams := ["K", "V"], superclass := object,
     interfaces := [.named mapName [.var "K", .var "V"]] },
   { name := jsonMapName,
     superclass := some (.named "HashMap" [.raw stringName, .raw objectName]) },
   { name := genericDataName, superclass := object,
     interfaces := [.named mapName [.raw stringName, .raw objectName]] },
   { name := "GenericJson", superclass := some (.raw genericDataName) }] ++
  injectedNames.map (fun name => { name, kind := .interface })

def addClass (c : Catalog) (decl : ClassDecl) : Catalog :=
  { c with classes := c.classes.insert decl.name decl }

def addTransformer (c : Catalog) (decl : TransformerDecl) : Catalog :=
  { c with transformers := c.transformers.insert decl.name decl }

/-- The built-in classes alone. -/
def builtin : Catalog := builtinClasses.foldl addClass {}

def class? (c : Catalog) (name : String) : Option ClassDecl := c.classes.get? name

def transformer? (c : Catalog) (name : String) : Option TransformerDecl := c.transformers.get? name

/-- The declaration of the class that a type names. -/
def declOf? (c : Catalog) (t : TypeExpr) : Option ClassDecl := t.rawName?.bind c.class?

end Catalog

end ServiceApi
