import ServiceApi.Catalog.Ancestry
import ServiceApi.FieldType

/-!
# Classifying types

Whether a type is repeated, an enumeration, a map, any object at all, or supplied by the framework,
and as which field type its values travel. Type variables and wildcards are nothing of the kind.
-/

namespace ServiceApi

/-- Exactly `Object`, not a subtype. -/
def TypeExpr.isAnyObject (t : TypeExpr) : Bool := t == .raw Catalog.objectName

namespace Catalog

/-- What the items of a raw collection are: its unbound type variable. -/
def collectionItemVariable (c : Catalog) : TypeExpr :=
  .var (((c.class? collectionName).bind (·.typeParams.head?)).getD "E")

/-- The item type of an array or a collection. An array of bytes is one opaque value. -/
def arrayItem? (c : Catalog) (t : TypeExpr) : Option TypeExpr :=
  match t with
  | .array item => if item = .primitive .byte then none else some item
  | .named .. =>
    (c.asSupertype? t collectionName).map fun view => view.args.head?.getD c.collectionItemVariable
  | _ => none

def isArray (c : Catalog) (t : TypeExpr) : Bool := (c.arrayItem? t).isSome

def isEnum (c : Catalog) (t : TypeExpr) : Bool :=
  match t.rawName? with
  | none => false
  | some name =>
    if name = enumName then false
    else (c.class? name).any (·.kind == .enumeration) || c.isSubtype t enumName

/-- A map by ancestry, unless it is a generated entity with fields of its own. -/
def isMap (c : Catalog) (t : TypeExpr) : Bool :=
  t.rawName?.isSome && c.isSubtype t mapName && !c.isSubtype t genericDataName

def mapValue? (c : Catalog) (t : TypeExpr) : Option TypeExpr :=
  if c.isMap t then (c.asSupertype? t mapName).bind (·.args[1]?) else none

/-- Supplied by the framework. -/
def isInjected (c : Catalog) (t : TypeExpr) : Bool := injectedNames.any (c.isSubtype t)

def primitiveFieldType? : Primitive → Option FieldType
  | .boolean => some .boolean
  | .byte => some .int8
  | .short => some .int16
  | .int => some .int32
  | .long => some .int64
  | .float => some .float
  | .double => some .double
  | .char => some .string
  | .void => none

/-- The field types of the built-in scalar classes. -/
def scalarFieldType? : String → Option FieldType
  | "String" | "Character" => some .string
  | "Boolean" => some .boolean
  | "Byte" => some .int8
  | "Short" => some .int16
  | "Integer" => some .int32
  | "Long" => some .int64
  | "Float" => some .float
  | "Double" => some .double
  | "Date" | "DateAndTime" => some .dateTime
  | "SimpleDate" => some .date
  | _ => none

/-- The field type of `t`: nothing for `void` and unresolved types. -/
def fieldType? (c : Catalog) (t : TypeExpr) : Option FieldType :=
  match t with
  | .primitive p => primitiveFieldType? p
  | .array item => some (if item = .primitive .byte then .byteString else .array)
  | .var _ | .wildcard | .bounded _ => none
  | .named name _ =>
    match scalarFieldType? name with
    | some ft => some ft
    | none => some (if c.isEnum t then .enum else if c.isArray t then .array else .object)

/-- Values that can travel in a path or a query. -/
def isParameterType (c : Catalog) (t : TypeExpr) : Bool :=
  (c.fieldType? t).any FieldType.isScalar

end Catalog

end ServiceApi
