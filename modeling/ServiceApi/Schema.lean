import ServiceApi.Serialization

/-!
# Schemas

The compiled form of a type. Fields hold references instead of schemas, so a class may refer to
itself, or to a schema that is still being built.
-/

namespace ServiceApi

inductive SchemaKind where
  | object
  /-- A string, which an enumeration limits to its constants. -/
  | string
  /-- Any value. -/
  | any
  deriving DecidableEq

def SchemaKind.name : SchemaKind → String
  | object => "object"
  | string => "string"
  | any => "any"

/-- What a schema is kept under: the serialization rules and the type after its transformer. -/
structure SchemaKey where
  rules : SerializationRules
  type : TypeExpr
  deriving DecidableEq

/-- What values a field holds. -/
inductive FieldShape where
  | scalar (type : FieldType)
  | object (target : SchemaKey)
  | enum (target : SchemaKey)
  | array (item : FieldShape)
  deriving DecidableEq

namespace FieldShape

def type : FieldShape → FieldType
  | scalar t => t
  | object _ => .object
  | enum _ => .enum
  | array _ => .array

/-- The schema referred to, under any number of arrays. -/
def target? : FieldShape → Option SchemaKey
  | scalar _ => none
  | object key | enum key => some key
  | array item => item.target?

end FieldShape

structure Field where
  name : String
  shape : FieldShape
  description : Option String := none
  required : Option Bool := none
  deriving DecidableEq

structure Schema where
  name : String
  kind : SchemaKind := .object
  /-- In ascending order of their names, which differ. -/
  fields : List Field := []
  enumValues : List String := []
  description : Option String := none
  deriving DecidableEq

namespace Schema

/-- The schema of any value. -/
def anyValue : Schema := { name := "_any", kind := .any }

/-- The schema of all maps. -/
def anyMap : Schema := { name := "JsonMap" }

def isAny (s : Schema) : Bool := s.kind == .any

def isEnum (s : Schema) : Bool := !s.enumValues.isEmpty

/-- An empty description for each constant. -/
def enumDescriptions (s : Schema) : List String := s.enumValues.map fun _ => ""

/-- Inserts a field at its place, instead of one of that name. -/
def insertField (f : Field) : List Field → List Field
  | [] => [f]
  | g :: gs =>
    if f.name < g.name then f :: g :: gs
    else if f.name = g.name then f :: gs
    else g :: insertField f gs

def withField (s : Schema) (f : Field) : Schema := { s with fields := insertField f s.fields }

/-- The schemas that the fields refer to, in the order of the fields. -/
def targets (s : Schema) : List SchemaKey := s.fields.filterMap (·.shape.target?)

end Schema

end ServiceApi
