/-!
# Field types

How a value of a type travels: as which scalar, or as an object or an array. Discovery documents and
OpenAPI documents name a field type by a type and an optional format; they differ on 64-bit
integers, which Discovery sends as strings.
-/

namespace ServiceApi

inductive FieldType where
  | string | int8 | int16 | int32 | int64 | float | double | date | dateTime | boolean
  | byteString | enum | object | array
  deriving DecidableEq

namespace FieldType

def name : FieldType → String
  | string => "STRING"
  | int8 => "INT8"
  | int16 => "INT16"
  | int32 => "INT32"
  | int64 => "INT64"
  | float => "FLOAT"
  | double => "DOUBLE"
  | date => "DATE"
  | dateTime => "DATE_TIME"
  | boolean => "BOOLEAN"
  | byteString => "BYTE_STRING"
  | enum => "ENUM"
  | object => "OBJECT"
  | array => "ARRAY"

/-- It fits in a path or a query string. -/
def isScalar (t : FieldType) : Bool := t != object && t != array

def discovery : FieldType → String × Option String
  | string | enum => ("string", none)
  | int8 | int16 | int32 => ("integer", some "int32")
  | int64 => ("string", some "int64")
  | float => ("number", some "float")
  | double => ("number", some "double")
  | boolean => ("boolean", none)
  | byteString => ("string", some "byte")
  | date => ("string", some "date")
  | dateTime => ("string", some "date-time")
  | object => ("object", none)
  | array => ("array", none)

def openApi : FieldType → String × Option String
  | int64 => ("integer", some "int64")
  | t => t.discovery

end FieldType

end ServiceApi
