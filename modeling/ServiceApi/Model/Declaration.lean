import ServiceApi.TypeExpr
import ServiceApi.Model.Annotation

/-!
# Declarations

Classes with their properties and methods, and the transformers that convert between a declared
type and the type it is serialized as.
-/

namespace ServiceApi

inductive ClassKind where
  | plain | interface | enumeration
  deriving DecidableEq

namespace ClassKind

def all : List ClassKind := [plain, interface, enumeration]

def name : ClassKind → String
  | plain => "class"
  | interface => "interface"
  | enumeration => "enum"

end ClassKind

structure PropertyDecl where
  name : String
  type : TypeExpr
  /-- It has a getter. -/
  readable : Bool := true
  /-- It has a setter. -/
  writable : Bool := true
  api : Option PropertyAnnotation := none
  deriving DecidableEq

/-- Neither ignored nor without both getter and setter. -/
def PropertyDecl.isVisible (p : PropertyDecl) : Bool :=
  !((p.api.bind (·.ignored)).getD false) && (p.readable || p.writable)

def PropertyDecl.serializedName (p : PropertyDecl) : String :=
  (p.api.bind (·.name)).getD p.name

structure ParameterDecl where
  type : TypeExpr
  api : ParameterAnnotation := {}
  deriving DecidableEq

structure MethodDecl where
  name : String
  params : List ParameterDecl := []
  /-- Nothing, or `void`, for a method without a return value. -/
  returnType : Option TypeExpr := none
  isPublic : Bool := true
  isStatic : Bool := false
  api : Option MethodAnnotation := none
  deriving DecidableEq

structure ClassDecl where
  name : String := ""
  kind : ClassKind := .plain
  typeParams : List String := []
  superclass : Option TypeExpr := none
  interfaces : List TypeExpr := []
  properties : List PropertyDecl := []
  enumConstants : List String := []
  /-- The transformer annotated on the class itself. -/
  transformer : Option String := none
  description : Option String := none
  api : Option ApiAnnotation := none
  apiClass : Option ClassAnnotation := none
  /-- A class whose API annotations apply to this one too. -/
  apiReference : Option String := none
  methods : List MethodDecl := []
  deriving DecidableEq

/-- The ways in which a transformer can be constructed, in the order in which they are tried. -/
inductive ConstructorShape where
  | typeArgument | rawClass | noArgument
  deriving DecidableEq

namespace ConstructorShape

def all : List ConstructorShape := [typeArgument, rawClass, noArgument]

def name : ConstructorShape → String
  | typeArgument => "type_argument"
  | rawClass => "raw_class"
  | noArgument => "no_arg"

def text : ConstructorShape → String
  | typeArgument => "(Type)"
  | rawClass => "(Class)"
  | noArgument => "()"

end ConstructorShape

structure ResourceProperty where
  name : String
  type : TypeExpr
  deriving DecidableEq

/-- The schema that a resource transformer exposes in place of the properties of the type. -/
structure ResourceSchema where
  name : Option String := none
  properties : List ResourceProperty := []
  deriving DecidableEq

structure TransformerDecl where
  name : String
  source : TypeExpr
  target : TypeExpr
  constructors : List ConstructorShape := [.noArgument]
  resource : Option ResourceSchema := none
  deriving DecidableEq

/-- A service description: its classes, its transformers and the names of the service classes. -/
structure ServiceModel where
  classes : List ClassDecl := []
  transformers : List TransformerDecl := []
  services : List String := []
  deriving DecidableEq

end ServiceApi
