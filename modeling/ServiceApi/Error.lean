import ServiceApi.Generation.Stage
import ServiceApi.Json.Printer
import ServiceApi.Model.Declaration
import ServiceApi.TypeExpr.Parser
import ServiceApi.TypeExpr.Printer
import ServiceApi.Url

/-!
# What can go wrong

The causes for which an API, or one of its methods, is refused, and their wording. `outOfFuel` is no
verdict: it says that a computation was cut short, which happens to types that expand without end.
-/

namespace ServiceApi

/-- A setting on which two configurations of one API differ. -/
structure Inconsistency where
  property : String
  value₁ : Json
  value₂ : Json

def Inconsistency.text (i : Inconsistency) : String :=
  s!"{i.property} (" ++ i.value₁.compact ++ " != " ++ i.value₂.compact ++ ")"

/-- Why a type is of no use where it was met. -/
inductive Unsupported where
  | notAClass
  | unresolvedProperty (owner : TypeExpr)
  | transformerSource
  | unresolvedOrVoid
  | scalarResource
  | notRepeated
  | unresolvedName
  | unresolvedParameter

def Unsupported.message : Unsupported → String
  | notAClass => "only classes have bean properties"
  | unresolvedProperty owner => s!"cannot resolve type variables of property through '{owner}'"
  | transformerSource => "transformer source must be a class"
  | unresolvedOrVoid => "type is unresolved or void"
  | scalarResource => "scalar types cannot be used as resources"
  | notRepeated => "not a repeated type"
  | unresolvedName => "type is unresolved"
  | unresolvedParameter => "parameter type is unresolved"

/-- Why a return type cannot be the body of a response. -/
inductive InvalidReturn where
  | unresolved | notRepeated | unresolvedItem | nested | scalar

def InvalidReturn.message : InvalidReturn → String
  | unresolved => "type is unresolved"
  | notRepeated => "not a repeated type"
  | unresolvedItem => "item type is unresolved"
  | nested => "collections of collections cannot be returned"
  | scalar => "scalar and enum types cannot be returned; wrap them in an entity"

/-- Why the type of a parameter cannot be the body of a request. -/
inductive InvalidResource where
  | collection | scalar

def InvalidResource.message : InvalidResource → String
  | collection => "collections cannot be used as the request resource"
  | scalar => "scalar and enum types cannot be used as the request resource"

/-- Which promise a schema repository failed to keep. -/
inductive IntegrityFault where
  | missing | dangling | placeholder

def IntegrityFault.message : IntegrityFault → String
  | missing => "schema missing after construction"
  | dangling => "dangling schema reference"
  | placeholder => "placeholder schema reached a caller"

inductive RenderFault where
  | noConfigs
  | invalidRoot (root : String) (error : Url.ParseError)
  | invalidPath (error : Url.ParseError)

def RenderFault.message : RenderFault → String
  | noConfigs => "no configs to render"
  | invalidRoot root error => s!"invalid root '{root}': " ++ error.message
  | invalidPath error => error.message

inductive ApiError where
  | duplicateAnnotationSource (source : String)
  | unknownClass (location name : String)
  | unknownTransformer (location name : String)
  | invalidTypeExpression (input : String) (reason : TypeExpr.SyntaxError)
  | unsupportedType (location : String) (type : TypeExpr) (reason : Unsupported)
  | noConstructor (transformer : String) (type : TypeExpr)
  | sourceMismatch (transformer : String) (source type : TypeExpr)
  | invalidDefault (method parameter value : String) (type : TypeExpr)
  | missingParameterName (method : String) (index : Nat) (type : TypeExpr)
  | multipleResources (method : String) (count : Nat)
  | invalidParameterType (method parameter : String) (type : TypeExpr) (reason : InvalidResource)
  | unresolvedParameterType (method parameter : String) (type : TypeExpr)
  | nestedCollection (method parameter : String) (type : TypeExpr)
  | invalidReturnType (method : String) (type : TypeExpr) (reason : InvalidReturn)
  | propertyParameterConflict (method name : String)
  | pathParameterNotFound (method path name : String)
  | invalidApiName (name : String)
  | invalidMethodName (method name : String)
  | invalidHttpMethod (method value : String)
  | duplicateMethodName (name first second : String)
  | duplicateRestPath (httpMethod path first second : String)
  | inconsistentConfigs (api : String) (inconsistencies : List Inconsistency)
  | repositoryIntegrity (type : TypeExpr) (fault : IntegrityFault)
  | invalidTransition (api : String) (current : Option Stage) (target : Stage)
  | sourceFailed (source message : String)
  | render (format api : String) (fault : RenderFault)
  | outOfFuel

namespace ApiError

/-- Lower-case letters, then letters and digits. -/
def apiNamePattern : String := "^[a-z]+[A-Za-z0-9]*$"

/-- Words between dots. -/
def methodNamePattern : String := "^\\w+(\\.\\w+)*$"

def message : ApiError → String
  | duplicateAnnotationSource source =>
    s!"only one annotation config source may be registered, found a second: {source}"
  | unknownClass location name => s!"{location}: unknown class '{name}'"
  | unknownTransformer location name => s!"{location}: unknown transformer '{name}'"
  | invalidTypeExpression input reason =>
    s!"invalid type expression '{input}': " ++ reason.message
  | unsupportedType location type reason =>
    s!"{location}: unsupported type '{type}': " ++ reason.message
  | noConstructor transformer type =>
    s!"transformer '{transformer}' cannot be instantiated for type '{type}': " ++
      "no constructor among [" ++ ", ".intercalate (ConstructorShape.all.map (·.text)) ++ "]"
  | sourceMismatch transformer source type =>
    s!"transformer '{transformer}' handles '{source}', which is not a supertype of '{type}'"
  | invalidDefault method parameter value type =>
    s!"{method}: default value '{value}' of parameter '{parameter}' is not a valid {type}"
  | missingParameterName method index type =>
    s!"{method}: parameter #{index} of type '{type}' is an API parameter but has no name"
  | multipleResources method count =>
    s!"{method}: only one resource parameter is allowed, found {count}"
  | invalidParameterType method parameter type reason =>
    s!"{method}: parameter '{parameter}' has invalid type '{type}': " ++ reason.message
  | unresolvedParameterType method parameter type =>
    s!"{method}: parameter '{parameter}' has unresolved type '{type}'"
  | nestedCollection method parameter type =>
    s!"{method}: parameter '{parameter}' of type '{type}' is a collection of collections"
  | invalidReturnType method type reason =>
    s!"{method}: invalid return type '{type}': " ++ reason.message
  | propertyParameterConflict method name =>
    s!"{method}: resource property '{name}' conflicts with an API parameter of the same name"
  | pathParameterNotFound method path name =>
    s!"{method}: path '{path}' references '\x7b{name}\x7d' but no API parameter has that name"
  | invalidApiName name => s!"invalid API name '{name}': must match " ++ apiNamePattern
  | invalidMethodName method name =>
    s!"{method}: invalid method name '{name}': must match " ++ methodNamePattern
  | invalidHttpMethod method value => s!"{method}: invalid HTTP method '{value}'"
  | duplicateMethodName name first second =>
    s!"method name '{name}' is used by both {first} and {second}"
  | duplicateRestPath httpMethod path first second =>
    s!"{httpMethod} {path} is mapped by both {first} and {second}"
  | inconsistentConfigs api inconsistencies =>
    s!"{api}: inconsistent API-wide configuration: " ++
      "; ".intercalate (inconsistencies.map (·.text))
  | repositoryIntegrity type fault =>
    s!"schema repository integrity violation for '{type}': " ++ fault.message
  | invalidTransition api current target =>
    s!"{api}: cannot move from " ++ current.elim "<unknown api>" Stage.name ++ " to " ++ target.name
  | sourceFailed source message => s!"config source '{source}' failed: {message}"
  | render format api fault =>
    s!"failed to render {format} document for {api}: " ++ fault.message
  | outOfFuel => "the type expands without end"

end ApiError

end ServiceApi
