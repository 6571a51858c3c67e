import ServiceApi.Serialization
import ServiceApi.Text.Numeral

/-!
# Parameters of methods

How a parameter travels follows from its name, its type and the serialization rules: it is supplied
by the framework, sent in the path or the query, or sent as the body of the request.
-/

namespace ServiceApi

inductive Classification where
  /-- Supplied by the framework. -/
  | injected
  /-- Sent in the path or the query: a scalar, an enumeration, or repeated values of such a type. -/
  | apiParameter
  /-- Sent as the body of the request. -/
  | resource
  /-- The type mentions a type variable or a wildcard. -/
  | unknown
  deriving DecidableEq

def Classification.name : Classification → String
  | injected => "INJECTED"
  | apiParameter => "API_PARAMETER"
  | resource => "RESOURCE"
  | unknown => "UNKNOWN"

structure ParameterConfig where
  name : Option String := none
  description : Option String := none
  nullable : Bool := false
  defaultValue : Option String := none
  type : TypeExpr
  /-- Transformers for the type, in place of those that apply to it. -/
  transformers : Option (List String) := none
  /-- Transformers for the items of a repeated type, in place of those that apply to them. -/
  itemTransformers : Option (List String) := none
  deriving DecidableEq

namespace ParameterConfig

/-- Query parameters that the serving infrastructure takes for itself. -/
def standardNames : List String := [
  "alt", "fields", "key", "oauth_token", "prettyPrint", "quotaUser", "userIp", "trace", "callback",
  "access_token", "upload_protocol"]

def displayName (p : ParameterConfig) : String := p.name.getD "<unnamed>"

def isRequired (p : ParameterConfig) : Bool := !p.nullable && p.defaultValue.isNone

variable (p : ParameterConfig) (c : Catalog) (rules : SerializationRules)

/-- `t` under the first of the named transformers. -/
def applyFirst (t : TypeExpr) (transformers : List String) : Except ApiError TypeExpr :=
  match transformers with
  | [] => .ok t
  | name :: _ => do return Catalog.applyTo (some (← c.instantiate name t)) t

def effectiveTransformers : List String := p.transformers.getD (c.transformersOf rules p.type)

/-- The type that the parameter is serialized as. -/
def baseType : Except ApiError TypeExpr := applyFirst c p.type (p.effectiveTransformers c rules)

def isRepeated : Except ApiError Bool := (p.baseType c rules).map c.isArray

def itemType? : Except ApiError (Option TypeExpr) := (p.baseType c rules).map c.arrayItem?

def effectiveItemTransformers : Except ApiError (List String) :=
  match p.itemTransformers with
  | some names => .ok names
  | none => (p.baseType c rules).map (c.itemTransformersOf rules)

/-- The item type of a repeated parameter as it is serialized. -/
def itemBaseType? : Except ApiError (Option TypeExpr) := do
  match ← p.itemType? c rules with
  | none => return none
  | some item => return some (← applyFirst c item (← p.effectiveItemTransformers c rules))

def classification : Except ApiError Classification := do
  if c.isInjected p.type || p.name.any standardNames.contains then return .injected
  if p.type.isUnresolved then return .unknown
  let base ← p.baseType c rules
  if base.isUnresolved then return .unknown
  if c.isParameterType base then return .apiParameter
  match ← p.itemBaseType? c rules with
  | none => return .resource
  | some item =>
    if item.isUnresolved then return .unknown
    else if c.isParameterType item then return .apiParameter
    else return .resource

/-- The type of a single value: of the items if the parameter is repeated. -/
def valueType : Except ApiError TypeExpr := do
  match ← p.itemBaseType? c rules with
  | some item => return item
  | none => p.baseType c rules

/-- The text denotes an integer from `-bound` on and below `bound`. -/
def isIntegerWithin (bound : Int) (text : String) : Bool :=
  (Text.integer? 10 (Text.trim text)).any fun i => -bound ≤ i && i < bound

/-- The text denotes a value of type `t`; a type without a field type takes any text. -/
def isValueOf (t : TypeExpr) (text : String) : Bool :=
  match c.fieldType? t with
  | some .int8 => isIntegerWithin 0x80 text
  | some .int16 => isIntegerWithin 0x8000 text
  | some .int32 => isIntegerWithin 0x80000000 text
  | some .int64 => isIntegerWithin 0x8000000000000000 text
  | some .float | some .double => Text.isFloating (Text.trim text)
  | some .boolean =>
    let word := String.ofList (text.toList.map Char.toLower)
    word == "true" || word == "false"
  | some .enum => (c.declOf? t).any (·.enumConstants.contains text)
  | _ => true

/-- Checks that the default value of an API parameter has the type of the parameter. -/
def checkDefault (method : String) : Except ApiError Unit :=
  match p.defaultValue with
  | none => .ok ()
  | some value => do
    if (← p.classification c rules) != .apiParameter then return ()
    let type ← p.valueType c rules
    if isValueOf c type value then return ()
    else throw (.invalidDefault method p.displayName value type)

end ParameterConfig

end ServiceApi
