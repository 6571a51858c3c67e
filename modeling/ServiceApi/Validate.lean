import ServiceApi.Config.Agreement
import ServiceApi.Text.WordChars

/-!
# Validation

The checks that the configurations of one API pass before a document is written: they agree on the
API as a whole, names are well formed, method names and paths are unique, and every method has
parameters and a return type that can be sent. Ignored methods are skipped. The first problem found
is the verdict.
-/

namespace ServiceApi.Validate

/-- One or more lower-case letters, then ASCII letters and digits. -/
def isApiName (name : String) : Bool :=
  match name.toList with
  | [] => false
  | c :: cs => c.isLower && cs.all Char.isAlphanum

/-- Words joined by dots. -/
def isMethodName (name : String) : Bool :=
  (Text.piecesOf '.' name.toList).all fun word => !word.isEmpty && word.all Text.isWordChar

/-- Names that a resource property may share with an API parameter. -/
def sharedNames : List String := ["id"]

def returnType (m : MethodScope) (t : TypeExpr) : Except ApiError Unit := do
  let c := m.api.catalog
  let refuse (reason : InvalidReturn) : Except ApiError Unit :=
    .error (.invalidReturnType m.method.endpoint.qualifiedName t reason)
  let resolved ← c.schemaType m.api.rules t
  match c.fieldType? resolved with
  | none => refuse .unresolved
  | some .array =>
    match c.arrayItem? resolved with
    | none => refuse .notRepeated
    | some item =>
      if item.isUnresolved then refuse .unresolvedItem
      else if c.isArray item then refuse .nested
      else return ()
  | some .object => return ()
  | some _ => refuse .scalar

/-- What the parameters of a method are: the names of the API parameters, and the parameters that
are sent as a body. -/
structure Sorted where
  apiNames : List String := []
  resources : List ParameterConfig := []

def sortParameter (m : MethodScope) (sorted : Sorted) (indexed : ParameterConfig × Nat) :
    Except ApiError Sorted := do
  let (p, index) := indexed
  let c := m.api.catalog
  let location := m.method.endpoint.qualifiedName
  match ← p.classification c m.api.rules with
  | .injected => return sorted
  | .unknown => throw (.unresolvedParameterType location p.displayName p.type)
  | .apiParameter =>
    match p.name with
    | none => throw (.missingParameterName location index p.type)
    | some name => return { sorted with apiNames := sorted.apiNames ++ [name] }
  | .resource =>
    match ← p.itemBaseType? c m.api.rules with
    | some item =>
      if c.isArray item then throw (.nestedCollection location p.displayName p.type)
    | none => pure ()
    return { sorted with resources := sorted.resources ++ [p] }

/-- The names of the properties that a request body of type `t` has. -/
def propertyNames (fuel : Nat) (m : MethodScope) (t : TypeExpr) :
    Except ApiError (List String) := do
  let c := m.api.catalog
  if t.isAnyObject || c.isMap t then return []
  match ← c.resourceSchema m.api.rules t with
  | some resource => return resource.properties.map (·.name)
  | none => return (← c.properties fuel t).map (·.name)

def resource (fuel : Nat) (m : MethodScope) (apiNames : List String) (p : ParameterConfig) :
    Except ApiError Unit := do
  let c := m.api.catalog
  let location := m.method.endpoint.qualifiedName
  let base ← p.baseType c m.api.rules
  if c.isArray base then
    throw (.invalidParameterType location p.displayName p.type .collection)
  if (c.fieldType? base).any FieldType.isScalar then
    throw (.invalidParameterType location p.displayName p.type .scalar)
  match (← propertyNames fuel m base).find? fun name =>
      apiNames.contains name && !sharedNames.contains name with
  | some name => throw (.propertyParameterConflict location name)
  | none => return ()

def method (fuel : Nat) (m : MethodScope) : Except ApiError Unit := do
  let location := m.method.endpoint.qualifiedName
  match m.method.returnType? with
  | some t => returnType m t
  | none => pure ()
  let sorted ← m.method.parameters.zipIdx.foldlM (sortParameter m) {}
  if sorted.resources.length > 1 then
    throw (.multipleResources location sorted.resources.length)
  match sorted.resources with
  | p :: _ => resource fuel m sorted.apiNames p
  | [] => pure ()
  match m.method.pathParameters.find? (!sorted.apiNames.contains ·) with
  | some name => throw (.pathParameterNotFound location m.method.path name)
  | none => return ()

/-- What the methods checked so far are called and mapped to, with where each comes from. -/
structure Seen where
  names : List (String × String) := []
  paths : List ((String × String) × String) := []

def uniqueMethod (fuel : Nat) (seen : Seen) (m : MethodScope) : Except ApiError Seen := do
  let location := m.method.endpoint.qualifiedName
  if !isMethodName m.method.name then throw (.invalidMethodName location m.method.name)
  match seen.names.lookup m.fullName with
  | some first => throw (.duplicateMethodName m.fullName first location)
  | none => pure ()
  let signature := (m.method.httpMethod, Path.blanked m.method.path)
  match seen.paths.lookup signature with
  | some first => throw (.duplicateRestPath m.method.httpMethod m.method.path first location)
  | none => pure ()
  method fuel m
  return { names := (m.fullName, location) :: seen.names
           paths := (signature, location) :: seen.paths }

/-- Checks the configurations of one API; none at all are fine. -/
def configs (fuel : Nat) (cs : List ApiConfig) : Except ApiError Unit :=
  match cs with
  | [] => .ok ()
  | first :: others => do
    others.forM fun other => do
      let found := first.inconsistencies other
      if !found.isEmpty then throw (.inconsistentConfigs first.key.text found)
    if first.name != internalApiName && !isApiName first.name then
      throw (.invalidApiName first.name)
    let _ ← (activeMethods cs).foldlM (uniqueMethod fuel) {}
    return ()

end ServiceApi.Validate
