import ServiceApi.Catalog.Ancestry
import ServiceApi.Error

/-!
# Bean properties

The serializable properties of a class: those of its superclasses first, a subclass replacing what
it declares again under the same serialized name, with the type variables of each owner substituted.

The superclass chain ends at `Object`, at a class without superclass and at a type seen before. A
class may extend itself with ever larger arguments, so following the chain takes fuel.
-/

namespace ServiceApi

/-- A property with its serialized name and its type in the view of the class it is read through. -/
structure ResolvedProperty where
  name : String
  type : TypeExpr
  description : Option String
  required : Option Bool
  deriving DecidableEq

namespace Catalog

def requireClass (c : Catalog) (name location : String) : Except ApiError ClassDecl :=
  match c.class? name with
  | some decl => .ok decl
  | none => .error (.unknownClass location name)

-- Inlined, so that the location is put together for the error only.
@[inline] def requireTransformer (c : Catalog) (name location : String) :
    Except ApiError TransformerDecl :=
  match c.transformer? name with
  | some decl => .ok decl
  | none => .error (.unknownTransformer location name)

/-- The superclass of `t` in the view of `t`. -/
def superclass? (c : Catalog) (t : TypeExpr) : Option TypeExpr :=
  ((c.declOf? t).bind (·.superclass)).map (·.substitute (c.bindings t))

/-- `t` and its superclasses, most derived first; `visited` are the types before `t`. -/
def superclassChain (c : Catalog) : Nat → List TypeExpr → TypeExpr → Except ApiError (List TypeExpr)
  | 0, _, _ => .error .outOfFuel
  | fuel + 1, visited, t =>
    match c.superclass? t with
    | none => .ok [t]
    | some next =>
      if next.rawName? == some objectName || (t :: visited).contains next then .ok [t]
      else do return t :: (← superclassChain c fuel (t :: visited) next)

def resolveProperty (owner : TypeExpr) (decl : ClassDecl) (env : TypeExpr.Bindings)
    (p : PropertyDecl) : Except ApiError ResolvedProperty :=
  let type := p.type.substitute env
  if type.isUnresolved then
    .error (.unsupportedType (decl.name ++ "." ++ p.name) type (.unresolvedProperty owner))
  else .ok {
    name := p.serializedName
    type
    description := p.api.bind (·.description)
    required := p.api.bind (·.required) }

/-- The visible properties that one type of the chain declares. -/
def ownProperties (c : Catalog) (owner : TypeExpr) : Except ApiError (List ResolvedProperty) :=
  match c.declOf? owner with
  | none => .ok []
  | some decl =>
    (decl.properties.filter (·.isVisible)).mapM (resolveProperty owner decl (c.bindings owner))

def properties (c : Catalog) (fuel : Nat) (t : TypeExpr) :
    Except ApiError (List ResolvedProperty) :=
  match t.rawName? with
  | none => .error (.unsupportedType t.text t .notAClass)
  | some name => do
    let _ ← c.requireClass name t.text
    let chain ← c.superclassChain fuel [] t
    let declared ← chain.reverse.mapM c.ownProperties
    let merged := declared.flatten.foldl (fun m p => m.insert p.name p)
      (OrderedMap.empty : OrderedMap String ResolvedProperty)
    return merged.values

end Catalog

end ServiceApi
