import ServiceApi.Config

/-!
# The methods that a service class exposes

The public, non-static methods of the class and its superclasses, up to `Object`, an unknown class
or one that was met before. Of the declarations with one name and one erased signature the most
derived counts. Types are seen through the service class.

Every class is met once, so the walk up takes no more steps than the catalog has classes.
-/

namespace ServiceApi.Catalog

/-- The class that `t` names and its superclasses, with the view that the start has of each;
`visited` are the names before. -/
def classViews (c : Catalog) : Nat → List String → TypeExpr → List (TypeExpr × ClassDecl)
  | 0, _, _ => []
  | fuel + 1, visited, t =>
    match c.declOf? t with
    | none => []
    | some decl =>
      if decl.name == objectName || visited.contains decl.name then []
      else
        (t, decl) ::
          match decl.superclass with
          | none => []
          | some s => classViews c fuel (decl.name :: visited) (s.substitute (c.bindings t))

/-- The methods that one class declares for exposure, as `serviceClass` sees them. -/
def declaredMethods (c : Catalog) (serviceClass : String) (view : TypeExpr) (decl : ClassDecl) :
    List (EndpointMethod × MethodDecl) :=
  let env := c.bindings view
  (decl.methods.filter fun m => m.isPublic && !m.isStatic).map fun m =>
    ({ serviceClass
       declaringClass := decl.name
       name := m.name
       parameterTypes := m.params.map (·.type.substitute env)
       returnType := (m.returnType.filter (!·.isVoid)).map (·.substitute env) }, m)

/-- Keeps the first of the methods with one name and one erased signature. -/
def firstBySignature :
    List (String × List TypeExpr) → List (EndpointMethod × MethodDecl) →
      List (EndpointMethod × MethodDecl)
  | _, [] => []
  | seen, (m, decl) :: rest =>
    let signature := (m.name, m.parameterTypes.map (·.erased))
    if seen.contains signature then firstBySignature seen rest
    else (m, decl) :: firstBySignature (signature :: seen) rest

def endpointMethods (c : Catalog) (serviceClass : String) :
    Except ApiError (List (EndpointMethod × MethodDecl)) := do
  let _ ← c.requireClass serviceClass "endpoint methods"
  let views := c.classViews (c.classes.size + 1) [] (.raw serviceClass)
  return firstBySignature []
    (views.flatMap fun (view, decl) => c.declaredMethods serviceClass view decl)

end ServiceApi.Catalog
