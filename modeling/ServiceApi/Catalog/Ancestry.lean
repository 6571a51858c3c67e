import ServiceApi.Catalog

/-!
# Ancestry

The supertypes of a type, with the type arguments carried along: the type itself first, then
superclasses and interfaces breadth first, so that a more specific type comes before a less specific
one. Types that agree up to their arguments count once.

Only a declared class has supertypes, and each declared class is expanded once, so the queue never
receives more entries than there are superclass and interface clauses in the catalog.
-/

namespace ServiceApi.Catalog

open TypeExpr (Bindings)

/-- The type parameters of a class, bound to the arguments of `t`. A class that is named without
arguments binds nothing. -/
def bindings (c : Catalog) (t : TypeExpr) : Bindings :=
  match c.declOf? t with
  | none => .empty
  | some decl => .ofList (decl.typeParams.zip t.args)

/-- The superclass and the interfaces of `t`, with its type arguments substituted. -/
def directSupertypes (c : Catalog) (t : TypeExpr) : List TypeExpr :=
  match t with
  | .named name _ =>
    match c.class? name with
    | none => []
    | some decl =>
      let env := c.bindings t
      let superclass := match decl.superclass with
        | some s => [s.substitute env]
        | none =>
          if decl.kind = .enumeration then [.named enumName [.raw name]] else []
      superclass ++ decl.interfaces.map (·.substitute env)
  | _ => []

/-- Visits the queue breadth first, skipping what has been seen up to type arguments. -/
def closure (c : Catalog) : Nat → List TypeExpr → List TypeExpr → List TypeExpr
  | 0, _, _ => []
  | _ + 1, _, [] => []
  | fuel + 1, seen, t :: queue =>
    if seen.contains t.erased then closure c fuel seen queue
    else t :: closure c fuel (t.erased :: seen) (queue ++ c.directSupertypes t)

/-- As many visits as the catalog can cause: the start, and every superclass and interface. -/
def visits (c : Catalog) : Nat :=
  (c.classes.values.flatMap (·.interfaces)).length + c.classes.values.length + 2

def supertypes (c : Catalog) (t : TypeExpr) : List TypeExpr := closure c c.visits [] [t]

/-- `t` seen as its ancestor of raw name `name`: `List<Foo>` as `Collection<Foo>`. -/
def asSupertype? (c : Catalog) (t : TypeExpr) (name : String) : Option TypeExpr :=
  (c.supertypes t).find? (·.rawName? == some name)

def isSubtype (c : Catalog) (t : TypeExpr) (name : String) : Bool := (c.asSupertype? t name).isSome

/-- The raw class of `ancestor` is among the ancestors of `t`. -/
def isSupertype (c : Catalog) (ancestor t : TypeExpr) : Bool :=
  match ancestor.rawName? with
  | some name => c.isSubtype t name
  | none => ancestor == t

end ServiceApi.Catalog
