import ServiceApi.OrderedMap
import ServiceApi.Text.Pieces

/-!
# Type expressions

The (possibly generic) types that a service talks about: primitives, classes with their type
arguments, arrays, type variables and wildcards. Maps and collections are classes; what a class is
follows from its ancestry, not from its expression.
-/

namespace ServiceApi

inductive Primitive where
  | boolean | byte | short | int | long | float | double | char | void
  deriving DecidableEq

namespace Primitive

def all : List Primitive := [boolean, byte, short, int, long, float, double, char, void]

def name : Primitive → String
  | boolean => "boolean"
  | byte => "byte"
  | short => "short"
  | int => "int"
  | long => "long"
  | float => "float"
  | double => "double"
  | char => "char"
  | void => "void"

def ofName? (s : String) : Option Primitive := all.find? (·.name == s)

theorem ofName?_name (p : Primitive) : ofName? p.name = some p := by
  cases p <;> decide

/-- The class that stands for the primitive where an object is needed. -/
def boxed : Primitive → String
  | boolean => "Boolean"
  | byte => "Byte"
  | short => "Short"
  | int => "Integer"
  | long => "Long"
  | float => "Float"
  | double => "Double"
  | char => "Character"
  | void => "Void"

end Primitive

inductive TypeExpr where
  | primitive (p : Primitive)
  | named (name : String) (args : List TypeExpr)
  | array (item : TypeExpr)
  | var (name : String)
  | wildcard
  /-- A wildcard with an upper bound. -/
  | bounded (upper : TypeExpr)

namespace TypeExpr

/-- A class without type arguments. -/
abbrev raw (name : String) : TypeExpr := .named name []

instance : Inhabited TypeExpr := ⟨.wildcard⟩

mutual

def beq : TypeExpr → TypeExpr → Bool
  | .primitive p, .primitive q => p == q
  | .named n as, .named m bs => n == m && beqAll as bs
  | .array a, .array b => beq a b
  | .var n, .var m => n == m
  | .wildcard, .wildcard => true
  | .bounded a, .bounded b => beq a b
  | _, _ => false

def beqAll : List TypeExpr → List TypeExpr → Bool
  | [], [] => true
  | a :: as, b :: bs => beq a b && beqAll as bs
  | _, _ => false

end

mutual

theorem eq_of_beq : ∀ (a b : TypeExpr), beq a b = true → a = b
  | .primitive p, b, h => by cases b <;> simp_all [beq]
  | .named n as, b, h => by
    cases b with
    | named m bs =>
      simp only [beq, Bool.and_eq_true, beq_iff_eq] at h
      rw [h.1, eq_of_beqAll as bs h.2]
    | _ => simp [beq] at h
  | .array a, b, h => by
    cases b with
    | array b => rw [eq_of_beq a b (by simpa [beq] using h)]
    | _ => simp [beq] at h
  | .var n, b, h => by cases b <;> simp_all [beq]
  | .wildcard, b, h => by cases b <;> simp_all [beq]
  | .bounded a, b, h => by
    cases b with
    | bounded b => rw [eq_of_beq a b (by simpa [beq] using h)]
    | _ => simp [beq] at h

theorem eq_of_beqAll : ∀ (as bs : List TypeExpr), beqAll as bs = true → as = bs
  | [], bs, h => by cases bs <;> simp_all [beqAll]
  | a :: as, bs, h => by
    cases bs with
    | nil => simp [beqAll] at h
    | cons b bs =>
      simp only [beqAll, Bool.and_eq_true] at h
      rw [eq_of_beq a b h.1, eq_of_beqAll as bs h.2]

end

mutual

theorem beq_refl : ∀ a : TypeExpr, beq a a = true
  | .primitive p => by simp [beq]
  | .named n as => by simp [beq, beqAll_refl as]
  | .array a => by simp [beq, beq_refl a]
  | .var n => by simp [beq]
  | .wildcard => rfl
  | .bounded a => by simp [beq, beq_refl a]

theorem beqAll_refl : ∀ as : List TypeExpr, beqAll as as = true
  | [] => rfl
  | a :: as => by simp [beqAll, beq_refl a, beqAll_refl as]

end

theorem beq_iff (a b : TypeExpr) : beq a b = true ↔ a = b :=
  ⟨eq_of_beq a b, fun h => h ▸ beq_refl a⟩

instance : DecidableEq TypeExpr := fun a b => decidable_of_iff _ (beq_iff a b)

/-- The name of a class; nothing for any other type. -/
def rawName? : TypeExpr → Option String
  | .named name _ => some name
  | _ => none

def args : TypeExpr → List TypeExpr
  | .named _ args => args
  | _ => []

/-- The type with the arguments of its class dropped, under any number of array brackets. -/
def erased : TypeExpr → TypeExpr
  | .named name _ => .raw name
  | .array item => .array item.erased
  | t => t

def isPrimitive : TypeExpr → Bool
  | .primitive _ => true
  | _ => false

def isVoid (t : TypeExpr) : Bool := t == .primitive .void

mutual

/-- The type is, or contains, a type variable or a wildcard. -/
def isUnresolved : TypeExpr → Bool
  | .primitive _ => false
  | .named _ args => anyUnresolved args
  | .array item => item.isUnresolved
  | .var _ | .wildcard | .bounded _ => true

def anyUnresolved : List TypeExpr → Bool
  | [] => false
  | t :: ts => t.isUnresolved || anyUnresolved ts

end

/-- What type variables stand for. -/
abbrev Bindings := OrderedMap String TypeExpr

mutual

/-- Replaces the bound type variables; the others stay. -/
def substitute (env : Bindings) : TypeExpr → TypeExpr
  | .primitive p => .primitive p
  | .named name args => .named name (substituteAll env args)
  | .array item => .array (substitute env item)
  | .var name => (env.get? name).getD (.var name)
  | .wildcard => .wildcard
  | .bounded upper => .bounded (substitute env upper)

def substituteAll (env : Bindings) : List TypeExpr → List TypeExpr
  | [] => []
  | t :: ts => substitute env t :: substituteAll env ts

end

theorem substituteAll_eq_map (env : Bindings) (ts : List TypeExpr) :
    substituteAll env ts = ts.map (substitute env) := by
  induction ts with
  | nil => rfl
  | cons t ts ih => simp [substituteAll, ih]

/-- The last segment of a dotted class name. -/
def simpleName (name : String) : String := Text.lastPiece '.' name

end TypeExpr

end ServiceApi
