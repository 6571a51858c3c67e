import ServiceApi.OrderedMap

/-!
# JSON values as they are written

An object keeps the order of its fields. Numbers are integers, or a literal that is written as it
stands.
-/

namespace ServiceApi

inductive Json where
  | null
  | bool (b : Bool)
  | int (n : Int)
  | real (literal : String)
  | str (s : String)
  | arr (items : List Json)
  | obj (fields : List (String × Json))
  deriving Inhabited

namespace Json

def strs (xs : List String) : Json := .arr (xs.map .str)

def option {α : Type} (f : α → Json) : Option α → Json
  | none => .null
  | some a => f a

/-- Sets a field of an object under construction: a field that is there keeps its place. -/
def setField (k : String) (v : Json) (fields : List (String × Json)) : List (String × Json) :=
  Entries.put k v fields

/-- An object from entries of which a later one replaces an earlier one with its key. -/
def objOf (entries : List (String × Json)) : Json :=
  .obj (entries.foldl (fun fs (k, v) => setField k v fs) [])

/-- The fields of an object; nothing for any other value. -/
def fields : Json → List (String × Json)
  | .obj fs => fs
  | _ => []

end Json

end ServiceApi
