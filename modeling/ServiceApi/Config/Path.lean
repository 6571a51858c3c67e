import ServiceApi.Text.Pieces

/-!
# Path templates

A placeholder runs from an opening brace to the next closing one. An opening brace that is never
closed begins none.
-/

namespace ServiceApi.Path

/-- The placeholders from here on; `name` is what has been read of an open one. -/
def scan : Option (List Char) → List Char → List (List Char)
  | _, [] => []
  | none, c :: cs => if c = '\x7b' then scan (some []) cs else scan none cs
  | some name, c :: cs =>
    if c = '\x7d' then name :: scan none cs else scan (some (name ++ [c])) cs

/-- The names of the placeholders of a path, in order. -/
def placeholders (path : String) : List String := (scan none path.toList).map String.ofList

def placeholder (name : String) : String := "\x7b" ++ name ++ "\x7d"

/-- The path with the names of its placeholders left out; `inside` if one is open. -/
def blankFrom : Bool → List Char → List Char
  | _, [] => []
  | inside, c :: cs =>
    if c = '\x7b' then '\x7b' :: '\x7d' :: blankFrom true cs
    else if c = '\x7d' then blankFrom false cs
    else if inside then blankFrom true cs
    else c :: blankFrom false cs

/-- Paths that differ in the names of placeholders alone have one blanked form. -/
def blanked (path : String) : String := String.ofList (blankFrom false path.toList)

/-- `part` stands somewhere in `whole`. -/
def occurs (part : List Char) : List Char → Bool
  | [] => part.isEmpty
  | c :: cs => part.isPrefixOf (c :: cs) || occurs part cs

def mentions (path name : String) : Bool := occurs (placeholder name).toList path.toList

/-- The path with a placeholder added at its end. -/
def extend (path name : String) : String :=
  if path.isEmpty then placeholder name else path ++ "/" ++ placeholder name

end ServiceApi.Path
