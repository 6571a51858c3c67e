/-!
# Cutting texts

`pieces` cuts at every occurrence of one character and keeps the empty pieces, so there is always
one piece more than occurrences. Offsets into a text count the bytes of its UTF-8 form.
-/

namespace ServiceApi.Text

/-- The pieces of `cs` between the occurrences of `sep`: never an empty list. -/
def piecesOf (sep : Char) : List Char → List (List Char)
  | [] => [[]]
  | c :: cs =>
    if c = sep then [] :: piecesOf sep cs
    else
      match piecesOf sep cs with
      | [] => [[c]]
      | p :: ps => (c :: p) :: ps

theorem piecesOf_ne_nil (sep : Char) (cs : List Char) : piecesOf sep cs ≠ [] := by
  cases cs with
  | nil => simp [piecesOf]
  | cons c cs => simp only [piecesOf]; split <;> (try split) <;> simp

def pieces (sep : Char) (s : String) : List String := (piecesOf sep s.toList).map String.ofList

/-- What follows the last `sep`, or all of `s` when there is none. -/
def lastPiece (sep : Char) (s : String) : String := (pieces sep s).getLastD s

/-- The rest of `cs` after the leading `start`, if `cs` begins so. -/
def after? (start : List Char) (cs : List Char) : Option (List Char) :=
  match start, cs with
  | [], cs => some cs
  | _ :: _, [] => none
  | p :: ps, c :: cs => if p = c then after? ps cs else none

def utf8Size (cs : List Char) : Nat := (cs.flatMap String.utf8EncodeChar).length

end ServiceApi.Text
