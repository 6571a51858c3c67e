import ServiceApi.Text.Ranges

/-!
# White space, and the words between it

Blank characters are those with the White_Space property. `words` cuts a text at every run of them
and keeps no empty piece; `trim` drops them at both ends.
-/

namespace ServiceApi.Text

def blankRanges : Ranges := [
  (0x9, 0xD), (0x20, 0x20), (0x85, 0x85), (0xA0, 0xA0), (0x1680, 0x1680), (0x2000, 0x200A),
  (0x2028, 0x2029), (0x202F, 0x202F), (0x205F, 0x205F), (0x3000, 0x3000)]

def isBlank (c : Char) : Bool := blankRanges.contain c

def wordsOf : List Char → List (List Char)
  | [] => []
  | c :: cs =>
    if isBlank c then wordsOf cs
    else
      match cs, wordsOf cs with
      | d :: _, w :: ws => if isBlank d then [c] :: w :: ws else (c :: w) :: ws
      | _, ws => [c] :: ws

def words (s : String) : List String := (wordsOf s.toList).map String.ofList

/-- `xs` without the longest tail whose members all satisfy `p`. -/
def dropTailWhile {α : Type} (p : α → Bool) (xs : List α) : List α :=
  (xs.reverse.dropWhile p).reverse

def trim (s : String) : String :=
  String.ofList (dropTailWhile isBlank (s.toList.dropWhile isBlank))

def isAllBlank (s : String) : Bool := s.toList.all isBlank

/-- `s` without the trailing run of `c`. -/
def trimTail (c : Char) (s : String) : String := String.ofList (dropTailWhile (· == c) s.toList)

end ServiceApi.Text
