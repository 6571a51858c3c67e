import ServiceApi.Text.Pieces

/-!
# A place in a YAML text

What is left of a text together with how far it has been read. A line ends with a carriage return, a
line feed, both in that order, or one of three further characters; the first four count as a line
feed in what is read.
-/

namespace ServiceApi.Yaml

/-- The characters that a text may hold. -/
def isAllowed (c : Char) : Bool :=
  let n := c.toNat
  n == 0x9 || n == 0xA || n == 0xD || (0x20 ≤ n && n ≤ 0x7E) || n == 0x85 ||
    (0xA0 ≤ n && n ≤ 0xD7FF) || (0xE000 ≤ n && n ≤ 0xFFFD) || 0x10000 ≤ n

def isBlank (c : Char) : Bool := c == ' ' || c == '\t'

def isBreak (c : Char) : Bool :=
  c == '\r' || c == '\n' || c == '\x85' || c == '\u2028' || c == '\u2029'

/-- What a line break is read as. -/
def breakAs (c : Char) : Char := if c == '\u2028' || c == '\u2029' then c else '\n'

/-- Letters, digits and marks of the names of anchors and directives. -/
def isNameChar (c : Char) : Bool := c.isAlphanum || c == '_' || c == '-'

structure Cursor where
  rest : List Char
  /-- How many bytes of the text in UTF-8 were read. -/
  index : Nat := 0
  line : Nat := 0
  column : Nat := 0

namespace Cursor

variable (p : Cursor)

def peek? : Option Char := p.rest.head?

/-- The character after `n` others. -/
def peekAt? (n : Nat) : Option Char := (p.rest.drop n).head?

def atEnd : Bool := p.rest.isEmpty

/-- The next character is `c`. -/
def sees (c : Char) : Bool := p.peek? == some c

def seesBlank : Bool := p.peek?.any isBlank

def seesBreak : Bool := p.peek?.any isBreak

/-- A blank, a line break or the end of the text stands after `n` characters. -/
def spaceAt (n : Nat) : Bool := (p.peekAt? n).all fun c => isBlank c || isBreak c

/-- A line break or the end of the text follows. -/
def atLineEnd : Bool := p.peek?.all isBreak

/-- Passes `n` characters of one line. -/
def skip (n : Nat) : Cursor :=
  { p with
    rest := p.rest.drop n
    index := p.index + Text.utf8Size (p.rest.take n)
    column := p.column + n }

/-- Passes the characters of one line that satisfy `keep`. -/
def skipWhile (keep : Char → Bool) : Cursor := p.skip (p.rest.takeWhile keep).length

/-- Passes a line break, if one follows. -/
def skipBreak : Cursor :=
  match p.rest with
  | '\r' :: '\n' :: cs => { rest := cs, index := p.index + 2, line := p.line + 1, column := 0 }
  | c :: cs =>
    if isBreak c then
      { rest := cs, index := p.index + c.utf8Size, line := p.line + 1, column := 0 }
    else p
  | [] => p

/-- What a line break that follows is read as; nothing if none does. -/
def breakText : List Char :=
  match p.rest with
  | c :: _ => if isBreak c then [breakAs c] else []
  | [] => []

/-- Passes blanks and a comment, up to the end of the line. -/
def skipComment : Cursor :=
  let p := p.skipWhile isBlank
  if p.sees '#' then p.skipWhile (!isBreak ·) else p

/-- Three characters `c` that a document marker consists of stand at the start of a line. -/
def seesMarker (c : Char) : Bool :=
  p.column == 0 && p.rest.take 3 == [c, c, c] && p.spaceAt 3

end Cursor

/-- Blanks and line breaks inside of a scalar. -/
structure Gap where
  /-- The blanks before the first break. -/
  blanks : List Char := []
  /-- The line breaks, as they are read. -/
  breaks : List Char := []

/-- What a gap stands for: its blanks, if it is within a line. Otherwise the first line feed is
folded: it counts as a blank if it is the only break, and for nothing if others follow. -/
def Gap.text (g : Gap) : List Char :=
  match g.breaks with
  | [] => g.blanks
  | ['\n'] => [' ']
  | '\n' :: more => more
  | breaks => breaks

/-- Reads blanks and line breaks; after a break, a tab left of the column `indent` is refused.
`broken` tells that there was a break. -/
def readGap (indent : Nat) : Nat → Bool → Cursor → Option (Gap × Cursor)
  | 0, _, p => some ({}, p)
  | fuel + 1, broken, p =>
    match p.peek? with
    | none => some ({}, p)
    | some c =>
      if isBlank c then
        if broken && c == '\t' && p.column < indent then none
        else do
          let (g, p) ← readGap indent fuel broken (p.skip 1)
          return (if broken then g else { g with blanks := c :: g.blanks }, p)
      else if isBreak c then do
        let (g, p) ← readGap indent fuel true p.skipBreak
        return ({ blanks := [], breaks := breakAs c :: g.breaks }, p)
      else some ({}, p)

end ServiceApi.Yaml
