import ServiceApi.Text.Numeral
import ServiceApi.Yaml.Cursor

/-!
# Scalars of a YAML text

Plain scalars run on over lines that are indented deeply enough, quoted ones up to their closing
quote, and block scalars over all lines of their indentation.
-/

namespace ServiceApi.Yaml

/-! ## Plain scalars -/

def isFlowMark (c : Char) : Bool := [',', '[', ']', '\x7b', '\x7d'].contains c

/-- The characters up to the next blank, or to what ends a plain scalar. In a flow collection a
colon must not stand before an indicator. -/
def plainRun (inFlow : Bool) : List Char → Option (List Char)
  | [] => some []
  | c :: cs =>
    let spaceNext := cs.head?.all fun d => isBlank d || isBreak d
    if isBlank c || isBreak c then some []
    else if inFlow && c == ':' && cs.head?.any (fun d => isFlowMark d || d == '?') then none
    else if (c == ':' && spaceNext) || (inFlow && isFlowMark c) then some []
    else (plainRun inFlow cs).map (c :: ·)

/-- A plain scalar in the making: its text, and whether the last gap held a line break. -/
structure PlainScalar where
  text : List Char
  broken : Bool
  cursor : Cursor

/-- Reads on after `text` and the gap `g`. The lines of a scalar in a block are indented by `indent`
columns at least. -/
def readPlain (inFlow : Bool) (indent : Nat) : Nat → List Char → Gap → Cursor → Option PlainScalar
  | 0, _, _, _ => none
  | fuel + 1, text, g, p => do
    let broken := !g.breaks.isEmpty
    if p.seesMarker '-' || p.seesMarker '.' || p.sees '#' then return ⟨text, broken, p⟩
    let run ← plainRun inFlow p.rest
    let (text, broken) := if run.isEmpty then (text, broken) else (text ++ g.text ++ run, false)
    let after := p.skip run.length
    if !(after.seesBlank || after.seesBreak) then return ⟨text, broken, after⟩
    let (g, p) ← readGap indent (after.rest.length + 1) false after
    if !inFlow && p.column < indent then return ⟨text, !g.breaks.isEmpty, p⟩
    readPlain inFlow indent fuel text g p

/-! ## Quoted scalars -/

/-- The character that a one-letter escape stands for. -/
def shortEscape? : Char → Option Char
  | '0' => some '\x00'
  | 'a' => some '\x07'
  | 'b' => some '\x08'
  | 't' | '\t' => some '\t'
  | 'n' => some '\n'
  | 'v' => some '\x0b'
  | 'f' => some '\x0c'
  | 'r' => some '\r'
  | 'e' => some '\x1b'
  | ' ' => some ' '
  | '"' => some '"'
  | '/' => some '/'
  | '\\' => some '\\'
  | 'N' => some '\x85'
  | '_' => some '\xa0'
  | 'L' => some '\u2028'
  | 'P' => some '\u2029'
  | _ => none

/-- How many hexadecimal digits follow the letter of an escape. -/
def escapeDigits? : Char → Option Nat
  | 'x' => some 2
  | 'u' => some 4
  | 'U' => some 8
  | _ => none

/-- The character with code point `n`, which must be no surrogate. -/
def charAt? (n : Nat) : Option Char := if n.isValidChar then some (Char.ofNat n) else none

/-- The escape after a backslash, and what follows it. -/
def readEscape : List Char → Option (Char × List Char)
  | [] => none
  | e :: cs =>
    match escapeDigits? e with
    | none => (shortEscape? e).map (·, cs)
    | some count => do
      let digits := cs.take count
      if digits.length < count then none
      let c ← charAt? (← Text.numeral? 16 digits)
      return (c, cs.drop count)

/-- What ends a run of non-blank characters in a quoted scalar. -/
inductive RunEnd where
  | space
  | quote
  /-- A backslash before a line break. -/
  | escapedBreak

/-- The characters up to the next blank, the closing quote or an escaped line break, and what
follows them. -/
def quotedRun (single : Bool) : Nat → List Char → Option (List Char × RunEnd × List Char)
  | 0, _ => none
  | _ + 1, [] => some ([], .space, [])
  | fuel + 1, c :: cs =>
    let more (c : Char) (cs : List Char) : Option (List Char × RunEnd × List Char) := do
      let (run, stop, rest) ← quotedRun single fuel cs
      return (c :: run, stop, rest)
    if isBlank c || isBreak c then some ([], .space, c :: cs)
    else if single then
      if c == '\x27' then
        match cs with
        | '\x27' :: cs => more '\x27' cs
        | cs => some ([], .quote, '\x27' :: cs)
      else more c cs
    else if c == '"' then some ([], .quote, c :: cs)
    else if c == '\\' then
      if cs.head?.any isBreak then some ([], .escapedBreak, cs)
      else do
        let (c, cs) ← readEscape cs
        more c cs
    else more c cs

/-- Reads a quoted scalar after its opening quote. -/
def readQuoted (single : Bool) : Nat → List Char → Cursor → Option (List Char × Cursor)
  | 0, _, _ => none
  | fuel + 1, text, p => do
    if p.seesMarker '-' || p.seesMarker '.' || p.atEnd then none
    let (run, stop, rest) ← quotedRun single (p.rest.length + 1) p.rest
    let text := text ++ run
    let p := p.skip (p.rest.length - rest.length)
    match stop with
    | .quote => return (text, p.skip 1)
    | .escapedBreak =>
      let (g, p) ← readGap 0 (p.rest.length + 1) true p.skipBreak
      readQuoted single fuel (text ++ g.breaks) p
    | .space =>
      let (g, p) ← readGap 0 (p.rest.length + 1) false p
      readQuoted single fuel (text ++ g.text) p

/-! ## Block scalars -/

/-- What becomes of the line breaks at the end. -/
inductive Chomping where
  | strip | clip | keep

/-- The indicators after the bar or the angle, in either order: the chomping, and the indentation if
it is given. -/
def readBlockHeader (p : Cursor) : Option (Chomping × Nat × Cursor) :=
  let chomping? (p : Cursor) : Option (Chomping × Cursor) :=
    if p.sees '+' then some (.keep, p.skip 1)
    else if p.sees '-' then some (.strip, p.skip 1)
    else none
  let digit (p : Cursor) : Option (Nat × Cursor) :=
    match p.peek? with
    | some c =>
      if c == '0' then none
      else if c.isDigit then some (c.toNat - '0'.toNat, p.skip 1)
      else some (0, p)
    | none => some (0, p)
  match chomping? p with
  | some (chomping, p) => (digit p).map fun (n, p) => (chomping, n, p)
  | none => do
    let (n, p) ← digit p
    match (if n = 0 then none else chomping? p) with
    | some (chomping, p) => return (chomping, n, p)
    | none => return (.clip, n, p)

/-- Reads empty lines and indentation, up to the column `indent` if it is not zero: the line breaks
and the deepest column seen. A tab in place of the indentation is refused. -/
def readEmptyLines (indent : Nat) : Nat → Nat → Cursor → Option (List Char × Nat × Cursor)
  | 0, _, _ => none
  | fuel + 1, deepest, p =>
    let spaces := (p.rest.takeWhile (· == ' ')).length
    let p := p.skip (if indent = 0 then spaces else min spaces (indent - p.column))
    let deepest := max deepest p.column
    if (indent = 0 || p.column < indent) && p.sees '\t' then none
    else if !p.seesBreak then some ([], deepest, p)
    else do
      let (breaks, deepest, q) ← readEmptyLines indent fuel deepest p.skipBreak
      return (p.breakText ++ breaks, deepest, q)

/-- The lines of a block scalar, and the line breaks after the last of them. -/
structure Block where
  text : List Char := []
  /-- The break of the last line. -/
  lastBreak : List Char := []
  /-- The breaks after that. -/
  emptyLines : List Char := []
  /-- The last line begins with a blank. -/
  startsBlank : Bool := false

/-- Adds a line. Folding turns a single break between lines that begin with no blank into a
space. -/
def Block.addLine (b : Block) (literal : Bool) (line lineBreak emptyLines : List Char) : Block :=
  let startsBlank := line.head?.any isBlank
  let fold := !literal && b.lastBreak == ['\n'] && !b.startsBlank && !startsBlank
  let joint := if fold then (if b.emptyLines.isEmpty then [' '] else []) else b.lastBreak
  { text := b.text ++ joint ++ b.emptyLines ++ line, lastBreak := lineBreak,
    emptyLines, startsBlank }

def readBlockLines (literal : Bool) (indent : Nat) : Nat → Block → Cursor → Option (Block × Cursor)
  | 0, _, _ => none
  | fuel + 1, b, p =>
    if p.column = indent && !p.atEnd then do
      let line := p.rest.takeWhile (!isBreak ·)
      let p := p.skip line.length
      let (emptyLines, _, q) ← readEmptyLines indent (p.rest.length + 1) 0 p.skipBreak
      readBlockLines literal indent fuel (b.addLine literal line p.breakText emptyLines) q
    else some (b, p)

/-- Reads a block scalar after its indicator, below a collection at the column `parent?`. -/
def readBlock (literal : Bool) (parent? : Option Nat) (p : Cursor) :
    Option (List Char × Cursor) := do
  let (chomping, increment, p) ← readBlockHeader p
  let p := p.skipComment
  if !p.atLineEnd then none
  let p := p.skipBreak
  let given := if increment = 0 then 0 else parent?.getD 0 + increment
  let (emptyLines, deepest, p) ← readEmptyLines given (p.rest.length + 1) 0 p
  let least := parent?.elim 1 (· + 1)
  let indent := if given = 0 then max deepest least else given
  let (b, p) ← readBlockLines literal indent (p.rest.length + 1) { emptyLines } p
  let ending := match chomping with
    | .strip => []
    | .clip => b.lastBreak
    | .keep => b.lastBreak ++ b.emptyLines
  return (b.text ++ ending, p)

end ServiceApi.Yaml
