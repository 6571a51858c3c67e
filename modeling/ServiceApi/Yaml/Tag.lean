import ServiceApi.Text.Numeral
import ServiceApi.Yaml.Cursor

/-!
# Names, tags and directives of a YAML text

Anchors and aliases have names, tags consist of a handle and a suffix, and a directive takes a line
of its own.
-/

namespace ServiceApi.Yaml

/-- The name of an anchor or an alias, after its indicator: a blank or certain marks end it. -/
def readName (p : Cursor) : Option (String × Cursor) :=
  let name := p.rest.takeWhile isNameChar
  let p := p.skip name.length
  let ends := p.spaceAt 0 ||
    p.peek?.any fun c => ['?', ':', ',', ']', '\x7d', '%', '@', '\x60'].contains c
  if name.isEmpty || !ends then none else some (String.ofList name, p)

/-! ## Tags -/

/-- What may stand in a tag; in angle brackets some marks of flow collections too. -/
def isTagChar (verbatim : Bool) (c : Char) : Bool :=
  isNameChar c ||
    [';', '/', '?', ':', '@', '&', '=', '+', '$', '.', '%', '!', '~', '*', '\x27',
      '(', ')'].contains c ||
    (verbatim && [',', '[', ']'].contains c)

/-- The byte of a percent escape, and what follows it. -/
def readByte : List Char → Option (UInt8 × List Char)
  | '%' :: a :: b :: cs => do
    let n ← Text.numeral? 16 [a, b]
    return (n.toUInt8, cs)
  | _ => none

def readBytes : Nat → List Char → Option (List UInt8 × List Char)
  | 0, cs => some ([], cs)
  | n + 1, cs => do
    let (b, cs) ← readByte cs
    let (bs, cs) ← readBytes n cs
    return (b :: bs, cs)

/-- The character whose UTF-8 form percent escapes spell, and what follows them. -/
def readEscapedChar (cs : List Char) : Option (Char × List Char) := do
  let (b, _) ← readByte cs
  let size ←
    if b < 0x80 then some 1
    else if 0xC0 ≤ b && b < 0xE0 then some 2
    else if 0xE0 ≤ b && b < 0xF0 then some 3
    else if 0xF0 ≤ b && b < 0xF8 then some 4
    else none
  let (bytes, rest) ← readBytes size cs
  let s ← String.fromUTF8? ⟨bytes.toArray⟩
  match s.toList with
  | [c] => return (c, rest)
  | _ => none

/-- The characters of a tag, with escapes decoded. -/
def readTagChars (verbatim : Bool) : Nat → List Char → Option (List Char × List Char)
  | 0, _ => none
  | _ + 1, [] => some ([], [])
  | fuel + 1, c :: cs =>
    if c == '%' then do
      let (d, cs) ← readEscapedChar (c :: cs)
      let (ds, rest) ← readTagChars verbatim fuel cs
      return (d :: ds, rest)
    else if isTagChar verbatim c then do
      let (ds, rest) ← readTagChars verbatim fuel cs
      return (c :: ds, rest)
    else some ([], c :: cs)

/-- Reads the characters of a tag in place. -/
def readTagText (verbatim : Bool) (p : Cursor) : Option (List Char × Cursor) := do
  let (text, rest) ← readTagChars verbatim (p.rest.length + 1) p.rest
  return (text, p.skip (p.rest.length - rest.length))

/-- Reads an exclamation mark, the name characters after it, and one more mark if there is one. -/
def readHandle (p : Cursor) : Option (List Char × Cursor) :=
  if p.sees '!' then
    let q := p.skip 1
    let name := q.rest.takeWhile isNameChar
    let q := q.skip name.length
    some (if q.sees '!' then ('!' :: name ++ ['!'], q.skip 1) else ('!' :: name, q))
  else none

def isNamedHandle (handle : List Char) : Bool :=
  handle.length > 1 && handle.getLast? == some '!'

/-- Reads a tag: its handle and its suffix. A tag in angle brackets, and the lone exclamation mark,
have no handle. -/
def readTag (inFlow : Bool) (p : Cursor) : Option (String × String × Cursor) := do
  let (handle, suffix, p) ←
    if p.peekAt? 1 == some '<' then do
      let (suffix, p) ← readTagText true (p.skip 2)
      if suffix.isEmpty || !p.sees '>' then none
      pure ([], suffix, p.skip 1)
    else do
      let (handle, p) ← readHandle p
      if isNamedHandle handle then
        let (suffix, p) ← readTagText false p
        if suffix.isEmpty then none
        pure (handle, suffix, p)
      else
        let (more, p) ← readTagText false p
        let suffix := handle.drop 1 ++ more
        pure (if suffix.isEmpty then ([], ['!'], p) else (['!'], suffix, p))
  if (inFlow && p.sees ',') || p.spaceAt 0 then
    return (String.ofList handle, String.ofList suffix, p)
  else none

/-! ## Directives -/

inductive Directive where
  | version (major minor : Nat)
  | tagHandle (handle start : String)

/-- A number of at most nine digits. -/
def readNumber (p : Cursor) : Option (Nat × Cursor) := do
  let digits := p.rest.takeWhile Char.isDigit
  if digits.length > 9 then none
  return (← Text.decimal? digits, p.skip digits.length)

def readVersion (p : Cursor) : Option (Directive × Cursor) := do
  let (major, p) ← readNumber (p.skipWhile isBlank)
  if !p.sees '.' then none
  let (minor, p) ← readNumber (p.skip 1)
  return (.version major minor, p)

def readTagHandle (p : Cursor) : Option (Directive × Cursor) := do
  let (handle, p) ← readHandle (p.skipWhile isBlank)
  if !(handle == ['!'] || isNamedHandle handle) || !p.seesBlank then none
  let (start, p) ← readTagText true (p.skipWhile isBlank)
  if start.isEmpty || !p.spaceAt 0 then none
  return (.tagHandle (String.ofList handle) (String.ofList start), p)

/-- Reads a directive after its percent sign, with the end of its line. -/
def readDirective (p : Cursor) : Option (Directive × Cursor) := do
  let name := p.rest.takeWhile isNameChar
  let p := p.skip name.length
  if name.isEmpty || !p.spaceAt 0 then none
  let (d, p) ← match String.ofList name with
    | "YAML" => readVersion p
    | "TAG" => readTagHandle p
    | _ => none
  let p := p.skipComment
  if p.atLineEnd then return (d, p.skipBreak) else none

end ServiceApi.Yaml
