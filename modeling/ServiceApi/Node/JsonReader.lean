import ServiceApi.Node.Resolve

/-!
# Reading JSON

Strict JSON: no comments, no trailing commas or text, no raw control character in a string. An
integer is a literal without fraction and exponent that fits 64 bits; minus zero is none. A string
with an unpaired surrogate escape, and a record with such a key, is read as a malformed value.
-/

namespace ServiceApi.Node.JsonReader

def isJsonBlank (c : Char) : Bool := c == ' ' || c == '\n' || c == '\t' || c == '\r'

def skip (cs : List Char) : List Char := cs.dropWhile isJsonBlank

def hex4? (a b c d : Char) : Option Nat := Text.numeral? 16 [a, b, c, d]

/-- The code points and escaped code units of a string up to its closing quote, and the rest. -/
def readUnits : List Char → Option (List Nat × List Char)
  | '"' :: cs => some ([], cs)
  | '\\' :: 'u' :: a :: b :: c :: d :: cs => do
    let u ← hex4? a b c d
    let (us, rest) ← readUnits cs
    return (u :: us, rest)
  | '\\' :: e :: cs => do
    let u ← match e with
      | '"' => some 0x22
      | '\\' => some 0x5C
      | '/' => some 0x2F
      | 'b' => some 8
      | 'f' => some 12
      | 'n' => some 10
      | 'r' => some 13
      | 't' => some 9
      | _ => none
    let (us, rest) ← readUnits cs
    return (u :: us, rest)
  | c :: cs =>
    if c == '\\' || c.toNat < 0x20 then none
    else do
      let (us, rest) ← readUnits cs
      return (c.toNat :: us, rest)
  | [] => none

/-- Joins surrogate pairs; nothing if one stands alone. -/
def joinUnits : List Nat → Option (List Char)
  | [] => some []
  | u :: us =>
    if 0xD800 ≤ u ∧ u < 0xDC00 then
      match us with
      | v :: vs =>
        if 0xDC00 ≤ v ∧ v < 0xE000 then
          (joinUnits vs).map (Char.ofNat (0x10000 + 0x400 * (u - 0xD800) + (v - 0xDC00)) :: ·)
        else none
      | [] => none
    else if 0xDC00 ≤ u ∧ u < 0xE000 then none
    else (joinUnits us).map (Char.ofNat u :: ·)

/-- A string after its opening quote: nothing in the first place if it is ill-formed. -/
def readString (cs : List Char) : Option (Option String × List Char) := do
  let (units, rest) ← readUnits cs
  return ((joinUnits units).map String.ofList, rest)

/-- The digits at the start, of which there must be one. -/
def readDigits (cs : List Char) : Option (List Char × List Char) :=
  match cs.takeWhile Char.isDigit with
  | [] => none
  | digits => some (digits, cs.dropWhile Char.isDigit)

/-- The digits after a point, if one follows. -/
def readFraction : List Char → Option (List Char × List Char)
  | '.' :: cs => readDigits cs
  | cs => some ([], cs)

/-- The exponent, if one follows. -/
def readExponent : List Char → Option (Option Int × List Char)
  | [] => some (none, [])
  | c :: cs =>
    if c == 'e' || c == 'E' then do
      let (negative, cs) := Text.signed cs
      let (digits, cs) ← readDigits cs
      let n : Int := ((Text.decimal? digits).getD 0 : Nat)
      return (some (if negative then -n else n), cs)
    else some (none, c :: cs)

def readNumber (cs : List Char) : Option (Node × List Char) := do
  let (negative, cs) := match cs with
    | '-' :: cs => (true, cs)
    | cs => (false, cs)
  let (whole, cs) ← readDigits cs
  if whole.length > 1 && whole.head? == some '0' then none
  let (fraction, cs) ← readFraction cs
  let (exponent, cs) ← readExponent cs
  let n : Int := ((Text.decimal? whole).getD 0 : Nat)
  let n := if negative then -n else n
  if fraction.isEmpty && exponent.isNone && isInt64 n && !(negative && n == 0) then
    return (.int n, cs)
  else
    return (.real (isFiniteNumber whole fraction (exponent.getD 0)), cs)

/-- The rest after `word`, and `n`. -/
def readWord (word : String) (n : Node) (cs : List Char) : Option (Node × List Char) :=
  let start := cs.take word.length
  if String.ofList start == word then some (n, cs.drop word.length) else none

/-- A record from its fields, if every key is a text. -/
def ofPairs (fields : List (Option String × Node)) : Node :=
  match fields.mapM fun (k, v) => k.map (·, v) with
  | some fields => .record fields
  | none => .malformed

mutual

/-- A value, blanks before it skipped. The fuel bounds the characters read. -/
def readValue : Nat → List Char → Option (Node × List Char)
  | 0, _ => none
  | fuel + 1, cs =>
    match skip cs with
    | '[' :: cs => do
      match skip cs with
      | ']' :: cs => return (.row [], cs)
      | cs =>
        let (items, cs) ← readItems fuel cs
        return (.row items, cs)
    | '\x7b' :: cs => do
      match skip cs with
      | '\x7d' :: cs => return (.record [], cs)
      | cs =>
        let (fields, cs) ← readFields fuel cs
        return (ofPairs fields, cs)
    | '"' :: cs => do
      let (s, cs) ← readString cs
      return (s.elim .malformed .text, cs)
    | 't' :: cs => readWord "true" (.bool true) ('t' :: cs)
    | 'f' :: cs => readWord "false" (.bool false) ('f' :: cs)
    | 'n' :: cs => readWord "null" .null ('n' :: cs)
    | cs => readNumber cs

def readItems : Nat → List Char → Option (List Node × List Char)
  | 0, _ => none
  | fuel + 1, cs => do
    let (item, cs) ← readValue fuel cs
    match skip cs with
    | ',' :: cs =>
      let (items, cs) ← readItems fuel cs
      return (item :: items, cs)
    | ']' :: cs => return ([item], cs)
    | _ => none

def readFields : Nat → List Char → Option (List (Option String × Node) × List Char)
  | 0, _ => none
  | fuel + 1, cs => do
    match skip cs with
    | '"' :: cs =>
      let (key, cs) ← readString cs
      match skip cs with
      | ':' :: cs =>
        let (value, cs) ← readValue fuel cs
        match skip cs with
        | ',' :: cs =>
          let (fields, cs) ← readFields fuel cs
          return ((key, value) :: fields, cs)
        | '\x7d' :: cs => return ([(key, value)], cs)
        | _ => none
      | _ => none
    | _ => none

end

end JsonReader

/-- The value that a JSON text holds, all of it. -/
def ofJson? (text : String) : Option Node :=
  let cs := text.toList
  match JsonReader.readValue (2 * cs.length + 2) cs with
  | some (n, rest) => if (JsonReader.skip rest).isEmpty then some n else none
  | none => none

end ServiceApi.Node
