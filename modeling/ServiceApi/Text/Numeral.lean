/-!
# Numerals

Which texts denote integers and decimal fractions. Only ASCII digits count as digits.
-/

namespace ServiceApi.Text

/-- The value of `cs` as a numeral in base ten, most significant digit first. -/
def decimal? (cs : List Char) : Option Nat :=
  if cs.isEmpty || !cs.all Char.isDigit then none
  else some (cs.foldl (fun n c => 10 * n + (c.toNat - '0'.toNat)) 0)

def hexDigit? (c : Char) : Option Nat :=
  if c.isDigit then some (c.toNat - '0'.toNat)
  else if 'a' ≤ c ∧ c ≤ 'f' then some (c.toNat - 'a'.toNat + 10)
  else if 'A' ≤ c ∧ c ≤ 'F' then some (c.toNat - 'A'.toNat + 10)
  else none

/-- The value of `cs` as a numeral in base `base`, at most sixteen. -/
def numeral? (base : Nat) (cs : List Char) : Option Nat :=
  if cs.isEmpty then none
  else cs.foldlM (fun n c => do
    let d ← hexDigit? c
    if d < base then some (base * n + d) else none) 0

/-- An optional sign and the rest: true for a minus. -/
def signed : List Char → Bool × List Char
  | '-' :: cs => (true, cs)
  | '+' :: cs => (false, cs)
  | cs => (false, cs)

/-- The integer a text denotes: an optional sign and at least one digit of base `base`. -/
def integer? (base : Nat) (s : String) : Option Int :=
  let (negative, digits) := signed s.toList
  (numeral? base digits).map fun n => if negative then -(n : Int) else n

/-- An optional exponent: nothing, or `e` or `E`, an optional sign and at least one digit. -/
def isExponent : List Char → Bool
  | [] => true
  | c :: cs =>
    (c == 'e' || c == 'E') && !(signed cs).2.isEmpty && (signed cs).2.all Char.isDigit

/-- Digits with at most one point among them and at least one digit, then an optional exponent. -/
def isUnsignedDecimal (cs : List Char) : Bool :=
  let whole := cs.takeWhile Char.isDigit
  match cs.dropWhile Char.isDigit with
  | '.' :: rest =>
    !(whole.isEmpty && (rest.takeWhile Char.isDigit).isEmpty)
      && isExponent (rest.dropWhile Char.isDigit)
  | rest => !whole.isEmpty && isExponent rest

/-- Whether a text denotes a floating-point number: an optional sign, then a decimal fraction or,
in any case of letters, `inf`, `infinity` or `nan`. -/
def isFloating (s : String) : Bool :=
  let (_, body) := signed s.toList
  isUnsignedDecimal body ||
    ["inf", "infinity", "nan"].contains (String.ofList (body.map Char.toLower))

end ServiceApi.Text
