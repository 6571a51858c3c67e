import ServiceApi.Text.Numeral

/-!
# Decimal numbers in double precision

Which decimals are in the range of the format. A scalar takes the number nearest to its value. A
JSON number is brought to the format in steps, each of which rounds: the digits that fit 64 bits,
the power of ten they are to be multiplied by, and the product. So it may leave the range a little
earlier.
-/

namespace ServiceApi.Node

/-- Whether the unsigned decimal `cs` is below the least number that double precision cannot hold,
`2 ^ 1024 - 2 ^ 970`. -/
def isFiniteDecimal (cs : List Char) : Bool :=
  let whole := cs.takeWhile Char.isDigit
  let rest := cs.dropWhile Char.isDigit
  let (frac, rest) := match rest with
    | '.' :: rest => (rest.takeWhile Char.isDigit, rest.dropWhile Char.isDigit)
    | rest => ([], rest)
  let digits := whole ++ frac
  let (negative, exponent) := match rest with
    | [] => (false, 0)
    | _ :: rest => let (n, ds) := Text.signed rest; (n, (Text.decimal? ds).getD 0)
  match Text.decimal? digits with
  | none | some 0 => true
  | some n =>
    let limit := (1 <<< 1024) - (1 <<< 970)
    if negative then exponent > digits.length || n < limit * Nat.pow 10 (exponent + frac.length)
    else if exponent > frac.length + 400 then false
    else n * Nat.pow 10 exponent < limit * Nat.pow 10 frac.length

/-- The nearest multiple of a power of two that has 53 binary digits at most, the even one of
two. -/
def roundToDouble (n : Nat) : Nat :=
  let excess := n.log2 + 1 - 53
  let kept := n >>> excess
  let lost := n - kept <<< excess
  let half := 1 <<< (excess - 1)
  if excess = 0 || lost < half || (lost = half && kept % 2 = 0) then kept <<< excess
  else (kept + 1) <<< excess

/-- Reads digits on after `n`, as long as the number fits 64 bits: the number, and how many digits
are left. -/
def readDigits64 : Nat → List Char → Nat × Nat
  | n, [] => (n, 0)
  | n, c :: cs =>
    let m := 10 * n + (c.toNat - '0'.toNat)
    if m < 1 <<< 64 then readDigits64 m cs else (n, cs.length + 1)

/-- Whether `n` times ten to the power of `exponent` stays finite when every step is rounded. -/
def isFiniteProduct (n : Nat) (exponent : Int) : Bool :=
  n = 0 || exponent < 0 ||
    (exponent ≤ 308 &&
      roundToDouble (roundToDouble n * roundToDouble (Nat.pow 10 exponent.toNat)) < 1 <<< 1024)

/-- Whether a JSON number stays finite: its digits before and after the point, and its exponent. -/
def isFiniteNumber (whole fraction : List Char) (exponent : Int) : Bool :=
  let (n, dropped) := readDigits64 0 whole
  let (n, unread) := readDigits64 n fraction
  isFiniteProduct n (dropped - (fraction.length - unread : Nat) + exponent)

end ServiceApi.Node
