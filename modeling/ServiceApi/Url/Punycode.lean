/-!
# Punycode

The bootstring form of a domain label: the ASCII characters as they are, then the others by
ascending code point, each as the distance to go, in digits whose weights adapt to the distances
so far.
-/

namespace ServiceApi.Url.Punycode

def digit (d : Nat) : Char := if d < 26 then Char.ofNat (97 + d) else Char.ofNat (22 + d)

def digitValue? (c : Char) : Option Nat :=
  if c.isLower then some (c.toNat - 97)
  else if c.isUpper then some (c.toNat - 65)
  else if c.isDigit then some (c.toNat - 48 + 26)
  else none

def threshold (k bias : Nat) : Nat := if k ≤ bias then 1 else if bias + 26 ≤ k then 26 else k - bias

/-- Scales a distance down until it is small; the second part counts the steps in bases. -/
def scale : Nat → Nat → Nat → Nat × Nat
  | 0, delta, k => (delta, k)
  | fuel + 1, delta, k => if 455 < delta then scale fuel (delta / 35) (k + 36) else (delta, k)

def adapt (delta count : Nat) (first : Bool) : Nat :=
  let delta := if first then delta / 700 else delta / 2
  let (delta, k) := scale delta (delta + delta / count) 0
  k + 36 * delta / (delta + 38)

def digits (bias : Nat) : Nat → Nat → Nat → List Char
  | 0, _, _ => []
  | fuel + 1, k, q =>
    let t := threshold k bias
    if q < t then [digit q]
    else digit (t + (q - t) % (36 - t)) :: digits bias fuel (k + 36) ((q - t) / (36 - t))

structure State where
  output : List Char
  delta : Nat
  bias : Nat
  handled : Nat

def insertSorted (n : Nat) : List Nat → List Nat
  | [] => [n]
  | m :: ms => if n < m then n :: m :: ms else if n = m then m :: ms else m :: insertSorted n ms

def encode (cs : List Char) : List Char :=
  let basic := cs.filter (·.toNat < 0x80)
  let others := (cs.filter (0x80 ≤ ·.toNat)).foldl (fun acc c => insertSorted c.toNat acc) []
  let start : State := ⟨[], 0, 72, basic.length⟩
  let visit (code : Nat) (s : State) (c : Char) : State :=
    if c.toNat < code then { s with delta := s.delta + 1 }
    else if c.toNat = code then
      { output := s.output ++ digits s.bias (s.delta + 1) 36 s.delta
        delta := 0
        bias := adapt s.delta (s.handled + 1) (s.handled == basic.length)
        handled := s.handled + 1 }
    else s
  let (_, final) := others.foldl (fun (next, s) code =>
    let s := { s with delta := s.delta + (code - next) * (s.handled + 1) }
    let s := cs.foldl (visit code) s
    (code + 1, { s with delta := s.delta + 1 })) (0x80, start)
  (if basic.isEmpty then [] else basic ++ ['-']) ++ final.output

/-- Weights have 32 bits. -/
def wordSize : Nat := 0x100000000

/-- One distance: the sum of the digits by their weights, and the rest. -/
def readDistance (bias : Nat) : Nat → Nat → Nat → List Char → Option (Nat × List Char)
  | _, _, _, [] => none
  | k, weight, sum, c :: cs => do
    let d ← digitValue? c
    let t := threshold k bias
    let sum := sum + d * weight
    if d < t then some (sum, cs)
    else if wordSize ≤ weight * (36 - t) then none
    else readDistance bias (k + 36) (weight * (36 - t)) sum cs

def insertAt (i : Nat) (c : Char) (cs : List Char) : List Char := cs.take i ++ c :: cs.drop i

def readInsertions : Nat → Nat → Nat → Nat → List Char → List Char → Option (List Char)
  | 0, _, _, _, _, _ => none
  | _ + 1, _, _, _, out, [] => some out
  | fuel + 1, code, i, bias, out, cs => do
    let (distance, rest) ← readDistance bias 36 1 0 cs
    let length := out.length + 1
    let total := i + distance
    let code := code + total / length
    if 0x10FFFF < code || (0xD800 ≤ code && code < 0xE000) then none
    let place := total % length
    readInsertions fuel code (place + 1) (adapt distance length (i == 0))
      (insertAt place (Char.ofNat code) out) rest

/-- The label that `cs` encodes. Its ASCII characters stand before the last hyphen, but a hyphen at
the start ends nothing. -/
def decode? (cs : List Char) : Option (List Char) :=
  let last := (cs.reverse.takeWhile (· != '-')).reverse
  let basic := cs.take (cs.length - last.length - 1)
  let digits := if basic.isEmpty then cs else last
  if basic.all (·.toNat < 0x80) then readInsertions (digits.length + 1) 0x80 0 72 basic digits
  else none

end ServiceApi.Url.Punycode
