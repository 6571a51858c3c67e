import ServiceApi.Url
import ServiceApi.Url.Domain

/-!
# Hosts

A host in brackets is an IPv6 address. In a special scheme any other host is a domain in its ASCII
form, or an IPv4 address if its last label is a number; in another scheme it stands as it is
written.
-/

namespace ServiceApi.Url

/-! ## IPv4 addresses -/

inductive Ipv4Number where
  | value (n : Nat)
  | overflow
  | notNumber
  deriving DecidableEq

/-- A part of an address: hexadecimal after `0x`, octal after another leading zero. -/
def ipv4Number (cs : List Char) : Ipv4Number :=
  let ofDigits (base : Nat) (digits : List Char) : Ipv4Number :=
    if digits.isEmpty then .value 0
    else match Text.numeral? base digits with
      | some n => if n < 1 <<< 32 then .value n else .overflow
      | none => .notNumber
  match cs with
  | [] => .notNumber
  | '0' :: 'x' :: digits | '0' :: 'X' :: digits => ofDigits 16 digits
  | '0' :: d :: digits => ofDigits 8 (d :: digits)
  | digits => ofDigits 10 digits

/-- The labels between the dots, without an empty one at the end. -/
def labelsOf (cs : List Char) : List (List Char) :=
  let labels := Text.piecesOf '.' cs
  if labels.length > 1 && labels.getLast? == some [] then labels.dropLast else labels

def endsInNumber (cs : List Char) : Bool :=
  match (labelsOf cs).getLast? with
  | none | some [] => false
  | some last => last.all Char.isDigit || ipv4Number last != .notNumber

def ipv4? (cs : List Char) : Option Nat := do
  let labels := labelsOf cs
  if labels.length > 4 then none
  let numbers ← labels.mapM fun label =>
    match ipv4Number label with
    | .value n => some n
    | _ => none
  let last ← numbers.getLast?
  let front := numbers.dropLast
  if front.any (255 < ·) || 1 <<< (32 - 8 * front.length) ≤ last then none
  some (front.zipIdx.foldl (fun address (n, i) => address + n <<< (24 - 8 * i)) last)

/-! ## IPv6 addresses -/

/-- Four decimal numbers below 256 without leading zeros, as two groups. -/
def ipv6Tail? (cs : List Char) : Option (List Nat) := do
  let numbers ← (Text.piecesOf '.' cs).mapM fun part => do
    let n ← Text.decimal? part
    if n < 256 && (part.length == 1 || part.head? != some '0') then some n else none
  match numbers with
  | [a, b, c, d] => some [256 * a + b, 256 * c + d]
  | _ => none

/-- The groups between colons; an IPv4 address may stand for the last two. -/
def ipv6Groups? (mayEndInIpv4 : Bool) (cs : List Char) : Option (List Nat) :=
  if cs.isEmpty then some []
  else
    let parts := Text.piecesOf ':' cs
    let group? (part : List Char) : Option (List Nat) :=
      if part.length ≤ 4 then (Text.numeral? 16 part).map ([·]) else none
    match parts.getLast? with
    | none => none
    | some last => do
      let front ← parts.dropLast.mapM group?
      let last ← if mayEndInIpv4 && last.contains '.' then ipv6Tail? last else group? last
      some (front.flatten ++ last)

/-- Cuts at the first pair of colons. -/
def cutAtPair : List Char → Option (List Char × List Char)
  | ':' :: ':' :: rest => some ([], rest)
  | c :: rest => (cutAtPair rest).map fun (front, back) => (c :: front, back)
  | [] => none

def ipv6? (cs : List Char) : Option (List Nat) :=
  match cutAtPair cs with
  | none => do
    let groups ← ipv6Groups? true cs
    if groups.length = 8 then some groups else none
  | some (front, back) => do
    let front ← ipv6Groups? false front
    let back ← ipv6Groups? true back
    if front.length + back.length < 8 then
      some (front ++ List.replicate (8 - front.length - back.length) 0 ++ back)
    else none

/-! ## Hosts -/

def bracketed? (cs : List Char) : Option (Except ParseError Host) :=
  match cs with
  | '[' :: rest => some <|
    if rest.getLast? == some ']' then
      match ipv6? rest.dropLast with
      | some groups => .ok (.ipv6 groups)
      | none => .error .invalidIpv6
    else .error .invalidIpv6
  | _ => none

/-- The host of a special URL. -/
def Host.parse (cs : List Char) : Except ParseError Host :=
  match bracketed? cs with
  | some result => result
  | none =>
    match String.fromUTF8? ⟨(unescape cs).toArray⟩ with
    | none => .error .invalidDomain
    | some decoded =>
      match Domain.toAscii? decoded.toList with
      | none => .error .invalidDomain
      | some [] => .error .emptyHost
      | some ascii =>
        if endsInNumber ascii then
          match ipv4? ascii with
          | some a => .ok (.ipv4 a)
          | none => .error .invalidIpv4
        else .ok (.domain (String.ofList ascii))

/-- The host of any other URL. -/
def Host.parseOpaque (cs : List Char) : Except ParseError Host :=
  match bracketed? cs with
  | some result => result
  | none =>
    if cs.any Domain.forbiddenInHost then .error .invalidHostCharacter
    else .ok (.domain (String.ofList (escape isControl cs)))

end ServiceApi.Url
