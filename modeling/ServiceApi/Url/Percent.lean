import ServiceApi.Text.Numeral

/-!
# Percent-encoding

Which ASCII characters each part of a URL escapes; characters outside ASCII are always escaped, byte
by byte.
-/

namespace ServiceApi.Url

def isControl (c : Char) : Bool := c.toNat < 0x20 || c.toNat == 0x7F

def escapedInFragment (c : Char) : Bool :=
  isControl c || c == ' ' || c == '"' || c == '<' || c == '>' || c == '\x60'

def escapedInPath (c : Char) : Bool :=
  escapedInFragment c || c == '#' || c == '?' || c == '\x7b' || c == '\x7d'

def escapedInCredentials (c : Char) : Bool :=
  escapedInPath c || c == '/' || c == ':' || c == ';' || c == '=' || c == '@' || c == '[' ||
    c == '\\' || c == ']' || c == '^' || c == '|'

def escapedInQuery (special : Bool) (c : Char) : Bool :=
  isControl c || c == ' ' || c == '"' || c == '#' || c == '<' || c == '>' ||
    (special && c == '\x27')

def upperHex (n : Nat) : Char := if n < 10 then Nat.digitChar n else (Nat.digitChar n).toUpper

def escapeByte (b : UInt8) : List Char := ['%', upperHex (b.toNat / 16), upperHex (b.toNat % 16)]

def escape (escaped : Char → Bool) (cs : List Char) : List Char :=
  cs.flatMap fun c =>
    if 0x80 ≤ c.toNat || escaped c then (String.utf8EncodeChar c).flatMap escapeByte else [c]

/-- The bytes of a text with its escapes replaced by the bytes they stand for. -/
def unescape : List Char → List UInt8
  | '%' :: a :: b :: cs =>
    match Text.hexDigit? a, Text.hexDigit? b with
    | some x, some y => UInt8.ofNat (16 * x + y) :: unescape cs
    | _, _ => '%'.toNat.toUInt8 :: unescape (a :: b :: cs)
  | c :: cs => String.utf8EncodeChar c ++ unescape cs
  | [] => []

end ServiceApi.Url
