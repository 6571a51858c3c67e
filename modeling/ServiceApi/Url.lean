import ServiceApi.Text.Pieces
import ServiceApi.Text.Numeral

/-!
# URLs

An absolute URL in its parts, and its text. All parts are held as they are written, with reserved
and non-ASCII characters percent-encoded.
-/

namespace ServiceApi

namespace Url

inductive Host where
  | domain (name : String)
  | ipv4 (address : Nat)
  /-- Eight groups of sixteen bits. -/
  | ipv6 (groups : List Nat)
  deriving DecidableEq

inductive ParseError where
  | emptyHost
  | invalidDomain
  | invalidPort
  | invalidIpv4
  | invalidIpv6
  | invalidHostCharacter
  | relativeWithoutBase
  | relativeToOpaque
  deriving DecidableEq

def ParseError.message : ParseError → String
  | emptyHost => "empty host"
  | invalidDomain => "invalid international domain name"
  | invalidPort => "invalid port number"
  | invalidIpv4 => "invalid IPv4 address"
  | invalidIpv6 => "invalid IPv6 address"
  | invalidHostCharacter => "invalid domain character"
  | relativeWithoutBase => "relative URL without a base"
  | relativeToOpaque => "relative URL with a cannot-be-a-base base"

end Url

structure Url where
  scheme : String
  username : String := ""
  password : String := ""
  host : Option Url.Host := none
  port : Option Nat := none
  path : String
  query : Option String := none
  fragment : Option String := none
  deriving DecidableEq

namespace Url

def hexDigits (n : Nat) : String := String.ofList (Nat.toDigits 16 n)

/-- The first longest run of at least two zeros: where it starts and how long it is. -/
def zeroRun (groups : List Nat) : Option (Nat × Nat) :=
  let runAt (i : Nat) : Nat := ((groups.drop i).takeWhile (· == 0)).length
  (List.range groups.length).foldl (fun best i =>
    let n := runAt i
    if n < 2 then best
    else match best with
      | some (j, m) => if m < n then some (i, n) else some (j, m)
      | none => some (i, n)) none

def Host.text : Host → String
  | .domain name => name
  | .ipv4 a => ".".intercalate
      ([a >>> 24, (a >>> 16) % 256, (a >>> 8) % 256, a % 256].map toString)
  | .ipv6 groups =>
    match zeroRun groups with
    | none => "[" ++ ":".intercalate (groups.map hexDigits) ++ "]"
    | some (start, length) =>
      "[" ++ ":".intercalate ((groups.take start).map hexDigits) ++ "::" ++
        ":".intercalate ((groups.drop (start + length)).map hexDigits) ++ "]"

def authority (u : Url) : String :=
  match u.host with
  | none => match u.path.toList with
    -- Two leading slashes of a path would be taken for an authority.
    | '/' :: '/' :: _ => "/."
    | _ => ""
  | some host =>
    let credentials :=
      if u.username.isEmpty && u.password.isEmpty then ""
      else u.username ++ (if u.password.isEmpty then "" else ":" ++ u.password) ++ "@"
    "//" ++ credentials ++ host.text ++ (u.port.elim "" fun p => ":" ++ toString p)

def text (u : Url) : String :=
  u.scheme ++ ":" ++ u.authority ++ u.path ++ (u.query.elim "" ("?" ++ ·))
    ++ (u.fragment.elim "" ("#" ++ ·))

/-- Whether the URL cannot be a base: what follows its colon does not begin with a slash. -/
def isOpaque (u : Url) : Bool := u.host.isNone && u.path.toList.head? != some '/'

end Url

end ServiceApi
