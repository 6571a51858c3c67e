import ServiceApi.Text.Mark
import ServiceApi.Url.Domain.Composition
import ServiceApi.Url.Domain.Direction
import ServiceApi.Url.Domain.Folding
import ServiceApi.Url.Domain.Joining
import ServiceApi.Url.Percent
import ServiceApi.Url.Punycode

/-!
# Domains

A domain is folded, composed and cut into labels at its dots. A label that holds other characters
than ASCII is written in ASCII after `xn--`; one that comes in that form must be the form of a label
that is folded and composed already.
-/

namespace ServiceApi.Url.Domain

def forbiddenInHost (c : Char) : Bool :=
  c.toNat == 0 || c == '\t' || c == '\n' || c == '\r' ||
    [' ', '#', '/', ':', '<', '>', '?', '@', '[', '\\', ']', '^', '|'].contains c

def forbiddenInDomain (c : Char) : Bool := forbiddenInHost c || isControl c || c == '%'

def isAscii (cs : List Char) : Bool := cs.all (·.toNat < 0x80)

/-- Folded and composed, as two writings of one domain compare. -/
def folded? (cs : List Char) : Option (List Char) :=
  (cs.mapM fold?).map fun texts => composed texts.flatten

/-- A label as it is read and as it is written in ASCII. -/
structure Label where
  text : List Char
  ascii : List Char

def encodedStart : List Char := ['x', 'n', '-', '-']

/-- The most characters that are decoded, and the most that are encoded. -/
def decodeLimit : Nat := 2000
def encodeLimit : Nat := 1000

/-- A label of a folded domain. -/
def Label.ofFolded? (label : List Char) : Option Label :=
  match Text.after? encodedStart label with
  | some encoded => do
    if encoded.length > decodeLimit || encoded.getLast?.all (· == '-') then none
    let text ← Punycode.decode? encoded
    if folded? text == some text && !text.contains '.' then some ⟨text, label⟩ else none
  | none =>
    some ⟨label, if isAscii label then label else encodedStart ++ Punycode.encode label⟩

def Label.isValid (label : Label) : Bool :=
  !label.text.any forbiddenInDomain && !label.text.head?.any Text.isMark
    && joinersStand [] label.text && (isAscii label.text || label.text.length ≤ encodeLimit)

/-- A domain in its ASCII form. -/
def toAscii? (cs : List Char) : Option (List Char) := do
  let labels ← (Text.piecesOf '.' (← folded? cs)).mapM Label.ofFolded?
  let fromRight := labels.any (·.text.any fun c => (direction c).isFromRight)
  if labels.all Label.isValid && (!fromRight || labels.all (isOneWay ·.text)) then
    some (['.'].intercalate (labels.map Label.ascii))
  else none

end ServiceApi.Url.Domain
