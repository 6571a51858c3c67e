import ServiceApi.Text.Numeral

/-!
# Documents as they are read

A `Node` is what a JSON or a YAML text holds before anything is known about the fields it is meant
for. A JSON value has a type of its own. A YAML scalar has none until a field asks for one: `1.0`
and `yes` are texts where a text is wanted. This module says how a node is read as a text, a
truth value, an integer, an optional value, a list, an enumeration and the fields of a record.
An alias is read as the node it means, as often as the document lets aliases be followed.
-/

namespace ServiceApi

/-- How a scalar is written: without quotes, in quotes, or as a block of lines, which are kept or
folded. -/
inductive ScalarStyle where
  | plain | quoted | literal | folded
  deriving DecidableEq

/-- A scalar whose type is left to the reader. -/
structure Scalar where
  text : String
  style : ScalarStyle
  deriving DecidableEq

inductive Node where
  | null
  | bool (b : Bool)
  | int (n : Int)
  /-- A number that is no 64-bit integer; `finite` if it is in the range of double precision. -/
  | real (finite : Bool)
  | text (s : String)
  | scalar (s : Scalar)
  | list (items : List Node)
  /-- A list that may also stand for a record: its items are the fields in order. -/
  | row (items : List Node)
  | record (fields : List (String × Node))
  /-- A record whose keys are nodes themselves. -/
  | mapping (entries : List (Node × Node))
  | tagged (tag : String) (value : Node)
  /-- Whatever node has the number in its document. -/
  | alias (number : Nat)
  /-- A value that can be skipped but not read: a string with an unpaired surrogate, or a record
  with such a key. -/
  | malformed
  deriving Inhabited

namespace Scalar

def isPlain (s : Scalar) : Bool := s.style == .plain

def isNullWord (s : String) : Bool := ["null", "Null", "NULL", "~"].contains s

/-- A plain scalar that is empty or one of the words for null. -/
def isNull (s : Scalar) : Bool := s.isPlain && (s.text.isEmpty || isNullWord s.text)

def isVoid (s : Scalar) : Bool := s.isPlain && s.text.isEmpty

def boolWord? (s : String) : Option Bool :=
  if ["true", "True", "TRUE"].contains s then some true
  else if ["false", "False", "FALSE"].contains s then some false
  else none

/-- Zeros in front of further digits make a text, not a number. -/
def isPaddedNumeral (cs : List Char) : Bool :=
  match (Text.signed cs).2 with
  | '0' :: d :: rest => (d :: rest).all Char.isDigit
  | _ => false

/-- The integer a plain scalar denotes: decimal, or `0x`, `0o` and `0b` for the other bases. -/
def int? (s : String) : Option Int :=
  let (negative, body) := Text.signed s.toList
  let withSign (n : Nat) : Int := if negative then -(n : Int) else n
  let based : Option Int :=
    match body with
    | '0' :: 'x' :: digits => (Text.numeral? 16 digits).map withSign
    | '0' :: 'o' :: digits => (Text.numeral? 8 digits).map withSign
    | '0' :: 'b' :: digits => (Text.numeral? 2 digits).map withSign
    | _ => none
  based.or (if isPaddedNumeral s.toList then none else (Text.decimal? body).map withSign)

end Scalar

namespace Node

/-- The node under its tags. -/
def untagged : Node → Node
  | .tagged _ v => v.untagged
  | v => v

def asText? (n : Node) : Option String :=
  match n.untagged with
  | .text s => some s
  | .scalar s => some s.text
  | _ => none

def boolTag : String := "tag:yaml.org,2002:bool"

def intTag : String := "tag:yaml.org,2002:int"

def nullTag : String := "tag:yaml.org,2002:null"

/-- The text of a scalar that may denote a value of the type `tag`: a plain one, or a literal block
with that tag. -/
def denoting? (tag : String) : Node → Option String
  | .scalar s => if s.isPlain then some s.text else none
  | .tagged t (.scalar s) =>
    if s.isPlain || (s.style == .literal && t == tag) then some s.text else none
  | _ => none

def asBool? (n : Node) : Option Bool :=
  match n with
  | .bool b => some b
  | n => (n.denoting? boolTag).bind Scalar.boolWord?

/-- The integer a node denotes, if it lies within `lo` and `hi`. -/
def asInt? (lo hi : Int) (n : Node) : Option Int := do
  let i ← match n with
    | .int i => some i
    | n => (n.denoting? intTag).bind Scalar.int?
  if lo ≤ i ∧ i ≤ hi then some i else none

def asInt32? : Node → Option Int := asInt? (-0x80000000) 0x7FFFFFFF

def asInt64? : Node → Option Int := asInt? (-0x8000000000000000) 0x7FFFFFFFFFFFFFFF

/-- The items of a list; an empty plain scalar is an empty list. -/
def items? (n : Node) : Option (List Node) :=
  match n.untagged with
  | .list items | .row items => some items
  | .scalar s => if s.isVoid then some [] else none
  | _ => none

/-- The name of an enumeration value: a text, a tag on nothing, or a record with that one key and
the value null. -/
def variantName? : Node → Option String
  | .text s => some s
  | .scalar s => some s.text
  | .record [(name, .null)] => some name
  | .tagged tag v =>
    match tag.toList, v with
    | '!' :: name, .scalar s => if s.isNull then some (String.ofList name) else none
    | '!' :: _, _ => none
    | _, v => v.variantName?
  | _ => none

def asVariant? {α : Type} (variants : List α) (name : α → String) (n : Node) : Option α := do
  let s ← n.variantName?
  variants.find? fun a => name a == s

/-- Nothing where a value may be missing: null, and a plain scalar for it. A tag makes a scalar a
value, except the tag of null, which stands on words for null alone. -/
def isMissing? : Node → Option Bool
  | .null => some true
  | .scalar s => some s.isNull
  | .tagged tag (.scalar s) =>
    if s.isPlain && tag == nullTag then if Scalar.isNullWord s.text then some true else none
    else some false
  | _ => some false

/-! ## Reading within a document -/

/-- What nodes are read in. -/
structure Source where
  /-- The nodes that aliases mean, by their numbers. -/
  anchored : List (Nat × Node) := []
  /-- How deeply the value of a parameter's field may nest. -/
  depth : Nat

/-- A reading, which keeps how many more aliases may be followed. -/
abbrev Read (α : Type) := ReaderT Source (StateT Nat Option) α

/-- The node itself, or the one that an alias means. -/
def follow (n : Node) : Read Node := do
  match n with
  | .alias number =>
    match ← get with
    | 0 => failure
    | left + 1 =>
      set left
      match (← read).anchored.lookup number with
      | some n => return n
      | none => failure
  | n => return n

/-- Reads a value that has no parts. -/
def leaf {α : Type} (f : Node → Option α) (n : Node) : Read α := do
  match f (← n.follow) with
  | some a => return a
  | none => failure

def asText : Node → Read String := leaf asText?

def asBool : Node → Read Bool := leaf asBool?

def asInt32 : Node → Read Int := leaf asInt32?

def asInt64 : Node → Read Int := leaf asInt64?

def asVariant {α : Type} (variants : List α) (name : α → String) : Node → Read α :=
  leaf (asVariant? variants name)

/-- A value that may be missing. -/
def asOptional {α : Type} (value : Node → Read α) (n : Node) : Read (Option α) := do
  let n ← n.follow
  if ← leaf isMissing? n then return none else return some (← value n)

def asList {α : Type} (item : Node → Read α) (n : Node) : Read (List α) := do
  (← leaf items? n).mapM item

/-- The fields a record gives a value, each at most once. -/
abbrev Fields := List (String × Node)

/-- The known ones of the fields that a record gives, each of them at most once. -/
def Fields.pick (known : List String) (fs : Fields) : Read Fields :=
  let given := fs.filter fun f => known.contains f.1
  if (given.map Prod.fst).Nodup then return given else failure

/-- The entries of a mapping, by their keys as texts. -/
def readEntries (entries : List (Node × Node)) : Read Fields :=
  entries.mapM fun (k, v) => return (← asText k, v)

/-- The known fields that a node gives. A record may give each of them once and anything else as
often as it likes; a row gives them in order and may stop early. -/
def fields (known : List String) (n : Node) : Read Fields := do
  match (← n.follow).untagged with
  | .record fs => Fields.pick known fs
  | .mapping entries => Fields.pick known (← readEntries entries)
  | .row items => if items.length ≤ known.length then return known.zip items else failure
  | .scalar s => if s.isVoid then return [] else failure
  | _ => failure

def Fields.required {α : Type} (fs : Fields) (name : String) (value : Node → Read α) : Read α :=
  match fs.lookup name with
  | some n => value n
  | none => failure

def Fields.withDefault {α : Type} (fs : Fields) (name : String) (default : α)
    (value : Node → Read α) : Read α :=
  match fs.lookup name with
  | none => return default
  | some n => value n

/-- A field that may be missing or null. -/
def Fields.optional {α : Type} (fs : Fields) (name : String) (value : Node → Read α) :
    Read (Option α) :=
  fs.withDefault name none (asOptional value)

def Fields.list {α : Type} (fs : Fields) (name : String) (value : Node → Read α) :
    Read (List α) :=
  fs.withDefault name [] (asList value)

/-- How deeply the value of a parameter's field may nest. -/
def nesting : Read Nat := return (← read).depth

/-- What a JSON value is read in: there are no aliases, and a text nests at most 127 deep, of which
a parameter takes seven levels. -/
def Source.json : Source := { depth := 120 }

/-- What is read in `source`, where `follows` aliases may be followed. -/
def Read.from? {α : Type} (r : Read α) (source : Source) (follows : Nat) : Option α :=
  ((r.run source).run follows).map Prod.fst

/-- What a JSON value is read as. -/
def readJson? {α : Type} (value : Node → Read α) (n : Node) : Option α :=
  (value n).from? .json 0

end Node

end ServiceApi
