import ServiceApi.Node
import ServiceApi.Node.DoublePrecision

/-!
# Fixing the type of a scalar

Where a value is kept before it is known which field wants it, a plain scalar takes its own type
first: null, a truth value, an integer, a floating-point number, and only then a text. Values nested
too deeply, numbers beyond the range of the format and values with a tag of their own are refused.
Keys are values of this kind too.
-/

namespace ServiceApi.Node

/-- The texts that denote floating-point numbers. -/
def isFloatText (s : String) : Bool :=
  let (_, body) := Text.signed s.toList
  [".inf", ".Inf", ".INF"].contains (String.ofList body) ||
    [".nan", ".NaN", ".NAN"].contains s ||
    (Text.isUnsignedDecimal body && isFiniteDecimal body)

/-- The floating-point numbers of a plain scalar without a tag. -/
def isFloatScalar (s : String) : Bool := isFloatText s && !Scalar.isPaddedNumeral s.toList

def isInt64 (i : Int) : Bool := -0x8000000000000000 ≤ i && i < 0x10000000000000000

def isInt128 (i : Int) : Bool := -(0x80 <<< 120) ≤ i && i < 0x100 <<< 120

def resolvePlain? (s : String) : Option Node :=
  if s.isEmpty || Scalar.isNullWord s then some .null
  else
    match Scalar.boolWord? s, Scalar.int? s with
    | some b, _ => some (.bool b)
    | none, some i =>
      if isInt64 i then some (.int i)
      else if isInt128 i then none
      else if isFloatScalar s then some (.real true)
      else some (.text s)
    | none, none => if isFloatScalar s then some (.real true) else some (.text s)

def resolveTagged? (tag : String) (s : Scalar) : Option Node :=
  match tag with
  | "tag:yaml.org,2002:bool" => (Scalar.boolWord? s.text).map .bool
  | "tag:yaml.org,2002:int" =>
    match Scalar.int? s.text with
    | some i => if isInt64 i then some (.int i) else none
    | none => none
  | "tag:yaml.org,2002:float" => if isFloatText s.text then some (.real true) else none
  | "tag:yaml.org,2002:null" => if Scalar.isNullWord s.text then some .null else none
  | _ => if tag.startsWith "!" then none else some (.text s.text)

/-- A node without parts, with the type of its scalar fixed. -/
def resolveLeaf? : Node → Option Node
  | .real finite => if finite then some (.real true) else none
  | .scalar s => if s.isPlain then resolvePlain? s.text else some (.text s.text)
  | .tagged tag (.scalar s) => resolveTagged? tag s
  | .null => some .null
  | .bool b => some (.bool b)
  | .int i => some (.int i)
  | .text s => some (.text s)
  | _ => none

/-- The node has a tag that no type of the format has. -/
def hasOwnTag : Node → Bool
  | .tagged tag _ => tag.startsWith "!"
  | _ => false

/-- The node with the types of its scalars fixed, and its parts resolved by `part`, if it may have
any. -/
def resolveWith (part : Option (Node → Read Node)) (n : Node) : Read Node := do
  let n ← n.follow
  if n.hasOwnTag then failure
  match part, n.untagged with
  | some part, .list items => return .list (← items.mapM part)
  | some part, .row items => return .row (← items.mapM part)
  | some part, .record fs => return .record (← fs.mapM fun (k, v) => return (k, ← part v))
  | some part, .mapping entries =>
    return .mapping (← entries.mapM fun (k, v) => return (← part k, ← part v))
  | _, _ => leaf resolveLeaf? n

/-- The node with the types of its scalars fixed, nested at most `depth` deep. -/
def resolve : Nat → Node → Read Node
  | 0 => resolveWith none
  | depth + 1 => resolveWith (some (resolve depth))

end ServiceApi.Node
