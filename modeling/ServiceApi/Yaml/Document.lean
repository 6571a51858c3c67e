import ServiceApi.Yaml.Lexer

/-!
# From YAML tokens to a node

A text holds one document at most; no document is an empty scalar. An anchor puts a node under a
number, and an alias means whatever node is under its number at the end of the document, so it may
stand within that node. What aliases can be followed depends on the size of the document.
-/

namespace ServiceApi.Yaml

/-- The anchors of a document. An anchor is numbered by how many names are known before it. -/
structure Anchors where
  numbers : List (String × Nat) := []
  /-- The last one first. -/
  nodes : List (Nat × Node) := []

namespace Anchors

/-- Puts an anchor on a node. -/
def add (a : Anchors) (name : String) (n : Node) : Anchors :=
  let number := a.numbers.length
  { numbers := (name, number) :: a.numbers.filter (·.1 != name), nodes := (number, n) :: a.nodes }

/-- Replaces the node of the anchor that was added when there were `count` others. -/
def complete (a : Anchors) (count : Nat) (n : Node) : Anchors :=
  { a with nodes := (a.nodes.reverse.modify count fun e => (e.1, n)).reverse }

end Anchors

/-- What reading a node needs to know and keeps. -/
structure Reading where
  tokens : List Token
  anchors : Anchors := {}
  /-- What the handles of tags stand for. -/
  handles : List (String × String)

abbrev Reader := StateT Reading Option

def peek : Reader Token := do
  match (← get).tokens with
  | t :: _ => return t
  | [] => failure

def advance : Reader Unit := modify fun r => { r with tokens := r.tokens.drop 1 }

def expect (t : Token) : Reader Unit := do
  if (← peek) = t then advance else failure

/-- Passes `t`, if it follows. -/
def accept (t : Token) : Reader Bool := do
  if (← peek) = t then
    advance
    return true
  else return false

def emptyScalar : Node := .scalar ⟨"", .plain⟩

/-! ## Properties of a node -/

structure Properties where
  anchor : Option String := none
  /-- In full. -/
  tag : Option String := none

def readAnchorName : Reader (Option String) := do
  match ← peek with
  | .anchor name =>
    advance
    return some name
  | _ => return none

/-- A tag in full; its handle must be known. -/
def readFullTag : Reader (Option String) := do
  match ← peek with
  | .tag handle suffix =>
    advance
    if handle.isEmpty then return some suffix
    match (← get).handles.lookup handle with
    | some start => return some (start ++ suffix)
    | none => failure
  | _ => return none

/-- An anchor and a tag, in either order. -/
def readProperties : Reader Properties := do
  match ← readAnchorName with
  | some anchor => return { anchor, tag := ← readFullTag }
  | none =>
    let tag ← readFullTag
    return { anchor := ← readAnchorName, tag }

def withTag (tag : Option String) (n : Node) : Node := tag.elim n (.tagged · n)

/-- A scalar with its properties. -/
def finishScalar (ps : Properties) (s : Scalar) : Reader Node := do
  let n := withTag ps.tag (.scalar s)
  match ps.anchor with
  | some name => modify fun r => { r with anchors := r.anchors.add name n }
  | none => pure ()
  return n

/-- A collection with its properties. Its anchor comes before those of its items. -/
def finishCollection (ps : Properties) (content : Reader Node) : Reader Node := do
  match ps.anchor with
  | none => return withTag ps.tag (← content)
  | some name =>
    let count := (← get).anchors.nodes.length
    modify fun r => { r with anchors := r.anchors.add name .malformed }
    let n := withTag ps.tag (← content)
    modify fun r => { r with anchors := r.anchors.complete count n }
    return n

/-! ## Nodes -/

/-- The tokens before which a key or a value of a block mapping is left out. -/
def endsBlockPart (t : Token) : Bool := t = .key || t = .value || t = .blockEnd

mutual

/-- A node. `block` says that a block collection may stand here, and `dashes` that the items of a
sequence may, without indentation. -/
def readNode : Nat → Bool → Bool → Reader Node
  | 0, _, _ => failure
  | fuel + 1, block, dashes => do
    match ← peek with
    | .alias name =>
      advance
      match (← get).anchors.numbers.lookup name with
      | some number => return .alias number
      | none => failure
    | _ =>
      let ps ← readProperties
      match ← peek with
      | .scalar s =>
        advance
        finishScalar ps s
      | .flowSequence =>
        advance
        finishCollection ps (return .list (← readFlowItems fuel true))
      | .flowMapping =>
        advance
        finishCollection ps (return .mapping (← readFlowPairs fuel true))
      | t =>
        if dashes && t = .blockEntry then
          finishCollection ps (return .list (← readDashedItems fuel))
        else if block && t = .blockSequence then
          advance
          finishCollection ps (return .list (← readBlockItems fuel))
        else if block && t = .blockMapping then
          advance
          finishCollection ps (return .mapping (← readBlockPairs fuel))
        else if ps.anchor.isSome || ps.tag.isSome then
          finishScalar ps ⟨"", .plain⟩
        else failure

/-- The items of a block sequence up to its end. -/
def readBlockItems : Nat → Reader (List Node)
  | 0 => failure
  | fuel + 1 => do
    if ← accept .blockEnd then return []
    expect .blockEntry
    let t ← peek
    let item ←
      if t = .blockEntry || t = .blockEnd then pure emptyScalar else readNode fuel true false
    return item :: (← readBlockItems fuel)

/-- Items that are not indented, as long as there are any. -/
def readDashedItems : Nat → Reader (List Node)
  | 0 => failure
  | fuel + 1 => do
    if !(← accept .blockEntry) then return []
    let t ← peek
    let item ←
      if t = .blockEntry || endsBlockPart t then pure emptyScalar else readNode fuel true false
    return item :: (← readDashedItems fuel)

/-- The keys and values of a block mapping up to its end. -/
def readBlockPairs : Nat → Reader (List (Node × Node))
  | 0 => failure
  | fuel + 1 => do
    if ← accept .blockEnd then return []
    expect .key
    let key ← if endsBlockPart (← peek) then pure emptyScalar else readNode fuel true true
    let value ←
      if ← accept .value then
        if endsBlockPart (← peek) then pure emptyScalar else readNode fuel true true
      else pure emptyScalar
    return (key, value) :: (← readBlockPairs fuel)

/-- The items of a flow sequence up to its end, a comma between two. A key opens a mapping of its
own. -/
def readFlowItems : Nat → Bool → Reader (List Node)
  | 0, _ => failure
  | fuel + 1, first => do
    if ← accept .flowSequenceEnd then return []
    if !first then expect .flowEntry
    if ← accept .flowSequenceEnd then return []
    let item ←
      if ← accept .key then readFlowPair fuel
      else readNode fuel false false
    return item :: (← readFlowItems fuel false)

/-- A mapping with one pair that stands as an item of a flow sequence, after the token of its
key. -/
def readFlowPair : Nat → Reader Node
  | 0 => failure
  | fuel + 1 => do
    let t ← peek
    let key ←
      if t = .value || t = .flowEntry || t = .flowSequenceEnd then
        -- What stands in place of the key is passed as well.
        advance
        pure emptyScalar
      else readNode fuel false false
    let value ←
      if ← accept .value then
        let t ← peek
        if t = .flowEntry || t = .flowSequenceEnd then pure emptyScalar
        else readNode fuel false false
      else pure emptyScalar
    return .mapping [(key, value)]

/-- The keys and values of a flow mapping up to its end, a comma between two. -/
def readFlowPairs : Nat → Bool → Reader (List (Node × Node))
  | 0, _ => failure
  | fuel + 1, first => do
    if ← accept .flowMappingEnd then return []
    if !first then expect .flowEntry
    if ← accept .flowMappingEnd then return []
    let ends (t : Token) : Bool := t = .flowEntry || t = .flowMappingEnd
    let pair ←
      if ← accept .key then
        let t ← peek
        let key ← if t = .value || ends t then pure emptyScalar else readNode fuel false false
        let value ←
          if ← accept .value then
            if ends (← peek) then pure emptyScalar else readNode fuel false false
          else pure emptyScalar
        pure (key, value)
      else pure (← readNode fuel false false, emptyScalar)
    return pair :: (← readFlowPairs fuel false)

end

/-! ## Documents -/

def defaultHandles : List (String × String) := [("!", "!"), ("!!", "tag:yaml.org,2002:")]

/-- Reads the directives before a document: one version at most, and each handle once. -/
def readDirectives : Nat → Bool → List (String × String) → Reader Unit
  | 0, _, _ => failure
  | fuel + 1, versioned, handles => do
    match ← peek with
    | .version major minor =>
      if versioned || major ≠ 1 || !(minor = 1 || minor = 2) then failure
      advance
      readDirectives fuel true handles
    | .tagHandle handle start =>
      if (handles.lookup handle).isSome then failure
      advance
      readDirectives fuel versioned ((handle, start) :: handles)
    | _ => modify fun r => { r with handles := handles ++ r.handles }

def isDirective : Token → Bool
  | .version .. | .tagHandle .. => true
  | _ => false

/-- The content of a document after its marker. -/
def readContent (fuel : Nat) : Reader Node := do
  let t ← peek
  if isDirective t || t = .documentStart || t = .documentEnd || t = .streamEnd then
    return emptyScalar
  else readNode fuel true false

/-- The one document of a stream. -/
def readDocument (fuel : Nat) : Reader Node := do
  let t ← peek
  if t = .streamEnd then return emptyScalar
  let n ←
    if isDirective t || t = .documentStart then
      readDirectives fuel false []
      expect .documentStart
      readContent fuel
    else readNode fuel true false
  modify fun r => { r with tokens := r.tokens.dropWhile (· = .documentEnd) }
  expect .streamEnd
  return n

mutual

/-- How many parts a node is written in: a scalar or an alias is one, and a collection has a
beginning and an end. -/
def partCount : Node → Nat
  | .list items | .row items => partsOfItems items + 2
  | .mapping entries => partsOfEntries entries + 2
  | .tagged _ n => partCount n
  | _ => 1

def partsOfItems : List Node → Nat
  | [] => 0
  | n :: ns => partCount n + partsOfItems ns

def partsOfEntries : List (Node × Node) → Nat
  | [] => 0
  | (k, v) :: es => partCount k + partCount v + partsOfEntries es

end

/-- A document that has been read. -/
structure Document where
  root : Node
  anchored : List (Nat × Node)

/-- The document that a YAML text holds. -/
def Document.ofText? (text : String) : Option Document := do
  let tokens ← tokens? text
  let (root, r) ← (readDocument (2 * tokens.length + 2)).run { tokens, handles := defaultHandles }
  return { root, anchored := r.anchors.nodes }

/-- What is read in a document. A document nests at most 128 deep, of which a parameter takes seven
levels, and aliases are followed a hundred times for every part of it. -/
def Document.read? {α : Type} (d : Document) (value : Node → Node.Read α) : Option α :=
  (value d.root).from? { anchored := d.anchored, depth := 121 } (100 * partCount d.root)

end ServiceApi.Yaml
