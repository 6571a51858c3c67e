import ServiceApi.Yaml.Scalar
import ServiceApi.Yaml.Tag
import ServiceApi.Yaml.Token

/-!
# From a YAML text to its tokens

A key without an indicator shows only at the colon after it. So the place of every token that may
begin such a key is kept, and the tokens of the key and of the mapping that it opens are put in
there once the colon is met. A key of this kind lies within one line and 1024 bytes; in a block,
what stands at the indentation of the collection has to be one.
-/

namespace ServiceApi.Yaml

/-- A place where a key without an indicator may begin. -/
structure KeyPlace where
  /-- Nothing else can stand there. -/
  required : Bool
  /-- How many tokens stand before it. -/
  tokens : Nat
  cursor : Cursor

structure Lexer where
  cursor : Cursor
  /-- The tokens so far, the last one first. -/
  tokens : List Token := []
  /-- The column of the innermost block collection, and of those around it. -/
  indents : List Nat := []
  /-- A key without an indicator may begin here. -/
  keyAllowed : Bool := true
  /-- The place of a possible key on the level of the block, -/
  blockKey : Option KeyPlace := none
  /-- and on the level of each open flow collection, the innermost first. -/
  flowKeys : List (Option KeyPlace) := []

namespace Lexer

variable (s : Lexer)

def inFlow : Bool := !s.flowKeys.isEmpty

/-- The column of the innermost block collection. -/
def indent? : Option Nat := s.indents.head?

def emit (t : Token) : Lexer := { s with tokens := t :: s.tokens }

/-- Puts a token in where `n` tokens stand before it. -/
def emitAt (n : Nat) (t : Token) : Lexer :=
  let after := s.tokens.length - n
  { s with tokens := s.tokens.take after ++ t :: s.tokens.drop after }

/-- The possible key of the innermost level. -/
def key? : Option KeyPlace := s.flowKeys.headD s.blockKey

def setKey (key : Option KeyPlace) : Lexer :=
  match s.flowKeys with
  | [] => { s with blockKey := key }
  | _ :: keys => { s with flowKeys := key :: keys }

/-- Gives up the possible key of this level, which must not be a required one. -/
def dropKey : Option Lexer :=
  if s.key?.any (·.required) then none else some (s.setKey none)

/-- Keeps this place for a possible key, if one may begin here. -/
def saveKey : Option Lexer :=
  if s.keyAllowed then do
    let required := !s.inFlow && s.indent? == some s.cursor.column
    return (← s.dropKey).setKey (some ⟨required, s.tokens.length, s.cursor⟩)
  else some s

/-- A key cannot begin at this place any more. -/
def isStale (key : KeyPlace) : Bool :=
  key.cursor.line < s.cursor.line || key.cursor.index + 1024 < s.cursor.index

/-- Gives up the places that are too far back. -/
def dropStaleKeys : Option Lexer :=
  let keep (key : Option KeyPlace) : Option KeyPlace := key.filter (!s.isStale ·)
  if (s.blockKey :: s.flowKeys).any fun key => key.any fun k => k.required && s.isStale k then none
  else some { s with blockKey := keep s.blockKey, flowKeys := s.flowKeys.map keep }

/-- Opens a block collection at `column`, unless one is open there. Its token goes in after `n`
others. -/
def openBlock (column : Nat) (t : Token) (n : Nat) : Lexer :=
  if s.inFlow || s.indent?.any (column ≤ ·) then s
  else { s.emitAt n t with indents := column :: s.indents }

/-- Closes the block collections that are indented more deeply than `column`; all of them if there
is none. -/
def closeBlocks (column : Option Nat) : Lexer :=
  if s.inFlow then s
  else
    let isDeeper (indent : Nat) : Bool := column.all (· < indent)
    let closed := (s.indents.takeWhile isDeeper).length
    { s with
      indents := s.indents.drop closed
      tokens := List.replicate closed .blockEnd ++ s.tokens }

/-- Passes blanks, comments and line breaks, and a byte order mark at the start of a line. A tab is
not passed where a key may begin in a block. -/
def skipToToken : Nat → Lexer → Lexer
  | 0, s => s
  | fuel + 1, s =>
    let p := if s.cursor.column = 0 && s.cursor.sees '\ufeff' then s.cursor.skip 1 else s.cursor
    let p := p.skipWhile fun c => c == ' ' || ((s.inFlow || !s.keyAllowed) && c == '\t')
    let p := if p.sees '#' then p.skipWhile (!isBreak ·) else p
    if p.seesBreak then
      skipToToken fuel { s with cursor := p.skipBreak, keyAllowed := s.keyAllowed || !s.inFlow }
    else { s with cursor := p }

def skip (n : Nat) : Lexer := { s with cursor := s.cursor.skip n }

/-- Ends all block collections at the start of a line that belongs to no document. -/
def endDocument : Option Lexer := do
  return { ← (s.closeBlocks none).dropKey with keyAllowed := false }

def readStreamEnd : Option Lexer := do
  return (← s.endDocument).emit .streamEnd

def readDirectiveLine : Option Lexer := do
  let s ← s.endDocument
  let (d, cursor) ← readDirective (s.cursor.skip 1)
  let token := match d with
    | .version major minor => Token.version major minor
    | .tagHandle handle start => Token.tagHandle handle start
  return { s.emit token with cursor }

def readMarker (t : Token) : Option Lexer := do
  return ((← s.endDocument).emit t).skip 3

def openFlow (t : Token) : Option Lexer := do
  let s ← s.saveKey
  return ({ s with flowKeys := none :: s.flowKeys, keyAllowed := true }.emit t).skip 1

def closeFlow (t : Token) : Option Lexer := do
  let s ← s.dropKey
  return ({ s with flowKeys := s.flowKeys.drop 1, keyAllowed := false }.emit t).skip 1

def readFlowEntry : Option Lexer := do
  return ({ ← s.dropKey with keyAllowed := true }.emit .flowEntry).skip 1

/-- A block collection opened right here, where its indicator must be allowed to stand. -/
def openBlockHere (t : Token) : Option Lexer :=
  if s.inFlow then some s
  else if s.keyAllowed then some (s.openBlock s.cursor.column t s.tokens.length)
  else none

def readBlockEntry : Option Lexer := do
  let s ← s.openBlockHere .blockSequence
  return ({ ← s.dropKey with keyAllowed := true }.emit .blockEntry).skip 1

def readKey : Option Lexer := do
  let s ← s.openBlockHere .blockMapping
  return ({ ← s.dropKey with keyAllowed := !s.inFlow }.emit .key).skip 1

def readValue : Option Lexer :=
  match s.key? with
  | some key =>
    let s := (s.emitAt key.tokens .key).openBlock key.cursor.column .blockMapping key.tokens
    some (({ s.setKey none with keyAllowed := false }.emit .value).skip 1)
  | none => do
    let s ← s.openBlockHere .blockMapping
    return ({ s with keyAllowed := !s.inFlow }.emit .value).skip 1

def readAnchor (t : String → Token) : Option Lexer := do
  let s ← s.saveKey
  let (name, cursor) ← readName (s.cursor.skip 1)
  return { s.emit (t name) with cursor, keyAllowed := false }

def readTagToken : Option Lexer := do
  let s ← s.saveKey
  let (handle, suffix, cursor) ← readTag s.inFlow s.cursor
  return { s.emit (.tag handle suffix) with cursor, keyAllowed := false }

def readBlockScalar (literal : Bool) : Option Lexer := do
  let s ← s.dropKey
  let (text, cursor) ← readBlock literal s.indent? (s.cursor.skip 1)
  let style := if literal then ScalarStyle.literal else .folded
  return { s.emit (.scalar ⟨String.ofList text, style⟩) with cursor, keyAllowed := true }

def readQuotedScalar (single : Bool) : Option Lexer := do
  let s ← s.saveKey
  let p := s.cursor.skip 1
  let (text, cursor) ← readQuoted single (p.rest.length + 1) [] p
  return { s.emit (.scalar ⟨String.ofList text, .quoted⟩) with cursor, keyAllowed := false }

def readPlainScalar : Option Lexer := do
  let s ← s.saveKey
  let p := s.cursor
  let plain ← readPlain s.inFlow (s.indent?.elim 0 (· + 1)) (p.rest.length + 1) [] {} p
  return { s.emit (.scalar ⟨String.ofList plain.text, .plain⟩) with
    cursor := plain.cursor
    keyAllowed := plain.broken }

/-- Characters that begin no plain scalar. -/
def isIndicator (c : Char) : Bool :=
  ['-', '?', ':', ',', '[', ']', '\x7b', '\x7d', '#', '&', '*', '!', '|', '>',
    '\x27', '"', '%', '@', '\x60'].contains c

/-- A plain scalar begins here. A dash, and in a block a question mark or a colon, may begin one if
no blank follows. -/
def startsPlain (c : Char) : Bool :=
  let p := s.cursor
  !(isIndicator c || isBlank c || isBreak c) || (c == '-' && !(p.peekAt? 1).any isBlank) ||
    (!s.inFlow && (c == '?' || c == ':') && !p.spaceAt 1)

/-- Reads one token after blanks and comments: nothing if the text is ill-formed. -/
def readToken : Option Lexer := do
  let s ← (skipToToken (s.cursor.rest.length + 1) s).dropStaleKeys
  let s := s.closeBlocks (some s.cursor.column)
  let p := s.cursor
  match p.peek? with
  | none => s.readStreamEnd
  | some c =>
    if p.column = 0 && c == '%' then s.readDirectiveLine
    else if p.seesMarker '-' then s.readMarker .documentStart
    else if p.seesMarker '.' then s.readMarker .documentEnd
    else if c == '[' then s.openFlow .flowSequence
    else if c == '\x7b' then s.openFlow .flowMapping
    else if c == ']' then s.closeFlow .flowSequenceEnd
    else if c == '\x7d' then s.closeFlow .flowMappingEnd
    else if c == ',' then s.readFlowEntry
    else if c == '-' && p.spaceAt 1 then s.readBlockEntry
    else if c == '?' && (s.inFlow || p.spaceAt 1) then s.readKey
    else if c == ':' && (s.inFlow || p.spaceAt 1) then s.readValue
    else if c == '*' then s.readAnchor .alias
    else if c == '&' then s.readAnchor .anchor
    else if c == '!' then s.readTagToken
    else if c == '|' && !s.inFlow then s.readBlockScalar true
    else if c == '>' && !s.inFlow then s.readBlockScalar false
    else if c == '\x27' then s.readQuotedScalar true
    else if c == '"' then s.readQuotedScalar false
    else if s.startsPlain c then s.readPlainScalar
    else none

/-- Reads tokens up to the end of the stream. -/
def readAll : Nat → Lexer → Option (List Token)
  | 0, _ => none
  | fuel + 1, s => do
    let s ← s.readToken
    if s.tokens.head? == some .streamEnd then return s.tokens.reverse
    else readAll fuel s

end Lexer

/-- The tokens of a text, which end with the end of the stream. -/
def tokens? (text : String) : Option (List Token) :=
  let cs := text.toList
  if cs.all isAllowed then Lexer.readAll (cs.length + 1) { cursor := { rest := cs } } else none

end ServiceApi.Yaml
