import ServiceApi.TypeExpr
import ServiceApi.Text.Blank
import ServiceApi.Text.Letters

/-!
# Reading type expressions

    type = base ("[" "]")*
    base = "?" | "?" "extends" type | primitive | variable | name | name "<" type ("," type)* ">"

A name is a run of letters, digits, `_`, `.` and `$`; a variable is one upper-case ASCII letter
followed by ASCII digits only. Blanks may stand between tokens. Every step consumes a character, so
a text of `n` characters never needs more than `n + 1` nested steps.
-/

namespace ServiceApi.TypeExpr

inductive SyntaxError where
  | expectedName (offset : Nat)
  | expectedCommaOrAngle
  | expectedBracket
  | trailing (offset : Nat)
  deriving DecidableEq

def SyntaxError.message : SyntaxError → String
  | .expectedName offset => s!"expected a type name at offset {offset}"
  | .expectedCommaOrAngle => "expected ',' or '>'"
  | .expectedBracket => "expected ']'"
  | .trailing offset => s!"unexpected trailing input at offset {offset}"

/-- Why reading stopped, with the input from there on. -/
inductive Stop where
  | noName (rest : List Char)
  | noCommaOrAngle
  | noBracket

def isNameChar (c : Char) : Bool := Text.isAlphanumeric c || c == '_' || c == '.' || c == '$'

def isVariableName : List Char → Bool
  | [] => false
  | c :: cs => c.isUpper && cs.all Char.isDigit

def skipBlanks (cs : List Char) : List Char := cs.dropWhile Text.isBlank

/-- The input after `c`, blanks before it skipped. -/
def eat (c : Char) (cs : List Char) : Option (List Char) :=
  match skipBlanks cs with
  | [] => none
  | d :: rest => if d = c then some rest else none

/-- The name at the start of the input, blanks before it skipped. -/
def readName (cs : List Char) : Except Stop (List Char × List Char) :=
  let start := skipBlanks cs
  let name := start.takeWhile isNameChar
  if name.isEmpty then .error (.noName start) else .ok (name, start.dropWhile isNameChar)

/-- Wraps `t` in the array brackets that follow. -/
def readBrackets : Nat → TypeExpr → List Char → Except Stop (TypeExpr × List Char)
  | 0, t, cs => .ok (t, cs)
  | fuel + 1, t, cs =>
    match eat '[' cs with
    | none => .ok (t, cs)
    | some cs =>
      match eat ']' cs with
      | none => .error .noBracket
      | some cs => readBrackets fuel (.array t) cs

mutual

def readType : Nat → List Char → Except Stop (TypeExpr × List Char)
  | 0, cs => .error (.noName cs)
  | fuel + 1, cs => do
    let (base, cs) ← readBase fuel cs
    readBrackets fuel base cs

def readBase : Nat → List Char → Except Stop (TypeExpr × List Char)
  | 0, cs => .error (.noName cs)
  | fuel + 1, cs =>
    match eat '?' cs with
    | some cs =>
      match Text.after? "extends".toList (skipBlanks cs) with
      | some cs => do
        let (upper, cs) ← readType fuel cs
        return (.bounded upper, cs)
      | none => return (.wildcard, cs)
    | none => do
      let (name, cs) ← readName cs
      match Primitive.ofName? (String.ofList name) with
      | some p => return (.primitive p, cs)
      | none =>
        if isVariableName name then return (.var (String.ofList name), cs)
        else
          match eat '<' cs with
          | none => return (.raw (String.ofList name), cs)
          | some cs => do
            let (args, cs) ← readArgs fuel cs
            return (.named (String.ofList name) args, cs)

def readArgs : Nat → List Char → Except Stop (List TypeExpr × List Char)
  | 0, cs => .error (.noName cs)
  | fuel + 1, cs => do
    let (arg, cs) ← readType fuel cs
    match eat ',' cs with
    | some cs => do
      let (args, cs) ← readArgs fuel cs
      return (arg :: args, cs)
    | none =>
      match eat '>' cs with
      | some cs => return ([arg], cs)
      | none => .error .noCommaOrAngle

end

/-- The type that `s` spells, all of it. -/
def parse (s : String) : Except SyntaxError TypeExpr :=
  let cs := s.toList
  let offset (rest : List Char) := Text.utf8Size cs - Text.utf8Size rest
  match readType (3 * cs.length + 3) cs with
  | .error (.noName rest) => .error (.expectedName (offset rest))
  | .error .noCommaOrAngle => .error .expectedCommaOrAngle
  | .error .noBracket => .error .expectedBracket
  | .ok (t, rest) =>
    match skipBlanks rest with
    | [] => .ok t
    | rest => .error (.trailing (offset rest))

end ServiceApi.TypeExpr
