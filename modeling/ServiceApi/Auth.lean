import ServiceApi.OrderedMap
import ServiceApi.Text.Blank

/-!
# Authentication settings

Levels of authentication, scope requirements, token issuers and the audiences accepted from each.
-/

namespace ServiceApi

inductive AuthLevel where
  | required | optional | optionalContinue | none
  /-- Whatever the enclosing tier says. -/
  | unspecified
  deriving DecidableEq

namespace AuthLevel

def all : List AuthLevel := [required, optional, optionalContinue, none, unspecified]

def name : AuthLevel → String
  | required => "REQUIRED"
  | optional => "OPTIONAL"
  | optionalContinue => "OPTIONAL_CONTINUE"
  | none => "NONE"
  | unspecified => "UNSPECIFIED"

/-- The level, unless it leaves the choice to the enclosing tier. -/
def specified? (level : Option AuthLevel) : Option AuthLevel :=
  level.filter (· != unspecified)

end AuthLevel

/-- A scope requirement: all scopes of at least one of the alternatives. -/
structure ScopeExpression where
  alternatives : List (List String)
  deriving DecidableEq

namespace ScopeExpression

/-- Each text is one alternative, of the scopes that blanks separate; blank texts count for
nothing. -/
def ofScopes (scopes : List String) : ScopeExpression :=
  ⟨(scopes.map Text.words).filter (!·.isEmpty)⟩

def isEmpty (e : ScopeExpression) : Bool := e.alternatives.isEmpty

/-- The alternatives in the form in which they are declared. -/
def toScopes (e : ScopeExpression) : List String := e.alternatives.map (" ".intercalate ·)

/-- Inserts into an ascending list without repetition. -/
def insertSorted (s : String) : List String → List String
  | [] => [s]
  | t :: ts => if s < t then s :: t :: ts else if s = t then t :: ts else t :: insertSorted s ts

/-- The scopes of `groups` in ascending order, each once. -/
def sortedScopes (scopes : List String) : List String :=
  scopes.foldl (fun acc s => insertSorted s acc) []

/-- Every scope that the expression mentions, in ascending order. -/
def allScopes (e : ScopeExpression) : List String := sortedScopes e.alternatives.flatten

def text (e : ScopeExpression) : String := " || ".intercalate e.toScopes

end ScopeExpression

structure Issuer where
  name : String
  issuer : String
  jwksUri : String
  deriving DecidableEq

/-- Token issuers by name. -/
abbrev Issuers := OrderedMap String Issuer

def Issuers.add (issuers : Issuers) (i : Issuer) : Issuers := issuers.insert i.name i

def Issuers.ofList (issuers : List Issuer) : Issuers := issuers.foldl Issuers.add .empty

structure IssuerAudience where
  name : String
  audiences : List String
  deriving DecidableEq

/-- Audiences by the name of the issuer they are accepted from. -/
abbrev IssuerAudiences := OrderedMap String (List String)

namespace IssuerAudiences

/-- Adds the audiences that are not there yet. -/
def add (m : IssuerAudiences) (issuer : String) (audiences : List String) : IssuerAudiences :=
  m.insert issuer <| audiences.foldl (fun known a =>
    if known.contains a then known else known ++ [a]) ((m.get? issuer).getD [])

def ofList (entries : List IssuerAudience) : IssuerAudiences :=
  entries.foldl (fun m e => add m e.name e.audiences) .empty

end IssuerAudiences

end ServiceApi
