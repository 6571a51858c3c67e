import ServiceApi.Text.Case
import ServiceApi.Text.Pieces

/-!
# Verbs in method names

A method name may begin with a verb that decides its HTTP method; the rest then names a resource.
-/

namespace ServiceApi

inductive Verb where
  | list | insert | update | delete | remove
  /-- No verb: every name begins with the empty one. -/
  | other
  deriving DecidableEq

namespace Verb

/-- The order in which verbs are tried. -/
def all : List Verb := [list, insert, update, delete, remove, other]

def word : Verb → String
  | list => "list"
  | insert => "insert"
  | update => "update"
  | delete => "delete"
  | remove => "remove"
  | other => ""

def httpMethod : Verb → String
  | list => "GET"
  | insert | other => "POST"
  | update => "PUT"
  | delete | remove => "DELETE"

/-- The part of a method name after the verb. -/
def rest? (v : Verb) (name : String) : Option (List Char) :=
  Text.after? v.word.toList name.toList

def ofMethodName (name : String) : Verb := (all.find? fun v => (v.rest? name).isSome).getD other

/-- The resource that a method name gives after the verb: `insertGreeting` names `greeting`. -/
def resource? (v : Verb) (name : String) : Option String :=
  if v = other then none
  else
    match v.rest? name with
    | none | some [] => none
    | some rest => some (Text.decapitalize (String.ofList rest))

end Verb

end ServiceApi
