/-!
# Stages of an API in a generation run

An API is validated and then emitted, and can fail on the way to either. Emitted and failed are
final.
-/

namespace ServiceApi

inductive Stage where
  | unvalidated | validated | emitted | failed
  deriving DecidableEq

namespace Stage

def name : Stage → String
  | unvalidated => "UNVALIDATED"
  | validated => "VALIDATED"
  | emitted => "EMITTED"
  | failed => "FAILED"

def all : List Stage := [unvalidated, validated, emitted, failed]

def canMoveTo : Stage → Stage → Bool
  | unvalidated, validated | unvalidated, failed | validated, emitted | validated, failed => true
  | _, _ => false

end Stage

end ServiceApi
