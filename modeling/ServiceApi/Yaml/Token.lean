import ServiceApi.Node

/-!
# YAML tokens

Indentation is told by tokens of its own, which begin and end block sequences and block mappings.
-/

namespace ServiceApi.Yaml

inductive Token where
  | streamEnd
  /-- The directive that gives the version of the language. -/
  | version (major minor : Nat)
  /-- The directive that lets a handle stand for the beginning of tags. -/
  | tagHandle (handle start : String)
  | documentStart
  | documentEnd
  | blockSequence
  | blockMapping
  | blockEnd
  | flowSequence
  | flowSequenceEnd
  | flowMapping
  | flowMappingEnd
  /-- The dash before an item. -/
  | blockEntry
  /-- The comma between items. -/
  | flowEntry
  | key
  | value
  | alias (name : String)
  | anchor (name : String)
  /-- A tag, as a handle and what follows it. -/
  | tag (handle suffix : String)
  | scalar (s : Scalar)
  deriving DecidableEq

end ServiceApi.Yaml
