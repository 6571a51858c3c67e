import ServiceApi.Model.Load

/-!
# Service model files

A file is YAML if its extension says so, and JSON otherwise. A name that begins with its only dot
has no extension.
-/

namespace ServiceApi

inductive ModelSyntax where
  | json | yaml
  deriving DecidableEq

inductive ModelError where
  | invalid (kind : ModelSyntax)
  | unreadable (path : String)
  | invalidFile (path : String)
  deriving DecidableEq

def ModelError.message : ModelError → String
  | invalid .json => "invalid JSON service model"
  | invalid .yaml => "invalid YAML service model"
  | unreadable path => "failed to read service model " ++ path
  | invalidFile path => "failed to parse service model " ++ path

/-- The extension of the last segment of a path, without the dot. -/
def extension? (path : String) : Option String :=
  match (Text.pieces '.' (Text.lastPiece '/' path)).reverse with
  | [] | [_] | [_, ""] => none
  | extension :: _ => some extension

def ModelSyntax.ofPath (path : String) : ModelSyntax :=
  if extension? path = some "yaml" ∨ extension? path = some "yml" then .yaml else .json

namespace ServiceModel

def parse (kind : ModelSyntax) (text : String) : Except ModelError ServiceModel :=
  let model? := match kind with
    | .json => ofJson? text
    | .yaml => ofYaml? text
  match model? with
  | some m => .ok m
  | none => .error (.invalid kind)

/-- The model in the file at `path`; `text` is missing if the file cannot be read. -/
def ofFile (path : String) (text : Option String) : Except ModelError ServiceModel :=
  match text with
  | none => .error (.unreadable path)
  | some text => (parse (.ofPath path) text).mapError fun _ => .invalidFile path

end ServiceModel

end ServiceApi
