import ServiceApi.Document.Discovery
import ServiceApi.Document.Legacy
import ServiceApi.Document.OpenApi
import ServiceApi.Validate

/-!
# Document formats

The formats in which the configurations of one API can be written. `render` writes them as they are
and `write` validates them before. The first configuration speaks for the API as a whole.
-/

namespace ServiceApi

/-- What renders the configurations of one API: one of the formats, or anything else with a name. -/
structure DocumentWriter where
  name : String
  /-- The extension of document files. -/
  extension : String
  contentType : String
  render : List ApiConfig → Compile String

inductive DocumentFormat where
  | legacy | discovery | openApi
  deriving DecidableEq

namespace DocumentFormat

def all : List DocumentFormat := [legacy, discovery, openApi]

def name : DocumentFormat → String
  | legacy => "legacy"
  | discovery => Discovery.formatName
  | openApi => OpenApi.formatName

/-- The extension of document files. -/
def extension : DocumentFormat → String
  | legacy => "api"
  | discovery => "discovery"
  | openApi => "openapi.json"

def contentType (_ : DocumentFormat) : String := "application/json"

def noConfigs (format : DocumentFormat) : ApiError := .render format.name "<none>" .noConfigs

def document (format : DocumentFormat) (fuel : Nat) (a : ApiConfig) (configs : List ApiConfig) :
    Compile Json :=
  match format with
  | legacy => Legacy.document fuel a configs
  | discovery => Discovery.document fuel a configs
  | openApi => OpenApi.document fuel a configs

def render (format : DocumentFormat) (fuel : Nat) (configs : List ApiConfig) : Compile String :=
  match configs with
  | [] => throw format.noConfigs
  | a :: _ => return (← format.document fuel a configs).pretty

def write (format : DocumentFormat) (fuel : Nat) (configs : List ApiConfig) : Compile String := do
  Compile.ofExcept (Validate.configs fuel configs)
  format.render fuel configs

def writer (format : DocumentFormat) (fuel : Nat) : DocumentWriter where
  name := format.name
  extension := format.extension
  contentType := format.contentType
  render := format.render fuel

end DocumentFormat

end ServiceApi
