import ServiceApi.Environment.Variables
import ServiceApi.Text.Case

/-!
# Log settings
-/

namespace ServiceApi

inductive LogFormat where
  | json | pretty
  deriving DecidableEq

inductive LogLevel where
  | trace | debug | info | warn | error
  deriving DecidableEq

namespace LogFormat

/-- `json` in any case of letters; everything else is pretty. -/
def ofText (s : String) : LogFormat := if Text.toLower s = "json" then json else pretty

def name : LogFormat → String
  | json => "json"
  | pretty => "pretty"

end LogFormat

namespace LogLevel

def all : List LogLevel := [trace, debug, info, warn, error]

def name : LogLevel → String
  | trace => "TRACE"
  | debug => "DEBUG"
  | info => "INFO"
  | warn => "WARN"
  | error => "ERROR"

/-- The level named in any case of letters; everything else is `info`. -/
def ofText (s : String) : LogLevel :=
  (all.find? fun l => Text.toLower l.name == Text.toLower s).getD info

end LogLevel

structure LogSettings where
  /-- The level as it was given. -/
  levelText : String := "info"
  format : LogFormat := .pretty
  targetFilter : Option String := none
  includeLocation : Bool := false
  deriving DecidableEq

namespace LogSettings

def level (s : LogSettings) : LogLevel := .ofText s.levelText

def ofVariables (vars : Variables) : LogSettings where
  levelText := (vars.get? "ENDPOINTS_LOG_LEVEL").getD "info"
  format := ((vars.get? "ENDPOINTS_LOG_FORMAT").map .ofText).getD .pretty
  targetFilter := vars.get? "ENDPOINTS_LOG_TARGET_FILTER"
  includeLocation := vars.get? "ENDPOINTS_LOG_INCLUDE_LOCATION" == some "true"

end LogSettings

end ServiceApi
