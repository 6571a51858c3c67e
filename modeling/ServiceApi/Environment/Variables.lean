import ServiceApi.Text.Blank

/-!
# Environment variables
-/

namespace ServiceApi

/-- The variables that are set, by name. -/
abbrev Variables := List (String × String)

namespace Variables

def get? (vars : Variables) (name : String) : Option String := vars.lookup name

def nonBlank? (vars : Variables) (name : String) : Option String :=
  (vars.get? name).filter (!Text.isAllBlank ·)

end Variables

end ServiceApi
