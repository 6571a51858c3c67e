import ServiceApi.Text.Blank

/-!
# HTTP methods

A method is a token: a non-empty run of ASCII letters, digits and certain marks.
-/

namespace ServiceApi.HttpMethod

def isTokenChar (c : Char) : Bool :=
  c.isAlphanum ||
    ['!', '#', '$', '%', '&', '\x27', '*', '+', '-', '.', '^', '_', '\x60', '|', '~'].contains c

/-- The method that a text names, in upper case. -/
def parse? (s : String) : Option String :=
  let token := (Text.trim s).toList.map Char.toUpper
  if !token.isEmpty && token.all isTokenChar then some (String.ofList token) else none

end ServiceApi.HttpMethod
