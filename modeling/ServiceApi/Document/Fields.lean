import ServiceApi.Json
import ServiceApi.Settings

/-!
# Fields of a document

Fields that are left out where there is nothing to say.
-/

namespace ServiceApi

/-- A text as a field that is left out if there is none. -/
def Json.textField (name : String) (text : Option String) : List (String × Json) :=
  text.elim [] fun t => [(name, .str t)]

/-- A field that is there, as `true`, only if it holds. -/
def Json.flagField (name : String) (holds : Bool) : List (String × Json) :=
  if holds then [(name, .bool true)] else []

/-- The hints for generated packages, if there are any. -/
def PackageNaming.fields (n : PackageNaming) : List (String × Json) :=
  if n.isEmpty then []
  else
    [("ownerDomain", .str n.ownerDomain), ("ownerName", .str n.ownerName)]
      ++ (if n.packagePath.isEmpty then [] else [("packagePath", .str n.packagePath)])

end ServiceApi
