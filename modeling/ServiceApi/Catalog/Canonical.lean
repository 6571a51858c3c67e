import ServiceApi.Catalog
import ServiceApi.Json.Printer
import ServiceApi.Model.Write

/-!
# The canonical text of a catalog

All classes and then all transformers, each in the order of their names, as compact JSON. It does
not depend on the order of registration.
-/

namespace ServiceApi.Catalog

def byName {α : Type} (m : OrderedMap String α) : List (String × α) :=
  m.entries.mergeSort fun a b => a.1 ≤ b.1

def toJson (c : Catalog) : Json := .arr [
  .obj ((byName c.classes).map fun (name, decl) => (name, decl.toJson)),
  .obj ((byName c.transformers).map fun (name, decl) => (name, decl.toJson))]

def canonicalText (c : Catalog) : String := c.toJson.compact

end ServiceApi.Catalog
