import ServiceApi.Json

/-!
# Methods in their resources

The dots of a method's name put it into nested resources: `a.b.list` is the method `list` of the
resource `b` in the resource `a`. Methods keep the order of insertion, resources are in ascending
order.
-/

namespace ServiceApi

inductive ResourceTree where
  | node (methods : List (String × Json)) (resources : List (String × ResourceTree))

namespace ResourceTree

def empty : ResourceTree := node [] []

/-- Sets the entry at `k` of an ascending list. -/
def putSorted {α : Type} (k : String) (v : α) : List (String × α) → List (String × α)
  | [] => [(k, v)]
  | (k', v') :: rest =>
    if k < k' then (k, v) :: (k', v') :: rest
    else if k = k' then (k, v) :: rest
    else (k', v') :: putSorted k v rest

/-- Puts a method into the resource that `path` leads to. -/
def insert (leaf : String) (method : Json) : List String → ResourceTree → ResourceTree
  | [], node methods resources => node (Json.setField leaf method methods) resources
  | r :: path, node methods resources =>
    node methods (putSorted r (insert leaf method path ((resources.lookup r).getD empty)) resources)

/-- Puts a method where the pieces of its name say: the last is its own. -/
def insertAt (pieces : List String) (method : Json) (t : ResourceTree) : ResourceTree :=
  t.insert (pieces.getLast?.getD "") method pieces.dropLast

mutual

/-- The methods and the resources, each left out if there are none. -/
def fields : ResourceTree → List (String × Json)
  | node methods resources =>
    (if methods.isEmpty then [] else [("methods", .obj methods)])
    ++ (if resources.isEmpty then [] else [("resources", .obj (resourceFields resources))])

def resourceFields : List (String × ResourceTree) → List (String × Json)
  | [] => []
  | (name, t) :: rest => (name, .obj (fields t)) :: resourceFields rest

end

end ResourceTree

end ServiceApi
