import ServiceApi.TypeExpr

/-!
# The text of a type expression

Type arguments stand between angle brackets, separated by a comma and a blank; array brackets
follow the item type; a bound follows `? extends`.
-/

namespace ServiceApi.TypeExpr

mutual

def chars : TypeExpr → List Char
  | .primitive p => p.name.toList
  | .named name args =>
    match args with
    | [] => name.toList
    | t :: ts => name.toList ++ '<' :: (t.chars ++ tailChars ts ++ ['>'])
  | .array item => item.chars ++ ['[', ']']
  | .var name => name.toList
  | .wildcard => ['?']
  | .bounded upper => "? extends ".toList ++ upper.chars

/-- The arguments after the first, each after its separator. -/
def tailChars : List TypeExpr → List Char
  | [] => []
  | t :: ts => ',' :: ' ' :: (t.chars ++ tailChars ts)

end

def text (t : TypeExpr) : String := String.ofList t.chars

instance : ToString TypeExpr := ⟨text⟩

end ServiceApi.TypeExpr
