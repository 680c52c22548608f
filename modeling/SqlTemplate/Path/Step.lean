/-!
# SqlTemplate.Path.Step

The steps of a property path and their text.
-/

namespace SqlTemplate.Path

inductive Step where
  | field (name : String)
  | index (n : Nat)
  | key (name : String)
deriving DecidableEq, Repr

namespace Step

/-- A key is always shown between single quotes, however it was written. -/
def text : Step → String
  | .field name => "." ++ name
  | .index n => "[" ++ toString n ++ "]"
  | .key name => "['" ++ name ++ "']"

end Step

end SqlTemplate.Path
