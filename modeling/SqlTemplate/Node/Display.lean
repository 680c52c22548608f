import SqlTemplate.Node.Basic
import SqlTemplate.Text.Quoted

/-!
# SqlTemplate.Node.Display

How nodes and filters are shown to developers. The evaluator of a node is left out.
-/

namespace SqlTemplate

def Filter.display (filter : Filter) : String :=
  "InjectionFilter(" ++ Text.quoted filter.pattern ++ ")"

def Node.display (node : Node) : String :=
  let filter :=
    match node.filter with
    | none => "None"
    | some filter => "Some(" ++ filter.display ++ ")"
  "TextSqlNode \x7b text: " ++ Text.quoted node.text ++ ", injection_filter: " ++ filter
    ++ ", .. \x7d"

end SqlTemplate
