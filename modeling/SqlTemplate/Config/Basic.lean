import SqlTemplate.Node.Basic

/-!
# SqlTemplate.Config.Basic

The settings that text nodes are made with.
-/

namespace SqlTemplate

structure Config where
  injectionFilter : Option String := none
deriving DecidableEq, Repr

namespace Config

def filter (config : Config) : Except RenderError (Option Filter) :=
  match config.injectionFilter with
  | none => .ok none
  | some pattern =>
    match Filter.ofPattern pattern with
    | .error error => .error error
    | .ok filter => .ok (some filter)

def node (config : Config) (text : String) : Except RenderError Node :=
  match config.filter with
  | .error error => .error error
  | .ok filter => .ok { text := text, filter := filter }

end Config

end SqlTemplate
