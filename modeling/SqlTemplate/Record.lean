/-!
# SqlTemplate.Record

What is put on record while templates are rendered. A rejected value is never quoted, only the
pattern that it does not conform to.
-/

namespace SqlTemplate

inductive Level where
  | trace | debug | warn
deriving DecidableEq, Repr

def Level.name : Level → String
  | .trace => "trace"
  | .debug => "debug"
  | .warn => "warn"

inductive Record where
  | cached (expression : String)
  | resolved (content value : String)
  | rejected (pattern : String)
  | rendered (sql : String)
deriving DecidableEq, Repr

namespace Record

def level : Record → Level
  | .cached _ => .debug
  | .resolved _ _ => .trace
  | .rejected _ => .warn
  | .rendered _ => .debug

def message : Record → String
  | .cached expression => "Caching property path '" ++ expression ++ "'"
  | .resolved content value => "Token '" ++ content ++ "' resolved to '" ++ value ++ "'"
  | .rejected pattern => "Rejected substitution value, it does not conform to " ++ pattern
  | .rendered sql => "Rendered text node: " ++ sql

end Record

end SqlTemplate
