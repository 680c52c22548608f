import SqlTemplate.Engine
import SqlTemplate.Regex.Meaning
import SqlTemplate.Regex.Search

/-!
# SqlTemplate.Filter

Filters against injection. A filter accepts a text if its pattern matches the text in full. The
pattern has to be valid as it stands, since anchoring it could close a group or a class that it
leaves open.
-/

namespace SqlTemplate

structure Filter where
  pattern : String
  matcher : Regex

namespace Filter

def anchored (pattern : String) : String :=
  "^(?:" ++ pattern ++ ")$"

/-- A valid pattern can swallow the anchor after it only with a comment, which a line break ends. -/
def matcher? (pattern : String) : Option Regex :=
  match Regex.parse? (anchored pattern) with
  | some matcher => some matcher
  | none => Regex.parse? (anchored (pattern ++ "\n"))

def ofPattern (pattern : String) : Except RenderError Filter :=
  match Regex.parse? pattern with
  | none => .error (.invalidFilter pattern)
  | some _ =>
    match matcher? pattern with
    | none => .error (.invalidFilter pattern)
    | some matcher => .ok ⟨pattern, matcher⟩

def accepts (filter : Filter) (value : String) : Bool :=
  filter.matcher.occurs value

/-- A rejection is put on record. -/
def check (filter : Filter) (value : String) (engine : Engine) : Except RenderError Unit × Engine :=
  if filter.accepts value then (.ok (), engine)
  else (.error (.invalidInput filter.pattern), engine.record (.rejected filter.pattern))

theorem check_of_accepts {filter : Filter} {value : String} (h : filter.accepts value = true)
    (engine : Engine) : filter.check value engine = (.ok (), engine) := by
  simp [check, h]

theorem check_of_not_accepts {filter : Filter} {value : String}
    (h : filter.accepts value = false) (engine : Engine) :
    filter.check value engine =
      (.error (.invalidInput filter.pattern), engine.record (.rejected filter.pattern)) := by
  simp [check, h]

end Filter

end SqlTemplate
