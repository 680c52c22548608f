import SqlTemplate.Path.Step
import SqlTemplate.Value.Basic

/-!
# SqlTemplate.Path.Error

Why a path expression is malformed, and what may stand in the way of a walk along a path.
-/

namespace SqlTemplate.Path

inductive Malformation where
  | empty
  | noName
  | unexpected (c : Char)
  | unterminatedKey
  | noIndexOrKey
  | indexTooLarge
  | unclosedBracket
deriving DecidableEq, Repr

namespace Malformation

def reason : Malformation → String
  | .empty => "expression is empty"
  | .noName => "expected a property name"
  | .unexpected c => "unexpected character '" ++ c.toString ++ "'"
  | .unterminatedKey => "unterminated quoted key"
  | .noIndexOrKey => "expected an index or a quoted key"
  | .indexTooLarge => "number too large to fit in target type"
  | .unclosedBracket => "expected ']'"

end Malformation

inductive Obstacle where
  | unknownProperty (name : String)
  | indexOutOfBounds (index length : Nat)
  | nullIntermediate (step : Step)
  | wrongKind (step : Step) (kind : Kind)
deriving DecidableEq, Repr

namespace Obstacle

def message (expression : String) : Obstacle → String
  | .unknownProperty name => "Unknown property '" ++ name ++ "' in '" ++ expression ++ "'"
  | .indexOutOfBounds index length =>
    "Index " ++ toString index ++ " is out of bounds (length " ++ toString length ++ ") in '"
      ++ expression ++ "'"
  | .nullIntermediate step =>
    "Cannot apply '" ++ step.text ++ "' to null while resolving '" ++ expression ++ "'"
  | .wrongKind step kind =>
    "Cannot apply '" ++ step.text ++ "' to " ++ kind.name ++ " while resolving '" ++ expression
      ++ "'"

end Obstacle

end SqlTemplate.Path

namespace SqlTemplate

/-- Errors quote the trimmed expression. A position counts the bytes of the expression before it. -/
inductive PathError where
  | malformed (expression : String) (position : Nat) (malformation : Path.Malformation)
  | obstructed (expression : String) (obstacle : Path.Obstacle)
deriving DecidableEq, Repr

namespace PathError

def expression : PathError → String
  | .malformed expression _ _ => expression
  | .obstructed expression _ => expression

def message : PathError → String
  | .malformed expression position malformation =>
    "Malformed property path '" ++ expression ++ "' at " ++ toString position ++ ": "
      ++ malformation.reason
  | .obstructed expression obstacle => obstacle.message expression

end PathError

end SqlTemplate
