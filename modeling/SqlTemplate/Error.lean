import SqlTemplate.Path.Error

/-!
# SqlTemplate.Error

Why a template cannot be rendered.
-/

namespace SqlTemplate

/-- An evaluator fails with the error of a path, or with a message of its own. -/
inductive EvaluationError where
  | path (error : PathError)
  | other (message : String)
deriving DecidableEq, Repr

def EvaluationError.message : EvaluationError → String
  | .path error => error.message
  | .other message => message

inductive RenderError where
  | invalidInput (pattern : String)
  | invalidFilter (pattern : String)
  | evaluation (error : EvaluationError)
deriving DecidableEq, Repr

namespace RenderError

/-- What is wrong with the pattern of an invalid filter is left to the reader. -/
def message : RenderError → String
  | .invalidInput pattern => "Invalid input. Please conform to regex " ++ pattern
  | .invalidFilter pattern => "Invalid injection filter '" ++ pattern ++ "': "
  | .evaluation error => error.message

def isInvalidInput : RenderError → Bool
  | .invalidInput _ => true
  | _ => false

end RenderError

end SqlTemplate
