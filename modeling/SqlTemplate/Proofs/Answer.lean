import SqlTemplate.Engine

/-!
# SqlTemplate.Proofs.Answer

Evaluators as functions of expression and root. The default evaluator keeps what it has parsed, but
keeping a path under an expression is all it does, and that does not change what the expression
stands for: `answer_evaluate` says that an engine answers all questions alike before and after any
of them.
-/

namespace SqlTemplate

namespace Engine

/-- The path that an expression stands for. -/
def pathOf (engine : Engine) (expression : String) : Except PathError Path :=
  match engine.paths.get? expression with
  | some path => .ok path
  | none => Path.parse expression

theorem compile_fst (engine : Engine) (expression : String) :
    (engine.compile expression).1 = engine.pathOf expression := by
  rw [compile, pathOf]
  cases engine.paths.get? expression with
  | some path => rfl
  | none => cases Path.parse expression <;> rfl

/-- An expression is kept with the path that it stands for anyway. -/
theorem pathOf_compile (engine : Engine) (expression : String) :
    (engine.compile expression).2.pathOf = engine.pathOf := by
  funext other
  rw [compile]
  cases hg : engine.paths.get? expression with
  | some path => rfl
  | none =>
    cases hp : Path.parse expression with
    | error error => rfl
    | ok path =>
      simp only [pathOf, Table.get?_insert]
      by_cases h : expression = other
      · subst h; rw [if_pos rfl, hg, hp]
      · rw [if_neg h]

theorem evaluatePath_fst (engine : Engine) (expression : String) (root : Value) :
    (engine.evaluatePath expression root).1 =
      match engine.pathOf expression with
      | .error error => .error error
      | .ok path => path.resolve root := by
  rw [evaluatePath, ← compile_fst]
  cases engine.compile expression with
  | mk outcome next => cases outcome <;> rfl

theorem evaluatePath_snd (engine : Engine) (expression : String) (root : Value) :
    (engine.evaluatePath expression root).2 = (engine.compile expression).2 := by
  rw [evaluatePath]
  cases engine.compile expression with
  | mk outcome next => cases outcome <;> rfl

theorem asked_compile (engine : Engine) (expression : String) :
    (engine.compile expression).2.asked = engine.asked := by
  rw [compile]
  cases engine.paths.get? expression with
  | some path => rfl
  | none => cases Path.parse expression <;> rfl

end Engine

namespace Evaluator

/-- What the evaluator says of an expression and a root. -/
def answer (evaluator : Evaluator) (engine : Engine) (expression : String) (root : Value) :
    Except EvaluationError Value :=
  (evaluator.evaluate expression root engine).1

theorem answer_paths (engine : Engine) (expression : String) (root : Value) :
    paths.answer engine expression root =
      match engine.pathOf expression with
      | .error error => .error (.path error)
      | .ok path =>
        match path.resolve root with
        | .error error => .error (.path error)
        | .ok value => .ok value := by
  have h := Engine.evaluatePath_fst (engine.ask expression) expression root
  rw [show (engine.ask expression).pathOf = engine.pathOf from rfl] at h
  rw [answer, evaluate]
  cases hp : engine.pathOf expression with
  | error error =>
    rw [hp] at h
    cases he : (engine.ask expression).evaluatePath expression root with
    | mk outcome next => rw [he] at h; simp only at h; rw [h]
  | ok path =>
    rw [hp] at h
    cases he : (engine.ask expression).evaluatePath expression root with
    | mk outcome next =>
      rw [he] at h; simp only at h; rw [h]
      simp only
      cases path.resolve root <;> rfl

/-- Only the paths of expressions matter, whether they are kept or parsed. -/
theorem answer_congr {engine other : Engine} (evaluator : Evaluator)
    (h : other.pathOf = engine.pathOf) : evaluator.answer other = evaluator.answer engine := by
  cases evaluator with
  | custom f => rfl
  | paths =>
    funext expression root
    rw [answer_paths, answer_paths, h]

theorem evaluate_snd (evaluator : Evaluator) (expression : String) (root : Value)
    (engine : Engine) :
    (evaluator.evaluate expression root engine).2 =
      match evaluator with
      | paths => ((engine.ask expression).compile expression).2
      | custom _ => engine.ask expression := by
  cases evaluator with
  | custom f => rfl
  | paths =>
    simp only [evaluate]
    rw [← Engine.evaluatePath_snd _ _ root]
    cases (engine.ask expression).evaluatePath expression root with
    | mk outcome next => cases outcome <;> rfl

/-- A question leaves all answers as they are. -/
theorem answer_evaluate (evaluator : Evaluator) (expression : String) (root : Value)
    (engine : Engine) :
    evaluator.answer (evaluator.evaluate expression root engine).2 = evaluator.answer engine := by
  refine answer_congr evaluator ?_
  rw [evaluate_snd]
  cases evaluator with
  | custom f => rfl
  | paths => exact Engine.pathOf_compile (engine.ask expression) expression

theorem asked_evaluate (evaluator : Evaluator) (expression : String) (root : Value)
    (engine : Engine) :
    (evaluator.evaluate expression root engine).2.asked = engine.asked ++ [expression] := by
  rw [evaluate_snd]
  cases evaluator with
  | custom f => rfl
  | paths => exact Engine.asked_compile (engine.ask expression) expression

end Evaluator

end SqlTemplate
