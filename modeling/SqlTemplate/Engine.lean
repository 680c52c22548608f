import SqlTemplate.Error
import SqlTemplate.Path.Resolve
import SqlTemplate.Record

/-!
# SqlTemplate.Engine

What outlives a single render: the parsed paths by the expressions they were parsed from, the
records made so far, and the expressions that evaluators were asked for.
-/

namespace SqlTemplate

structure Engine where
  paths : Table Path := []
  records : List Record := []
  asked : List String := []
deriving Repr

namespace Engine

def record (engine : Engine) (record : Record) : Engine :=
  { engine with records := engine.records ++ [record] }

def ask (engine : Engine) (expression : String) : Engine :=
  { engine with asked := engine.asked ++ [expression] }

/-- Parses an expression unless it has been parsed before. Expressions are told apart by their
whole text, white space around them included, and one that does not parse is not kept. -/
def compile (engine : Engine) (expression : String) : Except PathError Path × Engine :=
  match engine.paths.get? expression with
  | some path => (.ok path, engine)
  | none =>
    match Path.parse expression with
    | .error error => (.error error, engine)
    | .ok path =>
      (.ok path,
        { engine.record (.cached expression) with
          paths := Table.insert engine.paths expression path })

def evaluatePath (engine : Engine) (expression : String) (root : Value) :
    Except PathError Value × Engine :=
  match engine.compile expression with
  | (.error error, next) => (.error error, next)
  | (.ok path, next) => (path.resolve root, next)

def cachedExpressions (engine : Engine) : List String :=
  engine.paths.names

def clearPaths (engine : Engine) : Engine :=
  { engine with paths := [] }

end Engine

/-- Finds the value of a token. The default follows a property path. -/
inductive Evaluator where
  | paths
  | custom (answer : String → Value → Except EvaluationError Value)

def Evaluator.evaluate (evaluator : Evaluator) (expression : String) (root : Value)
    (engine : Engine) : Except EvaluationError Value × Engine :=
  match evaluator with
  | .paths =>
    match (engine.ask expression).evaluatePath expression root with
    | (.error error, next) => (.error (.path error), next)
    | (.ok value, next) => (.ok value, next)
  | .custom answer => (answer expression root, engine.ask expression)

end SqlTemplate
