import SqlTemplate.Context.Statement
import SqlTemplate.Filter
import SqlTemplate.Template.Substitution
import SqlTemplate.Value.Printer

/-!
# SqlTemplate.Node.Basic

Text nodes: SQL text whose tokens are replaced by values when it is rendered. The values go into
the text as they are, so a node can have a filter that each of them has to pass.
-/

namespace SqlTemplate

structure Node where
  text : String
  filter : Option Filter := none
  evaluator : Evaluator := .paths

namespace Node

/-- Puts the value of a token on record, and passes it if the filter does. -/
def approve (node : Node) (content value : String) (engine : Engine) :
    Except RenderError (Option String) × Engine :=
  match node.filter with
  | none => (.ok (some value), engine.record (.resolved content value))
  | some filter =>
    match filter.check value (engine.record (.resolved content value)) with
    | (.error error, next) => (.error error, next)
    | (.ok (), next) => (.ok (some value), next)

/-- What a token is replaced by. Without a parameter that is nothing; a simple parameter stands for
every token, whatever its content; otherwise the evaluator is asked for the content. -/
def resolveToken (node : Node) (parameter : Option Value) : Template.Handler Engine RenderError :=
  fun content engine =>
    match parameter with
    | none => (.ok (some ""), engine)
    | some value =>
      if value.isSimple then node.approve content value.toText engine
      else
        match node.evaluator.evaluate content value engine with
        | (.error error, next) => (.error (.evaluation error), next)
        | (.ok result, next) => node.approve content result.toText next

/-- The text of the node for a parameter. -/
def resolve (node : Node) (parameter : Option Value) (engine : Engine) :
    Except RenderError String × Engine :=
  Template.expand .dollar (node.resolveToken parameter) node.text engine

/-- Appends the text of the node to a statement. A node that fails appends nothing. -/
def apply {γ : Type} [RenderContext γ] (node : Node) (context : γ) (engine : Engine) :
    Except RenderError Bool × γ × Engine :=
  match node.resolve (RenderContext.parameter context) engine with
  | (.error error, next) => (.error error, context, next)
  | (.ok sql, next) =>
    (.ok true, RenderContext.appendSql context sql, next.record (.rendered sql))

/-- The statement that consists of the node alone. -/
def render (node : Node) (parameter : Option Value) (engine : Engine) :
    Except RenderError String × Engine :=
  match node.apply (StatementContext.new parameter) engine with
  | (.error error, _, next) => (.error error, next)
  | (.ok _, context, next) => (.ok context.sql, next)

/-- A node without tokens is the same text for every parameter. -/
def isDynamic (node : Node) : Bool :=
  !(Template.contents (Template.segments .dollar node.text)).isEmpty

end Node

end SqlTemplate
