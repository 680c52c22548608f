import Mathlib.Data.List.Basic
import SqlTemplate.Proofs.Rendering
import SqlTemplate.Session.Basic

/-!
# SqlTemplate.Proofs.Session.Contexts

What the commands of a session do to its contexts. A command has at most one target, which it
changes; all other contexts stay as they are. Only a new binding changes the parameter of a context.

* `contexts_run`, `getElem?_run`: all contexts, and one of them, after one command.
* `exists_of_runAll`: what each change to a context keeps, commands keep.
* `parameter_runAll`: a context after commands that do not bind its parameter.
-/

namespace SqlTemplate

namespace StatementContext

variable {context : StatementContext}

theorem parameter_congr {other : StatementContext}
    (h : other.bindings.get? parameterName = context.bindings.get? parameterName) :
    RenderContext.parameter other = RenderContext.parameter context := by
  rw [Node.parameter_eq, Node.parameter_eq]
  exact congrArg Node.present h

theorem parameter_bind {name : String} (value : Value) (h : name ≠ parameterName) :
    RenderContext.parameter (context.bind name value) = RenderContext.parameter context := by
  refine parameter_congr ?_
  rw [bind, Table.get?_insert, if_neg h]

theorem parameter_withDatabaseId (id : String) :
    RenderContext.parameter (context.withDatabaseId id) = RenderContext.parameter context :=
  parameter_bind _ (by decide)

theorem parameter_appendSql (sql : String) :
    RenderContext.parameter (context.appendSql sql) = RenderContext.parameter context := rfl

theorem parameter_uniqueNumber :
    RenderContext.parameter context.uniqueNumber.2 = RenderContext.parameter context := rfl

theorem parameter_apply (node : Node) (engine : Engine) :
    RenderContext.parameter (node.apply context engine).2.1 = RenderContext.parameter context := by
  rw [Node.apply_context]
  split
  · rfl
  · exact parameter_appendSql _

end StatementContext

namespace Session

/-- The context that a command is to change. -/
def Command.target? : Command → Option Nat
  | .bind number _ _ => some number
  | .setDatabaseId number _ => some number
  | .append number _ => some number
  | .apply number _ => some number
  | .uniqueNumber number => some number
  | _ => none

/-- What a command makes of its target. -/
def change (session : Session) (command : Command) (context : StatementContext) :
    StatementContext :=
  match command with
  | .bind _ name value => context.bind name value
  | .setDatabaseId _ id => context.withDatabaseId id
  | .append _ sql => context.appendSql sql
  | .apply _ number =>
    match session.nodes[number]? with
    | none => context
    | some node => (node.apply context session.engine).2.1
  | .uniqueNumber _ => context.uniqueNumber.2
  | _ => context

/-- The contexts that a command adds. -/
def added (session : Session) : Command → List StatementContext
  | .newContext parameter none => [.new parameter]
  | .newContext parameter (some id) => [(StatementContext.new parameter).withDatabaseId id]
  | .cloneContext number => session.contexts[number]?.toList
  | _ => []

variable {session : Session} {number : Nat} {context : StatementContext}

theorem contexts_update (session : Session) (number : Nat)
    (f : StatementContext → StatementContext) :
    (session.update number f).2.contexts = session.contexts.modify number f := by
  rw [update, List.modify_eq_set_getElem?]
  cases session.contexts[number]? <;> rfl

theorem contexts_inspect (session : Session) (target : Nat) (view : StatementContext → Reply) :
    (session.inspect target view).2 = session := by
  rw [inspect]
  cases session.contexts[target]? <;> rfl

theorem contexts_drawNumber (session : Session) (number : Nat) :
    (session.drawNumber number).2.contexts =
      session.contexts.modify number fun context => context.uniqueNumber.2 := by
  rw [drawNumber, List.modify_eq_set_getElem?]
  cases session.contexts[number]? <;> rfl

theorem contexts_applyNode (session : Session) (number node : Nat) :
    (session.applyNode number node).2.contexts =
      session.contexts.modify number (session.change (.apply number node)) := by
  rw [applyNode, List.modify_eq_set_getElem?]
  cases hc : session.contexts[number]? with
  | none => rfl
  | some context =>
    simp only [change]
    cases session.nodes[node]? with
    | none =>
      obtain ⟨hlt, rfl⟩ := List.getElem?_eq_some_iff.mp hc
      exact (List.set_getElem_self hlt).symm
    | some node => rfl

theorem contexts_run (session : Session) (command : Command) :
    (session.run command).2.contexts =
      match command.target? with
      | some number => session.contexts.modify number (session.change command)
      | none => session.contexts ++ session.added command := by
  have hsame : session.contexts = session.contexts ++ [] := (List.append_nil _).symm
  cases command with
  | newContext parameter databaseId => cases databaseId <;> rfl
  | cloneContext source =>
    simp only [run, Command.target?, added]
    cases session.contexts[source]? with
    | none => exact hsame
    | some found => rfl
  | addNode text pattern evaluator =>
    simp only [run]
    cases makeNode text pattern evaluator <;> exact hsame
  | bind target name value => exact contexts_update session target _
  | setDatabaseId target id => exact contexts_update session target _
  | append target sql => exact contexts_update session target _
  | apply target node => exact contexts_applyNode session target node
  | uniqueNumber target => exact contexts_drawNumber session target
  | state target => rw [run, contexts_inspect]; exact hsame
  | binding target name => rw [run, contexts_inspect]; exact hsame
  | parameter target => rw [run, contexts_inspect]; exact hsame
  | render node parameter =>
    simp only [run]
    cases session.nodes[node]? <;> exact hsame
  | compile expression => exact hsame
  | evaluate expression root => exact hsame
  | cachedExpressions => exact hsame
  | clearPaths => exact hsame

theorem getElem?_run (h : session.contexts[number]? = some context) (command : Command) :
    (session.run command).2.contexts[number]? =
      some (if command.target? = some number then session.change command context else context) := by
  rw [contexts_run]
  cases command.target? with
  | none => exact (List.getElem?_append_left (List.getElem?_eq_some_iff.mp h).1).trans h
  | some target =>
    simp only [List.getElem?_modify, h, Option.some.injEq]
    rfl

/-- What holds between a context and each change to it, holds between the context and what commands
have made of it. -/
theorem exists_of_runAll {R : StatementContext → StatementContext → Prop} (hrefl : ∀ c, R c c)
    (htrans : ∀ {a b c}, R a b → R b c → R a c) (h : session.contexts[number]? = some context)
    (commands : List Command)
    (hchange : ∀ command ∈ commands, command.target? = some number →
      ∀ (session : Session) (context : StatementContext),
        R context (session.change command context)) :
    ∃ later, (session.runAll commands).2.contexts[number]? = some later ∧ R context later := by
  induction commands generalizing session context with
  | nil => exact ⟨context, h, hrefl context⟩
  | cons command rest ih =>
    obtain ⟨hcommand, hrest⟩ := List.forall_mem_cons.mp hchange
    obtain ⟨later, hlater, hrelated⟩ := ih (getElem?_run h command) hrest
    refine ⟨later, hlater, htrans ?_ hrelated⟩
    split
    · rename_i htarget
      exact hcommand htarget session context
    · exact hrefl context

/-! ## Parameters -/

/-- The command binds the parameter of a context anew. -/
def Command.Rebinds (number : Nat) : Command → Prop
  | .bind target name _ => target = number ∧ name = parameterName
  | _ => False

theorem parameter_change {command : Command} (htarget : command.target? = some number)
    (h : ¬command.Rebinds number) (session : Session) (context : StatementContext) :
    RenderContext.parameter (session.change command context) = RenderContext.parameter context := by
  cases command with
  | bind target name value =>
    cases htarget
    exact StatementContext.parameter_bind value fun hname => h ⟨rfl, hname⟩
  | setDatabaseId target id => exact StatementContext.parameter_withDatabaseId id
  | append target sql => exact StatementContext.parameter_appendSql sql
  | apply target node =>
    rw [change]
    split
    · rfl
    · exact StatementContext.parameter_apply _ _
  | uniqueNumber target => exact StatementContext.parameter_uniqueNumber
  | _ => cases htarget

theorem parameter_runAll (h : session.contexts[number]? = some context) (commands : List Command)
    (hcommands : ∀ command ∈ commands, ¬command.Rebinds number) :
    ∃ later, (session.runAll commands).2.contexts[number]? = some later ∧
      RenderContext.parameter later = RenderContext.parameter context :=
  exists_of_runAll
    (R := fun before after => RenderContext.parameter after = RenderContext.parameter before)
    (fun _ => rfl) (fun hab hbc => hbc.trans hab) h commands
    fun command hcommand htarget => parameter_change htarget (hcommands command hcommand)

end Session

end SqlTemplate
