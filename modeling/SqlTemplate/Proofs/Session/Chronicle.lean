import SqlTemplate.Proofs.Session.History
import SqlTemplate.Proofs.Session.Transparency

/-!
# SqlTemplate.Proofs.Session.Chronicle

The histories of the contexts of a session, noted down command by command. A command goes into the
history of its target alone, and a copy takes over the history of its source.

* `chronicled_run`, `chronicled_runAll`: each context is what its history leads to, after a command
  and then after any commands.
* `fragments_runAll`: fragments are only added, and at the end.
* `contexts_replay`: all that the histories tell of the contexts.
-/

namespace SqlTemplate.Session

/-- What a command does to its target. A drawn number is the one that the session replies with. -/
def events (session : Session) (command : Command) : List Event :=
  match command with
  | .bind _ name value => [.bound name value]
  | .setDatabaseId _ id => [.bound databaseIdName (.string id)]
  | .append _ sql => [.appended sql]
  | .apply _ node => session.nodes[node]?.toList.map .applied
  | .uniqueNumber _ =>
    match (session.run command).1 with
    | .number n => [.drew n]
    | _ => []
  | _ => []

/-- The histories that a command begins. -/
def begun (histories : List History) : Command → List History
  | .newContext parameter none => [⟨parameter, []⟩]
  | .newContext parameter (some id) => [⟨parameter, [.bound databaseIdName (.string id)]⟩]
  | .cloneContext number => histories[number]?.toList
  | _ => []

/-- The histories of all contexts after a command. -/
def note (session : Session) (histories : List History) (command : Command) : List History :=
  match command.target? with
  | some number => histories.modify number fun history => history.extend (session.events command)
  | none => histories ++ begun histories command

/-- The histories of all contexts after commands. -/
def chronicle (session : Session) (histories : List History) : List Command → List History
  | [] => histories
  | command :: rest => (session.run command).2.chronicle (session.note histories command) rest

/-- Each context is what its own history leads to, and each number that was drawn from it is the
count of those drawn before. -/
structure Chronicled (session : Session) (histories : List History) : Prop where
  faithful : session.engine.Faithful
  contexts : session.contexts = histories.map History.replay
  numbers : ∀ history ∈ histories, history.numbers = List.range history.numbers.length

variable {session : Session} {histories : List History} {number : Nat}
  {context : StatementContext} {command : Command}

theorem faithful_run (h : session.engine.Faithful) (command : Command) :
    (session.run command).2.engine.Faithful :=
  (alike_run (Alike.refl h) command).2.faithful

theorem events_uniqueNumber (h : session.contexts[number]? = some context) :
    session.events (.uniqueNumber number) = [.drew context.nextNumber] := by
  simp only [events, run, drawNumber, h, StatementContext.uniqueNumber]

/-- An apply comes to the same over an empty engine. -/
theorem change_eq (hfaithful : session.engine.Faithful)
    (h : session.contexts[number]? = some context) (htarget : command.target? = some number) :
    session.change command context = (session.events command).foldl Event.act context := by
  cases command with
  | apply target node =>
    simp only [change, events]
    cases session.nodes[node]? with
    | none => rfl
    | some node =>
      have hempty : (({} : Engine)).Faithful := Engine.faithful_of_paths_eq_nil rfl
      exact (node.apply_of_faithful context hempty hfaithful).2
  | uniqueNumber target =>
    cases htarget
    rw [events_uniqueNumber h]
    rfl
  | bind target name value => rfl
  | setDatabaseId target id => rfl
  | append target sql => rfl
  | _ => cases htarget

theorem numbers_events (h : session.contexts[number]? = some context)
    (htarget : command.target? = some number) :
    (session.events command).filterMap Event.number? = [] ∨
      (session.events command).filterMap Event.number? = [context.nextNumber] := by
  cases command with
  | apply target node =>
    left
    simp only [events]
    cases session.nodes[node]? <;> rfl
  | uniqueNumber target =>
    cases htarget
    right
    rw [events_uniqueNumber h]
    rfl
  | bind target name value => exact .inl rfl
  | setDatabaseId target id => exact .inl rfl
  | append target sql => exact .inl rfl
  | _ => cases htarget

theorem added_eq (h : session.contexts = histories.map History.replay)
    (htarget : command.target? = none) :
    session.added command = (begun histories command).map History.replay := by
  cases command with
  | newContext parameter databaseId => cases databaseId <;> rfl
  | cloneContext source =>
    simp only [added, begun, h, List.getElem?_map]
    cases histories[source]? <;> rfl
  | bind target name value => cases htarget
  | setDatabaseId target id => cases htarget
  | append target sql => cases htarget
  | apply target node => cases htarget
  | uniqueNumber target => cases htarget
  | _ => rfl

theorem numbers_begun
    (h : ∀ history ∈ histories, history.numbers = List.range history.numbers.length)
    (command : Command) :
    ∀ history ∈ begun histories command, history.numbers = List.range history.numbers.length := by
  cases command with
  | newContext parameter databaseId =>
    cases databaseId <;> exact List.forall_mem_singleton.mpr rfl
  | cloneContext source =>
    intro history hmem
    exact h history (List.mem_of_getElem? (Option.mem_toList.mp hmem))
  | _ => simp [begun]

/-- Another number or none is drawn, and it is the count of those drawn before. -/
theorem numbers_extend_events (h : Chronicled session histories) {history : History}
    (hhistory : histories[number]? = some history) (htarget : command.target? = some number) :
    (history.extend (session.events command)).numbers =
      List.range (history.extend (session.events command)).numbers.length := by
  have hcontext : session.contexts[number]? = some history.replay := by
    rw [h.contexts, List.getElem?_map, hhistory]
    rfl
  have hnumbers := h.numbers history (List.mem_of_getElem? hhistory)
  rw [History.numbers_extend]
  obtain hnone | hone := numbers_events hcontext htarget
  · rw [hnone, List.append_nil]
    exact hnumbers
  · rw [hone, History.nextNumber_replay, List.length_append, List.length_singleton,
      List.range_succ, ← hnumbers]

theorem modify_map {α β : Type} {f : α → β} {g : α → α} {g' : β → β} {xs : List α} {i : Nat}
    (h : ∀ x, xs[i]? = some x → g' (f x) = f (g x)) :
    (xs.map f).modify i g' = (xs.modify i g).map f := by
  refine List.ext_getElem? fun j => ?_
  rw [List.getElem?_modify, List.getElem?_map, List.getElem?_map, List.getElem?_modify]
  cases hx : xs[j]? with
  | none => rfl
  | some x =>
    by_cases hi : i = j
    · subst hi
      simp [h x hx]
    · simp [hi]

theorem contexts_note (h : Chronicled session histories) (command : Command) :
    (session.run command).2.contexts = (session.note histories command).map History.replay := by
  rw [contexts_run, note]
  cases htarget : command.target? with
  | none => rw [List.map_append, h.contexts, added_eq h.contexts htarget]
  | some target =>
    simp only [h.contexts]
    refine modify_map fun history hhistory => ?_
    have hcontext : session.contexts[target]? = some history.replay := by
      rw [h.contexts, List.getElem?_map, hhistory]
      rfl
    rw [History.replay_extend, change_eq h.faithful hcontext htarget]

theorem numbers_note (h : Chronicled session histories) (command : Command) :
    ∀ history ∈ session.note histories command,
      history.numbers = List.range history.numbers.length := by
  intro history hmem
  rw [note] at hmem
  cases htarget : command.target? with
  | none =>
    rw [htarget] at hmem
    obtain hold | hnew := List.mem_append.mp hmem
    · exact h.numbers history hold
    · exact numbers_begun h.numbers command history hnew
  | some target =>
    rw [htarget] at hmem
    obtain ⟨i, hi⟩ := List.mem_iff_getElem?.mp hmem
    rw [List.getElem?_modify] at hi
    obtain ⟨before, hbefore, heq⟩ := Option.map_eq_some_iff.mp hi
    split at heq
    · rename_i hi
      subst hi heq
      exact numbers_extend_events h hbefore htarget
    · subst heq
      exact h.numbers before (List.mem_of_getElem? hbefore)

theorem chronicled_run (h : Chronicled session histories) (command : Command) :
    Chronicled (session.run command).2 (session.note histories command) :=
  ⟨faithful_run h.faithful command, contexts_note h command, numbers_note h command⟩

theorem chronicled_runAll (h : Chronicled session histories) (commands : List Command) :
    Chronicled (session.runAll commands).2 (session.chronicle histories commands) := by
  induction commands generalizing session histories with
  | nil => exact h
  | cons command rest ih => exact ih (chronicled_run h command)

theorem chronicled_empty : Chronicled {} [] :=
  ⟨Engine.faithful_of_paths_eq_nil rfl, rfl, nofun⟩

/-! ## Fragments -/

theorem fragments_change (htarget : command.target? = some number) (session : Session)
    (context : StatementContext) :
    ∃ texts, (session.change command context).fragments = context.fragments ++ texts := by
  have hsame : ∃ texts, context.fragments = context.fragments ++ texts :=
    ⟨[], (List.append_nil _).symm⟩
  cases command with
  | bind target name value => exact hsame
  | setDatabaseId target id => exact hsame
  | append target sql => exact ⟨[sql], rfl⟩
  | apply target node =>
    simp only [change]
    cases session.nodes[node]? with
    | none => exact hsame
    | some node =>
      simp only [Node.apply_context]
      cases (node.resolve (RenderContext.parameter context) session.engine).1 with
      | error error => exact hsame
      | ok sql => exact ⟨[sql], rfl⟩
  | uniqueNumber target => exact hsame
  | _ => cases htarget

theorem fragments_runAll (h : session.contexts[number]? = some context) (commands : List Command) :
    ∃ later texts, (session.runAll commands).2.contexts[number]? = some later ∧
      later.fragments = context.fragments ++ texts := by
  obtain ⟨later, hlater, texts, htexts⟩ := exists_of_runAll
    (R := fun before after => ∃ texts, after.fragments = before.fragments ++ texts)
    (fun context => ⟨[], (List.append_nil _).symm⟩)
    (fun ⟨texts, hab⟩ ⟨more, hbc⟩ => ⟨texts ++ more, by rw [hbc, hab, List.append_assoc]⟩) h
    commands fun command _ htarget => fragments_change htarget
  exact ⟨later, texts, hlater, htexts⟩

/-! ## Sessions -/

theorem contexts_cloneContext (h : session.contexts[number]? = some context) :
    (session.run (.cloneContext number)).2.contexts = session.contexts ++ [context] := by
  rw [contexts_run]
  simp only [Command.target?, added, h]
  rfl

/-- After any commands each context is what its own history leads to, so nothing else bears on it.
Its names are the two reserved ones and then the others in the order in which they were first bound,
each bound to what it was bound to last; its parameter is what the reserved name is bound to, unless
that is null; and the numbers drawn from it, or before it was copied from its source, count up from
zero. A command leaves all contexts but its target as they are, a copy begins as its source is, and
fragments are only added, at the end. -/
theorem contexts_replay (commands : List Command) :
    let session := (runAll {} commands).2
    let histories := chronicle {} [] commands
    session.contexts = histories.map History.replay ∧
      (∀ history ∈ histories, history.Describes history.replay ∧
        history.numbers = List.range history.numbers.length) ∧
      ∀ number context, session.contexts[number]? = some context →
        (∀ command : Command, command.target? ≠ some number →
          (session.run command).2.contexts[number]? = some context) ∧
        (session.run (.cloneContext number)).2.contexts = session.contexts ++ [context] ∧
        ∀ more, ∃ later texts, (session.runAll more).2.contexts[number]? = some later ∧
          later.fragments = context.fragments ++ texts := by
  intro session histories
  have h : Chronicled session histories := chronicled_runAll chronicled_empty commands
  refine ⟨h.contexts, fun history hmem => ?_, fun number context hcontext => ⟨?_, ?_, ?_⟩⟩
  · exact ⟨history.describes_replay, h.numbers history hmem⟩
  · intro command htarget
    rw [getElem?_run hcontext, if_neg htarget]
  · exact contexts_cloneContext hcontext
  · exact fragments_runAll hcontext

/-- A copy goes on counting where its source was, each for itself, and binding the parameter of the
copy leaves the source alone. -/
theorem copy_counts_apart :
    let commands : List Command :=
      [.newContext none (some "db"), .uniqueNumber 0, .cloneContext 0, .uniqueNumber 0,
        .uniqueNumber 1, .bind 1 "n" .null, .bind 1 parameterName (.bool true)]
    let session := (runAll {} commands).2
    let histories := chronicle {} [] commands
    histories.map History.numbers = [[0, 1], [0, 1]] ∧
      histories.map History.ownNames = [[], ["n"]] ∧
      session.contexts.map (fun context => (RenderContext.parameter context).isSome) =
        [false, true] ∧
      ∃ context, session.contexts[0]? = some context ∧
        (session.run (.append 1 "x")).2.contexts[0]? = some context := by
  intro commands session histories
  refine ⟨by decide +kernel, by decide +kernel, by decide +kernel, ?_⟩
  have hsome : session.contexts[0]?.isSome = true := by decide +kernel
  obtain ⟨context, hcontext⟩ := Option.isSome_iff_exists.mp hsome
  obtain ⟨-, -, hframe⟩ := contexts_replay commands
  exact ⟨context, hcontext, (hframe 0 context hcontext).1 (.append 1 "x") (by decide)⟩

end SqlTemplate.Session
