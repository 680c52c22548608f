import SqlTemplate.Proofs.Cache
import SqlTemplate.Session.Basic

/-!
# SqlTemplate.Proofs.Session.Transparency

What the engine has kept does not show in a session. Two sessions with the same contexts and nodes,
over engines that keep what parsing gives, reply alike to all commands but the one that lists what
is kept.

* `alike_run`, `alike_runAll`: a command, and then any commands, to two such sessions.
* `cache_transparent`: whatever a session has been through, its engine answers like an empty one.
-/

namespace SqlTemplate.Session

/-- The reply to a command, without the expressions that it may list. -/
def Reply.unlisted : Reply → Reply
  | .expressions _ => .expressions []
  | reply => reply

/-- The sessions differ in their engines alone, and each engine keeps what parsing gives. -/
structure Alike (session other : Session) : Prop where
  contexts : session.contexts = other.contexts
  nodes : session.nodes = other.nodes
  faithful : session.engine.Faithful
  faithful' : other.engine.Faithful

/-- Replies are alike if at most their lists of expressions differ. -/
def AlikeAfter (result result' : Reply × Session) : Prop :=
  result.1.unlisted = result'.1.unlisted ∧ Alike result.2 result'.2

variable {session other : Session}

theorem Alike.with_engines (h : Alike session other) {engine engine' : Engine}
    (hengine : engine.Faithful) (hengine' : engine'.Faithful) :
    Alike { session with engine } { other with engine := engine' } :=
  ⟨h.contexts, h.nodes, hengine, hengine'⟩

theorem Alike.refl (h : session.engine.Faithful) : Alike session session :=
  ⟨rfl, rfl, h, h⟩

theorem alike_addContext (h : Alike session other) (context : StatementContext) :
    AlikeAfter (session.addContext context) (other.addContext context) := by
  refine ⟨rfl, ?_, h.nodes, h.faithful, h.faithful'⟩
  exact congrArg (· ++ [context]) h.contexts

theorem alike_put (h : Alike session other) (number : Nat) (context : StatementContext) :
    Alike (session.put number context) (other.put number context) :=
  ⟨congrArg (·.set number context) h.contexts, h.nodes, h.faithful, h.faithful'⟩

theorem alike_update (h : Alike session other) (number : Nat)
    (change : StatementContext → StatementContext) :
    AlikeAfter (session.update number change) (other.update number change) := by
  rw [update, update, h.contexts]
  cases other.contexts[number]? with
  | none => exact ⟨rfl, h⟩
  | some context => exact ⟨rfl, alike_put h number (change context)⟩

theorem alike_inspect (h : Alike session other) (number : Nat)
    (view : StatementContext → Reply) :
    AlikeAfter (session.inspect number view) (other.inspect number view) := by
  rw [inspect, inspect, h.contexts]
  cases other.contexts[number]? with
  | none => exact ⟨rfl, h⟩
  | some context => exact ⟨rfl, h⟩

theorem alike_drawNumber (h : Alike session other) (number : Nat) :
    AlikeAfter (session.drawNumber number) (other.drawNumber number) := by
  rw [drawNumber, drawNumber, h.contexts]
  cases other.contexts[number]? with
  | none => exact ⟨rfl, h⟩
  | some context => exact ⟨rfl, alike_put h number context.uniqueNumber.2⟩

theorem alike_applyNode (h : Alike session other) (number node : Nat) :
    AlikeAfter (session.applyNode number node) (other.applyNode number node) := by
  rw [applyNode, applyNode, h.contexts, h.nodes]
  cases other.contexts[number]? with
  | none => exact ⟨rfl, h⟩
  | some context =>
    cases other.nodes[node]? with
    | none => exact ⟨rfl, h⟩
    | some node =>
      obtain ⟨hresult, hcontext⟩ := node.apply_of_faithful context h.faithful' h.faithful
      refine ⟨?_, ?_⟩
      · simp only [hresult, hcontext]
      · simp only [hcontext]
        exact (alike_put h number _).with_engines (node.faithful_apply context h.faithful)
          (node.faithful_apply context h.faithful')

/-- Contexts and nodes do not depend on the engine, and what an engine is asked has the same answer
in both sessions. -/
theorem alike_run (h : Alike session other) (command : Command) :
    AlikeAfter (session.run command) (other.run command) := by
  cases command with
  | newContext parameter databaseId => cases databaseId <;> exact alike_addContext h _
  | cloneContext number =>
    simp only [run, h.contexts]
    cases other.contexts[number]? with
    | none => exact ⟨rfl, h⟩
    | some context => exact alike_addContext h context
  | addNode text pattern evaluator =>
    simp only [run]
    cases makeNode text pattern evaluator with
    | error error => exact ⟨rfl, h⟩
    | ok node =>
      simp only [h.nodes]
      exact ⟨rfl, h.contexts, rfl, h.faithful, h.faithful'⟩
  | bind number name value => exact alike_update h number _
  | setDatabaseId number id => exact alike_update h number _
  | append number sql => exact alike_update h number _
  | state number => exact alike_inspect h number _
  | apply number node => exact alike_applyNode h number node
  | uniqueNumber number => exact alike_drawNumber h number
  | binding number name => exact alike_inspect h number _
  | parameter number => exact alike_inspect h number _
  | render node parameter =>
    have hnode : session.nodes[node]? = other.nodes[node]? := by rw [h.nodes]
    simp only [run, hnode]
    cases other.nodes[node]? with
    | none => exact ⟨rfl, h⟩
    | some node =>
      have hrender := node.render_of_faithful parameter h.faithful' h.faithful
      exact ⟨congrArg (fun result => Reply.unlisted (.rendered result)) hrender,
        h.with_engines (node.faithful_render parameter h.faithful)
          (node.faithful_render parameter h.faithful')⟩
  | compile expression =>
    refine ⟨?_, h.with_engines (h.faithful.compile_snd expression)
      (h.faithful'.compile_snd expression)⟩
    simp only [run, h.faithful.compile, h.faithful'.compile]
  | evaluate expression root =>
    refine ⟨?_, h.with_engines (h.faithful.evaluatePath_snd expression root)
      (h.faithful'.evaluatePath_snd expression root)⟩
    simp only [run, h.faithful.evaluatePath, h.faithful'.evaluatePath]
  | cachedExpressions => exact ⟨rfl, h⟩
  | clearPaths =>
    exact ⟨rfl, h.with_engines (Engine.faithful_clearPaths _) (Engine.faithful_clearPaths _)⟩

theorem alike_runAll (h : Alike session other) (commands : List Command) :
    (session.runAll commands).1.map Reply.unlisted = (other.runAll commands).1.map Reply.unlisted ∧
      Alike (session.runAll commands).2 (other.runAll commands).2 := by
  induction commands generalizing session other with
  | nil => exact ⟨rfl, h⟩
  | cons command rest ih =>
    obtain ⟨hreply, hnext⟩ := alike_run h command
    obtain ⟨hreplies, hfinal⟩ := ih hnext
    simp only [runAll, List.map_cons]
    exact ⟨congr (congrArg List.cons hreply) hreplies, hfinal⟩

theorem faithful_runAll (h : session.engine.Faithful) (commands : List Command) :
    (session.runAll commands).2.engine.Faithful :=
  (alike_runAll (Alike.refl h) commands).2.faithful

/-- Whatever commands a session has been given, its engine keeps each path under an expression that
parses to it. So expressions compile and evaluate as if they were parsed anew, each node is applied
to each context as over an empty engine, and so all that the session replies from then on is what it
would reply with an empty engine, but for the lists of what is kept. -/
theorem cache_transparent (contexts : List StatementContext) (nodes : List Node)
    (history : List Command) :
    let session := (runAll { contexts, nodes } history).2
    (∀ entry ∈ session.engine.paths, Path.parse entry.1 = .ok entry.2) ∧
      (∀ expression,
        (session.run (.compile expression)).1 = .compiled (Path.parse expression)) ∧
      (∀ expression root,
        (session.run (.evaluate expression root)).1 =
          .evaluated (Engine.follow expression root)) ∧
      (∀ {γ : Type} [RenderContext γ] (node : Node) (context : γ),
        (node.apply context session.engine).1 = (node.apply context {}).1 ∧
          (node.apply context session.engine).2.1 = (node.apply context {}).2.1) ∧
      (∀ (node : Node) parameter,
        (node.render parameter session.engine).1 = (node.render parameter {}).1) ∧
      ∀ future,
        (session.runAll future).1.map Reply.unlisted =
          (runAll { session with engine := {} } future).1.map Reply.unlisted := by
  intro session
  have hempty : (({} : Engine)).Faithful := Engine.faithful_of_paths_eq_nil rfl
  have hsession : session.engine.Faithful :=
    faithful_runAll (show Engine.Faithful (Session.engine { contexts, nodes }) from hempty) history
  refine ⟨hsession, fun expression => ?_, fun expression root => ?_, ?_, ?_, fun future => ?_⟩
  · simp only [run, hsession.compile]
  · simp only [run, hsession.evaluatePath]
  · exact fun node context => node.apply_of_faithful context hempty hsession
  · exact fun node parameter => node.render_of_faithful parameter hempty hsession
  · have halike : Alike session { session with engine := {} } := ⟨rfl, rfl, hsession, hempty⟩
    exact (alike_runAll halike future).1

/-- A path is kept although following it fails, under its expression with the white space before
it. -/
theorem kept_after_failure :
    let history : List Command :=
      [.addNode "${a}" none .paths, .newContext (some (.object [("a", .null)])) none,
        .apply 0 0, .compile "a.", .evaluate " b" .null]
    let entry : String × Path := (" b", ⟨"b", [.field "b"]⟩)
    entry ∈ (runAll {} history).2.engine.paths ∧ Path.parse entry.1 = .ok entry.2 := by
  intro history entry
  have hmem : entry ∈ (runAll {} history).2.engine.paths := by
    have hpaths : (runAll {} history).2.engine.paths = [("a", ⟨"a", [.field "a"]⟩), entry] := by
      decide +kernel
    rw [hpaths]
    exact List.mem_cons_of_mem _ (List.mem_cons_self ..)
  exact ⟨hmem, (cache_transparent [] [] history).1 entry hmem⟩

end SqlTemplate.Session
