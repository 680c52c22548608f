import Mathlib.Control.Monad.Basic
import SqlTemplate.Proofs.Session.Contexts
import SqlTemplate.Proofs.Session.Transparency

/-!
# SqlTemplate.Proofs.Composition

Statements that several nodes make up. Each node contributes what it renders to by itself, and
nothing but the parameter of the statement bears on it.

* `contributes_apply`: an apply to any context against a render of the parameter alone.
* `applyAll_rendered`: a run over nodes that all render.
* `statement_composes`: the statement of a list of nodes, and what may happen in between.
-/

namespace SqlTemplate

/-- The engine of a session that began with nothing kept. -/
def Engine.Reached (engine : Engine) : Prop :=
  ∃ contexts nodes history, engine = (Session.runAll { contexts, nodes } history).2.engine

theorem Engine.Reached.faithful {engine : Engine} (h : engine.Reached) : engine.Faithful := by
  obtain ⟨contexts, nodes, history, rfl⟩ := h
  exact Session.faithful_runAll (Engine.faithful_of_paths_eq_nil rfl) history

theorem Engine.reached_empty : ({} : Engine).Reached :=
  ⟨[], [], [], rfl⟩

/-! ## Lists of outcomes -/

section Outcomes

variable {α β ε : Type} {f : α → Except ε β}

theorem exists_map_eq_map_ok_iff {xs : List α} :
    (∃ ys : List β, xs.map f = ys.map .ok) ↔ ∀ x ∈ xs, ∃ y, f x = .ok y := by
  induction xs with
  | nil => exact iff_of_true ⟨[], rfl⟩ (by simp)
  | cons x rest ih =>
    rw [List.forall_mem_cons, ← ih]
    constructor
    · rintro ⟨ys, h⟩
      cases ys with
      | nil => cases h
      | cons y ys => exact ⟨⟨y, (List.cons.inj h).1⟩, ys, (List.cons.inj h).2⟩
    · rintro ⟨⟨y, hy⟩, ys, hys⟩
      exact ⟨y :: ys, by rw [List.map_cons, List.map_cons, hy, hys]⟩

theorem exists_first_error {xs : List α} (h : ¬∀ x ∈ xs, ∃ y, f x = .ok y) :
    ∃ (before : List α) (x : α) (after : List α) (ys : List β) (e : ε),
      xs = before ++ x :: after ∧ before.map f = ys.map .ok ∧ f x = .error e := by
  induction xs with
  | nil => exact absurd (by simp) h
  | cons x rest ih =>
    cases hx : f x with
    | error e => exact ⟨[], x, rest, [], e, rfl, rfl, hx⟩
    | ok y =>
      have hrest : ¬∀ x ∈ rest, ∃ y, f x = .ok y :=
        fun hall => h (List.forall_mem_cons.mpr ⟨⟨y, hx⟩, hall⟩)
      obtain ⟨before, x', after, ys, e, rfl, hys, he⟩ := ih hrest
      exact ⟨x :: before, x', after, y :: ys, e, rfl, by rw [List.map_cons, hx, hys]; rfl, he⟩

end Outcomes

namespace Node

/-- Applies nodes one after the other, up to the first that fails. -/
def applyAll {γ : Type} [RenderContext γ] :
    List Node → γ → Engine → Except RenderError Unit × γ × Engine
  | [], context, engine => (.ok (), context, engine)
  | node :: rest, context, engine =>
    match node.apply context engine with
    | (.error error, after, next) => (.error error, after, next)
    | (.ok _, after, next) => applyAll rest after next

/-- An apply fails with the error of a rendering and leaves the context as it was, or it appends the
text of the rendering. -/
def Contributes {γ : Type} [RenderContext γ] (rendered : Except RenderError String) (before : γ)
    (result : Except RenderError Bool) (after : γ) : Prop :=
  match rendered with
  | .error error => result = .error error ∧ after = before
  | .ok sql => result = .ok true ∧ after = RenderContext.appendSql before sql

variable {engine other : Engine}

theorem present_present (parameter : Option Value) :
    present (present parameter) = present parameter := by
  cases parameter with
  | none => rfl
  | some root => cases root <;> rfl

theorem contributes_apply {γ : Type} [RenderContext γ] (node : Node) {context : γ}
    {parameter : Option Value} (hparameter : RenderContext.parameter context = present parameter)
    (h : engine.Faithful) (h' : other.Faithful) :
    Contributes (node.render parameter other).1 context (node.apply context engine).1
      (node.apply context engine).2.1 := by
  rw [render_fst, apply_fst, apply_context, hparameter, node.resolve_of_faithful _ h h']
  cases (node.resolve (present parameter) engine).1 with
  | error error => exact ⟨rfl, rfl⟩
  | ok sql => exact ⟨rfl, rfl⟩

theorem contributes_apply_self {γ : Type} [RenderContext γ] (node : Node) (context : γ)
    (h : engine.Faithful) (h' : other.Faithful) :
    Contributes (node.render (RenderContext.parameter context) other).1 context
      (node.apply context engine).1 (node.apply context engine).2.1 := by
  refine node.contributes_apply ?_ h h'
  rw [parameter_eq, present_present]

theorem applyAll_of_ok {γ : Type} [RenderContext γ] {node : Node} {context : γ} {done : Bool}
    (h : (node.apply context engine).1 = .ok done) (rest : List Node) :
    applyAll (node :: rest) context engine =
      applyAll rest (node.apply context engine).2.1 (node.apply context engine).2.2 := by
  rw [applyAll]
  cases hs : node.apply context engine with
  | mk outcome after => rw [hs] at h; cases h; rfl

theorem applyAll_of_error {γ : Type} [RenderContext γ] {node : Node} {context : γ}
    {error : RenderError} (h : (node.apply context engine).1 = .error error) (rest : List Node) :
    applyAll (node :: rest) context engine = (.error error, (node.apply context engine).2) := by
  rw [applyAll]
  cases hs : node.apply context engine with
  | mk outcome after => rw [hs] at h; cases h; rfl

section Statement

variable {context : StatementContext} {parameter : Option Value}

/-- Nodes that all render append their texts, and leave the rest to be applied with the same
parameter. -/
theorem applyAll_rendered (hparameter : RenderContext.parameter context = present parameter)
    (h : engine.Faithful) (h' : other.Faithful) {nodes : List Node} {texts : List String}
    (htexts : nodes.map (fun node => (node.render parameter other).1) = texts.map .ok)
    (rest : List Node) :
    ∃ next, next.Faithful ∧ applyAll (nodes ++ rest) context engine =
      applyAll rest { context with fragments := context.fragments ++ texts } next := by
  induction nodes generalizing context engine texts with
  | nil =>
    cases texts with
    | nil => exact ⟨engine, h, by rw [List.append_nil]; rfl⟩
    | cons text texts => cases htexts
  | cons node nodes ih =>
    cases texts with
    | nil => cases htexts
    | cons text texts =>
      obtain ⟨hrender, hrest⟩ := List.cons.inj htexts
      have hcontributes := node.contributes_apply hparameter h h'
      rw [show (node.render parameter other).1 = .ok text from hrender] at hcontributes
      obtain ⟨hresult, hafter⟩ := hcontributes
      have hparameter' : RenderContext.parameter (context.appendSql text) = present parameter :=
        hparameter
      obtain ⟨next, hnext, heq⟩ := ih hparameter' (node.faithful_apply context h) hrest
      refine ⟨next, hnext, ?_⟩
      rw [List.cons_append, applyAll_of_ok hresult, hafter]
      refine heq.trans ?_
      rw [StatementContext.appendSql, List.append_assoc]
      rfl

theorem applyAll_first_error (hparameter : RenderContext.parameter context = present parameter)
    (h : engine.Faithful) (h' : other.Faithful) {before : List Node} {node : Node}
    {texts : List String} {error : RenderError}
    (htexts : before.map (fun node => (node.render parameter other).1) = texts.map .ok)
    (herror : (node.render parameter other).1 = .error error) (after : List Node) :
    (applyAll (before ++ node :: after) context engine).1 = .error error ∧
      (applyAll (before ++ node :: after) context engine).2.1 =
        { context with fragments := context.fragments ++ texts } := by
  obtain ⟨next, hnext, heq⟩ := applyAll_rendered hparameter h h' htexts (node :: after)
  have hparameter' : RenderContext.parameter
      { context with fragments := context.fragments ++ texts } = present parameter := hparameter
  have hcontributes := node.contributes_apply hparameter' hnext h'
  rw [herror] at hcontributes
  obtain ⟨hresult, hafter⟩ := hcontributes
  rw [heq, applyAll_of_error hresult]
  exact ⟨rfl, hafter⟩

end Statement

section New

variable {parameter : Option Value} {texts : List String}

theorem applyAll_new (h : engine.Faithful) (h' : other.Faithful) {nodes : List Node}
    (htexts : nodes.map (fun node => (node.render parameter other).1) = texts.map .ok) :
    (applyAll nodes (StatementContext.new parameter) engine).1 = .ok () ∧
      (applyAll nodes (StatementContext.new parameter) engine).2.1.fragments = texts := by
  obtain ⟨next, _, heq⟩ := applyAll_rendered (parameter_new parameter) h h' htexts []
  rw [List.append_nil] at heq
  rw [heq]
  exact ⟨rfl, List.nil_append texts⟩

theorem applyAll_new_error (h : engine.Faithful) (h' : other.Faithful)
    {nodes before after : List Node} {node : Node} {error : RenderError}
    (hnodes : nodes = before ++ node :: after)
    (htexts : before.map (fun node => (node.render parameter other).1) = texts.map .ok)
    (herror : (node.render parameter other).1 = .error error) :
    (applyAll nodes (StatementContext.new parameter) engine).1 = .error error ∧
      (applyAll nodes (StatementContext.new parameter) engine).2.1.fragments = texts := by
  obtain ⟨hresult, hcontext⟩ :=
    applyAll_first_error (parameter_new parameter) h h' htexts herror after
  rw [hnodes, hcontext]
  exact ⟨hresult, List.nil_append texts⟩

theorem applyAll_new_eq_ok_iff (h : engine.Faithful) (h' : other.Faithful) (nodes : List Node) :
    (applyAll nodes (StatementContext.new parameter) engine).1 = .ok () ↔
      ∀ node ∈ nodes, ∃ sql, (node.render parameter other).1 = .ok sql := by
  constructor
  · intro hrun
    refine Classical.byContradiction fun hnot => ?_
    obtain ⟨before, node, after, texts, error, hnodes, htexts, herror⟩ := exists_first_error hnot
    rw [(applyAll_new_error h h' hnodes htexts herror).1] at hrun
    cases hrun
  · intro hall
    obtain ⟨texts, htexts⟩ := exists_map_eq_map_ok_iff.mpr hall
    exact (applyAll_new h h' htexts).1

end New

/-- Whatever commands a context has been given, if none binds its parameter anew, a node goes on to
contribute to it what the node renders to by itself. -/
theorem contributes_after_commands (session : Session) (h : session.engine.Faithful)
    (h' : other.Faithful) {number : Nat} {context : StatementContext}
    (hcontext : session.contexts[number]? = some context) {commands : List Session.Command}
    (hcommands : ∀ command ∈ commands, ¬command.Rebinds number) :
    let later := (session.runAll commands).2
    ∃ now, later.contexts[number]? = some now ∧
      ∀ i node, later.nodes[i]? = some node → ∃ result after,
        (later.run (.apply number i)).1 = .applied result after ∧
          Contributes (node.render (RenderContext.parameter context) other).1 now result after := by
  intro later
  obtain ⟨now, hnow, hparameter⟩ := Session.parameter_runAll hcontext commands hcommands
  have hlater : later.engine.Faithful := Session.faithful_runAll h commands
  refine ⟨now, hnow, fun i node hnode => ?_⟩
  refine ⟨(node.apply now later.engine).1, (node.apply now later.engine).2.1, ?_, ?_⟩
  · have hnow' : later.contexts[number]? = some now := hnow
    simp only [Session.run, Session.applyNode, hnow', hnode]
  · rw [← hparameter]
    exact node.contributes_apply_self now hlater h'

/-- A list of nodes makes a statement just when each of them renders by itself, and then it is what
they render to; otherwise the first that does not render stops it with its error, after the texts of
those before it. A context bears on an apply through its parameter only, where null counts as none.
So no command between two applies makes a difference to the second unless it binds the parameter of
the statement anew. -/
theorem statement_composes {engine other : Engine} (h : engine.Reached) (h' : other.Reached) :
    (∀ (nodes : List Node) (parameter : Option Value),
      let rendered (node : Node) := (node.render parameter other).1
      let run := applyAll nodes (StatementContext.new parameter) engine
      (run.1 = .ok () ↔ ∀ node ∈ nodes, ∃ sql, rendered node = .ok sql) ∧
        (∀ texts, nodes.map rendered = texts.map .ok →
          run.1 = .ok () ∧ run.2.1.fragments = texts ∧ run.2.1.sql = " ".intercalate texts) ∧
        ∀ before node after texts error, nodes = before ++ node :: after →
          before.map rendered = texts.map .ok → rendered node = .error error →
            run.1 = .error error ∧ run.2.1.fragments = texts) ∧
      (∀ {γ δ : Type} [RenderContext γ] [RenderContext δ] (node : Node) (context : γ)
        (context' : δ), RenderContext.parameter context = RenderContext.parameter context' →
          ∃ rendered,
            Contributes rendered context (node.apply context engine).1
                (node.apply context engine).2.1 ∧
              Contributes rendered context' (node.apply context' other).1
                (node.apply context' other).2.1) ∧
      (∀ {γ : Type} [RenderContext γ] (context : γ),
        RenderContext.parameter context = none ↔
          RenderContext.binding context parameterName = none ∨
            RenderContext.binding context parameterName = some .null) ∧
      ∀ (contexts : List StatementContext) (nodes : List Node) (number : Nat)
        (context : StatementContext), contexts[number]? = some context →
          ∀ commands : List Session.Command, (∀ command ∈ commands, ¬command.Rebinds number) →
            let later := (Session.runAll { contexts, nodes, engine } commands).2
            ∃ now, later.contexts[number]? = some now ∧
              ∀ i node, later.nodes[i]? = some node → ∃ result after,
                (later.run (.apply number i)).1 = .applied result after ∧
                  Contributes (node.render (RenderContext.parameter context) other).1 now result
                    after := by
  refine ⟨fun nodes parameter => ⟨?_, fun texts htexts => ?_, ?_⟩,
    fun node context context' hparameter => ?_, fun context => RenderContext.parameter_eq_none_iff,
    fun contexts nodes number context hcontext commands hcommands => ?_⟩
  · exact applyAll_new_eq_ok_iff h.faithful h'.faithful nodes
  · obtain ⟨hresult, hfragments⟩ := applyAll_new h.faithful h'.faithful htexts
    exact ⟨hresult, hfragments, by rw [StatementContext.sql, hfragments]⟩
  · intro before node after texts error
    exact applyAll_new_error h.faithful h'.faithful
  · refine ⟨_, node.contributes_apply_self context h.faithful h'.faithful, ?_⟩
    rw [hparameter]
    exact node.contributes_apply_self context' h'.faithful h'.faithful
  · exact contributes_after_commands { contexts, nodes, engine } h.faithful h'.faithful hcontext
      hcommands

/-- The second node stops a statement after the text of the first, over an engine that has kept a
path; and the first still contributes its text to a context after it has been changed. -/
theorem statement_stops_at_second :
    let engine := (Session.runAll {} [.compile "b"]).2.engine
    let parameter := some (Value.object [("a", .number "1")])
    let first : Node := { text := "SELECT ${a}" }
    let second : Node := { text := "${b}" }
    let error := RenderError.evaluation (.path (.obstructed "b" (.unknownProperty "b")))
    let run := applyAll [first, second, first] (StatementContext.new parameter) engine
    let context := StatementContext.new parameter
    let commands : List Session.Command :=
      [.bind 0 "b" (.bool true), .setDatabaseId 0 "sqlite", .append 0 "FROM t", .uniqueNumber 0,
        .clearPaths]
    let later := (Session.runAll { contexts := [context], nodes := [first], engine } commands).2
    (run.1 = .error error ∧ run.2.1.fragments = ["SELECT 1"]) ∧
      ∃ now, later.contexts[0]? = some now ∧
        ∀ i node, later.nodes[i]? = some node → ∃ result after,
          (later.run (.apply 0 i)).1 = .applied result after ∧
            Contributes (node.render (RenderContext.parameter context) {}).1 now result after := by
  have hrender : (({ text := "SELECT ${a}" } : Node).render (some (.object [("a", .number "1")]))
        {}).1 = .ok "SELECT 1" ∧
      (({ text := "${b}" } : Node).render (some (.object [("a", .number "1")])) {}).1 =
        .error (.evaluation (.path (.obstructed "b" (.unknownProperty "b")))) := by
    constructor
    · decide +kernel
    · decide +kernel
  intro engine parameter first second error run context commands later
  have hreached : engine.Reached := ⟨[], [], _, rfl⟩
  have hcommands : ∀ command ∈ commands, ¬command.Rebinds 0 := by
    simp [commands, Session.Command.Rebinds, parameterName]
  obtain ⟨hcompose, _, _, hcontribute⟩ := statement_composes hreached Engine.reached_empty
  refine ⟨?_, ?_⟩
  · exact (hcompose [first, second, first] parameter).2.2 [first] second [first] ["SELECT 1"] error
      rfl (congrArg (fun outcome => [outcome]) hrender.1) hrender.2
  · exact hcontribute [context] [first] 0 context rfl commands hcommands

end Node

end SqlTemplate
