import SqlTemplate.Proofs.Screening

/-!
# SqlTemplate.Proofs.Atomicity

An apply is all or nothing: it comes to a token that has no text and leaves the context alone, or it
appends the texts of all tokens with the literals between them, in one piece.

* `resolve_eq`: the text of a node from the replies to its tokens.
* `atomic_apply`, `atomic_step`: one apply, and each one in a sequence of them.
* `applyEach_statement`: what a sequence of applies makes of a statement.
-/

namespace SqlTemplate

/-- A context together with what has been appended to it, text by text. -/
structure Observed (γ : Type) where
  context : γ
  appended : List String := []

instance {γ : Type} [RenderContext γ] : RenderContext (Observed γ) where
  appendSql observed sql :=
    { context := RenderContext.appendSql observed.context sql
      appended := observed.appended ++ [sql] }
  binding observed := RenderContext.binding observed.context

namespace Node

open Template

/-- The reply to a token, for a parameter that may be absent. -/
def reply (node : Node) (parameter : Option Value) (engine : Engine) (content : String) :
    Except RenderError String :=
  match parameter with
  | none => .ok ""
  | some root => node.tokenReply root engine content

theorem resolve_eq (node : Node) (parameter : Option Value) (engine : Engine) :
    (node.resolve parameter engine).1 =
      (replies (node.reply parameter engine) (tokens (segments .dollar node.text))).map fun texts =>
        String.ofList (fill (segments .dollar node.text) texts) := by
  cases parameter with
  | none =>
    have hreply : node.reply none engine = fun _ => .ok "" := rfl
    rw [resolve_none, hreply, replies_ok]
    rfl
  | some root => exact resolve_some node root engine

section

variable {γ : Type} [RenderContext γ]

/-- What an apply to a context comes to. Where it fails, some token has no text, while all tokens to
its left have theirs; nothing is appended then, and the context is as it was. Otherwise all tokens
have texts, and the text they make up is appended once. -/
def Atomic (node : Node) (engine : Engine) (before : Observed γ)
    (result : Except RenderError Bool) (after : Observed γ) : Prop :=
  let template := segments .dollar node.text
  let reply := node.reply (RenderContext.parameter before.context) engine
  match result with
  | .error error =>
    Stops (tokens template) (fun content => ∃ text, reply content = .ok text)
        (fun content => reply content = .error error) ∧
      after.context = before.context ∧ after.appended = before.appended
  | .ok done =>
    done = true ∧ ∃ texts, (tokens template).map reply = texts.map .ok ∧
      let sql := String.ofList (fill template texts)
      after.context = RenderContext.appendSql before.context sql ∧
        after.appended = before.appended ++ [sql]

theorem atomic_apply (node : Node) (before : Observed γ) (engine : Engine) :
    node.Atomic engine before (node.apply before engine).1 (node.apply before engine).2.1 := by
  have hresolve := node.resolve_eq (RenderContext.parameter before) engine
  rw [apply_fst, apply_context, hresolve]
  cases hreplies : replies (node.reply (RenderContext.parameter before) engine)
      (tokens (segments .dollar node.text)) with
  | error error =>
    obtain ⟨left, content, right, hsplit, hfails, hleft⟩ := replies_eq_error_iff.mp hreplies
    exact ⟨⟨left, content, right, hsplit, hfails, hleft⟩, rfl, rfl⟩
  | ok texts => exact ⟨rfl, texts, replies_eq_ok_iff.mp hreplies, rfl, rfl⟩

/-- It makes no difference to an apply that it is observed. -/
theorem apply_observed (node : Node) (before : Observed γ) (engine : Engine) :
    node.apply before.context engine =
      ((node.apply before engine).1, (node.apply before engine).2.1.context,
        (node.apply before engine).2.2) := by
  have hparameter : RenderContext.parameter before.context = RenderContext.parameter before := rfl
  rw [apply, apply, hparameter]
  cases node.resolve (RenderContext.parameter before) engine with
  | mk outcome next => cases outcome <;> rfl

/-- Applies nodes one after the other, each whether or not those before it have failed. -/
def applyEach : List Node → γ → Engine → List (Except RenderError Bool) × γ × Engine
  | [], context, engine => ([], context, engine)
  | node :: rest, context, engine =>
    match node.apply context engine with
    | (result, between, next) =>
      match applyEach rest between next with
      | (results, after, last) => (result :: results, after, last)

theorem applyEach_cons (node : Node) (rest : List Node) (context : γ) (engine : Engine) :
    let first := node.apply context engine
    let others := applyEach rest first.2.1 first.2.2
    applyEach (node :: rest) context engine = (first.1 :: others.1, others.2) := rfl

/-- The apply number `i` goes from what the first `i` applies have left. -/
theorem applyEach_step (nodes : List Node) (start : γ) (engine : Engine) {i : Nat} {node : Node}
    (h : nodes[i]? = some node) :
    let before := (applyEach (nodes.take i) start engine).2
    (applyEach nodes start engine).1[i]? = some (node.apply before.1 before.2).1 ∧
      (applyEach (nodes.take (i + 1)) start engine).2 = (node.apply before.1 before.2).2 := by
  induction nodes generalizing start engine i with
  | nil => cases h
  | cons first rest ih =>
    cases i with
    | zero =>
      cases h
      exact ⟨rfl, rfl⟩
    | succ i => exact ih (first.apply start engine).2.1 (first.apply start engine).2.2 h

/-- Each apply in a sequence of them is all or nothing. -/
theorem atomic_step (nodes : List Node) (start : Observed γ) (engine : Engine) {i : Nat}
    {node : Node} (h : nodes[i]? = some node) :
    let before := (applyEach (nodes.take i) start engine).2
    let after := (applyEach (nodes.take (i + 1)) start engine).2
    ∃ result, (applyEach nodes start engine).1[i]? = some result ∧
      node.Atomic before.2 before.1 result after.1 := by
  intro before after
  obtain ⟨hresult, hafter⟩ := applyEach_step nodes start engine h
  refine ⟨_, hresult, ?_⟩
  rw [show after = (node.apply before.1 before.2).2 from hafter]
  exact node.atomic_apply before.1 before.2

end

/-- Each success adds one fragment, and all else in the statement is as it was. -/
theorem applyEach_statement (nodes : List Node) (statement : StatementContext) (engine : Engine) :
    let run := applyEach nodes statement engine
    ∃ texts, texts.length = run.1.countP Except.isOk ∧
      run.2.1 = { statement with fragments := statement.fragments ++ texts } := by
  induction nodes generalizing statement engine with
  | nil => exact ⟨[], rfl, by simp [applyEach]⟩
  | cons node rest ih =>
    rw [applyEach_cons, apply_fst, apply_context]
    cases (node.resolve (RenderContext.parameter statement) engine).1 with
    | error error =>
      obtain ⟨texts, hlength, hstatement⟩ := ih statement (node.apply statement engine).2.2
      refine ⟨texts, ?_, hstatement⟩
      rw [hlength]
      exact (List.countP_cons_of_neg Bool.false_ne_true).symm
    | ok sql =>
      obtain ⟨texts, hlength, hstatement⟩ :=
        ih (RenderContext.appendSql statement sql) (node.apply statement engine).2.2
      refine ⟨sql :: texts, ?_, ?_⟩
      · rw [List.length_cons, hlength]
        exact (List.countP_cons_of_pos rfl).symm
      · rw [hstatement]
        simp [RenderContext.appendSql, StatementContext.appendSql]

/-- An apply that fails leaves the context as it was, whatever its error and whichever token it is
that fails; one that succeeds appends the complete text, once. That is so for a single apply and for
each one in a sequence of them, and after the sequence a statement has the bindings and the next
number that it had before, and one more fragment for each success. -/
theorem apply_all_or_nothing {γ : Type} [RenderContext γ] (nodes : List Node)
    (start : Observed γ) (engine : Engine) :
    (∀ node : Node,
        let applied := node.apply start engine
        node.Atomic engine start applied.1 applied.2.1 ∧
          node.apply start.context engine = (applied.1, applied.2.1.context, applied.2.2)) ∧
      (∀ i node, nodes[i]? = some node →
        let before := (applyEach (nodes.take i) start engine).2
        let after := (applyEach (nodes.take (i + 1)) start engine).2
        ∃ result, (applyEach nodes start engine).1[i]? = some result ∧
          node.Atomic before.2 before.1 result after.1) ∧
      ∀ statement : StatementContext,
        let run := applyEach nodes statement engine
        run.2.1.bindings = statement.bindings ∧ run.2.1.nextNumber = statement.nextNumber ∧
          ∃ texts, texts.length = run.1.countP Except.isOk ∧
            run.2.1.fragments = statement.fragments ++ texts := by
  refine ⟨fun node => ?_, fun i node h => ?_, fun statement => ?_⟩
  · exact ⟨node.atomic_apply start engine, node.apply_observed start engine⟩
  · exact atomic_step nodes start engine h
  · obtain ⟨texts, hlength, hstatement⟩ := applyEach_statement nodes statement engine
    simp only [hstatement]
    exact ⟨trivial, trivial, texts, hlength, rfl⟩

/-- The second node fails after its first token has got its text, and the third appends the empty
text of a null. -/
theorem apply_around_failure :
    let first : Node := { text := "SELECT" }
    let failing : Node := { text := "${a} ${b}" }
    let last : Node := { text := "${n}" }
    let start : Observed StatementContext :=
      { context := .new (some (.object [("a", .number "1"), ("n", .null)])) }
    let nodes := [first, failing, last]
    let before := (applyEach [first] start {}).2
    let after := (applyEach [first, failing] start {}).2
    (nodes[1]? = some failing ∧
        ∃ result, (applyEach nodes start {}).1[1]? = some result ∧
          failing.Atomic before.2 before.1 result after.1) ∧
      after.1.appended = ["SELECT"] ∧
      (applyEach nodes start {}).2.1.appended = ["SELECT", ""] := by
  intro first failing last start nodes before after
  refine ⟨⟨rfl, ?_⟩, ?_, ?_⟩
  · exact (apply_all_or_nothing nodes start {}).2.1 1 failing rfl
  · decide +kernel
  · decide +kernel

end Node

end SqlTemplate
