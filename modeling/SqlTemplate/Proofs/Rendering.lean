import SqlTemplate.Node.Basic
import SqlTemplate.Proofs.Answer
import SqlTemplate.Proofs.Conversation

/-!
# SqlTemplate.Proofs.Rendering

What a node makes of the tokens of its text. Each token has a reply of its own, which depends on
its content, the parameter and the evaluator, but not on what has been asked before.

* `resolve_none`, `resolve_some`, `asked_resolve`: the text of a node is its literals filled in
  with these replies, or the failure of the leftmost token that fails.
* `apply_plain`: what a node without a filter appends, asks for and fails with, from its literals
  and token contents.
-/

namespace SqlTemplate.Node

open Template

/-- The text of a token for a root: that of a simple root, or of the value that the evaluator finds
in it. -/
def valueText (answer : String → Value → Except EvaluationError Value) (root : Value)
    (content : String) : Except EvaluationError String :=
  if root.isSimple then .ok root.toText else (answer content root).map Value.toText

/-- The text of a token, unless the filter rejects it. -/
def screened (filter : Option Filter) : Except EvaluationError String → Except RenderError String
  | .error error => .error (.evaluation error)
  | .ok text =>
    match filter with
    | none => .ok text
    | some filter =>
      if filter.accepts text then .ok text else .error (.invalidInput filter.pattern)

theorem approve_fst (node : Node) (content text : String) (engine : Engine) :
    (node.approve content text engine).1 = (screened node.filter (.ok text)).map some := by
  simp only [approve, screened]
  cases node.filter with
  | none => rfl
  | some filter =>
    simp only
    cases h : filter.accepts text with
    | true => rw [Filter.check_of_accepts h]; rfl
    | false => rw [Filter.check_of_not_accepts h]; rfl

/-- Only records are made. -/
theorem approve_snd (node : Node) (content text : String) (engine : Engine) :
    ∃ records, (node.approve content text engine).2 = { engine with records } := by
  rw [approve]
  cases node.filter with
  | none => exact ⟨_, rfl⟩
  | some filter =>
    simp only
    cases h : filter.accepts text with
    | true => rw [Filter.check_of_accepts h]; exact ⟨_, rfl⟩
    | false => rw [Filter.check_of_not_accepts h]; exact ⟨_, rfl⟩

theorem resolveToken_fst (node : Node) (root : Value) (content : String) (engine : Engine) :
    (node.resolveToken (some root) content engine).1 =
      (screened node.filter (valueText (node.evaluator.answer engine) root content)).map some := by
  rw [resolveToken, valueText]
  cases hs : root.isSimple with
  | true => simp only [if_true]; exact approve_fst node content root.toText engine
  | false =>
    simp only [Bool.false_eq_true, if_false, Evaluator.answer]
    cases node.evaluator.evaluate content root engine with
    | mk outcome next =>
      cases outcome with
      | error error => rfl
      | ok value => exact approve_fst node content value.toText next

theorem answer_resolveToken (node : Node) (root : Value) (content : String) (engine : Engine) :
    node.evaluator.answer (node.resolveToken (some root) content engine).2 =
      node.evaluator.answer engine := by
  rw [resolveToken]
  cases hs : root.isSimple with
  | true =>
    simp only [if_true]
    obtain ⟨records, h⟩ := approve_snd node content root.toText engine
    rw [h]
    exact Evaluator.answer_congr _ rfl
  | false =>
    simp only [Bool.false_eq_true, if_false]
    have hkeep := Evaluator.answer_evaluate node.evaluator content root engine
    cases he : node.evaluator.evaluate content root engine with
    | mk outcome next =>
      rw [he] at hkeep
      cases outcome with
      | error error => exact hkeep
      | ok value =>
        obtain ⟨records, h⟩ := approve_snd node content value.toText next
        simp only
        rw [h, ← hkeep]
        exact Evaluator.answer_congr _ rfl

/-- A simple root is never asked about. -/
theorem asked_resolveToken (node : Node) (root : Value) (content : String) (engine : Engine) :
    (node.resolveToken (some root) content engine).2.asked =
      engine.asked ++ if root.isSimple then [] else [content] := by
  rw [resolveToken]
  cases hs : root.isSimple with
  | true =>
    simp only [if_true]
    obtain ⟨records, h⟩ := approve_snd node content root.toText engine
    rw [h, List.append_nil]
  | false =>
    simp only [Bool.false_eq_true, if_false]
    have hasked := Evaluator.asked_evaluate node.evaluator content root engine
    cases he : node.evaluator.evaluate content root engine with
    | mk outcome next =>
      rw [he] at hasked
      cases outcome with
      | error error => exact hasked
      | ok value =>
        obtain ⟨records, h⟩ := approve_snd node content value.toText next
        simp only
        rw [h]
        exact hasked

/-- The reply to a token, whatever has been asked since the engine had the given state. -/
def tokenReply (node : Node) (root : Value) (engine : Engine) (content : String) :
    Except RenderError String :=
  screened node.filter (valueText (node.evaluator.answer engine) root content)

theorem follows_resolveToken (node : Node) (root : Value) (engine : Engine) :
    Follows (node.resolveToken (some root)) (node.tokenReply root engine)
      (fun state => node.evaluator.answer state = node.evaluator.answer engine) := by
  intro content state h
  constructor
  · rw [resolveToken_fst, h]; rfl
  · exact (answer_resolveToken node root content state).trans h

theorem converse_resolveToken_none (node : Node) (contents : List String) (engine : Engine) :
    converse (node.resolveToken none) contents engine =
      (.ok (contents.map fun _ => ""), engine) := by
  induction contents with
  | nil => rfl
  | cons content rest ih =>
    rw [converse, resolveToken]
    simp only [ih]
    rfl

/-- Without a parameter all tokens are empty, and nothing else happens. -/
theorem resolve_none (node : Node) (engine : Engine) :
    node.resolve none engine =
      (.ok (String.ofList (fill (segments .dollar node.text)
        ((tokens (segments .dollar node.text)).map fun _ => ""))), engine) := by
  rw [resolve, expand_eq, converse_resolveToken_none]
  rfl

theorem resolve_some (node : Node) (root : Value) (engine : Engine) :
    (node.resolve (some root) engine).1 =
      (replies (node.tokenReply root engine) (tokens (segments .dollar node.text))).map fun texts =>
        String.ofList (fill (segments .dollar node.text) texts) := by
  rw [resolve, expand_eq, converse_fst (follows_resolveToken node root engine) _ rfl]

theorem resolve_some_eq_ok_iff {node : Node} {root : Value} {engine : Engine} {sql : String} :
    (node.resolve (some root) engine).1 = .ok sql ↔
      ∃ texts,
        replies (node.tokenReply root engine) (tokens (segments .dollar node.text)) = .ok texts ∧
          String.ofList (fill (segments .dollar node.text) texts) = sql := by
  rw [resolve_some]
  cases replies (node.tokenReply root engine) (tokens (segments .dollar node.text)) with
  | error error => simp [Except.map]
  | ok texts => simp [Except.map]

theorem resolve_some_eq_error_iff {node : Node} {root : Value} {engine : Engine}
    {error : RenderError} :
    (node.resolve (some root) engine).1 = .error error ↔
      replies (node.tokenReply root engine) (tokens (segments .dollar node.text)) =
        .error error := by
  rw [resolve_some]
  cases replies (node.tokenReply root engine) (tokens (segments .dollar node.text)) with
  | error other => simp [Except.map]
  | ok texts => simp [Except.map]

theorem asked_resolve (node : Node) (root : Value) (engine : Engine) :
    (node.resolve (some root) engine).2.asked =
      engine.asked ++
        (asked (node.tokenReply root engine) (tokens (segments .dollar node.text))).flatMap
          fun content => if root.isSimple then [] else [content] := by
  rw [resolve, expand_eq]
  exact converse_snd (follows_resolveToken node root engine) (asked_resolveToken node root) _ rfl

/-- The text of a value, which is empty for null. -/
def bareText : Value → String
  | .null => ""
  | value => value.toText

/-- Asks for each content in turn with the same root, up to the first failure: the texts of all
values or that failure, and what has been asked. -/
def consult (answer : String → Value → Except EvaluationError Value) (root : Value)
    (contents : List String) : Except EvaluationError (List String) × List String :=
  let text (content : String) := (answer content root).map bareText
  (replies text contents, Template.asked text contents)

/-- What the tokens of a text are replaced by, from what the parameter is bound to, and what has
been asked for it. -/
def replacements (answer : String → Value → Except EvaluationError Value) :
    Option Value → List String → Except EvaluationError (List String) × List String
  | none, contents => (.ok (contents.map fun _ => ""), [])
  | some .null, contents => (.ok (contents.map fun _ => ""), [])
  | some (.array items), contents => consult answer (.array items) contents
  | some (.object members), contents => consult answer (.object members) contents
  | some value, contents => (.ok (contents.map fun _ => value.toText), [])

theorem bareText_eq (value : Value) : bareText value = value.toText := by
  cases value <;> rfl

theorem screened_none (value : Except EvaluationError String) :
    screened none value = value.mapError .evaluation := by
  cases value <;> rfl

/-- An array or object as root: its tokens are consulted about. -/
theorem resolve_plain_compound (text : String) (evaluator : Evaluator) {root : Value}
    (hroot : root.isSimple = false) (engine : Engine) :
    let node : Node := { text, evaluator }
    let template := segments .dollar text
    let expected := consult (evaluator.answer engine) root (tokens template)
    (node.resolve (some root) engine).1 =
        (expected.1.mapError .evaluation).map (fun texts => String.ofList (fill template texts)) ∧
      (node.resolve (some root) engine).2.asked = engine.asked ++ expected.2 := by
  intro node template expected
  have hreply : node.tokenReply root engine = fun content =>
      ((evaluator.answer engine content root).map bareText).mapError .evaluation := by
    funext content
    simp only [node, tokenReply, valueText, hroot, Bool.false_eq_true, if_false, screened_none]
    rw [funext bareText_eq]
  constructor
  · rw [resolve_some, hreply, replies_mapError]; rfl
  · rw [asked_resolve, hreply, asked_mapError]
    simp [hroot, expected, consult, template, node]

/-- A simple root stands for every token. -/
theorem resolve_plain_simple (text : String) (evaluator : Evaluator) {root : Value}
    (hroot : root.isSimple = true) (engine : Engine) :
    let node : Node := { text, evaluator }
    let template := segments .dollar text
    (node.resolve (some root) engine).1 =
        .ok (String.ofList (fill template ((tokens template).map fun _ => root.toText))) ∧
      (node.resolve (some root) engine).2.asked = engine.asked := by
  intro node template
  have hreply : node.tokenReply root engine = fun _ => .ok root.toText := by
    funext content
    simp only [tokenReply, valueText, hroot, if_true, screened, node]
  constructor
  · rw [resolve_some, hreply, replies_ok]; rfl
  · rw [asked_resolve, hreply]
    simp [hroot]

/-- The parameter that a node sees, from what is bound. -/
def present : Option Value → Option Value
  | none => none
  | some root => if root.isNull then none else some root

theorem parameter_eq {γ : Type} [RenderContext γ] (context : γ) :
    RenderContext.parameter context = present (RenderContext.binding context parameterName) := by
  rw [RenderContext.parameter]
  cases RenderContext.binding context parameterName <;> rfl

theorem parameter_new (parameter : Option Value) :
    RenderContext.parameter (StatementContext.new parameter) = present parameter := by
  rw [StatementContext.parameter_new]
  cases parameter <;> rfl

/-- All cases of what the parameter may be bound to. -/
theorem resolve_plain (text : String) (evaluator : Evaluator) (bound : Option Value)
    (engine : Engine) :
    let node : Node := { text, evaluator }
    let template := segments .dollar text
    let expected := replacements (evaluator.answer engine) bound (tokens template)
    (node.resolve (present bound) engine).1 =
        (expected.1.mapError .evaluation).map (fun texts => String.ofList (fill template texts)) ∧
      (node.resolve (present bound) engine).2.asked = engine.asked ++ expected.2 := by
  intro node template expected
  have absent : (node.resolve none engine).1 =
      .ok (String.ofList (fill template ((tokens template).map fun _ => ""))) ∧
      (node.resolve none engine).2.asked = engine.asked ++ [] := by
    rw [resolve_none, List.append_nil]
    exact ⟨rfl, rfl⟩
  have simple {root : Value} (hroot : root.isSimple = true) :
      (node.resolve (some root) engine).1 =
        .ok (String.ofList (fill template ((tokens template).map fun _ => root.toText))) ∧
      (node.resolve (some root) engine).2.asked = engine.asked ++ [] := by
    rw [List.append_nil]
    exact resolve_plain_simple text evaluator hroot engine
  cases bound with
  | none => exact absent
  | some root =>
    cases root with
    | null => exact absent
    | bool b => exact simple rfl
    | number spelling => exact simple rfl
    | string s => exact simple rfl
    | array items => exact resolve_plain_compound text evaluator rfl engine
    | object members => exact resolve_plain_compound text evaluator rfl engine

theorem apply_fst {γ : Type} [RenderContext γ] (node : Node) (context : γ) (engine : Engine) :
    (node.apply context engine).1 =
      (node.resolve (RenderContext.parameter context) engine).1.map fun _ => true := by
  rw [apply]
  cases node.resolve (RenderContext.parameter context) engine with
  | mk outcome next => cases outcome <;> rfl

theorem apply_context {γ : Type} [RenderContext γ] (node : Node) (context : γ) (engine : Engine) :
    (node.apply context engine).2.1 =
      match (node.resolve (RenderContext.parameter context) engine).1 with
      | .error _ => context
      | .ok sql => RenderContext.appendSql context sql := by
  rw [apply]
  cases node.resolve (RenderContext.parameter context) engine with
  | mk outcome next => cases outcome <;> rfl

theorem asked_apply {γ : Type} [RenderContext γ] (node : Node) (context : γ) (engine : Engine) :
    (node.apply context engine).2.2.asked =
      (node.resolve (RenderContext.parameter context) engine).2.asked := by
  rw [apply]
  cases node.resolve (RenderContext.parameter context) engine with
  | mk outcome next => cases outcome <;> rfl

/-- A node without a filter appends its literals with the replacements of its tokens between them,
or fails where one of them has no value, and asks for what it needs and no more. -/
theorem apply_plain {γ : Type} [RenderContext γ] (text : String) (evaluator : Evaluator)
    (context : γ) (engine : Engine) :
    let node : Node := { text, evaluator }
    let template := segments .dollar text
    let expected := replacements (evaluator.answer engine)
      (RenderContext.binding context parameterName) (tokens template)
    let applied := node.apply context engine
    applied.2.2.asked = engine.asked ++ expected.2 ∧
      match expected.1 with
      | .error error => applied.1 = .error (.evaluation error) ∧ applied.2.1 = context
      | .ok texts =>
        applied.1 = .ok true ∧
          applied.2.1 =
            RenderContext.appendSql context (String.ofList (fill template texts)) := by
  intro node template expected applied
  obtain ⟨hr, ha⟩ := resolve_plain text evaluator
    (RenderContext.binding context parameterName) engine
  rw [← parameter_eq] at hr ha
  simp only [applied, apply_fst, apply_context, asked_apply]
  refine ⟨ha, ?_⟩
  rw [hr]
  cases expected.1 with
  | error error => exact ⟨rfl, rfl⟩
  | ok texts => exact ⟨rfl, rfl⟩

end SqlTemplate.Node
