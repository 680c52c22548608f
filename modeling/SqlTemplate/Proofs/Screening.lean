import SqlTemplate.Proofs.Rendering

/-!
# SqlTemplate.Proofs.Screening

What a filter does to a node: it lets the text of the node through as it is, or stops it at the
leftmost token whose value it does not accept.

* `replies_guarded_iff`: a guarded node replies to all tokens just when the bare one does and all
  replies are accepted.
* `render_guarded`: the renders of a node with and without a filter, and the two ways in which the
  filtered one fails.
-/

namespace SqlTemplate

/-- The value of a token is found, and the filter accepts it. -/
def Filter.Admits (filter : Filter) (value : Except EvaluationError String) : Prop :=
  ∃ text, value = .ok text ∧ filter.accepts text = true

/-- The value of a token is found, but the filter does not accept it. -/
def Filter.Refuses (filter : Filter) (value : Except EvaluationError String) : Prop :=
  ∃ text, value = .ok text ∧ filter.accepts text = false

namespace Node

open Template

/-- A parameter is given, and it is not null. -/
def Given (parameter : Option Value) (root : Value) : Prop :=
  parameter = some root ∧ root ≠ .null

theorem present_eq_some_iff {parameter : Option Value} {root : Value} :
    present parameter = some root ↔ Given parameter root := by
  cases parameter with
  | none => simp [present, Given]
  | some value =>
    cases value with
    | null =>
      simp only [present, Value.isNull, if_true, Given, Option.some.injEq, reduceCtorEq, false_iff]
      rintro ⟨rfl, hne⟩
      exact hne rfl
    | _ =>
      simp only [present, Value.isNull, Bool.false_eq_true, if_false, Given, Option.some.injEq]
      constructor
      · rintro rfl
        exact ⟨rfl, by simp⟩
      · exact fun h => h.1

/-- Some of the contents is `bad`, and all contents to its left are `good`. -/
def Stops (contents : List String) (good bad : String → Prop) : Prop :=
  ∃ before content after, contents = before ++ content :: after ∧ bad content ∧
    ∀ c ∈ before, good c

theorem screened_eq_ok_iff {filter : Filter} {value : Except EvaluationError String}
    {text : String} :
    screened (some filter) value = .ok text ↔ value = .ok text ∧ filter.accepts text = true := by
  cases value with
  | error error => simp [screened]
  | ok found =>
    rw [screened]
    cases h : filter.accepts found with
    | true =>
      simp only [if_true, Except.ok.injEq]
      constructor
      · rintro rfl; exact ⟨rfl, h⟩
      · exact fun h => h.1
    | false =>
      simp only [Bool.false_eq_true, if_false, reduceCtorEq, Except.ok.injEq, false_iff]
      rintro ⟨rfl, ha⟩
      rw [h] at ha
      cases ha

theorem exists_screened_eq_ok_iff {filter : Filter} {value : Except EvaluationError String} :
    (∃ text, screened (some filter) value = .ok text) ↔ filter.Admits value := by
  simp only [screened_eq_ok_iff, Filter.Admits]

theorem screened_eq_invalidInput_iff {filter : Filter} {value : Except EvaluationError String} :
    screened (some filter) value = .error (.invalidInput filter.pattern) ↔
      filter.Refuses value := by
  cases value with
  | error error => simp [screened, Filter.Refuses]
  | ok found => cases h : filter.accepts found <;> simp [screened, Filter.Refuses, h]

theorem screened_eq_evaluation_iff {filter : Filter} {value : Except EvaluationError String}
    {error : EvaluationError} :
    screened (some filter) value = .error (.evaluation error) ↔ value = .error error := by
  cases value with
  | error other => simp [screened]
  | ok found => cases h : filter.accepts found <;> simp [screened, h]

theorem screened_error {filter : Filter} {value : Except EvaluationError String}
    {error : RenderError} (h : screened (some filter) value = .error error) :
    error = .invalidInput filter.pattern ∨ ∃ inner, error = .evaluation inner := by
  cases value with
  | error inner => cases h; exact .inr ⟨inner, rfl⟩
  | ok found =>
    rw [screened] at h
    split at h
    · cases h
    · cases h; exact .inl rfl

theorem replies_guarded_iff (filter : Filter) (value : String → Except EvaluationError String)
    {contents texts : List String} :
    replies (fun content => screened (some filter) (value content)) contents = .ok texts ↔
      replies (fun content => screened none (value content)) contents = .ok texts ∧
        ∀ content ∈ contents, filter.Admits (value content) := by
  simp only [replies_eq_ok_iff]
  induction contents generalizing texts with
  | nil => simp
  | cons content rest ih =>
    cases texts with
    | nil => simp
    | cons text others =>
      simp only [List.map_cons, List.cons.injEq, List.forall_mem_cons, ih, screened_eq_ok_iff]
      constructor
      · rintro ⟨⟨hv, ha⟩, hrest, hall⟩
        exact ⟨⟨by rw [hv]; rfl, hrest⟩, ⟨text, hv, ha⟩, hall⟩
      · rintro ⟨⟨hs, hrest⟩, ⟨found, hv, ha⟩, hall⟩
        rw [hv] at hs ⊢
        cases hs
        exact ⟨⟨rfl, ha⟩, hrest, hall⟩

theorem replies_guarded_stops (filter : Filter) (value : String → Except EvaluationError String)
    {contents : List String} {error : RenderError} :
    replies (fun content => screened (some filter) (value content)) contents = .error error ↔
      Stops contents (fun content => filter.Admits (value content))
        (fun content => screened (some filter) (value content) = .error error) := by
  simp only [replies_eq_error_iff, Stops, exists_screened_eq_ok_iff]

/-- The statement of a single node is the text of the node. -/
theorem render_fst (node : Node) (parameter : Option Value) (engine : Engine) :
    (node.render parameter engine).1 = (node.resolve (present parameter) engine).1 := by
  rw [render, apply, parameter_new]
  cases node.resolve (present parameter) engine with
  | mk outcome next =>
    cases outcome with
    | error error => rfl
    | ok sql => rfl

/-- With a filter a node renders to the same text or fails. It fails only with the filter's own
pattern or the evaluator's own error, each where the leftmost token that does not get through says
so; a parameter that is not given lets every token through. -/
theorem render_guarded (text : String) (evaluator : Evaluator) (filter : Filter)
    (parameter : Option Value) (engine : Engine) :
    let plain : Node := { text, evaluator }
    let guarded : Node := { text, filter := some filter, evaluator }
    let contents := tokens (segments .dollar text)
    let value (root : Value) := valueText (evaluator.answer engine) root
    (∀ sql, (guarded.render parameter engine).1 = .ok sql ↔
        (plain.render parameter engine).1 = .ok sql ∧
          ∀ root, Given parameter root → ∀ content ∈ contents,
            filter.Admits (value root content)) ∧
      ((guarded.render parameter engine).1 = .error (.invalidInput filter.pattern) ↔
        ∃ root, Given parameter root ∧
          Stops contents (fun content => filter.Admits (value root content))
            (fun content => filter.Refuses (value root content))) ∧
      (∀ error, (guarded.render parameter engine).1 = .error (.evaluation error) ↔
        ∃ root, Given parameter root ∧
          Stops contents (fun content => filter.Admits (value root content))
            (fun content => value root content = .error error)) ∧
      ∀ error, (guarded.render parameter engine).1 = .error error →
        error = .invalidInput filter.pattern ∨ ∃ inner, error = .evaluation inner := by
  intro plain guarded contents value
  simp only [render_fst, ← present_eq_some_iff]
  cases hp : present parameter with
  | none =>
    rw [resolve_none, resolve_none]
    simp [guarded, plain]
  | some root =>
    have hplain : plain.tokenReply root engine = fun content =>
        screened none (value root content) := rfl
    have hguarded : guarded.tokenReply root engine = fun content =>
        screened (some filter) (value root content) := rfl
    simp only [resolve_some_eq_ok_iff, resolve_some_eq_error_iff, hplain, hguarded,
      replies_guarded_stops, Option.some.injEq, screened_eq_invalidInput_iff,
      screened_eq_evaluation_iff, exists_eq_left']
    refine ⟨fun sql => ?_, Iff.rfl, fun _ => Iff.rfl, fun error herror => ?_⟩
    · constructor
      · rintro ⟨texts, hr, hsql⟩
        obtain ⟨hbare, hall⟩ := (replies_guarded_iff filter (value root)).mp hr
        refine ⟨⟨texts, hbare, hsql⟩, ?_⟩
        rintro other rfl
        exact hall
      · rintro ⟨⟨texts, hr, hsql⟩, hall⟩
        exact ⟨texts, (replies_guarded_iff filter (value root)).mpr ⟨hr, hall root rfl⟩, hsql⟩
    · obtain ⟨_, content, _, _, hbad, _⟩ := herror
      exact screened_error hbad

end Node

end SqlTemplate
