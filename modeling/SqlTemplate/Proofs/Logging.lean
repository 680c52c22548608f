import SqlTemplate.Proofs.Submission

/-!
# SqlTemplate.Proofs.Logging

What is put on record when a node is applied. Each token has its own records, which depend on what
is kept by then; the first token that fails has the last ones, and only a text that is appended is
on record as rendered.

* `Node.tokenRecords`, `Node.tokenLog`: the records of one token, and of one token after the other.
* `Node.records_resolveToken`, `Node.cachedExpressions_resolveToken`: a token is resolved.
* `Node.records_converse`: all tokens of a text, from left to right.
* `Node.Concludes`: how the records of the tokens end.
* `Node.records_apply`: a node is applied to a context of any kind.
-/

namespace SqlTemplate

open Template

theorem Engine.records_compile (engine : Engine) (expression : String) :
    (engine.compile expression).2.records =
      engine.records ++
        if Path.parses expression = true ∧ expression ∉ engine.cachedExpressions then
          [.cached expression]
        else [] := by
  rw [compile, Path.parses, cachedExpressions]
  cases hget : engine.paths.get? expression with
  | some path =>
    rw [if_neg fun h => h.2 (Table.mem_names_of_get?_eq_some hget), List.append_nil]
  | none =>
    have hmem := Table.get?_eq_none_iff.mp hget
    cases Path.parse expression with
    | error error => rw [if_neg fun h => Bool.false_ne_true h.1, List.append_nil]
    | ok path => rw [if_pos ⟨rfl, hmem⟩]; rfl

/-- Put on record on the way: neither a complaint nor the end. -/
def Record.Routine : Record → Prop
  | .cached _ | .resolved _ _ => True
  | .rejected _ | .rendered _ => False

theorem Record.Routine.level_ne_warn {record : Record} (h : record.Routine) :
    record.level ≠ .warn := by
  cases record with
  | cached expression => exact nofun
  | resolved content value => exact nofun
  | rejected pattern => exact h.elim
  | rendered sql => exact h.elim

namespace Node

variable {node : Node} {root : Value} {kept : List String}
  {answer : String → Value → Except EvaluationError Value}

/-! ## One token -/

/-- The pattern that a value does not conform to. -/
def objection? (node : Node) (value : String) : Option String :=
  match node.filter with
  | none => none
  | some filter => if filter.accepts value then none else some filter.pattern

theorem objection?_eq_some_iff {value pattern : String} :
    node.objection? value = some pattern ↔
      ∃ filter, node.filter = some filter ∧ filter.pattern = pattern ∧
        filter.accepts value = false := by
  rw [objection?]
  cases node.filter with
  | none => exact ⟨nofun, fun ⟨_, h, _⟩ => nomatch h⟩
  | some filter => cases haccepts : filter.accepts value <;> simp [haccepts]

/-- The expression that is kept for a token, if it is submitted, has a path and is not kept yet. -/
def newlyKept (node : Node) (root : Value) (kept : List String) (content : String) : List String :=
  if node.submits root = true ∧ Path.parses content = true ∧ content ∉ kept then [content] else []

/-- What is put on record for a token, from what is kept when it is met. -/
def tokenRecords (node : Node) (root : Value)
    (answer : String → Value → Except EvaluationError Value) (kept : List String)
    (content : String) : List Record :=
  (node.newlyKept root kept content).map .cached ++
    match valueText answer root content with
    | .error _ => []
    | .ok value => .resolved content value :: (node.objection? value).toList.map .rejected

/-- What is put on record for tokens from left to right, up to the first that has no value or whose
value is rejected. -/
def tokenLog (node : Node) (root : Value)
    (answer : String → Value → Except EvaluationError Value) :
    List String → List String → List Record
  | _, [] => []
  | kept, content :: rest =>
    node.tokenRecords root answer kept content ++
      match screened node.filter (valueText answer root content) with
      | .error _ => []
      | .ok _ => tokenLog node root answer (kept ++ node.newlyKept root kept content) rest

theorem screened_ok (node : Node) (value : String) :
    screened node.filter (.ok value) =
      match node.objection? value with
      | none => .ok value
      | some pattern => .error (.invalidInput pattern) := by
  simp only [screened, objection?]
  cases node.filter with
  | none => rfl
  | some filter =>
    simp only
    cases filter.accepts value <;> rfl

theorem records_approve (node : Node) (content value : String) (engine : Engine) :
    (node.approve content value engine).2.records =
      engine.records ++
        .resolved content value :: (node.objection? value).toList.map .rejected := by
  rw [approve, objection?]
  cases node.filter with
  | none => rfl
  | some filter =>
    simp only
    cases haccepts : filter.accepts value with
    | true => rw [Filter.check_of_accepts haccepts]; rfl
    | false =>
      rw [Filter.check_of_not_accepts haccepts]
      exact List.append_assoc engine.records [.resolved content value] [.rejected filter.pattern]

/-- An evaluator puts on record what it keeps. -/
theorem records_evaluate (node : Node) (h : root.isSimple = false) (content : String)
    (engine : Engine) :
    (node.evaluator.evaluate content root engine).2.records =
      engine.records ++ (node.newlyKept root engine.cachedExpressions content).map .cached := by
  rw [Evaluator.evaluate_snd, newlyKept, submits, h]
  cases node.evaluator with
  | paths =>
    have hask : (engine.ask content).cachedExpressions = engine.cachedExpressions := rfl
    simp only [Engine.records_compile, hask, Evaluator.isDefault, Bool.not_false, Bool.and_true,
      true_and]
    split <;> rfl
  | custom answer =>
    simp only [Evaluator.isDefault, Bool.false_and, Bool.false_eq_true, false_and, if_false]
    exact (List.append_nil _).symm

theorem records_resolveToken (node : Node) (root : Value) (content : String) (engine : Engine) :
    (node.resolveToken (some root) content engine).2.records =
      engine.records ++ node.tokenRecords root (node.evaluator.answer engine)
        engine.cachedExpressions content := by
  rw [resolveToken, tokenRecords, valueText]
  cases hsimple : root.isSimple with
  | true =>
    have hnone : node.newlyKept root engine.cachedExpressions content = [] := by
      rw [newlyKept, submits, hsimple, Bool.not_true, Bool.and_false]
      exact if_neg fun h => Bool.false_ne_true h.1
    simp only [if_true]
    rw [records_approve, hnone]
    rfl
  | false =>
    have hrecords := node.records_evaluate hsimple content engine
    simp only [Bool.false_eq_true, if_false]
    rw [Evaluator.answer]
    cases hevaluate : node.evaluator.evaluate content root engine with
    | mk outcome next =>
      rw [hevaluate] at hrecords
      cases outcome with
      | error error => exact hrecords.trans (by rw [Except.map, List.append_nil])
      | ok value =>
        simp only [Except.map]
        rw [records_approve, hrecords, List.append_assoc]

theorem cachedExpressions_resolveToken (node : Node) (root : Value) (content : String)
    (engine : Engine) :
    (node.resolveToken (some root) content engine).2.cachedExpressions =
      engine.cachedExpressions ++ node.newlyKept root engine.cachedExpressions content := by
  rw [Engine.cachedExpressions, paths_resolveToken, newlyKept, Engine.cachedExpressions]
  cases node.submits root with
  | true =>
    simp only [if_true, true_and]
    rw [Engine.names_keep]
    split
    · rfl
    · exact (List.append_nil _).symm
  | false =>
    simp only [Bool.false_eq_true, if_false, false_and]
    exact (List.append_nil _).symm

/-! ## All tokens -/

theorem records_converse (node : Node) (root : Value) (contents : List String) (engine : Engine) :
    (converse (node.resolveToken (some root)) contents engine).2.records =
      engine.records ++ node.tokenLog root (node.evaluator.answer engine)
        engine.cachedExpressions contents := by
  induction contents generalizing engine with
  | nil => exact (List.append_nil _).symm
  | cons content rest ih =>
    have hreply := resolveToken_fst node root content engine
    have hrecords := node.records_resolveToken root content engine
    have hkept := node.cachedExpressions_resolveToken root content engine
    have hanswer := answer_resolveToken node root content engine
    rw [tokenLog]
    cases hresolve : node.resolveToken (some root) content engine with
    | mk outcome next =>
      rw [hresolve] at hreply hrecords hkept hanswer
      simp only at hreply hrecords hkept hanswer
      subst hreply
      cases hscreened : screened node.filter
          (valueText (node.evaluator.answer engine) root content) with
      | error error =>
        rw [hscreened] at hresolve
        rw [converse_failed hresolve, List.append_nil]
        exact hrecords
      | ok value =>
        rw [hscreened] at hresolve
        rw [converse_replied hresolve, ih, hrecords, hkept, hanswer, List.append_assoc]

/-! ## The end -/

/-- How the records of the tokens end, by what comes of the tokens. Only a rejection is complained
about, right after the value that is rejected. -/
inductive Concludes (node : Node) : Except RenderError (List String) → List Record → Prop
  | ok (texts : List String) {records : List Record} :
    (∀ r ∈ records, r.Routine) → Concludes node (.ok texts) records
  | unevaluated (error : EvaluationError) {records : List Record} :
    (∀ r ∈ records, r.Routine) → Concludes node (.error (.evaluation error)) records
  | rejected {front : List Record} {value pattern : String} (content : String) :
    (∀ r ∈ front, r.Routine) → node.objection? value = some pattern →
      Concludes node (.error (.invalidInput pattern))
        (front ++ [.resolved content value, .rejected pattern])

namespace Concludes

variable {outcome : Except RenderError (List String)} {records front : List Record}

/-- Routine comes before anything else. -/
theorem prepend (h : Concludes node outcome records) (hfront : ∀ r ∈ front, r.Routine)
    (text : String) : Concludes node (outcome.map (text :: ·)) (front ++ records) := by
  cases h with
  | ok texts hrecords => exact .ok _ (List.forall_mem_append.mpr ⟨hfront, hrecords⟩)
  | unevaluated error hrecords =>
    exact .unevaluated error (List.forall_mem_append.mpr ⟨hfront, hrecords⟩)
  | rejected content hrecords hobjection =>
    rw [← List.append_assoc]
    exact .rejected content (List.forall_mem_append.mpr ⟨hfront, hrecords⟩) hobjection

theorem rendered_notMem (h : Concludes node outcome records) (sql : String) :
    .rendered sql ∉ records := by
  intro hmem
  cases h with
  | ok texts hrecords => exact hrecords _ hmem
  | unevaluated error hrecords => exact hrecords _ hmem
  | rejected content hrecords hobjection =>
    rcases List.mem_append.mp hmem with hfront | hlast
    · exact hrecords _ hfront
    · simp at hlast

/-- A warning is the complaint about the value that ends it all. -/
theorem of_level_eq_warn (h : Concludes node outcome records) {record : Record}
    (hmem : record ∈ records) (hwarn : record.level = .warn) :
    ∃ pattern, record = .rejected pattern ∧ outcome = .error (.invalidInput pattern) := by
  cases h with
  | ok texts hrecords => exact absurd hwarn (hrecords record hmem).level_ne_warn
  | unevaluated error hrecords => exact absurd hwarn (hrecords record hmem).level_ne_warn
  | rejected content hrecords hobjection =>
    rcases List.mem_append.mp hmem with hfront | hlast
    · exact absurd hwarn (hrecords record hfront).level_ne_warn
    · rcases List.mem_pair.mp hlast with rfl | rfl
      · cases hwarn
      · exact ⟨_, rfl, rfl⟩

theorem of_invalidInput {pattern : String} (h : Concludes node outcome records)
    (houtcome : outcome = .error (.invalidInput pattern)) :
    ∃ front content value, records = front ++ [.resolved content value, .rejected pattern] ∧
      (∀ r ∈ front, r.Routine) ∧ node.objection? value = some pattern := by
  cases h with
  | ok texts _ => cases houtcome
  | unevaluated error _ => cases houtcome
  | @rejected front value _ content hfront hobjection =>
    cases houtcome
    exact ⟨front, content, value, rfl, hfront, hobjection⟩

end Concludes

theorem routine_newlyKept (node : Node) (root : Value) (kept : List String) (content : String) :
    ∀ r ∈ (node.newlyKept root kept content).map Record.cached, r.Routine := by
  refine List.forall_mem_map.mpr fun expression _ => ?_
  exact trivial

theorem concludes_tokenLog (node : Node) (root : Value)
    (answer : String → Value → Except EvaluationError Value) (kept contents : List String) :
    Concludes node (replies (fun content => screened node.filter (valueText answer root content))
      contents) (node.tokenLog root answer kept contents) := by
  induction contents generalizing kept with
  | nil => exact .ok [] (List.forall_mem_nil _)
  | cons content rest ih =>
    have hkept := node.routine_newlyKept root kept content
    rw [tokenLog, tokenRecords]
    cases hvalue : valueText answer root content with
    | error error =>
      have hreply : screened node.filter (valueText answer root content) =
          .error (.evaluation error) := by rw [hvalue]; rfl
      rw [replies_failed hreply, List.append_nil]
      simp only [screened, List.append_nil]
      exact .unevaluated error hkept
    | ok value =>
      have hreply := (congrArg (screened node.filter) hvalue).trans (node.screened_ok value)
      rw [screened_ok]
      cases hobjection : node.objection? value with
      | some pattern =>
        rw [hobjection] at hreply
        simp only [hobjection]
        rw [replies_failed hreply, List.append_nil]
        exact .rejected content hkept hobjection
      | none =>
        have hresolved : ∀ r ∈ [Record.resolved content value], r.Routine :=
          List.forall_mem_singleton.mpr trivial
        rw [hobjection] at hreply
        simp only [hobjection]
        rw [replies_replied hreply]
        exact (ih _).prepend (List.forall_mem_append.mpr ⟨hkept, hresolved⟩) value

/-! ## The whole text -/

/-- What is put on record for the tokens of a node. Without a parameter that is nothing. -/
def log (node : Node) (parameter : Option Value) (engine : Engine) : List Record :=
  match parameter with
  | none => []
  | some root =>
    node.tokenLog root (node.evaluator.answer engine) engine.cachedExpressions
      (tokens (segments .dollar node.text))

theorem records_resolve (node : Node) (parameter : Option Value) (engine : Engine) :
    (node.resolve parameter engine).2.records = engine.records ++ node.log parameter engine := by
  cases parameter with
  | none =>
    rw [resolve_none]
    exact (List.append_nil _).symm
  | some root =>
    rw [resolve, expand_eq]
    exact node.records_converse root _ engine

/-- The records of the tokens conclude as the application does. -/
theorem concludes_log {γ : Type} [RenderContext γ] (node : Node) (context : γ) (engine : Engine) :
    ∃ outcome, Concludes node outcome (node.log (RenderContext.parameter context) engine) ∧
      ∀ pattern, (node.apply context engine).1 = .error (.invalidInput pattern) ↔
        outcome = .error (.invalidInput pattern) := by
  rw [apply_fst]
  cases RenderContext.parameter context with
  | none =>
    rw [resolve_none]
    exact ⟨.ok [], .ok [] (List.forall_mem_nil _), fun pattern => ⟨nofun, nofun⟩⟩
  | some root =>
    refine ⟨_, node.concludes_tokenLog root _ _ _, fun pattern => ?_⟩
    refine Iff.trans ?_ resolve_some_eq_error_iff
    cases (node.resolve (some root) engine).1 <;> simp [Except.map]

/-- The records of a token that is met come right after those of the tokens before it. If it fails,
nothing is put on record after them. -/
theorem records_at_token {before : List String} {texts : List String} {moment : Engine}
    {engine : Engine} (content : String) (after : List String)
    (h : converse (node.resolveToken (some root)) before engine = (.ok texts, moment)) :
    ∃ later, engine.records ++ node.tokenLog root (node.evaluator.answer engine)
          engine.cachedExpressions (before ++ content :: after) =
        moment.records ++ node.tokenRecords root (node.evaluator.answer moment)
          moment.cachedExpressions content ++ later ∧
      ∀ error, (node.resolveToken (some root) content moment).1 = .error error → later = [] := by
  have hall := node.records_converse root (before ++ content :: after) engine
  rw [converse_append, h] at hall
  simp only at hall
  rw [records_converse, tokenLog, ← List.append_assoc] at hall
  refine ⟨_, hall.symm, fun error herror => ?_⟩
  rw [resolveToken_fst] at herror
  cases hscreened : screened node.filter
      (valueText (node.evaluator.answer moment) root content) with
  | error _ => rfl
  | ok value =>
    rw [hscreened] at herror
    cases herror

theorem records_apply_eq {γ : Type} [RenderContext γ] (node : Node) (context : γ)
    (engine : Engine) :
    (node.apply context engine).2.2.records =
      engine.records ++ node.log (RenderContext.parameter context) engine ++
        match (node.resolve (RenderContext.parameter context) engine).1 with
        | .error _ => []
        | .ok sql => [.rendered sql] := by
  rw [← records_resolve, apply]
  cases node.resolve (RenderContext.parameter context) engine with
  | mk outcome next =>
    cases outcome with
    | error error => exact (List.append_nil _).symm
    | ok sql => rfl

/-- Applying a node puts on record what its tokens do, from left to right and up to the first that
fails, and then the text, if it is appended. What a token does depends on what is kept when it is
met. No text is on record as rendered otherwise. There is a warning only if a value is rejected: it
has the pattern of the filter, comes right after the value and is the last record. -/
theorem records_apply {γ : Type} [RenderContext γ] (node : Node) (context : γ) (engine : Engine) :
    let parameter := RenderContext.parameter context
    let contents := tokens (segments .dollar node.text)
    let logged := node.log parameter engine
    let applied := node.apply context engine
    (match applied.1 with
      | .error _ => applied.2.2.records = engine.records ++ logged
      | .ok _ => ∃ sql, applied.2.1 = RenderContext.appendSql context sql ∧
          applied.2.2.records = engine.records ++ logged ++ [.rendered sql]) ∧
      (∀ root, parameter = some root → ∀ before content after texts moment,
        contents = before ++ content :: after →
          converse (node.resolveToken parameter) before engine = (.ok texts, moment) →
            ∃ later, engine.records ++ logged =
                moment.records ++ node.tokenRecords root (node.evaluator.answer moment)
                  moment.cachedExpressions content ++ later ∧
              ∀ error, (node.resolveToken parameter content moment).1 = .error error →
                later = []) ∧
      (∀ sql, .rendered sql ∉ logged) ∧
      (∀ record ∈ logged, record.level = .warn →
        ∃ pattern, record.message =
            "Rejected substitution value, it does not conform to " ++ pattern ∧
          applied.1 = .error (.invalidInput pattern)) ∧
      (∀ pattern, applied.1 = .error (.invalidInput pattern) →
        ∃ front content value, logged = front ++ [.resolved content value, .rejected pattern] ∧
          (∀ record ∈ front, record.level ≠ .warn) ∧
          ∃ filter, node.filter = some filter ∧ filter.pattern = pattern ∧
            filter.accepts value = false) ∧
      (parameter = none → applied.1 = .ok true ∧ logged = []) := by
  intro parameter contents logged applied
  have hrecords : applied.2.2.records = _ := node.records_apply_eq context engine
  have hcontext : applied.2.1 = _ := node.apply_context context engine
  have houtcome : applied.1 = _ := node.apply_fst context engine
  obtain ⟨outcome, hconcludes, hinvalid⟩ := node.concludes_log context engine
  refine ⟨?_, ?_, hconcludes.rendered_notMem, fun record hmem hwarn => ?_, fun pattern h => ?_,
    fun hnone => ?_⟩
  · rw [hcontext, houtcome, hrecords]
    cases (node.resolve parameter engine).1 with
    | error error => exact List.append_nil _
    | ok sql => exact ⟨sql, rfl, rfl⟩
  · intro root hroot before content after texts moment hcontents hmoment
    have hlogged : logged = node.tokenLog root (node.evaluator.answer engine)
        engine.cachedExpressions (before ++ content :: after) := by
      rw [← hcontents]
      simp only [logged, log, hroot, contents]
    rw [hroot] at hmoment ⊢
    rw [hlogged]
    exact records_at_token content after hmoment
  · obtain ⟨pattern, rfl, heq⟩ := hconcludes.of_level_eq_warn hmem hwarn
    exact ⟨pattern, rfl, (hinvalid pattern).mpr heq⟩
  · obtain ⟨front, content, value, hlogged, hfront, hobjection⟩ :=
      hconcludes.of_invalidInput ((hinvalid pattern).mp h)
    obtain ⟨filter, hfilter, hpattern, haccepts⟩ := objection?_eq_some_iff.mp hobjection
    exact ⟨front, content, value, hlogged, fun r hr => (hfront r hr).level_ne_warn,
      filter, hfilter, hpattern, haccepts⟩
  · have hparameter : RenderContext.parameter context = none := hnone
    refine ⟨?_, by simp only [logged, log, hnone]⟩
    rw [houtcome, hparameter, resolve_none]
    rfl

/-- The same token twice, and the value of the next one rejected. What comes after it is not even
looked at, and nothing of all this is rendered. -/
theorem records_apply_rejected :
    let ends (r : Regex) : Regex :=
      .sequence (.assertion .textStart) (.sequence r (.assertion .textEnd))
    let filter : Filter := ⟨"1", ends (.oneOf (Regex.CharSet.single '1'))⟩
    let node : Node := { text := "$\x7ba\x7d$\x7ba\x7d$\x7bb\x7d$\x7bc\x7d", filter := some filter }
    let root := Value.object [("a", .number "1"), ("b", .string "1 OR 1")]
    let context := StatementContext.new (some root)
    (node.apply context {}).1 = .error (.invalidInput "1") ∧
      (node.apply context {}).2.2.records =
        [.cached "a", .resolved "a" "1", .resolved "a" "1", .cached "b", .resolved "b" "1 OR 1",
          .rejected "1"] ∧
      ∃ front content value,
        node.log (some root) {} = front ++ [.resolved content value, .rejected "1"] ∧
          ∀ record ∈ front, record.level ≠ .warn := by
  intro ends filter node root context
  have hparameter : RenderContext.parameter context = some root := rfl
  have herror : (node.apply context {}).1 = .error (.invalidInput "1") := by decide +kernel
  have hlog : node.log (some root) {} =
      [.cached "a", .resolved "a" "1", .resolved "a" "1", .cached "b", .resolved "b" "1 OR 1",
        .rejected "1"] := by decide +kernel
  obtain ⟨hrecords, -, -, -, hrejected, -⟩ := records_apply node context {}
  rw [hparameter] at hrecords hrejected
  obtain ⟨front, content, value, hfront, hlevel, -⟩ := hrejected "1" herror
  simp only [herror] at hrecords
  exact ⟨herror, hrecords.trans hlog, front, content, value, hfront, hlevel⟩

end Node

end SqlTemplate
