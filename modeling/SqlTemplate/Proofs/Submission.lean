import Mathlib.Data.List.DropRight
import SqlTemplate.Proofs.Session.History

/-!
# SqlTemplate.Proofs.Submission

What is submitted to the default evaluator, and what an engine keeps of it. Whatever is asked of an
engine, it keeps the same paths as if the expressions submitted by it had been compiled one after
the other.

* `names_foldl_keep`: what is kept of a list of expressions, and in which order.
* `Node.submissions`: what a node submits, up to the first token that it does not get past.
* `Operation.paths_run`, `Operation.paths_runAll`: an operation, and then any operations.
* `cachedExpressions_submitted`: the expressions kept after any operations, and after the commands
  of a session.
-/

namespace SqlTemplate

open Template

/-- The expression is the text of a path. -/
def Path.parses (expression : String) : Bool :=
  (Path.parse expression).isOk

theorem Path.parses_iff {expression : String} :
    Path.parses expression = true ↔ ∃ path, Path.parse expression = .ok path := by
  rw [parses]
  cases Path.parse expression with
  | error error => exact iff_of_false Bool.false_ne_true nofun
  | ok path => exact iff_of_true rfl ⟨path, rfl⟩

namespace Engine

/-- Keeps the path of an expression, unless it is kept already or there is none. -/
def keep (paths : Table Path) (expression : String) : Table Path :=
  match paths.get? expression, Path.parse expression with
  | none, .ok path => Table.insert paths expression path
  | _, _ => paths

theorem paths_compile (engine : Engine) (expression : String) :
    (engine.compile expression).2.paths = keep engine.paths expression := by
  rw [compile, keep]
  cases engine.paths.get? expression with
  | some path => rfl
  | none => cases Path.parse expression <;> rfl

theorem names_keep (paths : Table Path) (expression : String) :
    (keep paths expression).names =
      if Path.parses expression = true ∧ expression ∉ paths.names then paths.names ++ [expression]
      else paths.names := by
  rw [keep, Path.parses]
  cases hg : paths.get? expression with
  | some path => rw [if_neg fun h => h.2 (Table.mem_names_of_get?_eq_some hg)]
  | none =>
    have hmem := Table.get?_eq_none_iff.mp hg
    cases Path.parse expression with
    | error error => rw [if_neg fun h => Bool.false_ne_true h.1]
    | ok path => rw [if_pos ⟨rfl, hmem⟩, Table.names_insert, if_neg hmem]

/-- The expressions that parse are kept, each at the place where it came first. -/
theorem names_foldl_keep (expressions : List String) :
    (expressions.foldl keep []).names = (expressions.filter Path.parses).eraseDups := by
  induction expressions using List.reverseRecOn with
  | nil => rfl
  | append_singleton expressions expression ih =>
    rw [List.foldl_append, List.foldl_cons, List.foldl_nil, names_keep, ih, List.filter_append,
      List.filter_singleton]
    cases Path.parses expression with
    | false => rw [if_neg fun h => Bool.false_ne_true h.1, cond_false, List.append_nil]
    | true =>
      rw [cond_true, Table.eraseDups_concat]
      simp only [true_and, List.mem_eraseDups, ite_not]

end Engine

/-! ## Nodes -/

def Evaluator.isDefault : Evaluator → Bool
  | .paths => true
  | .custom _ => false

theorem Evaluator.isDefault_iff {evaluator : Evaluator} :
    evaluator.isDefault = true ↔ evaluator = .paths := by
  cases evaluator <;> simp [isDefault]

/-- Only the default evaluator keeps paths. -/
theorem Evaluator.paths_evaluate (evaluator : Evaluator) (content : String) (root : Value)
    (engine : Engine) :
    (evaluator.evaluate content root engine).2.paths =
      if evaluator.isDefault then Engine.keep engine.paths content else engine.paths := by
  rw [evaluate_snd]
  cases evaluator with
  | paths => exact (engine.ask content).paths_compile content
  | custom answer => rfl

namespace Node

/-- The tokens of the node go to the default evaluator, with the parameter as their root. -/
def submits (node : Node) (root : Value) : Bool :=
  node.evaluator.isDefault && !root.isSimple

/-- The contents that a node submits to the default evaluator, for the parameter that it sees. -/
def submissions (node : Node) : Option Value → List String
  | none => []
  | some root =>
    if node.submits root then asked (node.tokenReply root {}) (tokens (segments .dollar node.text))
    else []

/-- The content of a token is a path that leads somewhere from the root, and the filter lets through
what it leads to. -/
def Passes (node : Node) (root : Value) (content : String) : Prop :=
  ∃ value, Engine.follow content root = .ok value ∧
    ∀ filter, node.filter = some filter → filter.accepts value.toText = true

variable {node : Node} {root : Value} {engine : Engine} {content : String}

theorem submits_iff :
    node.submits root = true ↔
      node.evaluator = .paths ∧ (root.kind = .array ∨ root.kind = .object) := by
  rw [submits, Bool.and_eq_true, Evaluator.isDefault_iff, Bool.not_eq_true',
    Value.isSimple_eq_false_iff]

theorem answer_empty (content : String) (root : Value) :
    Evaluator.paths.answer {} content root =
      (Engine.follow content root).mapError .path := by
  have hempty : (({} : Engine)).Faithful := Engine.faithful_of_paths_eq_nil rfl
  rw [Evaluator.answer_paths, hempty.pathOf, Engine.follow]
  cases Path.parse content with
  | error error => rfl
  | ok path =>
    simp only
    cases path.resolve root <;> rfl

theorem passes_iff (h : node.submits root = true) :
    node.Passes root content ↔ ∃ text, node.tokenReply root {} content = .ok text := by
  obtain ⟨hevaluator, hkind⟩ := submits_iff.mp h
  rw [tokenReply, valueText, hevaluator, Value.isSimple_eq_false_iff.mpr hkind, answer_empty,
    Passes]
  simp only [Bool.false_eq_true, if_false]
  cases Engine.follow content root with
  | error error => simp [Except.mapError, Except.map, screened]
  | ok value =>
    have hvalue : Except.map Value.toText (Except.mapError EvaluationError.path (.ok value)) =
        .ok value.toText := rfl
    rw [hvalue]
    cases node.filter with
    | none => simp [screened]
    | some filter => simp [screened_eq_ok_iff]

/-- The node submits the contents of its tokens from left to right, and the first that it does not
get past is the last. -/
theorem submissions_of_submits (h : node.submits root = true) :
    let contents := tokens (segments .dollar node.text)
    ((∀ content ∈ contents, node.Passes root content) →
        node.submissions (some root) = contents) ∧
      ∀ before content after, contents = before ++ content :: after →
        (∀ c ∈ before, node.Passes root c) → ¬node.Passes root content →
          node.submissions (some root) = before ++ [content] := by
  intro contents
  have hsubmissions : node.submissions (some root) = asked (node.tokenReply root {}) contents :=
    if_pos h
  simp only [passes_iff h, hsubmissions]
  refine ⟨asked_of_ok, fun before content after hcontents hbefore hstop => ?_⟩
  cases hreply : node.tokenReply root {} content with
  | ok text => exact absurd ⟨text, hreply⟩ hstop
  | error error => rw [hcontents, asked_of_error hbefore hreply]

theorem submissions_eq_nil {parameter : Option Value}
    (h : ∀ root, parameter = some root → node.submits root = false) :
    node.submissions parameter = [] := by
  cases parameter with
  | none => rfl
  | some root => rw [submissions, if_neg (by rw [h root rfl]; exact Bool.false_ne_true)]

theorem paths_approve (node : Node) (content value : String) (engine : Engine) :
    (node.approve content value engine).2.paths = engine.paths := by
  obtain ⟨records, h⟩ := approve_snd node content value engine
  rw [h]

theorem paths_resolveToken (node : Node) (root : Value) (content : String) (engine : Engine) :
    (node.resolveToken (some root) content engine).2.paths =
      if node.submits root then Engine.keep engine.paths content else engine.paths := by
  rw [resolveToken, submits]
  cases root.isSimple with
  | true =>
    simp only [if_true, Bool.not_true, Bool.and_false, Bool.false_eq_true, if_false]
    exact node.paths_approve content root.toText engine
  | false =>
    simp only [Bool.false_eq_true, if_false, Bool.not_false, Bool.and_true]
    rw [← Evaluator.paths_evaluate node.evaluator content root engine]
    cases node.evaluator.evaluate content root engine with
    | mk outcome next =>
      cases outcome with
      | error error => rfl
      | ok value => exact node.paths_approve content value.toText next

/-- Rendering keeps what compiling the submitted contents would keep. -/
theorem paths_resolve (node : Node) (parameter : Option Value) (h : engine.Faithful) :
    (node.resolve parameter engine).2.paths =
      (node.submissions parameter).foldl Engine.keep engine.paths := by
  cases parameter with
  | none =>
    rw [resolve_none]
    rfl
  | some root =>
    have hempty : (({} : Engine)).Faithful := Engine.faithful_of_paths_eq_nil rfl
    have hanswer : node.evaluator.answer engine = node.evaluator.answer {} :=
      Evaluator.answer_congr node.evaluator (h.pathOf.trans hempty.pathOf.symm)
    have hstate := converse_snd_eq_foldl (follows_resolveToken node root {})
      (tokens (segments .dollar node.text)) hanswer
    have hpaths := node.paths_resolveToken root
    rw [resolve, expand_eq, hstate, submissions]
    cases hsubmits : node.submits root with
    | true =>
      simp only [hsubmits, if_true] at hpaths ⊢
      exact (List.foldl_hom Engine.paths fun state content => (hpaths content state).symm).symm
    | false =>
      simp only [hsubmits, Bool.false_eq_true, if_false] at hpaths ⊢
      have hsame (state : Engine) (content : String) :
          Function.const String state.paths content =
            (node.resolveToken (some root) content state).2.paths := (hpaths content state).symm
      rw [← List.foldl_hom Engine.paths hsame]
      exact List.foldl_fixed _

theorem paths_apply {γ : Type} [RenderContext γ] (node : Node) (context : γ)
    (h : engine.Faithful) :
    (node.apply context engine).2.2.paths =
      (node.submissions (RenderContext.parameter context)).foldl Engine.keep engine.paths := by
  obtain ⟨records, heq⟩ := node.apply_engine context engine
  rw [heq]
  exact node.paths_resolve _ h

theorem paths_render (node : Node) (parameter : Option Value) (h : engine.Faithful) :
    (node.render parameter engine).2.paths =
      (node.submissions (present parameter)).foldl Engine.keep engine.paths := by
  rw [render_snd, node.paths_apply _ h, parameter_new]

end Node

/-! ## Operations -/

/-- What can be asked of an engine. A node may be applied to a context of any kind. -/
inductive Operation : Type 1 where
  | compile (expression : String)
  | evaluate (expression : String) (root : Value)
  | render (node : Node) (parameter : Option Value)
  | apply {γ : Type} [RenderContext γ] (node : Node) (context : γ)
  | isDynamic (node : Node)
  | clearPaths

namespace Operation

/-- What becomes of the engine. To tell whether a node is dynamic takes none. -/
def run (engine : Engine) : Operation → Engine
  | .compile expression => (engine.compile expression).2
  | .evaluate expression root => (engine.evaluatePath expression root).2
  | .render node parameter => (node.render parameter engine).2
  | @apply _ _ node context => (node.apply context engine).2.2
  | .isDynamic _ => engine
  | .clearPaths => engine.clearPaths

/-- The expressions that are submitted to the default evaluator. -/
def submissions : Operation → List String
  | .compile expression => [expression]
  | .evaluate expression _ => [expression]
  | .render node parameter => node.submissions (Node.present parameter)
  | @apply _ _ node context => node.submissions (RenderContext.parameter context)
  | .isDynamic _ => []
  | .clearPaths => []

def clears : Operation → Bool
  | .clearPaths => true
  | _ => false

/-- The operations after the last one that clears the paths. -/
def sinceClear (operations : List Operation) : List Operation :=
  operations.rtakeWhile fun operation => !operation.clears

theorem sinceClear_concat (operations : List Operation) (operation : Operation) :
    sinceClear (operations ++ [operation]) =
      if operation.clears then [] else sinceClear operations ++ [operation] := by
  rw [sinceClear, List.rtakeWhile_concat, sinceClear]
  cases operation.clears <;> rfl

variable {engine : Engine}

theorem faithful_run (h : engine.Faithful) (operation : Operation) :
    (operation.run engine).Faithful := by
  cases operation with
  | compile expression => exact h.compile_snd expression
  | evaluate expression root => exact h.evaluatePath_snd expression root
  | render node parameter => exact node.faithful_render parameter h
  | apply node context => exact node.faithful_apply context h
  | isDynamic node => exact h
  | clearPaths => exact Engine.faithful_clearPaths engine

/-- One operation keeps what compiling its submissions would keep, or clears all that is kept. -/
theorem paths_run (h : engine.Faithful) (operation : Operation) :
    (operation.run engine).paths =
      if operation.clears then [] else operation.submissions.foldl Engine.keep engine.paths := by
  cases operation with
  | compile expression => exact engine.paths_compile expression
  | evaluate expression root =>
    rw [run, Engine.evaluatePath_snd]
    exact engine.paths_compile expression
  | render node parameter => exact node.paths_render parameter h
  | apply node context => exact node.paths_apply context h
  | isDynamic node => rfl
  | clearPaths => rfl

theorem faithful_runAll (h : engine.Faithful) (operations : List Operation) :
    (operations.foldl run engine).Faithful := by
  induction operations generalizing engine with
  | nil => exact h
  | cons operation rest ih => exact ih (faithful_run h operation)

theorem paths_runAll (operations : List Operation) :
    (operations.foldl run {}).paths =
      ((sinceClear operations).flatMap submissions).foldl Engine.keep [] := by
  have hempty : (({} : Engine)).Faithful := Engine.faithful_of_paths_eq_nil rfl
  induction operations using List.reverseRecOn with
  | nil => rfl
  | append_singleton operations operation ih =>
    rw [List.foldl_append, List.foldl_cons, List.foldl_nil,
      paths_run (faithful_runAll hempty operations), ih, sinceClear_concat]
    cases operation.clears with
    | true => rfl
    | false =>
      simp only [Bool.false_eq_true, if_false]
      rw [List.flatMap_append, List.foldl_append, List.flatMap_singleton]

end Operation

/-! ## Sessions -/

namespace Session

/-- What a command asks of the engine, if anything. -/
def operation? (session : Session) : Command → Option Operation
  | .addNode text pattern evaluator => (makeNode text pattern evaluator).toOption.map .isDynamic
  | .apply number node =>
    match session.contexts[number]?, session.nodes[node]? with
    | some context, some node => some (.apply node context)
    | _, _ => none
  | .render node parameter => session.nodes[node]?.map (.render · parameter)
  | .compile expression => some (.compile expression)
  | .evaluate expression root => some (.evaluate expression root)
  | .clearPaths => some .clearPaths
  | _ => none

/-- What the commands of a session ask of its engine, in order. -/
def operations (session : Session) : List Command → List Operation
  | [] => []
  | command :: rest =>
    (session.operation? command).toList ++ (session.run command).2.operations rest

theorem engine_update (session : Session) (number : Nat)
    (change : StatementContext → StatementContext) :
    (session.update number change).2.engine = session.engine := by
  rw [update]
  cases session.contexts[number]? <;> rfl

theorem engine_run (session : Session) (command : Command) :
    (session.run command).2.engine =
      (session.operation? command).toList.foldl Operation.run session.engine := by
  cases command with
  | newContext parameter databaseId => cases databaseId <;> rfl
  | cloneContext number =>
    simp only [run]
    cases session.contexts[number]? <;> rfl
  | addNode text pattern evaluator =>
    simp only [run, operation?]
    cases makeNode text pattern evaluator <;> rfl
  | bind number name value => exact engine_update session number _
  | setDatabaseId number id => exact engine_update session number _
  | append number sql => exact engine_update session number _
  | state number => rw [run, contexts_inspect]; rfl
  | apply number node =>
    simp only [run, applyNode, operation?]
    cases session.contexts[number]? with
    | none => rfl
    | some context => cases session.nodes[node]? <;> rfl
  | uniqueNumber number =>
    simp only [run, drawNumber]
    cases session.contexts[number]? <;> rfl
  | binding number name => rw [run, contexts_inspect]; rfl
  | parameter number => rw [run, contexts_inspect]; rfl
  | render node parameter =>
    simp only [run, operation?]
    cases session.nodes[node]? <;> rfl
  | compile expression => rfl
  | evaluate expression root => rfl
  | cachedExpressions => rfl
  | clearPaths => rfl

theorem engine_runAll (session : Session) (commands : List Command) :
    (session.runAll commands).2.engine =
      (session.operations commands).foldl Operation.run session.engine := by
  induction commands generalizing session with
  | nil => rfl
  | cons command rest ih =>
    rw [operations, List.foldl_append, ← engine_run]
    exact ih (session.run command).2

end Session

/-! ## What is kept -/

/-- An engine keeps the expressions that have been submitted since its paths were last cleared and
that parse, each once and in the order in which they were first submitted. A node submits only to
the default evaluator and only for an array or an object: the contents of its tokens from left to
right, to the end or to the first that does not lead anywhere or that the filter rejects, which is
submitted like those before it. The list that a session replies with is this one. -/
theorem cachedExpressions_submitted :
    (∀ operations : List Operation,
      let submitted := (Operation.sinceClear operations).flatMap Operation.submissions
      let kept := (operations.foldl Operation.run {}).cachedExpressions
      kept = (submitted.filter Path.parses).eraseDups ∧ kept.Nodup ∧
        ∀ expression, expression ∈ kept ↔
          expression ∈ submitted ∧ ∃ path, Path.parse expression = .ok path) ∧
      (∀ (node : Node) (parameter : Option Value),
        let contents := tokens (segments .dollar node.text)
        let submitted := node.submissions parameter
        let Consults (root : Value) :=
          node.evaluator = .paths ∧ (root.kind = .array ∨ root.kind = .object)
        ((∀ root, parameter = some root → ¬Consults root) → submitted = []) ∧
          ∀ root, parameter = some root → Consults root →
            ((∀ content ∈ contents, node.Passes root content) → submitted = contents) ∧
              ∀ before content after, contents = before ++ content :: after →
                (∀ c ∈ before, node.Passes root c) → ¬node.Passes root content →
                  submitted = before ++ [content]) ∧
      ∀ (contexts : List StatementContext) (nodes : List Node) (history : List Session.Command),
        let start : Session := { contexts, nodes }
        let operations := start.operations history
        let submitted := (Operation.sinceClear operations).flatMap Operation.submissions
        ((start.runAll history).2.run .cachedExpressions).1 =
          .expressions (submitted.filter Path.parses).eraseDups := by
  have hkept (operations : List Operation) :
      (operations.foldl Operation.run {}).cachedExpressions =
        (((Operation.sinceClear operations).flatMap Operation.submissions).filter
          Path.parses).eraseDups := by
    rw [Engine.cachedExpressions, Operation.paths_runAll, Engine.names_foldl_keep]
  refine ⟨fun operations => ?_, fun node parameter => ⟨fun hnone => ?_, ?_⟩,
    fun contexts nodes history => ?_⟩
  · simp only [hkept, List.mem_eraseDups, List.mem_filter, Path.parses_iff, implies_true,
      and_true, true_and]
    exact Table.nodup_eraseDups _
  · refine Node.submissions_eq_nil fun root hroot => Bool.eq_false_iff.mpr fun hsubmits => ?_
    exact hnone root hroot (Node.submits_iff.mp hsubmits)
  · rintro root rfl hconsults
    exact Node.submissions_of_submits (Node.submits_iff.mpr hconsults)
  · have hengine := Session.engine_runAll { contexts, nodes } history
    exact congrArg Session.Reply.expressions
      ((congrArg Engine.cachedExpressions hengine).trans (hkept _))

/-- A token that does not parse ends a rendering after a token whose white space is kept; what was
kept before the paths were cleared is gone, and what fails to resolve is kept. -/
theorem cachedExpressions_after_malformed :
    let node : Node := { text := "${ b}${a}${a.}${c}" }
    let root := Value.object [("a", .number "1"), ("b", .null)]
    let operations : List Operation :=
      [.compile "c", .clearPaths, .evaluate "a" .null, .isDynamic node, .render node (some root)]
    (tokens (segments .dollar node.text) = [" b", "a"] ++ "a." :: ["c"] ∧
        (∀ c ∈ [" b", "a"], node.Passes root c) ∧ ¬node.Passes root "a.") ∧
      node.submissions (some root) = [" b", "a", "a."] ∧
      (operations.foldl Operation.run {}).cachedExpressions = ["a", " b"] := by
  intro node root operations
  have hcontents : tokens (segments .dollar node.text) = [" b", "a"] ++ "a." :: ["c"] := by
    decide +kernel
  have hb : Path.parse " b" = .ok ⟨"b", [.field "b"]⟩ := by decide +kernel
  have ha : Path.parse "a" = .ok ⟨"a", [.field "a"]⟩ := by decide +kernel
  have hdot : Path.parse "a." = .error (.malformed "a." 2 .noName) := by decide +kernel
  have hpass : ∀ c ∈ [" b", "a"], node.Passes root c := by
    refine List.forall_mem_cons.mpr ⟨?_, List.forall_mem_singleton.mpr ?_⟩
    · exact ⟨.null, by rw [Engine.follow, hb]; rfl, nofun⟩
    · exact ⟨.number "1", by rw [Engine.follow, ha]; rfl, nofun⟩
  have hstop : ¬node.Passes root "a." := by
    rintro ⟨value, hfollow, -⟩
    rw [Engine.follow, hdot] at hfollow
    cases hfollow
  obtain ⟨hkept, hsubmitted, -⟩ := cachedExpressions_submitted
  have hsubmissions : node.submissions (some root) = [" b", "a", "a."] :=
    ((hsubmitted node (some root)).2 root rfl ⟨rfl, .inr rfl⟩).2 _ _ _ hcontents hpass hstop
  refine ⟨⟨hcontents, hpass, hstop⟩, hsubmissions, ?_⟩
  have hsince : (Operation.sinceClear operations).flatMap Operation.submissions =
      ["a", " b", "a", "a."] := by
    have hrender : node.submissions (Node.present (some root)) = [" b", "a", "a."] := hsubmissions
    simp [operations, Operation.sinceClear, List.rtakeWhile, Operation.clears,
      Operation.submissions, hrender]
  rw [(hkept operations).1, hsince]
  decide +kernel

end SqlTemplate
