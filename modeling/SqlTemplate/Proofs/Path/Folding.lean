import Mathlib.Control.Monad.Basic
import SqlTemplate.Path.Resolve

/-!
# SqlTemplate.Proofs.Path.Folding

Walking a path one step at a time. `stepFrom` says what a single step comes to from each kind of
value, the number of elements of an array among them, and a path is resolved by folding it over the
steps.

* `walk_eq_foldlM`: the walk, which looks one step ahead after a count, is the fold.
* `foldlM_eq_error_iff`: a fold fails with what its first failing step says.
* `resolve_folds`: what a parsed path resolves to, and with which error it does not.
-/

namespace SqlTemplate

namespace Table

variable {α : Type}

theorem get?_eq_lookup (table : Table α) (name : String) :
    table.get? name = table.lookup name := by
  induction table with
  | nil => rfl
  | cons pair rest ih =>
    obtain ⟨key, entry⟩ := pair
    rw [get?, List.lookup_cons]
    by_cases h : key = name
    · simp [h]
    · have hbeq : (name == key) = false := beq_eq_false_iff_ne.mpr (Ne.symm h)
      rw [if_neg h, hbeq, ih]

end Table

namespace Path

/-- What a single step comes to. A field and a key with the same name differ for arrays only, which
have no members, but two fields that count their elements. -/
def stepFrom (value : Value) (step : Step) : Except Obstacle Value :=
  match value, step with
  | .null, _ => .error (.nullIntermediate step)
  | .object members, .field name | .object members, .key name =>
    match members.lookup name with
    | some found => .ok found
    | none => .error (.unknownProperty name)
  | .array items, .index n =>
    if h : n < items.length then .ok items[n] else .error (.indexOutOfBounds n items.length)
  | .array items, .field name =>
    if name = "length" ∨ name = "size" then .ok (.number (toString items.length))
    else .error (.wrongKind step .array)
  | _, _ => .error (.wrongKind step value.kind)

/-- The step that an obstacle is reported with, as it is shown. -/
def Obstacle.shownStep? : Obstacle → Option String
  | .nullIntermediate step | .wrongKind step _ => some step.text
  | .unknownProperty _ | .indexOutOfBounds _ _ => none

variable {value root : Value} {step : Step} {steps : List Step} {obstacle : Obstacle}

/-! ## The walk as a fold -/

theorem isLengthName_eq_true_iff {name : String} :
    isLengthName name = true ↔ name = "length" ∨ name = "size" := by
  rw [isLengthName, Bool.or_eq_true, beq_iff_eq, beq_iff_eq]

theorem member_eq_stepFrom (members : List (String × Value)) (name : String) :
    member members name = stepFrom (.object members) (.field name) := by
  simp only [member, stepFrom, Table.get?_eq_lookup]
  cases members.lookup name <;> rfl

theorem stepFrom_of_count? {n : Nat} (h : count? value step = some n) :
    stepFrom value step = .ok (.ofNat n) := by
  unfold count? at h
  split at h
  · rename_i items name
    split at h
    · rename_i hname
      cases h
      exact if_pos (isLengthName_eq_true_iff.mp hname)
    · cases h
  · cases h

theorem enter_eq_stepFrom (h : count? value step = none) :
    enter value step = stepFrom value step := by
  cases value with
  | object members =>
    cases step with
    | field name => exact member_eq_stepFrom members name
    | key name => exact member_eq_stepFrom members name
    | index n => rfl
  | array items =>
    cases step with
    | field name =>
      have hname : ¬(name = "length" ∨ name = "size") := by
        rw [← isLengthName_eq_true_iff]
        intro hname
        simp [count?, hname] at h
      exact (if_neg hname).symm
    | key name => rfl
    | index n =>
      simp only [enter, stepFrom]
      by_cases hn : n < items.length
      · rw [List.getElem?_eq_getElem hn, dif_pos hn]
      · rw [List.getElem?_eq_none (Nat.le_of_not_lt hn), dif_neg hn]
  | _ => cases step <;> rfl

/-- No step leads on from a number. -/
theorem stepFrom_ofNat (n : Nat) (step : Step) :
    stepFrom (.ofNat n) step = .error (.wrongKind step .number) := by
  cases step <;> rfl

theorem walk_eq_foldlM (steps : List Step) (root : Value) :
    walk steps root = steps.foldlM stepFrom root := by
  induction steps generalizing root with
  | nil => rfl
  | cons step rest ih =>
    rw [walk, List.foldlM_cons]
    cases hcount : count? root step with
    | some n =>
      rw [stepFrom_of_count? hcount]
      cases rest with
      | nil => rfl
      | cons next rest =>
        -- The fold goes on from the number of elements, where the walk already stops.
        have hfold : (next :: rest).foldlM stepFrom (.ofNat n) =
            .error (.wrongKind next .number) := by
          rw [List.foldlM_cons, stepFrom_ofNat]
          rfl
        exact hfold.symm
    | none =>
      simp only [enter_eq_stepFrom hcount]
      cases stepFrom root step with
      | error obstacle => rfl
      | ok inner => exact ih inner

/-! ## The first step that fails -/

theorem foldlM_eq_error_iff {α β ε : Type} {f : β → α → Except ε β} {xs : List α} {start : β}
    {error : ε} :
    xs.foldlM f start = .error error ↔
      ∃ before x after reached, xs = before ++ x :: after ∧
        before.foldlM f start = .ok reached ∧ f reached x = .error error := by
  induction xs generalizing start with
  | nil =>
    constructor
    · intro h
      cases h
    · rintro ⟨before, x, after, reached, h, -⟩
      cases before <;> cases h
  | cons first rest ih =>
    rw [List.foldlM_cons]
    cases hfirst : f start first with
    | error e =>
      constructor
      · intro h
        cases h
        exact ⟨[], first, rest, start, rfl, rfl, hfirst⟩
      · rintro ⟨before, x, after, reached, h, hbefore, hx⟩
        cases before with
        | nil =>
          cases h
          cases hbefore
          rw [hfirst] at hx
          exact hx
        | cons y before =>
          cases h
          rw [List.foldlM_cons, hfirst] at hbefore
          cases hbefore
    | ok next =>
      refine Iff.trans ih ?_
      constructor
      · rintro ⟨before, x, after, reached, rfl, hbefore, hx⟩
        refine ⟨first :: before, x, after, reached, rfl, ?_, hx⟩
        rw [List.foldlM_cons, hfirst]
        exact hbefore
      · rintro ⟨before, x, after, reached, h, hbefore, hx⟩
        cases before with
        | nil =>
          cases h
          cases hbefore
          rw [hfirst] at hx
          cases hx
        | cons y before =>
          cases h
          rw [List.foldlM_cons, hfirst] at hbefore
          exact ⟨before, x, after, reached, rfl, hbefore, hx⟩

/-- A step is reported with the obstacle that it meets, if any step is. -/
theorem shownStep?_of_stepFrom (h : stepFrom value step = .error obstacle) :
    ∀ shown ∈ obstacle.shownStep?, shown = step.text := by
  unfold stepFrom at h
  split at h
  case h_2 | h_3 =>
    split at h
    · cases h
    · cases h
      simp [Obstacle.shownStep?]
  case h_4 | h_5 =>
    split at h
    · cases h
    · cases h
      simp [Obstacle.shownStep?]
  all_goals
    cases h
    simp [Obstacle.shownStep?]

/-- Only null stops a step in this way. -/
theorem stepFrom_eq_nullIntermediate_iff {step' : Step} :
    stepFrom value step = .error (.nullIntermediate step') ↔ value = .null ∧ step' = step := by
  constructor
  · intro h
    unfold stepFrom at h
    split at h
    case h_1 =>
      cases h
      exact ⟨rfl, rfl⟩
    case h_2 | h_3 | h_4 | h_5 => split at h <;> cases h
    case h_6 => cases h
  · rintro ⟨rfl, rfl⟩
    cases step' <;> rfl

/-! ## Resolving -/

theorem resolve_eq (path : Path) (root : Value) :
    path.resolve root =
      (path.steps.foldlM stepFrom root).mapError (.obstructed path.expression) := by
  rw [resolve, walk_eq_foldlM]
  cases path.steps.foldlM stepFrom root <;> rfl

theorem resolve_eq_ok_iff {path : Path} :
    path.resolve root = .ok value ↔ path.steps.foldlM stepFrom root = .ok value := by
  rw [resolve_eq]
  cases path.steps.foldlM stepFrom root with
  | error obstacle => simp [Except.mapError]
  | ok found => simp [Except.mapError]

theorem resolve_eq_error_iff {path : Path} {error : PathError} :
    path.resolve root = .error error ↔
      ∃ before step after value obstacle, path.steps = before ++ step :: after ∧
        { path with steps := before }.resolve root = .ok value ∧
          stepFrom value step = .error obstacle ∧ error = .obstructed path.expression obstacle := by
  have hsplit : path.resolve root = .error error ↔
      ∃ obstacle, path.steps.foldlM stepFrom root = .error obstacle ∧
        error = .obstructed path.expression obstacle := by
    rw [resolve_eq]
    cases path.steps.foldlM stepFrom root with
    | error obstacle => simp [Except.mapError, eq_comm]
    | ok found => simp [Except.mapError]
  rw [hsplit]
  constructor
  · rintro ⟨obstacle, h, herror⟩
    obtain ⟨before, step, after, value, hsteps, hbefore, hstep⟩ := foldlM_eq_error_iff.mp h
    exact ⟨before, step, after, value, obstacle, hsteps, resolve_eq_ok_iff.mpr hbefore, hstep,
      herror⟩
  · rintro ⟨before, step, after, value, obstacle, hsteps, hbefore, hstep, herror⟩
    exact ⟨obstacle, foldlM_eq_error_iff.mpr ⟨before, step, after, value, hsteps,
      resolve_eq_ok_iff.mp hbefore, hstep⟩, herror⟩

/-- A parsed path resolves to what its steps, taken one after the other from the root, lead to. The
first step that fails decides the error, which quotes the expression without the white space around
it and, where it shows a step, shows that one. So null is in the way exactly where the steps before
some step lead to it, and at the end it is a result like any other. -/
theorem resolve_folds {source : String} {path : Path} (h : parse source = .ok path)
    (root : Value) :
    let quoted := String.ofList (Text.trim source.toList)
    path.resolve root = (path.steps.foldlM stepFrom root).mapError (.obstructed quoted) ∧
      (∀ error, path.resolve root = .error error ↔
        ∃ before step after value obstacle, path.steps = before ++ step :: after ∧
          { path with steps := before }.resolve root = .ok value ∧
            stepFrom value step = .error obstacle ∧ error = .obstructed quoted obstacle ∧
              ∀ shown ∈ obstacle.shownStep?, shown = step.text) ∧
      (∀ step, path.resolve root = .error (.obstructed quoted (.nullIntermediate step)) ↔
        ∃ before after, path.steps = before ++ step :: after ∧
          { path with steps := before }.resolve root = .ok .null) ∧
      ∀ before step value, path.steps = before ++ [step] →
        { path with steps := before }.resolve root = .ok value →
          stepFrom value step = .ok .null → path.resolve root = .ok .null := by
  intro quoted
  have hquoted : path.expression = quoted := expression_of_parse h
  refine ⟨?_, fun error => ?_, fun step => ?_, fun before step value hsteps hbefore hstep => ?_⟩
  · rw [resolve_eq, hquoted]
  · rw [resolve_eq_error_iff, hquoted]
    constructor
    · rintro ⟨before, step, after, value, obstacle, hsteps, hbefore, hstep, herror⟩
      exact ⟨before, step, after, value, obstacle, hsteps, hbefore, hstep, herror,
        shownStep?_of_stepFrom hstep⟩
    · rintro ⟨before, step, after, value, obstacle, hsteps, hbefore, hstep, herror, -⟩
      exact ⟨before, step, after, value, obstacle, hsteps, hbefore, hstep, herror⟩
  · rw [resolve_eq_error_iff, hquoted]
    constructor
    · rintro ⟨before, step', after, value, obstacle, hsteps, hbefore, hstep, herror⟩
      cases herror
      obtain ⟨rfl, rfl⟩ := stepFrom_eq_nullIntermediate_iff.mp hstep
      exact ⟨before, after, hsteps, hbefore⟩
    · rintro ⟨before, after, hsteps, hbefore⟩
      exact ⟨before, step, after, .null, _, hsteps, hbefore,
        stepFrom_eq_nullIntermediate_iff.mpr ⟨rfl, rfl⟩, rfl⟩
  · rw [resolve_eq_ok_iff] at hbefore ⊢
    have hlast : [step].foldlM stepFrom value = .ok .null := by
      rw [List.foldlM_cons, hstep]
      rfl
    rw [hsteps, List.foldlM_append, hbefore]
    exact hlast

/-- The same step fails after a count, which is a number, and after a null. -/
theorem resolve_folds_past_count :
    let path : Path := ⟨"a.size['n']", [.field "a", .field "size", .key "n"]⟩
    parse " a.size['n'] " = .ok path ∧
      path.resolve (.object [("a", .array [.null, .null])]) =
        .error (.obstructed "a.size['n']" (.wrongKind (.key "n") .number)) ∧
      path.resolve (.object [("a", .object [("size", .null)])]) =
        .error (.obstructed "a.size['n']" (.nullIntermediate (.key "n"))) := by
  intro path
  have hparse : parse " a.size['n'] " = .ok path := by decide +kernel
  have htrim : String.ofList (Text.trim " a.size['n'] ".toList) = "a.size['n']" := by
    decide +kernel
  have hfolds := resolve_folds hparse
  rw [htrim] at hfolds
  refine ⟨hparse, ?_, ?_⟩
  · refine (hfolds _).1.trans ?_
    simp [path, stepFrom, bind, Except.bind, Except.mapError, Value.kind]
  · refine ((hfolds _).2.2.1 _).mpr ⟨[.field "a", .field "size"], [], rfl, ?_⟩
    rw [resolve_eq_ok_iff]
    simp [stepFrom, bind, Except.bind, pure, Except.pure]

end Path

end SqlTemplate
