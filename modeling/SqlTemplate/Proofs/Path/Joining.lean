import SqlTemplate.Proofs.Path.Folding
import SqlTemplate.Proofs.Path.Parsing

/-!
# SqlTemplate.Proofs.Path.Joining

Paths one after the other. Joined expressions are read as the steps of both, and resolve as the
second does from what the first leads to.

* `Derivation.text_join`: the text of the segments of both.
* `parse_join`: what joined expressions are read as.
* `resolve_join`: that they are accepted, and how they resolve.
-/

namespace SqlTemplate

/-- The same error with another expression. -/
def PathError.requoted (expression : String) : PathError → PathError
  | .malformed _ position malformation => .malformed expression position malformation
  | .obstructed _ obstacle => .obstructed expression obstacle

namespace Path

/-- A dot joins two expressions, unless the second begins with a bracket. -/
def join (expression expression' : String) : String :=
  if expression'.toList.head? = some '[' then expression ++ expression'
  else expression ++ "." ++ expression'

variable {source source' : String} {path path' : Path}

namespace Derivation

def join (derivation derivation' : Derivation) : Derivation :=
  ⟨derivation.first, derivation.rest ++ derivation'.first :: derivation'.rest⟩

theorem steps_join (derivation derivation' : Derivation) :
    (derivation.join derivation').steps = derivation.steps ++ derivation'.steps := by
  simp [join, steps]

theorem text_join (derivation derivation' : Derivation) :
    (derivation.join derivation').text =
      derivation.text ++ linkedText (derivation'.first :: derivation'.rest) := by
  simp [join, text, linkedText]

end Derivation

theorem toList_join {derivation derivation' : Derivation} {expression expression' : String}
    (h : derivation.text = expression.toList) (h' : derivation'.text = expression'.toList) :
    (join expression expression').toList = (derivation.join derivation').text := by
  rw [Derivation.text_join, Derivation.linkedText_segments, h, h', join]
  split <;> simp

theorem parse_join (h : parse source = .ok path) (h' : parse source' = .ok path') :
    parse (join path.expression path'.expression) =
      .ok ⟨join path.expression path'.expression, path.steps ++ path'.steps⟩ := by
  obtain ⟨derivation, htext, hsteps⟩ := derivation_of_parse h
  obtain ⟨derivation', htext', hsteps'⟩ := derivation_of_parse h'
  rw [← hsteps, ← hsteps', ← Derivation.steps_join]
  exact parse_of_derivation (toList_join htext htext').symm

theorem resolve_append (expression : String) (path path' : Path) (root : Value) :
    resolve ⟨expression, path.steps ++ path'.steps⟩ root =
      match path.resolve root with
      | .error error => .error (error.requoted expression)
      | .ok value => (path'.resolve value).mapError (PathError.requoted expression) := by
  simp only [resolve_eq, List.foldlM_append]
  cases path.steps.foldlM stepFrom root with
  | error obstacle => rfl
  | ok value =>
    simp only [Except.mapError, bind, Except.bind]
    cases path'.steps.foldlM stepFrom value <;> rfl

/-- Two accepted expressions, joined by a dot or by nothing where the second begins with a bracket,
are accepted as the steps of the one and then those of the other. From any root they resolve as the
second does from the value that the first resolves to, or to the same error with the joined
expression in it. -/
theorem resolve_join (h : parse source = .ok path) (h' : parse source' = .ok path') :
    let joined : Path := ⟨join path.expression path'.expression, path.steps ++ path'.steps⟩
    parse joined.expression = .ok joined ∧
      ∀ root, joined.resolve root =
        match path.resolve root with
        | .error error => .error (error.requoted joined.expression)
        | .ok value => (path'.resolve value).mapError (PathError.requoted joined.expression) :=
  ⟨parse_join h h', fun root => resolve_append _ path path' root⟩

/-- A bracket after a count is joined without a dot, and is refused by the number. -/
theorem resolve_join_after_count :
    let path : Path := ⟨"a.size", [.field "a", .field "size"]⟩
    let path' : Path := ⟨"[0]", [.index 0]⟩
    let joined : Path := ⟨"a.size[0]", [.field "a", .field "size", .index 0]⟩
    (parse " a.size" = .ok path ∧ parse "[0] " = .ok path') ∧
      parse "a.size[0]" = .ok joined ∧
      joined.resolve (.object [("a", .array [.null])]) =
        .error (.obstructed "a.size[0]" (.wrongKind (.index 0) .number)) := by
  intro path path' joined
  have hparse : parse " a.size" = .ok path := by decide +kernel
  have hparse' : parse "[0] " = .ok path' := by decide +kernel
  have hjoin : join path.expression path'.expression = "a.size[0]" := by decide
  have hresolve := resolve_join hparse hparse'
  rw [hjoin] at hresolve
  refine ⟨⟨hparse, hparse'⟩, hresolve.1, (hresolve.2 _).trans ?_⟩
  have hcount : path.resolve (.object [("a", .array [.null])]) = .ok (.ofNat 1) := by
    rw [resolve_eq_ok_iff]
    simp [path, stepFrom, bind, Except.bind, pure, Except.pure, Value.ofNat]
  rw [hcount]
  rfl

end Path

end SqlTemplate
