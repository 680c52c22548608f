import SqlTemplate.Value.Basic

/-!
# SqlTemplate.Context.Basic

What a node needs of the statement that it is rendered into: named values to read, and a place to
append text to.
-/

namespace SqlTemplate

/-- The name under which the parameter of a statement is bound. -/
def parameterName : String := "_parameter"

/-- The name under which the database of a statement is bound. -/
def databaseIdName : String := "_databaseId"

class RenderContext (γ : Type) where
  appendSql : γ → String → γ
  binding : γ → String → Option Value

namespace RenderContext

/-- A parameter that is bound to null is as good as none. -/
def parameter {γ : Type} [RenderContext γ] (context : γ) : Option Value :=
  match binding context parameterName with
  | none => none
  | some value => if value.isNull then none else some value

theorem parameter_eq_none_iff {γ : Type} [RenderContext γ] {context : γ} :
    parameter context = none ↔
      binding context parameterName = none ∨ binding context parameterName = some .null := by
  unfold parameter
  split
  · rename_i h; simp [h]
  · rename_i value h
    cases value <;> simp [h, Value.isNull]

end RenderContext

end SqlTemplate
