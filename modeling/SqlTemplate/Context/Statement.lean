import SqlTemplate.Context.Basic
import SqlTemplate.Table

/-!
# SqlTemplate.Context.Statement

The contexts of statements: one that collects the fragments of a statement and hands out numbers,
and one that only has bindings and notes what is appended.
-/

namespace SqlTemplate

structure StatementContext where
  bindings : Table Value
  fragments : List String := []
  nextNumber : Nat := 0
deriving Repr

namespace StatementContext

/-- Parameter and database are bound from the start, to null if they are not given. -/
def new (parameter : Option Value) : StatementContext where
  bindings := [(parameterName, parameter.getD .null), (databaseIdName, .null)]

def bind (context : StatementContext) (name : String) (value : Value) : StatementContext :=
  { context with bindings := context.bindings.insert name value }

def withDatabaseId (context : StatementContext) (id : String) : StatementContext :=
  context.bind databaseIdName (.string id)

def appendSql (context : StatementContext) (sql : String) : StatementContext :=
  { context with fragments := context.fragments ++ [sql] }

/-- The fragments, joined by single spaces. -/
def sql (context : StatementContext) : String :=
  " ".intercalate context.fragments

/-- Hands out numbers that are unique within the context. -/
def uniqueNumber (context : StatementContext) : Nat × StatementContext :=
  (context.nextNumber, { context with nextNumber := context.nextNumber + 1 })

instance : RenderContext StatementContext where
  appendSql := StatementContext.appendSql
  binding context name := context.bindings.get? name

theorem parameter_new (parameter : Option Value) :
    RenderContext.parameter (new parameter) =
      match parameter with
      | none => none
      | some value => if value.isNull then none else some value := by
  cases parameter <;> rfl

end StatementContext

structure BindingContext where
  bindings : Table Value
  appended : List String := []
deriving Repr

instance : RenderContext BindingContext where
  appendSql context sql := { context with appended := context.appended ++ [sql] }
  binding context name := context.bindings.get? name

end SqlTemplate
