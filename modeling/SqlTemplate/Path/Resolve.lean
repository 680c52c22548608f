import SqlTemplate.Path.Basic
import SqlTemplate.Table

/-!
# SqlTemplate.Path.Resolve

Walking a path through a value. Members of objects are reached by name, elements of arrays by
index, and the fields `length` and `size` of an array count its elements. Null ends a walk well
only at the last step.
-/

namespace SqlTemplate.Path

def isLengthName (name : String) : Bool :=
  name == "length" || name == "size"

/-- The number of elements that a step asks for. -/
def count? : Value → Step → Option Nat
  | .array items, .field name => if isLengthName name then some items.length else none
  | _, _ => none

def member (members : List (String × Value)) (name : String) : Except Obstacle Value :=
  match Table.get? members name with
  | none => .error (.unknownProperty name)
  | some value => .ok value

/-- Goes from a value to one of its members or elements. -/
def enter : Value → Step → Except Obstacle Value
  | .null, step => .error (.nullIntermediate step)
  | .object members, .field name => member members name
  | .object members, .key name => member members name
  | .array items, .index n =>
    match items[n]? with
    | none => .error (.indexOutOfBounds n items.length)
    | some value => .ok value
  | value, step => .error (.wrongKind step value.kind)

/-- A count is a number, so no step leads on from it. -/
def walk : List Step → Value → Except Obstacle Value
  | [], value => .ok value
  | step :: rest, value =>
    match count? value step with
    | some n =>
      match rest with
      | [] => .ok (.ofNat n)
      | next :: _ => .error (.wrongKind next .number)
    | none =>
      match enter value step with
      | .error obstacle => .error obstacle
      | .ok inner => walk rest inner

def resolve (path : Path) (root : Value) : Except PathError Value :=
  match walk path.steps root with
  | .error obstacle => .error (.obstructed path.expression obstacle)
  | .ok value => .ok value

end SqlTemplate.Path
