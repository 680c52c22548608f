/-!
# SqlTemplate.Value.Basic

The values that parameters and bindings hold. A number is kept as it is spelled, so no digit is
lost. A simple value has no members and no elements.
-/

namespace SqlTemplate

inductive Value where
  | null
  | bool (value : Bool)
  | number (spelling : String)
  | string (text : String)
  | array (items : List Value)
  | object (members : List (String × Value))
deriving Repr

inductive Kind where
  | null | bool | number | string | array | object
deriving DecidableEq, Repr

namespace Kind

def isSimple : Kind → Bool
  | .array | .object => false
  | _ => true

def name : Kind → String
  | .null => "null"
  | .bool => "bool"
  | .number => "number"
  | .string => "string"
  | .array => "array"
  | .object => "object"

end Kind

namespace Value

def kind : Value → Kind
  | .null => .null
  | .bool _ => .bool
  | .number _ => .number
  | .string _ => .string
  | .array _ => .array
  | .object _ => .object

def isNull : Value → Bool
  | .null => true
  | _ => false

def isSimple (value : Value) : Bool :=
  value.kind.isSimple

def ofNat (n : Nat) : Value :=
  .number (toString n)

theorem isSimple_eq_false_iff {value : Value} :
    value.isSimple = false ↔ value.kind = .array ∨ value.kind = .object := by
  cases value <;> simp [isSimple, kind, Kind.isSimple]

end Value

end SqlTemplate
