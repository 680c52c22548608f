import SqlTemplate.Regex.Flag

/-!
# SqlTemplate.Regex.Token

The tokens that a pattern is written with. Character classes are one token with a structure of
their own.
-/

namespace SqlTemplate.Regex

/-- A character in a pattern, and whether it is written as `\x` with exactly two digits: such a
literal can also be meant as a byte. -/
structure Literal where
  char : Char
  byteForm : Bool := false
deriving DecidableEq, Repr

inductive WordTest where
  | boundary | inside | start | stop | startHalf | stopHalf
deriving DecidableEq, Repr

inductive Anchor where
  | lineStart | lineEnd | textStart | textEnd
  | word (test : WordTest)
deriving DecidableEq, Repr

inductive ShortClass where
  | digit | space | word
deriving DecidableEq, Repr

inductive PosixClass where
  | alnum | alpha | ascii | blank | cntrl | digit | graph | lower | print | punct | space | upper
  | word | xdigit
deriving DecidableEq, Repr

def PosixClass.ofName? : List Char → Option PosixClass
  | ['a', 'l', 'n', 'u', 'm'] => some .alnum
  | ['a', 'l', 'p', 'h', 'a'] => some .alpha
  | ['a', 's', 'c', 'i', 'i'] => some .ascii
  | ['b', 'l', 'a', 'n', 'k'] => some .blank
  | ['c', 'n', 't', 'r', 'l'] => some .cntrl
  | ['d', 'i', 'g', 'i', 't'] => some .digit
  | ['g', 'r', 'a', 'p', 'h'] => some .graph
  | ['l', 'o', 'w', 'e', 'r'] => some .lower
  | ['p', 'r', 'i', 'n', 't'] => some .print
  | ['p', 'u', 'n', 'c', 't'] => some .punct
  | ['s', 'p', 'a', 'c', 'e'] => some .space
  | ['u', 'p', 'p', 'e', 'r'] => some .upper
  | ['w', 'o', 'r', 'd'] => some .word
  | ['x', 'd', 'i', 'g', 'i', 't'] => some .xdigit
  | _ => none

/-- A Unicode property by its name, or a value that a property is to have, or is not to have. -/
inductive PropertyQuery where
  | named (name : List Char)
  | valued (name value : List Char) (unequal : Bool)
deriving DecidableEq, Repr

def PropertyQuery.isUnequal : PropertyQuery → Bool
  | .named _ => false
  | .valued _ _ unequal => unequal

inductive SetOperator where
  | intersection | difference | symmetricDifference
deriving DecidableEq, Repr

inductive ClassBody where
  | empty
  | literal (literal : Literal)
  | range (first last : Literal)
  | posix (name : PosixClass) (negated : Bool)
  | property (query : PropertyQuery) (negated : Bool)
  | short (name : ShortClass) (negated : Bool)
  | nested (negated : Bool) (body : ClassBody)
  | union (left right : ClassBody)
  | combined (operator : SetOperator) (left right : ClassBody)
deriving DecidableEq, Repr

/-- What matches by itself. -/
inductive Atom where
  | literal (literal : Literal)
  | dot
  | anchor (anchor : Anchor)
  | short (name : ShortClass) (negated : Bool)
  | property (query : PropertyQuery) (negated : Bool)
  | bracketed (negated : Bool) (body : ClassBody)
deriving DecidableEq, Repr

inductive Token where
  | atom (atom : Atom)
  | repetition (least : Nat) (most : Option Nat)
  | bar
  | flags (change : FlagChange)
  | groupStart (name : Option (List Char)) (change : FlagChange)
  | groupEnd
deriving DecidableEq, Repr

end SqlTemplate.Regex
