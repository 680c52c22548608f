import SqlTemplate.Regex.Ast
import SqlTemplate.Regex.Basic
import SqlTemplate.Regex.Lexer
import SqlTemplate.Regex.Property

/-!
# SqlTemplate.Regex.Meaning

What a pattern means under its flags. Flags set inside a group hold to the end of that group, over
the bars between its branches. Without the Unicode flag everything is ASCII: what could match a
part of another character has no meaning, and the pattern is refused.
-/

namespace SqlTemplate.Regex

def Flags.foldCase (flags : Flags) (set : CharSet) : CharSet :=
  CharSet.foldCaseIf flags.caseInsensitive flags.unicode set

/-- A literal written as a byte stands for that byte when Unicode is off. -/
def Literal.char? (flags : Flags) (literal : Literal) : Option Char :=
  if !flags.unicode && literal.byteForm && !CharSet.isAscii literal.char then none
  else some literal.char

def Literal.set? (flags : Flags) (literal : Literal) : Option CharSet :=
  (literal.char? flags).map fun c => flags.foldCase (CharSet.single c)

/-- A negated set reaches beyond ASCII. -/
def negate? (flags : Flags) (negated : Bool) (set : CharSet) : Option CharSet :=
  if negated && !flags.unicode then none else some (CharSet.negateIf negated set)

def shortSet? (flags : Flags) (name : ShortClass) (negated : Bool) : Option CharSet :=
  negate? flags negated (name.set flags.unicode)

/-- Asking for another value than the given one negates once more. -/
def propertySet? (flags : Flags) (query : PropertyQuery) (negated : Bool) : Option CharSet :=
  if flags.unicode then
    match query.set? with
    | none => none
    | some set => negate? flags (negated != query.isUnequal) (flags.foldCase set)
  else none

/-- In a class without Unicode only ASCII characters may be written. -/
def classChar? (flags : Flags) (literal : Literal) : Option Char :=
  if flags.unicode || CharSet.isAscii literal.char then some literal.char else none

def SetOperator.apply (operator : SetOperator) (left right : CharSet) : CharSet :=
  match operator with
  | .intersection => CharSet.inter left right
  | .difference => CharSet.diff left right
  | .symmetricDifference => CharSet.symmDiff left right

/-- Case is folded in the parts a class is written with. What is put together from sets that hold
with each character all its case variants is such a set again, so nothing is left to fold. -/
def ClassBody.set? (flags : Flags) : ClassBody → Option CharSet
  | .empty => some CharSet.none
  | .literal l => (classChar? flags l).map fun c => flags.foldCase (CharSet.single c)
  | .range first last =>
    match classChar? flags first, classChar? flags last with
    | some first, some last => some (flags.foldCase (CharSet.range first last))
    | _, _ => none
  | .posix name negated => negate? flags negated (flags.foldCase name.set)
  | .property query negated => propertySet? flags query negated
  | .short name negated => (shortSet? flags name negated).map flags.foldCase
  | .nested negated body =>
    match body.set? flags with
    | none => none
    | some set => negate? flags negated set
  | .union left right =>
    match left.set? flags, right.set? flags with
    | some left, some right => some (CharSet.union left right)
    | _, _ => none
  | .combined operator left right =>
    match left.set? flags, right.set? flags with
    | some left, some right => some (operator.apply left right)
    | _, _ => none

/-- The dot leaves out the characters that end a line, unless told otherwise. -/
def dotSet? (flags : Flags) : Option CharSet :=
  if !flags.unicode then none
  else if flags.dotMatchesNewline then some fun _ => true
  else if flags.crlf then some fun c => c != '\r' && c != '\n'
  else some fun c => c != '\n'

def Anchor.assertion (flags : Flags) : Anchor → Assertion
  | .lineStart => if flags.multiLine then .lineStart flags.crlf else .textStart
  | .lineEnd => if flags.multiLine then .lineEnd flags.crlf else .textEnd
  | .textStart => .textStart
  | .textEnd => .textEnd
  | .word test => .word test flags.unicode

def Atom.meaning? (flags : Flags) : Atom → Option Regex
  | .literal l => (l.set? flags).map .oneOf
  | .dot => (dotSet? flags).map .oneOf
  | .anchor a => some (.assertion (a.assertion flags))
  | .short name negated => (shortSet? flags name negated).map .oneOf
  | .property query negated => (propertySet? flags query negated).map .oneOf
  | .bracketed negated body =>
    match body.set? flags with
    | none => none
    | some set => (negate? flags negated set).map .oneOf

/-- The meaning of a structure, and the flags in force after it. -/
def Ast.meaning? (flags : Flags) : Ast → Option (Regex × Flags)
  | .empty => some (.empty, flags)
  | .atom a => (a.meaning? flags).map fun r => (r, flags)
  | .flags change => some (.empty, flags.change change)
  | .group change body =>
    match body.meaning? (flags.change change) with
    | none => none
    | some (r, _) => some (r, flags)
  | .repetition least most body =>
    match body.meaning? flags with
    | none => none
    | some (r, after) => some (.repetition least most r, after)
  | .sequence first second =>
    match first.meaning? flags with
    | none => none
    | some (r₁, between) =>
      match second.meaning? between with
      | none => none
      | some (r₂, after) => some (.sequence r₁ r₂, after)
  | .alternative first second =>
    match first.meaning? flags with
    | none => none
    | some (r₁, between) =>
      match second.meaning? between with
      | none => none
      | some (r₂, after) => some (.alternative r₁ r₂, after)

def ast? (pattern : String) : Option Ast :=
  match tokens? pattern with
  | none => none
  | some tokens => Ast.ofTokens? tokens

def parse? (pattern : String) : Option Regex :=
  match ast? pattern with
  | none => none
  | some ast => (ast.meaning? {}).map Prod.fst

end SqlTemplate.Regex
