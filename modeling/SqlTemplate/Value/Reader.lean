import SqlTemplate.Table
import SqlTemplate.Text.Hex
import SqlTemplate.Value.Basic

/-!
# SqlTemplate.Value.Reader

Reading a value from JSON text. The text is split into lexemes, and the lexemes are read by
descent. A number keeps its spelling, save that its exponent is marked `e` and always signed; a
repeated member name keeps its first position and its last value.
-/

namespace SqlTemplate.Value

inductive Lexeme where
  | openArray | closeArray | openObject | closeObject | comma | colon
  | scalar (value : Value)
deriving Repr

namespace Lexeme

def isBlank (c : Char) : Bool :=
  c == ' ' || c == '\t' || c == '\n' || c == '\r'

def codeUnit? (a b c d : Char) : Option Nat :=
  Text.readHex? [a, b, c, d]

/-- A code unit from U+D800 to U+DBFF goes together with one from U+DC00 to U+DFFF. -/
def surrogatePair? (high low : Nat) : Option Char :=
  if 0xD800 ≤ high ∧ high ≤ 0xDBFF ∧ 0xDC00 ≤ low ∧ low ≤ 0xDFFF then
    some (Char.ofNat (0x10000 + (high - 0xD800) * 0x400 + (low - 0xDC00)))
  else none

def simpleEscape? : Char → Option Char
  | '"' => some '"'
  | '\\' => some '\\'
  | '/' => some '/'
  | 'b' => some '\x08'
  | 'f' => some '\x0c'
  | 'n' => some '\n'
  | 'r' => some '\r'
  | 't' => some '\t'
  | _ => none

/-- The characters of a string up to its closing quote, last one first, and what follows. -/
def stringBody : List Char → List Char → Option (List Char × List Char)
  | _, [] => none
  | done, '"' :: rest => some (done, rest)
  | done, '\\' :: 'u' :: a :: b :: c :: d :: rest =>
    match codeUnit? a b c d with
    | none => none
    | some unit =>
      if unit.isValidChar then stringBody (Char.ofNat unit :: done) rest
      else
        match rest with
        | '\\' :: 'u' :: e :: f :: g :: h :: rest =>
          match (codeUnit? e f g h).bind (surrogatePair? unit) with
          | none => none
          | some char => stringBody (char :: done) rest
        | _ => none
  | done, '\\' :: c :: rest =>
    match simpleEscape? c with
    | none => none
    | some char => stringBody (char :: done) rest
  | done, c :: rest => if c.toNat < 32 then none else stringBody (c :: done) rest

def digits (cs : List Char) : List Char × List Char :=
  (cs.takeWhile Char.isDigit, cs.dropWhile Char.isDigit)

def integerPart? (cs : List Char) : Option (List Char × List Char) :=
  match cs with
  | '0' :: rest => some (['0'], rest)
  | _ =>
    match digits cs with
    | ([], _) => none
    | (whole, rest) => some (whole, rest)

def fractionPart? (cs : List Char) : Option (List Char × List Char) :=
  match cs with
  | '.' :: rest =>
    match digits rest with
    | ([], _) => none
    | (fraction, rest) => some ('.' :: fraction, rest)
  | _ => some ([], cs)

def exponentSign (cs : List Char) : Char × List Char :=
  match cs with
  | '-' :: rest => ('-', rest)
  | '+' :: rest => ('+', rest)
  | _ => ('+', cs)

def exponentDigits? (cs : List Char) : Option (List Char × List Char) :=
  match exponentSign cs with
  | (sign, rest) =>
    match digits rest with
    | ([], _) => none
    | (exponent, rest) => some ('e' :: sign :: exponent, rest)

def exponentPart? (cs : List Char) : Option (List Char × List Char) :=
  match cs with
  | 'e' :: rest => exponentDigits? rest
  | 'E' :: rest => exponentDigits? rest
  | _ => some ([], cs)

def unsigned? (cs : List Char) : Option (List Char × List Char) :=
  match integerPart? cs with
  | none => none
  | some (whole, rest) =>
    match fractionPart? rest with
    | none => none
    | some (fraction, rest) =>
      match exponentPart? rest with
      | none => none
      | some (exponent, rest) => some (whole ++ fraction ++ exponent, rest)

def number? (cs : List Char) : Option (List Char × List Char) :=
  match cs with
  | '-' :: rest => (unsigned? rest).map fun (spelling, rest) => ('-' :: spelling, rest)
  | _ => unsigned? cs

/-- The first lexeme of a text that does not begin with a blank, and what follows it. -/
def first? (cs : List Char) : Option (Lexeme × List Char) :=
  match cs with
  | '[' :: rest => some (.openArray, rest)
  | ']' :: rest => some (.closeArray, rest)
  | '{' :: rest => some (.openObject, rest)
  | '}' :: rest => some (.closeObject, rest)
  | ',' :: rest => some (.comma, rest)
  | ':' :: rest => some (.colon, rest)
  | '"' :: rest =>
    (stringBody [] rest).map fun (done, rest) =>
      (.scalar (.string (String.ofList done.reverse)), rest)
  | 'n' :: 'u' :: 'l' :: 'l' :: rest => some (.scalar .null, rest)
  | 't' :: 'r' :: 'u' :: 'e' :: rest => some (.scalar (.bool true), rest)
  | 'f' :: 'a' :: 'l' :: 's' :: 'e' :: rest => some (.scalar (.bool false), rest)
  | _ => (number? cs).map fun (spelling, rest) => (.scalar (.number (String.ofList spelling)), rest)

/-- Splits a text into lexemes, of which each takes at least one character. -/
def split? : Nat → List Char → Option (List Lexeme)
  | 0, cs => if cs.all isBlank then some [] else none
  | fuel + 1, cs =>
    match cs.dropWhile isBlank with
    | [] => some []
    | cs =>
      match first? cs with
      | none => none
      | some (lexeme, rest) => (split? fuel rest).map (lexeme :: ·)

/-- No more than `room` further arrays and objects are open at the same time, of which each gives
its place back where it is closed. -/
def nestsWithin : Nat → List Lexeme → Bool
  | _, [] => true
  | room, .openArray :: rest => room != 0 && nestsWithin (room - 1) rest
  | room, .openObject :: rest => room != 0 && nestsWithin (room - 1) rest
  | room, .closeArray :: rest => nestsWithin (room + 1) rest
  | room, .closeObject :: rest => nestsWithin (room + 1) rest
  | room, _ :: rest => nestsWithin room rest

end Lexeme

mutual

def readValue : Nat → List Lexeme → Option (Value × List Lexeme)
  | 0, _ => none
  | _ + 1, .scalar value :: rest => some (value, rest)
  | _ + 1, .openArray :: .closeArray :: rest => some (.array [], rest)
  | fuel + 1, .openArray :: rest =>
    (readItems fuel rest).map fun (items, rest) => (.array items, rest)
  | _ + 1, .openObject :: .closeObject :: rest => some (.object [], rest)
  | fuel + 1, .openObject :: rest =>
    (readMembers fuel rest).map fun (members, rest) => (.object (Table.ofPairs members), rest)
  | _ + 1, _ => none

def readItems : Nat → List Lexeme → Option (List Value × List Lexeme)
  | 0, _ => none
  | fuel + 1, lexemes =>
    match readValue fuel lexemes with
    | some (item, .comma :: rest) =>
      (readItems fuel rest).map fun (items, rest) => (item :: items, rest)
    | some (item, .closeArray :: rest) => some ([item], rest)
    | _ => none

def readMembers : Nat → List Lexeme → Option (List (String × Value) × List Lexeme)
  | 0, _ => none
  | fuel + 1, .scalar (.string name) :: .colon :: lexemes =>
    match readValue fuel lexemes with
    | some (value, .comma :: rest) =>
      (readMembers fuel rest).map fun (members, rest) => ((name, value) :: members, rest)
    | some (value, .closeObject :: rest) => some ([(name, value)], rest)
    | _ => none
  | _ + 1, _ => none

end

/-- Values nest no deeper than this many levels when they are read. -/
def depthBound : Nat := 127

/-- Reads a text that holds one value and nothing else. -/
def ofJson? (text : String) : Option Value :=
  match Lexeme.split? text.length text.toList with
  | none => none
  | some lexemes =>
    if Lexeme.nestsWithin depthBound lexemes then
      match readValue (2 * lexemes.length + 1) lexemes with
      | some (value, []) => some value
      | _ => none
    else none

end SqlTemplate.Value
