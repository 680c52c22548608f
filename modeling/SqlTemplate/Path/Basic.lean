import SqlTemplate.Path.Error
import SqlTemplate.Text.Bytes
import SqlTemplate.Text.Trim
import SqlTemplate.Unicode.Recent

/-!
# SqlTemplate.Path.Basic

Property paths such as `user.addresses[0].city` or `attrs['x-id']`, and reading them. A path is a
name or a bracket, followed by names after a dot and brackets in any order. A reader answers what
it has read and the text that is left; where it fails, the text that is left tells the position.
-/

namespace SqlTemplate

structure Path where
  expression : String
  steps : List Path.Step
deriving DecidableEq, Repr

namespace Path

/-- Where reading stopped, as the text not yet read, and why. -/
structure Failure where
  unread : List Char
  malformation : Malformation
deriving DecidableEq, Repr

def isNameStart (c : Char) : Bool :=
  c == '_' || c == '$' || Unicode.Recent.isAlphabetic c

def isNamePart (c : Char) : Bool :=
  c == '_' || c == '$' || Unicode.Recent.isAlphanumeric c

/-- Indexes are below this bound, so that they have at most 64 bits. -/
def indexBound : Nat := 0x10000000000000000

def decimal (digits : List Char) : Nat :=
  digits.foldl (fun n c => 10 * n + (c.toNat - 48)) 0

def readName : List Char → Except Failure (String × List Char)
  | [] => .error ⟨[], .noName⟩
  | c :: cs =>
    if isNameStart c then
      .ok (String.ofList (c :: cs.takeWhile isNamePart), cs.dropWhile isNamePart)
    else .error ⟨c :: cs, .noName⟩

def closeBracket (step : Step) : List Char → Except Failure (Step × List Char)
  | ']' :: rest => .ok (step, rest)
  | rest => .error ⟨rest, .unclosedBracket⟩

def readKey (quote : Char) (cs : List Char) : Except Failure (Step × List Char) :=
  match cs.dropWhile (· != quote) with
  | [] => .error ⟨[], .unterminatedKey⟩
  | _ :: rest => closeBracket (.key (String.ofList (cs.takeWhile (· != quote)))) rest

def readIndex (cs : List Char) : Except Failure (Step × List Char) :=
  let index := decimal (cs.takeWhile Char.isDigit)
  let rest := cs.dropWhile Char.isDigit
  if index < indexBound then closeBracket (.index index) rest else .error ⟨rest, .indexTooLarge⟩

/-- Reads what follows an open bracket, the close bracket included. -/
def readBracket : List Char → Except Failure (Step × List Char)
  | [] => .error ⟨[], .noIndexOrKey⟩
  | c :: cs =>
    if c = '\'' ∨ c = '"' then readKey c cs
    else if c.isDigit then readIndex (c :: cs)
    else .error ⟨c :: cs, .noIndexOrKey⟩

theorem length_dropWhile_le (p : Char → Bool) (cs : List Char) :
    (cs.dropWhile p).length ≤ cs.length :=
  (List.dropWhile_sublist p).length_le

theorem length_lt_of_readName {cs rest : List Char} {name : String}
    (h : readName cs = .ok (name, rest)) : rest.length < cs.length := by
  cases cs with
  | nil => cases h
  | cons c cs =>
    simp only [readName] at h
    split at h
    · cases h
      exact Nat.lt_succ_of_le (length_dropWhile_le isNamePart cs)
    · cases h

theorem length_lt_of_closeBracket {step step' : Step} {cs rest : List Char}
    (h : closeBracket step cs = .ok (step', rest)) : rest.length < cs.length := by
  unfold closeBracket at h
  split at h
  · cases h; simp
  · cases h

theorem length_lt_of_readBracket {cs rest : List Char} {step : Step}
    (h : readBracket cs = .ok (step, rest)) : rest.length < cs.length := by
  cases cs with
  | nil => cases h
  | cons c cs =>
    simp only [readBracket] at h
    split at h
    · unfold readKey at h
      split at h
      · cases h
      · rename_i after heq
        have h₁ := length_lt_of_closeBracket h
        have h₂ := length_dropWhile_le (· != c) cs
        rw [heq] at h₂
        simp only [List.length_cons] at h₂ ⊢
        omega
    · split at h
      · unfold readIndex at h
        simp only at h
        split at h
        · have h₁ := length_lt_of_closeBracket h
          have h₂ := length_dropWhile_le Char.isDigit (c :: cs)
          omega
        · cases h
      · cases h

/-- Reads steps to the end of the text. -/
def readSteps (cs : List Char) : Except Failure (List Step) :=
  match cs with
  | [] => .ok []
  | '.' :: inner =>
    match _h : readName inner with
    | .error failure => .error failure
    | .ok (name, rest) =>
      match readSteps rest with
      | .error failure => .error failure
      | .ok steps => .ok (.field name :: steps)
  | '[' :: inner =>
    match _h : readBracket inner with
    | .error failure => .error failure
    | .ok (step, rest) =>
      match readSteps rest with
      | .error failure => .error failure
      | .ok steps => .ok (step :: steps)
  | c :: rest => .error ⟨c :: rest, .unexpected c⟩
termination_by cs.length
decreasing_by
  · have := length_lt_of_readName _h; simp only [List.length_cons]; omega
  · have := length_lt_of_readBracket _h; simp only [List.length_cons]; omega

/-- Reads a whole trimmed expression; a leading name has no dot before it. -/
def readPath : List Char → Except Failure (List Step)
  | [] => .error ⟨[], .empty⟩
  | '[' :: rest => readSteps ('[' :: rest)
  | cs =>
    match readName cs with
    | .error failure => .error failure
    | .ok (name, rest) =>
      match readSteps rest with
      | .error failure => .error failure
      | .ok steps => .ok (.field name :: steps)

def parse (source : String) : Except PathError Path :=
  let text := Text.trim source.toList
  match readPath text with
  | .error failure =>
    .error (.malformed (String.ofList text)
      (Text.byteLength text - Text.byteLength failure.unread) failure.malformation)
  | .ok steps => .ok ⟨String.ofList text, steps⟩

theorem expression_of_parse {source : String} {path : Path} (h : parse source = .ok path) :
    path.expression = String.ofList (Text.trim source.toList) := by
  simp only [parse] at h
  split at h
  · cases h
  · cases h
    rfl

end Path

end SqlTemplate
