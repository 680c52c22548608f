import SqlTemplate.Regex.Bracket
import SqlTemplate.Unicode.Recent

/-!
# SqlTemplate.Regex.Lexer

Splitting a pattern into tokens. Whether blanks are skipped depends on the groups around a place,
so the reading keeps the verbose flag of each open group.
-/

namespace SqlTemplate.Regex

/-- Repetition counts are below this bound, so that they have at most 32 bits. -/
def countBound : Nat := 0x100000000

def number? (digits : List Char) : Option Nat :=
  if digits.isEmpty then none
  else
    let n := digits.foldl (fun n c => 10 * n + (c.toNat - 48)) 0
    if n < countBound then some n else none

/-- White space around a count is skipped outside verbose mode too. -/
def readNumber (verbose : Bool) (cs : List Char) : Option (Nat × List Char) :=
  match takeDigits verbose ((skip verbose cs).dropWhile Unicode.isWhiteSpace) with
  | (digits, rest) => (number? digits).map fun n => (n, rest.dropWhile Unicode.isWhiteSpace)

/-- A question mark after a repetition makes it prefer fewer rounds, which does not bear on whether
there is a match. -/
def dropLazyMark (cs : List Char) : List Char :=
  match cs with
  | '?' :: rest => rest
  | _ => cs

def closeCount (verbose : Bool) (least : Nat) (most : Option Nat) (cs : List Char) :
    Option (Token × List Char) :=
  match cs with
  | '}' :: rest =>
    if most.all (least ≤ ·) then some (.repetition least most, dropLazyMark (skip verbose rest))
    else none
  | _ => none

/-- Reads a counted repetition after its opening brace. -/
def readCount (verbose : Bool) (cs : List Char) : Option (Token × List Char) :=
  match readNumber verbose cs with
  | none => none
  | some (least, ',' :: rest) =>
    match skip verbose rest with
    | '}' :: _ => closeCount verbose least none (skip verbose rest)
    | inner =>
      match readNumber verbose inner with
      | none => none
      | some (most, after) => closeCount verbose least (some most) after
  | some (least, rest) => closeCount verbose least (some least) rest

def isGroupNameStart (c : Char) : Bool :=
  c == '_' || Unicode.Recent.isAlphabetic c

def isGroupNamePart (c : Char) : Bool :=
  c == '_' || c == '.' || c == '[' || c == ']' || Unicode.Recent.isAlphanumeric c

def isGroupName : List Char → Bool
  | [] => false
  | c :: cs => isGroupNameStart c && cs.all isGroupNamePart

/-- Reads the name of a group and the angle bracket after it. -/
def readGroupName (cs : List Char) : Option (Token × List Char) :=
  match cs.dropWhile (· != '>') with
  | [] => none
  | _ :: rest =>
    let name := cs.takeWhile (· != '>')
    if isGroupName name then some (.groupStart (some name) {}, rest) else none

/-- Reads flags for a group, or, where no group follows, for the rest of the group around them. -/
def readGroupFlags (cs : List Char) : Option (Token × List Char) :=
  match FlagChange.read cs with
  | none => none
  | some (change, last, rest) =>
    if last = ':' then some (.groupStart none change, rest)
    else if change.isEmpty then none
    else some (.flags change, rest)

/-- Reads what follows an opening parenthesis. There is no look-around. -/
def readGroup (verbose : Bool) (cs : List Char) : Option (Token × List Char) :=
  match skip verbose cs with
  | '?' :: '=' :: _ => none
  | '?' :: '!' :: _ => none
  | '?' :: '<' :: '=' :: _ => none
  | '?' :: '<' :: '!' :: _ => none
  | '?' :: 'P' :: '<' :: rest => readGroupName rest
  | '?' :: '<' :: rest => readGroupName rest
  | '?' :: rest => readGroupFlags rest
  | rest => some (.groupStart none {}, rest)

/-- Reads the token that begins with `c`. -/
def readToken (verbose : Bool) (c : Char) (rest : List Char) : Option (Token × List Char) :=
  match c with
  | '(' => readGroup verbose rest
  | ')' => some (.groupEnd, rest)
  | '|' => some (.bar, rest)
  | '?' => some (.repetition 0 (some 1), dropLazyMark rest)
  | '*' => some (.repetition 0 none, dropLazyMark rest)
  | '+' => some (.repetition 1 none, dropLazyMark rest)
  | '{' => readCount verbose rest
  | '[' =>
    (readBracket verbose rest).map fun (negated, body, after) =>
      (.atom (.bracketed negated body), after)
  | '\\' => (readEscape verbose rest).map fun (atom, after) => (.atom atom, after)
  | '.' => some (.atom .dot, rest)
  | '^' => some (.atom (.anchor .lineStart), rest)
  | '$' => some (.atom (.anchor .lineEnd), rest)
  | c => some (.atom (.literal ⟨c, false⟩), rest)

/-- The verbose flag after a token, and those of the groups around it. A group ends with the flag
that was in force before it. -/
def Token.scope (token : Token) (verbose : Bool) (outer : List Bool) : Option (Bool × List Bool) :=
  match token with
  | .flags change => some (change.apply .verbose verbose, outer)
  | .groupStart _ change => some (change.apply .verbose verbose, verbose :: outer)
  | .groupEnd =>
    match outer with
    | [] => none
    | before :: rest => some (before, rest)
  | _ => some (verbose, outer)

theorem length_dropWhile_le (p : Char → Bool) (cs : List Char) :
    (cs.dropWhile p).length ≤ cs.length :=
  (List.dropWhile_sublist p).length_le

theorem length_dropLazyMark_le (cs : List Char) : (dropLazyMark cs).length ≤ cs.length := by
  unfold dropLazyMark
  split
  · exact Nat.le_succ _
  · exact Nat.le_refl _

theorem length_le_of_readNumber {verbose : Bool} {cs after : List Char} {n : Nat}
    (h : readNumber verbose cs = some (n, after)) : after.length ≤ cs.length := by
  unfold readNumber at h
  split at h
  rename_i digits rest ht
  obtain ⟨m, _, heq⟩ := Option.map_eq_some_iff.mp h
  cases heq
  have h₁ := length_takeDigits_le verbose ((skip verbose cs).dropWhile Unicode.isWhiteSpace)
  have h₂ := length_dropWhile_le Unicode.isWhiteSpace (skip verbose cs)
  have h₃ := length_skip_le verbose cs
  have h₄ := length_dropWhile_le Unicode.isWhiteSpace rest
  rw [ht] at h₁
  simp only at h₁
  omega

theorem length_le_of_closeCount {verbose : Bool} {least : Nat} {most : Option Nat}
    {cs after : List Char} {token : Token}
    (h : closeCount verbose least most cs = some (token, after)) : after.length ≤ cs.length := by
  unfold closeCount at h
  split at h
  · rename_i rest
    split at h
    · cases h
      have h₁ := length_dropLazyMark_le (skip verbose rest)
      have h₂ := length_skip_le verbose rest
      simp only [List.length_cons]
      omega
    · cases h
  · cases h

theorem length_le_of_readCount {verbose : Bool} {cs after : List Char} {token : Token}
    (h : readCount verbose cs = some (token, after)) : after.length ≤ cs.length := by
  unfold readCount at h
  split at h
  · cases h
  · rename_i least rest hn
    have h₁ := length_le_of_readNumber hn
    have h₂ := length_skip_le verbose rest
    simp only [List.length_cons] at h₁
    split at h
    · have h₃ := length_le_of_closeCount h
      omega
    · split at h
      · cases h
      · rename_i most after' hm
        have h₃ := length_le_of_readNumber hm
        have h₄ := length_le_of_closeCount h
        omega
  · rename_i least rest _ hn
    have h₁ := length_le_of_readNumber hn
    have h₂ := length_le_of_closeCount h
    omega

theorem length_le_of_readGroupName {cs after : List Char} {token : Token}
    (h : readGroupName cs = some (token, after)) : after.length ≤ cs.length := by
  unfold readGroupName at h
  split at h
  · cases h
  · rename_i rest hd
    simp only at h
    split at h
    · cases h
      have := length_dropWhile_le (· != '>') cs
      rw [hd, List.length_cons] at this
      omega
    · cases h

theorem length_le_of_readGroupFlags {cs after : List Char} {token : Token}
    (h : readGroupFlags cs = some (token, after)) : after.length ≤ cs.length := by
  unfold readGroupFlags at h
  split at h
  · cases h
  · rename_i change last rest hr
    have := FlagChange.length_lt_of_readFrom hr
    split at h
    · cases h; omega
    · split at h
      · cases h
      · cases h; omega

theorem length_le_of_readGroup {verbose : Bool} {cs after : List Char} {token : Token}
    (h : readGroup verbose cs = some (token, after)) : after.length ≤ cs.length := by
  have hskip := length_skip_le verbose cs
  unfold readGroup at h
  split at h <;> try (first | cases h; done)
  · rename_i hs
    have := length_le_of_readGroupName h
    rw [hs] at hskip
    simp only [List.length_cons] at hskip
    omega
  · rename_i hs
    have := length_le_of_readGroupName h
    rw [hs] at hskip
    simp only [List.length_cons] at hskip
    omega
  · rename_i hs
    have := length_le_of_readGroupFlags h
    rw [hs] at hskip
    simp only [List.length_cons] at hskip
    omega
  · cases h
    exact hskip

theorem length_le_of_readToken {verbose : Bool} {c : Char} {rest after : List Char} {token : Token}
    (h : readToken verbose c rest = some (token, after)) : after.length ≤ rest.length := by
  unfold readToken at h
  split at h
  · exact length_le_of_readGroup h
  · cases h; exact Nat.le_refl _
  · cases h; exact Nat.le_refl _
  · cases h; exact length_dropLazyMark_le rest
  · cases h; exact length_dropLazyMark_le rest
  · cases h; exact length_dropLazyMark_le rest
  · exact length_le_of_readCount h
  · obtain ⟨⟨negated, body, after'⟩, hr, heq⟩ := Option.map_eq_some_iff.mp h
    cases heq
    exact Nat.le_of_lt (length_lt_of_readBracket hr)
  · obtain ⟨⟨atom, after'⟩, hr, heq⟩ := Option.map_eq_some_iff.mp h
    cases heq
    exact Nat.le_of_lt (length_lt_of_readEscape hr)
  all_goals cases h; exact Nat.le_refl _

/-- Reads tokens to the end of the pattern. -/
def readTokens (verbose : Bool) (outer : List Bool) (cs : List Char) : Option (List Token) :=
  match _h : skip verbose cs with
  | [] => some []
  | c :: rest =>
    match _ht : readToken verbose c rest with
    | none => none
    | some (token, after) =>
      match token.scope verbose outer with
      | none => none
      | some (inner, groups) => (readTokens inner groups after).map (token :: ·)
termination_by cs.length
decreasing_by
  have := length_lt_of_skip _h
  have := length_le_of_readToken _ht
  omega

def tokens? (pattern : String) : Option (List Token) :=
  readTokens false [] pattern.toList

end SqlTemplate.Regex
