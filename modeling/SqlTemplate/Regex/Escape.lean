import SqlTemplate.Regex.Blank
import SqlTemplate.Regex.Token
import SqlTemplate.Text.Hex

/-!
# SqlTemplate.Regex.Escape

What a backslash in a pattern begins: a literal, an anchor, or a class with a name. Each reader
takes the text after what announces it and answers with the text that is left.
-/

namespace SqlTemplate.Regex

/-- ASCII characters other than letters and digits stand for themselves after a backslash. -/
def isEscapable (c : Char) : Bool :=
  c.toNat < 128 && !c.isAlphanum && c != '<' && c != '>'

def codePoint? (digits : List Char) : Option Char :=
  match Text.readHex? digits with
  | none => none
  | some n => if n.isValidChar then some (Char.ofNat n) else none

/-- A code point as any number of digits in braces, or as exactly `count` digits. -/
def readCodePoint (verbose : Bool) (count : Nat) (cs : List Char) :
    Option (Literal × List Char) :=
  match skip verbose cs with
  | [] => none
  | '{' :: rest =>
    match upTo verbose '}' rest with
    | none => none
    | some (digits, after) => (codePoint? digits).map fun c => (⟨c, false⟩, after)
  | rest =>
    match take? verbose count rest with
    | none => none
    | some (digits, after) => (codePoint? digits).map fun c => (⟨c, count == 2⟩, after)

/-- Splits a text around the first place that matches `separator`. -/
def splitAt? (separator : List Char) : List Char → Option (List Char × List Char)
  | [] => none
  | c :: cs =>
    if separator.isPrefixOf (c :: cs) then some ([], (c :: cs).drop separator.length)
    else (splitAt? separator cs).map fun (before, after) => (c :: before, after)

/-- A name and a value are separated by a colon or a sign of equality, which mean the same, or by
a sign of inequality. -/
def propertyQuery (text : List Char) : PropertyQuery :=
  match splitAt? ['!', '='] text with
  | some (name, value) => .valued name value true
  | none =>
    match splitAt? [':'] text with
    | some (name, value) => .valued name value false
    | none =>
      match splitAt? ['='] text with
      | some (name, value) => .valued name value false
      | none => .named text

/-- A property in braces, or one named by a single letter. -/
def readProperty (verbose : Bool) (cs : List Char) : Option (PropertyQuery × List Char) :=
  match skip verbose cs with
  | [] => none
  | '{' :: rest =>
    match upTo verbose '}' rest with
    | none => none
    | some (text, after) => some (propertyQuery text, after)
  | c :: rest => if c = '\\' then none else some (.named [c], rest)

def wordTest? : List Char → Option WordTest
  | ['s', 't', 'a', 'r', 't'] => some .start
  | ['e', 'n', 'd'] => some .stop
  | ['s', 't', 'a', 'r', 't', '-', 'h', 'a', 'l', 'f'] => some .startHalf
  | ['e', 'n', 'd', '-', 'h', 'a', 'l', 'f'] => some .stopHalf
  | _ => none

/-- A brace right after a word boundary names its kind, unless what it holds begins with neither
a letter nor a hyphen: then the boundary is a plain one, and the brace is left. -/
def readWordBoundary (verbose : Bool) (cs : List Char) : Option (WordTest × List Char) :=
  match cs with
  | '{' :: rest =>
    match skip verbose rest with
    | [] => none
    | c :: _ =>
      if c.isAlpha || c == '-' then
        match upTo verbose '}' rest with
        | none => none
        | some (name, after) => (wordTest? name).map fun test => (test, after)
      else some (.boundary, cs)
  | _ => some (.boundary, cs)

def controlCharacter? : Char → Option Char
  | 'a' => some '\x07'
  | 'f' => some '\x0c'
  | 't' => some '\t'
  | 'n' => some '\n'
  | 'r' => some '\r'
  | 'v' => some '\x0b'
  | _ => none

def anchor? : Char → Option Anchor
  | 'A' => some .textStart
  | 'z' => some .textEnd
  | 'B' => some (.word .inside)
  | '<' => some (.word .start)
  | '>' => some (.word .stop)
  | _ => none

def shortClass? : Char → Option (ShortClass × Bool)
  | 'd' => some (.digit, false)
  | 's' => some (.space, false)
  | 'w' => some (.word, false)
  | 'D' => some (.digit, true)
  | 'S' => some (.space, true)
  | 'W' => some (.word, true)
  | _ => none

/-- The number of digits that a code point has without braces. -/
def codePointDigits? : Char → Option Nat
  | 'x' => some 2
  | 'u' => some 4
  | 'U' => some 8
  | _ => none

/-- The escapes that are one character long after the backslash. -/
def shortEscape? (c : Char) : Option Atom :=
  match shortClass? c with
  | some (name, negated) => some (.short name negated)
  | none =>
    match anchor? c with
    | some anchor => some (.anchor anchor)
    | none =>
      match controlCharacter? c with
      | some char => some (.literal ⟨char, false⟩)
      | none => if isEscapable c then some (.literal ⟨c, false⟩) else none

def readEscape (verbose : Bool) : List Char → Option (Atom × List Char)
  | [] => none
  | c :: rest =>
    match codePointDigits? c with
    | some count =>
      (readCodePoint verbose count rest).map fun (literal, after) => (.literal literal, after)
    | none =>
      if c = 'p' ∨ c = 'P' then
        (readProperty verbose rest).map fun (query, after) => (.property query (c == 'P'), after)
      else if c = 'b' then
        (readWordBoundary verbose rest).map fun (test, after) => (.anchor (.word test), after)
      else (shortEscape? c).map fun atom => (atom, rest)

theorem length_le_of_readCodePoint {verbose : Bool} {count : Nat} {cs after : List Char}
    {literal : Literal} (h : readCodePoint verbose count cs = some (literal, after)) :
    after.length ≤ cs.length := by
  have hskip := length_skip_le verbose cs
  unfold readCodePoint at h
  split at h
  · cases h
  · rename_i rest hs
    split at h
    · cases h
    · rename_i digits after' hu
      obtain ⟨c, _, heq⟩ := Option.map_eq_some_iff.mp h
      cases heq
      have := length_lt_of_upTo hu
      have := length_lt_of_skip hs
      omega
  · split at h
    · cases h
    · rename_i digits after' ht
      obtain ⟨c, _, heq⟩ := Option.map_eq_some_iff.mp h
      cases heq
      exact Nat.le_trans (length_le_of_take? ht) hskip

theorem length_le_of_readProperty {verbose : Bool} {cs after : List Char} {query : PropertyQuery}
    (h : readProperty verbose cs = some (query, after)) : after.length ≤ cs.length := by
  unfold readProperty at h
  split at h
  · cases h
  · rename_i rest hs
    split at h
    · cases h
    · rename_i text after' hu
      cases h
      have := length_lt_of_upTo hu
      have := length_lt_of_skip hs
      omega
  · rename_i c rest _ hs
    split at h
    · cases h
    · cases h
      exact Nat.le_of_lt (length_lt_of_skip hs)

theorem length_le_of_readWordBoundary {verbose : Bool} {cs after : List Char} {test : WordTest}
    (h : readWordBoundary verbose cs = some (test, after)) : after.length ≤ cs.length := by
  unfold readWordBoundary at h
  split at h
  · rename_i rest
    split at h
    · cases h
    · split at h
      · split at h
        · cases h
        · rename_i name after' hu
          obtain ⟨t, _, heq⟩ := Option.map_eq_some_iff.mp h
          cases heq
          exact Nat.le_succ_of_le (Nat.le_of_lt (length_lt_of_upTo hu))
      · cases h; exact Nat.le_refl _
  · cases h; exact Nat.le_refl _

theorem length_lt_of_readEscape {verbose : Bool} {cs after : List Char} {atom : Atom}
    (h : readEscape verbose cs = some (atom, after)) : after.length < cs.length := by
  cases cs with
  | nil => cases h
  | cons c rest =>
    simp only [readEscape] at h
    split at h
    · obtain ⟨⟨literal, after'⟩, hr, heq⟩ := Option.map_eq_some_iff.mp h
      cases heq
      exact Nat.lt_succ_of_le (length_le_of_readCodePoint hr)
    · split at h
      · obtain ⟨⟨query, after'⟩, hr, heq⟩ := Option.map_eq_some_iff.mp h
        cases heq
        exact Nat.lt_succ_of_le (length_le_of_readProperty hr)
      · split at h
        · obtain ⟨⟨test, after'⟩, hr, heq⟩ := Option.map_eq_some_iff.mp h
          cases heq
          exact Nat.lt_succ_of_le (length_le_of_readWordBoundary hr)
        · obtain ⟨atom', _, heq⟩ := Option.map_eq_some_iff.mp h
          cases heq
          exact Nat.lt_succ_self _

end SqlTemplate.Regex
