import SqlTemplate.Regex.CharSet

/-!
# SqlTemplate.Regex.Tracker

Following the matches of an expression through a text, one character at a time. Matches may begin at
any position. Marks on the parts of the expression that have just taken a character say how far the
matches under way have come, so each part is looked at no more than once for each character,
however many matches run through it.
-/

namespace SqlTemplate.Regex

/-- A set of positions is the number whose bits are the positions in it. -/
abbrev Positions := Nat

/-- How far matches have come: `one` marks a part that has just taken a character, and of two parts
it is noted whether one of the matches of the whole has ended. -/
inductive Marks where
  | none
  | one
  | pair (ended : Bool) (first second : Marks)
deriving Repr

namespace Marks

/-- Whether the last character has ended a match. -/
def ended : Marks → Bool
  | .none => false
  | .one => true
  | .pair ended _ _ => ended

def first : Marks → Marks
  | .none => .none
  | .one => .none
  | .pair _ first _ => first

def second : Marks → Marks
  | .none => .none
  | .one => .none
  | .pair _ _ second => second

/-- Two parts without marks are a whole without marks. -/
def join (ended : Bool) : Marks → Marks → Marks
  | .none, .none => .none
  | first, second => .pair ended first second

theorem first_join (ended : Bool) (first second : Marks) :
    (join ended first second).first = first := by
  cases first <;> cases second <;> rfl

theorem second_join (ended : Bool) (first second : Marks) :
    (join ended first second).second = second := by
  cases first <;> cases second <;> rfl

theorem ended_join {ended : Bool} {first second : Marks}
    (h : first.ended = false → second.ended = false → ended = false) :
    (join ended first second).ended = ended := by
  cases first with
  | none =>
    cases second with
    | none => exact (h rfl rfl).symm
    | one => rfl
    | pair => rfl
  | one => rfl
  | pair => rfl

end Marks

/-- What has to be known of an expression to follow its matches through one text: the positions at
which it matches without taking a character, whether a match can take characters, and the marks
after a character, from its position, the character, whether matches may begin before it, and the
marks before it. -/
structure Tracker where
  passing : Positions
  consuming : Bool
  advance : Nat → Char → Bool → Marks → Marks

namespace Tracker

/-- Where no match begins and none is under way there is nothing to follow. -/
def step (t : Tracker) (i : Nat) (c : Char) : Bool → Marks → Marks
  | false, .none => .none
  | enter, marks => t.advance i c enter marks

/-- Takes no character, and matches at the allowed positions. -/
def stay (allowed : Positions) : Tracker where
  passing := allowed
  consuming := false
  advance _ _ _ _ := .none

/-- Takes one character of the set. -/
def take (set : CharSet) : Tracker where
  passing := 0
  consuming := true
  advance _ c enter _ := if enter && set c then .one else .none

/-- The second part begins where the first ends. If the first takes no characters it only restricts
where the second begins. -/
def sequence (first second : Tracker) : Tracker where
  passing := first.passing &&& second.passing
  consuming := first.consuming || second.consuming
  advance i c enter marks :=
    if first.consuming then
      let marks₁ := first.step i c enter marks.first
      let marks₂ :=
        second.step i c (marks.first.ended || enter && first.passing.testBit i) marks.second
      .join (marks₂.ended || marks₁.ended && second.passing.testBit (i + 1)) marks₁ marks₂
    else second.step i c (enter && first.passing.testBit i) marks

def alternative (first second : Tracker) : Tracker where
  passing := first.passing ||| second.passing
  consuming := first.consuming || second.consuming
  advance i c enter marks :=
    let marks₁ := first.step i c enter marks.first
    let marks₂ := second.step i c enter marks.second
    .join (marks₁.ended || marks₂.ended) marks₁ marks₂

/-- One round or more: the next round begins where a round has ended. -/
def loop (body : Tracker) : Tracker where
  passing := body.passing
  consuming := body.consuming
  advance i c enter marks := body.step i c (enter || marks.ended) marks

/-- One round or none, which is a match at all positions. -/
def optional (all : Positions) (body : Tracker) : Tracker where
  passing := all
  consuming := body.consuming
  advance := body.advance

/-- Exactly `n` rounds, in two halves that are the same tracker. No more than `fuel` rounds can be
asked for. -/
def halved (all : Positions) (body : Tracker) : Nat → Nat → Tracker
  | 0, _ => stay all
  | fuel + 1, n =>
    if n = 0 then stay all
    else if n = 1 then body
    else
      let half := halved all body fuel (n / 2)
      if n % 2 = 0 then sequence half half else sequence body (sequence half half)

def exactly (all : Positions) (n : Nat) (body : Tracker) : Tracker :=
  halved all body n n

def atLeast (all : Positions) (n : Nat) (body : Tracker) : Tracker :=
  match n with
  | 0 => optional all (loop body)
  | n + 1 => sequence (exactly all n body) (loop body)

def atMost (all : Positions) (n : Nat) (body : Tracker) : Tracker :=
  exactly all n (optional all body)

/-- The marks after `i` characters of the text, of matches that begin at the positions told by
`enter`. -/
def run (t : Tracker) (text : List Char) (enter : Nat → Bool) : Nat → Marks
  | 0 => .none
  | i + 1 =>
    match text[i]? with
    | some c => t.step i c (enter i) (run t text enter i)
    | none => .none

theorem step_eq {t : Tracker} {i : Nat} {c : Char} (h : t.advance i c false .none = .none)
    (enter : Bool) (marks : Marks) : t.step i c enter marks = t.advance i c enter marks := by
  cases enter with
  | false =>
    cases marks with
    | none => exact h.symm
    | one => rfl
    | pair => rfl
  | true => rfl

end Tracker

end SqlTemplate.Regex
