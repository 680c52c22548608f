import SqlTemplate.Regex.Basic
import SqlTemplate.Regex.Tracker

/-!
# SqlTemplate.Regex.Search

Searching a text for a match, in one pass from its start to its end. Where an assertion holds is
worked out for the whole text beforehand.
-/

namespace SqlTemplate.Regex

/-- The positions at which the assertion holds, of a text after the given character. -/
def assertionPositions (assertion : Assertion) : Option Char → List Char → Positions
  | before, [] => if assertion.holds before none then 1 else 0
  | before, c :: cs =>
    2 * assertionPositions assertion (some c) cs
      + (if assertion.holds before (some c) then 1 else 0)

/-- All positions of a text, its end included. -/
def allPositions (text : List Char) : Positions :=
  (1 <<< (text.length + 1)) - 1

/-- More rounds than there are characters cannot all take one, so what is permitted beyond that adds
nothing. With a bound below the rounds that it requires a repetition has no match. -/
def tracker (text : List Char) : Regex → Tracker
  | .empty => .stay (allPositions text)
  | .oneOf set => .take set
  | .assertion a => .stay (assertionPositions a none text)
  | .sequence first second => .sequence (tracker text first) (tracker text second)
  | .alternative first second => .alternative (tracker text first) (tracker text second)
  | .repetition least none body => .atLeast (allPositions text) least (tracker text body)
  | .repetition least (some most) body =>
    let all := allPositions text
    let body := tracker text body
    if least ≤ most then
      .sequence (.exactly all least body) (.atMost all (min (most - least) text.length) body)
    else .stay 0

/-- Whether a match ends with one of the characters that are left, the first of them at position
`i`. -/
def endsWithin (t : Tracker) : Nat → Marks → List Char → Bool
  | _, _, [] => false
  | i, marks, c :: cs =>
    let next := t.step i c true marks
    next.ended || endsWithin t (i + 1) next cs

/-- A match may begin at every position of the text, and may take no character. -/
def occurs (r : Regex) (text : String) : Bool :=
  let chars := text.toList
  let t := tracker chars r
  t.passing != 0 || endsWithin t 0 .none chars

end SqlTemplate.Regex
