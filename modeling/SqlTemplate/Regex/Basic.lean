import SqlTemplate.Regex.Assertion
import SqlTemplate.Regex.CharSet

/-!
# SqlTemplate.Regex.Basic

Regular expressions with all flags worked in, and what it is for one to match a stretch of a text.
Positions count characters from the start of the text.
-/

namespace SqlTemplate

inductive Regex where
  | empty
  | oneOf (set : Regex.CharSet)
  | assertion (assertion : Regex.Assertion)
  | sequence (first second : Regex)
  | alternative (first second : Regex)
  | repetition (least : Nat) (most : Option Nat) (body : Regex)

namespace Regex

def before? (text : List Char) : Nat → Option Char
  | 0 => none
  | p + 1 => text[p]?

/-- `Matches text r p q`: the stretch of `text` from `p` to `q` is a match of `r`. A repetition may
end once no more rounds are required, and may go on while one more is allowed. -/
inductive Matches (text : List Char) : Regex → Nat → Nat → Prop where
  | empty {p : Nat} (h : p ≤ text.length) : Matches text .empty p p
  | oneOf {s : CharSet} {p : Nat} {c : Char} (hc : text[p]? = some c) (hs : s c = true) :
      Matches text (.oneOf s) p (p + 1)
  | assertion {a : Assertion} {p : Nat} (h : p ≤ text.length)
      (ha : a.holds (before? text p) text[p]? = true) : Matches text (.assertion a) p p
  | sequence {r₁ r₂ : Regex} {p m q : Nat} (h₁ : Matches text r₁ p m) (h₂ : Matches text r₂ m q) :
      Matches text (.sequence r₁ r₂) p q
  | first {r₁ r₂ : Regex} {p q : Nat} (h : Matches text r₁ p q) :
      Matches text (.alternative r₁ r₂) p q
  | second {r₁ r₂ : Regex} {p q : Nat} (h : Matches text r₂ p q) :
      Matches text (.alternative r₁ r₂) p q
  | done {most : Option Nat} {r : Regex} {p : Nat} (h : p ≤ text.length) :
      Matches text (.repetition 0 most r) p p
  | round {least : Nat} {most : Option Nat} {r : Regex} {p m q : Nat} (hm : most ≠ some 0)
      (h₁ : Matches text r p m)
      (h₂ : Matches text (.repetition (least - 1) (most.map (· - 1)) r) m q) :
      Matches text (.repetition least most r) p q

/-- Some stretch of the text is a match. -/
def Occurs (r : Regex) (text : List Char) : Prop :=
  ∃ p q, Matches text r p q

theorem Matches.le {text : List Char} {r : Regex} {p q : Nat} (h : Matches text r p q) :
    p ≤ q ∧ q ≤ text.length := by
  induction h with
  | empty h => exact ⟨Nat.le_refl _, h⟩
  | oneOf hc _ =>
    have := (List.getElem?_eq_some_iff.mp hc).1
    omega
  | assertion h _ => exact ⟨Nat.le_refl _, h⟩
  | sequence _ _ ih₁ ih₂ => omega
  | first _ ih => exact ih
  | second _ ih => exact ih
  | done h => exact ⟨Nat.le_refl _, h⟩
  | round _ _ _ ih₁ ih₂ => omega

end Regex

end SqlTemplate
