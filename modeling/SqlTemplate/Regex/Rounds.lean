import SqlTemplate.Regex.Basic

/-!
# SqlTemplate.Regex.Rounds

Matches one after the other. A match of a repetition is a permitted number of them
(`matches_repetition_iff`), and those that do not advance can be left out (`Rounds.shorten`).
Rounds that may each be left out are up to that number of them (`rounds_optional_iff`).
-/

namespace SqlTemplate.Regex

/-- `n` matches of `r` one after the other, from `p` to `q`. -/
inductive Rounds (text : List Char) (r : Regex) : Nat → Nat → Nat → Prop where
  | zero {p : Nat} (h : p ≤ text.length) : Rounds text r 0 p p
  | succ {n p m q : Nat} (h₁ : Matches text r p m) (h₂ : Rounds text r n m q) :
      Rounds text r (n + 1) p q

namespace Rounds

variable {text : List Char} {r : Regex}

theorem le {n p q : Nat} (h : Rounds text r n p q) : p ≤ q ∧ q ≤ text.length := by
  induction h with
  | zero h => exact ⟨Nat.le_refl _, h⟩
  | succ h₁ _ ih => have := h₁.le; omega

theorem zero_iff {p q : Nat} : Rounds text r 0 p q ↔ p = q ∧ p ≤ text.length := by
  constructor
  · intro h; cases h with | zero h => exact ⟨rfl, h⟩
  · rintro ⟨rfl, h⟩; exact .zero h

theorem succ_iff {n p q : Nat} :
    Rounds text r (n + 1) p q ↔ ∃ m, Matches text r p m ∧ Rounds text r n m q := by
  constructor
  · intro h; cases h with | succ h₁ h₂ => exact ⟨_, h₁, h₂⟩
  · rintro ⟨m, h₁, h₂⟩; exact .succ h₁ h₂

theorem add_iff {n k p q : Nat} :
    Rounds text r (n + k) p q ↔ ∃ m, Rounds text r n p m ∧ Rounds text r k m q := by
  induction n generalizing p with
  | zero =>
    simp only [Nat.zero_add, zero_iff]
    constructor
    · intro h; exact ⟨p, ⟨rfl, Nat.le_trans h.le.1 h.le.2⟩, h⟩
    · rintro ⟨m, ⟨rfl, _⟩, h⟩; exact h
  | succ n ih =>
    rw [Nat.succ_add, succ_iff]
    constructor
    · rintro ⟨m, h₁, h₂⟩
      obtain ⟨k', h₃, h₄⟩ := ih.mp h₂
      exact ⟨k', .succ h₁ h₃, h₄⟩
    · rintro ⟨m, h₁, h₂⟩
      obtain ⟨m', h₃, h₄⟩ := succ_iff.mp h₁
      exact ⟨m', h₃, ih.mpr ⟨m, h₄, h₂⟩⟩

/-- No more rounds are needed than positions are passed. -/
theorem shorten {n p q : Nat} (h : Rounds text r n p q) :
    ∃ k, k ≤ q - p ∧ Rounds text r k p q := by
  induction h with
  | zero h => exact ⟨0, Nat.zero_le _, .zero h⟩
  | succ h₁ h₂ ih =>
    rename_i n p m q
    obtain ⟨k, hk, hr⟩ := ih
    by_cases hpm : p = m
    · subst hpm; exact ⟨k, hk, hr⟩
    · have := h₁.le
      have := h₂.le
      exact ⟨k + 1, by omega, .succ h₁ hr⟩

/-- The last round apart from those before it. -/
theorem last_iff {n p q : Nat} :
    Rounds text r (n + 1) p q ↔ ∃ m, Rounds text r n p m ∧ Matches text r m q := by
  rw [add_iff]
  constructor
  · rintro ⟨m, hn, h⟩
    obtain ⟨q', hq', h⟩ := succ_iff.mp h
    obtain ⟨rfl, _⟩ := zero_iff.mp h
    exact ⟨m, hn, hq'⟩
  · rintro ⟨m, hn, h⟩
    exact ⟨m, hn, .succ h (.zero h.le.2)⟩

theorem still (h : ∀ {p q}, Matches text r p q → p = q) {n p q : Nat}
    (hn : Rounds text r n p q) : p = q := by
  induction hn with
  | zero => rfl
  | succ h₁ _ ih => rw [h h₁, ih]

/-- Rounds that take no character can be one round. -/
theorem one_of_still {n p : Nat} (h : Rounds text r (n + 1) p p) :
    Matches text r p p := by
  obtain ⟨m, h₁, h₂⟩ := succ_iff.mp h
  obtain rfl : m = p := by
    have := h₁.le
    have := h₂.le
    omega
  exact h₁

end Rounds

/-- Whether `k` rounds are permitted. -/
def Permitted (least : Nat) (most : Option Nat) (k : Nat) : Prop :=
  least ≤ k ∧ ∀ m, most = some m → k ≤ m

theorem permitted_succ {least k : Nat} {most : Option Nat} :
    Permitted least most (k + 1) ↔
      most ≠ some 0 ∧ Permitted (least - 1) (most.map (· - 1)) k := by
  cases most with
  | none => simp [Permitted]
  | some m => simp [Permitted]; omega

theorem matches_repetition_of_rounds {text : List Char} {r : Regex} {k p q : Nat}
    (h : Rounds text r k p q) {least : Nat} {most : Option Nat} (hk : Permitted least most k) :
    Matches text (.repetition least most r) p q := by
  induction h generalizing least most with
  | zero h =>
    obtain rfl : least = 0 := Nat.le_zero.mp hk.1
    exact .done h
  | succ h₁ _ ih =>
    obtain ⟨hm, hp⟩ := permitted_succ.mp hk
    exact .round hm h₁ (ih hp)

theorem rounds_of_matches {text : List Char} {r : Regex} {p q : Nat}
    (h : Matches text r p q) {least : Nat} {most : Option Nat} {body : Regex}
    (hr : r = .repetition least most body) :
    ∃ k, Permitted least most k ∧ Rounds text body k p q := by
  induction h generalizing least most with
  | done h =>
    cases hr
    exact ⟨0, ⟨Nat.le_refl _, fun _ _ => Nat.zero_le _⟩, .zero h⟩
  | round hm h₁ _ _ ih =>
    cases hr
    obtain ⟨k, hk, hrounds⟩ := ih rfl
    exact ⟨k + 1, permitted_succ.mpr ⟨hm, hk⟩, .succ h₁ hrounds⟩
  | empty => cases hr
  | oneOf => cases hr
  | assertion => cases hr
  | sequence => cases hr
  | first => cases hr
  | second => cases hr

theorem matches_repetition_iff {text : List Char} {body : Regex} {least p q : Nat}
    {most : Option Nat} :
    Matches text (.repetition least most body) p q ↔
      ∃ k, Permitted least most k ∧ Rounds text body k p q :=
  ⟨fun h => rounds_of_matches h rfl, fun ⟨_, hk, h⟩ => matches_repetition_of_rounds h hk⟩

/-- A round that may be left out. -/
theorem matches_optional_iff {text : List Char} {body : Regex} {p q : Nat} :
    Matches text (.repetition 0 (some 1) body) p q ↔
      p = q ∧ p ≤ text.length ∨ Matches text body p q := by
  constructor
  · intro h
    cases h with
    | done h => exact .inl ⟨rfl, h⟩
    | round _ h₁ h₂ =>
      cases h₂ with
      | done => exact .inr h₁
      | round hm => exact absurd rfl hm
  · rintro (⟨rfl, h⟩ | h)
    · exact .done h
    · exact .round (by simp) h (.done h.le.2)

theorem rounds_optional_iff {text : List Char} {body : Regex} {n p q : Nat} :
    Rounds text (.repetition 0 (some 1) body) n p q ↔ ∃ k, k ≤ n ∧ Rounds text body k p q := by
  induction n generalizing p with
  | zero =>
    constructor
    · intro h
      obtain ⟨rfl, hp⟩ := Rounds.zero_iff.mp h
      exact ⟨0, Nat.le_refl 0, .zero hp⟩
    · rintro ⟨k, hk, h⟩
      obtain rfl : k = 0 := by omega
      exact Rounds.zero_iff.mpr (Rounds.zero_iff.mp h)
  | succ n ih =>
    rw [Rounds.succ_iff]
    constructor
    · rintro ⟨m, h₁, h₂⟩
      obtain ⟨k, hk, hr⟩ := ih.mp h₂
      rcases matches_optional_iff.mp h₁ with ⟨rfl, _⟩ | h₁
      · exact ⟨k, by omega, hr⟩
      · exact ⟨k + 1, by omega, .succ h₁ hr⟩
    · rintro ⟨k, hk, hr⟩
      cases k with
      | zero =>
        obtain ⟨rfl, hp⟩ := Rounds.zero_iff.mp hr
        exact ⟨p, matches_optional_iff.mpr (.inl ⟨rfl, hp⟩), ih.mpr ⟨0, Nat.zero_le n, hr⟩⟩
      | succ k =>
        obtain ⟨m, h₁, h₂⟩ := Rounds.succ_iff.mp hr
        exact ⟨m, matches_optional_iff.mpr (.inr h₁), ih.mpr ⟨k, by omega, h₂⟩⟩

end SqlTemplate.Regex
