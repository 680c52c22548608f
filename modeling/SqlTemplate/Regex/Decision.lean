import SqlTemplate.Regex.Rounds
import SqlTemplate.Regex.Search

/-!
# SqlTemplate.Regex.Decision

The search decides whether there is a match. The tracker of an expression knows where its matches
end: it has ended a match after a character just when one that begins at an earlier position, at
which matches may begin, ends there (`tracks_tracker`). So the search answers yes just when some
stretch of the text is a match (`occurs_iff`).
-/

namespace SqlTemplate.Regex

/-! ## Sets of positions -/

theorem testBit_two_mul_add (n i : Nat) (b : Bool) :
    (2 * n + (if b then 1 else 0)).testBit i = if i = 0 then b else n.testBit (i - 1) := by
  cases i with
  | zero => cases b <;> simp
  | succ i =>
    have hdiv : (2 * n + (if b then 1 else 0)) / 2 = n := by split <;> omega
    rw [Nat.testBit_succ, hdiv]
    simp

theorem testBit_assertionPositions (a : Assertion) (text : List Char) (before : Option Char)
    (i : Nat) :
    (assertionPositions a before text).testBit i = true ↔
      i ≤ text.length ∧
        a.holds (if i = 0 then before else text[i - 1]?) text[i]? = true := by
  induction text generalizing before i with
  | nil =>
    have h := testBit_two_mul_add 0 i (a.holds before none)
    simp only [Nat.mul_zero, Nat.zero_add] at h
    rw [assertionPositions, h]
    cases i <;> simp
  | cons c cs ih =>
    rw [assertionPositions, testBit_two_mul_add]
    cases i with
    | zero => simp
    | succ i =>
      rw [if_neg (Nat.succ_ne_zero i), Nat.add_sub_cancel, ih]
      cases i <;> simp

theorem before?_eq (text : List Char) (p : Nat) :
    before? text p = if p = 0 then none else text[p - 1]? := by
  cases p <;> simp [before?]

theorem testBit_allPositions (text : List Char) (i : Nat) :
    (allPositions text).testBit i = true ↔ i ≤ text.length := by
  rw [allPositions, Nat.one_shiftLeft, Nat.testBit_two_pow_sub_one, decide_eq_true_iff]
  omega

/-! ## What a tracker knows -/

/-- Of the matches given by `R`, which holds of where one begins and ends, the tracker knows which
take no character, whether there are others, and where those end that begin at positions told by
`enter`. -/
structure Tracks (text : List Char) (t : Tracker) (R : Nat → Nat → Prop) : Prop where
  within : ∀ {p q}, R p q → p ≤ q ∧ q ≤ text.length
  passing : ∀ i, t.passing.testBit i = true ↔ R i i
  still : t.consuming = false → ∀ {p q}, R p q → p = q
  ended : ∀ enter i,
    (t.run text enter i).ended = true ↔ ∃ p, p < i ∧ enter p = true ∧ R p i

namespace Tracks

variable {text : List Char} {t t₁ t₂ : Tracker} {R R₁ R₂ : Nat → Nat → Prop}

theorem congr (h : Tracks text t R₁) (hR : ∀ p q, R₁ p q ↔ R₂ p q) : Tracks text t R₂ := by
  have : R₁ = R₂ := funext fun p => funext fun q => propext (hR p q)
  exact this ▸ h

theorem stay {s : Positions} (hp : ∀ i, s.testBit i = true ↔ R i i)
    (hs : ∀ {p q}, R p q → p = q) (hw : ∀ {p q}, R p q → p ≤ q ∧ q ≤ text.length) :
    Tracks text (.stay s) R where
  within := hw
  passing := hp
  still _ := hs
  ended enter i := by
    have hrun : (Tracker.stay s).run text enter i = .none := by
      induction i with
      | zero => rfl
      | succ i ih =>
        rw [Tracker.run, ih]
        cases text[i]? with
        | none => rfl
        | some c => cases enter i <;> rfl
    rw [hrun]
    constructor
    · intro h; cases h
    · rintro ⟨p, hpi, _, h⟩
      have := hs h
      omega

theorem take (set : CharSet) : Tracks text (.take set) (Matches text (.oneOf set)) where
  within h := h.le
  passing i := by
    constructor
    · intro h; rw [Tracker.take, Nat.zero_testBit] at h; cases h
    · intro h; cases h
  still h := by cases h
  ended enter i := by
    cases i with
    | zero =>
      constructor
      · intro h; cases h
      · rintro ⟨p, hp, _⟩; omega
    | succ i =>
      have hstep (c : Char) (marks : Marks) : (Tracker.take set).step i c (enter i) marks =
          if enter i && set c then .one else .none := by
        rw [Tracker.step_eq (by rfl)]
        rfl
      rw [Tracker.run]
      constructor
      · intro h
        cases hc : text[i]? with
        | none => rw [hc] at h; cases h
        | some c =>
          simp only [hc, hstep] at h
          by_cases hset : (enter i && set c) = true
          · obtain ⟨he, hs⟩ := Bool.and_eq_true_iff.mp hset
            exact ⟨i, Nat.lt_succ_self i, he, .oneOf hc hs⟩
          · rw [if_neg hset] at h; cases h
      · rintro ⟨p, _, he, h⟩
        cases h with
        | oneOf hc hs =>
          simp only [hc]
          rw [hstep, he, hs]
          rfl

end Tracks

/-! ## A part after a part -/

section

variable {text : List Char} {t₁ t₂ : Tracker} {R₁ R₂ : Nat → Nat → Prop}

theorem run_sequence_of_still (h : t₁.consuming = false) (enter : Nat → Bool) (i : Nat) :
    (Tracker.sequence t₁ t₂).run text enter i =
      t₂.run text (fun j => enter j && t₁.passing.testBit j) i := by
  have hstep (j : Nat) (c : Char) (e : Bool) (marks : Marks) :
      (Tracker.sequence t₁ t₂).step j c e marks =
        t₂.step j c (e && t₁.passing.testBit j) marks := by
    rw [Tracker.step_eq (by simp [Tracker.sequence, h, Tracker.step])]
    simp [Tracker.sequence, h]
  induction i with
  | zero => rfl
  | succ i ih =>
    rw [Tracker.run, Tracker.run, ih]
    cases text[i]? with
    | none => rfl
    | some c => exact hstep i c (enter i) _

/-- The marks of a sequence are those of its parts, the second begun where the first has ended. -/
theorem run_sequence (h : t₁.consuming = true) (enter : Nat → Bool) (i : Nat) :
    let marks := (Tracker.sequence t₁ t₂).run text enter i
    let between := fun j =>
      (t₁.run text enter j).ended || enter j && t₁.passing.testBit j
    marks.first = t₁.run text enter i ∧ marks.second = t₂.run text between i ∧
      marks.ended = ((t₂.run text between i).ended ||
        (t₁.run text enter i).ended && t₂.passing.testBit i) := by
  induction i with
  | zero => exact ⟨rfl, rfl, rfl⟩
  | succ i ih =>
    obtain ⟨ih₁, ih₂, _⟩ := ih
    simp only [Tracker.run]
    cases text[i]? with
    | none => exact ⟨rfl, rfl, rfl⟩
    | some c =>
      simp only
      rw [Tracker.step_eq (by simp [Tracker.sequence, h, Marks.first, Marks.second, Marks.ended,
        Tracker.step, Marks.join])]
      simp only [Tracker.sequence, h, if_true, ← ih₁, ← ih₂]
      refine ⟨Marks.first_join _ _ _, Marks.second_join _ _ _, Marks.ended_join ?_⟩
      intro h₁ h₂
      rw [h₁, h₂]
      rfl

theorem Tracks.sequence (h₁ : Tracks text t₁ R₁) (h₂ : Tracks text t₂ R₂) :
    Tracks text (.sequence t₁ t₂) fun p q => ∃ m, R₁ p m ∧ R₂ m q where
  within := by
    rintro p q ⟨m, hm₁, hm₂⟩
    have := h₁.within hm₁
    have := h₂.within hm₂
    omega
  passing i := by
    simp only [Tracker.sequence, Nat.testBit_and, Bool.and_eq_true, h₁.passing, h₂.passing]
    constructor
    · rintro ⟨hi₁, hi₂⟩; exact ⟨i, hi₁, hi₂⟩
    · rintro ⟨m, hm₁, hm₂⟩
      obtain rfl : m = i := by
        have := h₁.within hm₁
        have := h₂.within hm₂
        omega
      exact ⟨hm₁, hm₂⟩
  still h := by
    obtain ⟨hc₁, hc₂⟩ := Bool.or_eq_false_iff.mp h
    rintro p q ⟨m, hm₁, hm₂⟩
    rw [h₁.still hc₁ hm₁, h₂.still hc₂ hm₂]
  ended enter i := by
    cases hc : t₁.consuming with
    | false =>
      rw [run_sequence_of_still hc, h₂.ended]
      constructor
      · rintro ⟨p, hp, he, hR⟩
        obtain ⟨he, hpass⟩ := Bool.and_eq_true_iff.mp he
        exact ⟨p, hp, he, p, (h₁.passing p).mp hpass, hR⟩
      · rintro ⟨p, hp, he, m, hm₁, hm₂⟩
        obtain rfl := h₁.still hc hm₁
        exact ⟨p, hp, Bool.and_eq_true_iff.mpr ⟨he, (h₁.passing p).mpr hm₁⟩, hm₂⟩
    | true =>
      obtain ⟨_, _, hended⟩ := @run_sequence text t₁ t₂ hc enter i
      rw [hended, Bool.or_eq_true, Bool.and_eq_true, h₁.ended, h₂.ended, h₂.passing]
      simp only [Bool.or_eq_true, Bool.and_eq_true, h₁.ended, h₁.passing]
      constructor
      · rintro (⟨m, hm, (⟨p, hp, he, hR⟩ | ⟨he, hR⟩), hR₂⟩ | ⟨⟨p, hp, he, hR⟩, hR₂⟩)
        · exact ⟨p, Nat.lt_trans hp hm, he, m, hR, hR₂⟩
        · exact ⟨m, hm, he, m, hR, hR₂⟩
        · exact ⟨p, hp, he, i, hR, hR₂⟩
      · rintro ⟨p, hp, he, m, hm₁, hm₂⟩
        have hpm := (h₁.within hm₁).1
        have hmi := (h₂.within hm₂).1
        by_cases hmi' : m = i
        · subst hmi'
          exact .inr ⟨⟨p, hp, he, hm₁⟩, hm₂⟩
        · refine .inl ⟨m, by omega, ?_, hm₂⟩
          by_cases hpm' : p = m
          · subst hpm'; exact .inr ⟨he, hm₁⟩
          · exact .inl ⟨p, by omega, he, hm₁⟩

end

/-! ## One part or another -/

section

variable {text : List Char} {t₁ t₂ : Tracker} {R₁ R₂ : Nat → Nat → Prop}

theorem run_alternative (enter : Nat → Bool) (i : Nat) :
    let marks := (Tracker.alternative t₁ t₂).run text enter i
    marks.first = t₁.run text enter i ∧ marks.second = t₂.run text enter i ∧
      marks.ended = ((t₁.run text enter i).ended || (t₂.run text enter i).ended) := by
  induction i with
  | zero => exact ⟨rfl, rfl, rfl⟩
  | succ i ih =>
    obtain ⟨ih₁, ih₂, _⟩ := ih
    simp only [Tracker.run]
    cases text[i]? with
    | none => exact ⟨rfl, rfl, rfl⟩
    | some c =>
      simp only
      rw [Tracker.step_eq (by simp [Tracker.alternative, Marks.first, Marks.second,
        Tracker.step, Marks.join])]
      simp only [Tracker.alternative, ← ih₁, ← ih₂]
      refine ⟨Marks.first_join _ _ _, Marks.second_join _ _ _, Marks.ended_join ?_⟩
      intro h₁ h₂
      rw [h₁, h₂]
      rfl

theorem Tracks.alternative (h₁ : Tracks text t₁ R₁) (h₂ : Tracks text t₂ R₂) :
    Tracks text (.alternative t₁ t₂) fun p q => R₁ p q ∨ R₂ p q where
  within h := h.elim h₁.within h₂.within
  passing i := by
    simp only [Tracker.alternative, Nat.testBit_or, Bool.or_eq_true, h₁.passing, h₂.passing]
  still h := by
    obtain ⟨hc₁, hc₂⟩ := Bool.or_eq_false_iff.mp h
    intro p q hR
    exact hR.elim (h₁.still hc₁) (h₂.still hc₂)
  ended enter i := by
    obtain ⟨_, _, hended⟩ := @run_alternative text t₁ t₂ enter i
    rw [hended, Bool.or_eq_true, h₁.ended, h₂.ended]
    constructor
    · rintro (⟨p, hp, he, hR⟩ | ⟨p, hp, he, hR⟩)
      · exact ⟨p, hp, he, .inl hR⟩
      · exact ⟨p, hp, he, .inr hR⟩
    · rintro ⟨p, hp, he, hR⟩
      exact hR.imp (fun hR => ⟨p, hp, he, hR⟩) fun hR => ⟨p, hp, he, hR⟩

end

/-! ## Rounds of a part -/

section

variable {text : List Char} {t : Tracker} {R : Nat → Nat → Prop} {body : Regex}

/-- One round is followed from where the whole may begin and from where a round has ended. -/
theorem run_loop (enter : Nat → Bool) (i : Nat) :
    t.loop.run text enter i =
      t.run text (fun j => enter j || (t.loop.run text enter j).ended) i := by
  have hstep (j : Nat) (c : Char) (e : Bool) (marks : Marks) :
      t.loop.step j c e marks = t.step j c (e || marks.ended) marks := by
    rw [Tracker.step_eq (by rfl)]
    rfl
  induction i with
  | zero => rfl
  | succ i ih =>
    rw [Tracker.run, Tracker.run]
    cases text[i]? with
    | none => rfl
    | some c => simp only [hstep, ← ih]

theorem ended_loop (h : Tracks text t (Matches text body)) (enter : Nat → Bool) (i : Nat) :
    (t.loop.run text enter i).ended = true ↔
      ∃ p, p < i ∧ enter p = true ∧ ∃ n, Rounds text body (n + 1) p i := by
  induction i using Nat.strongRecOn with
  | ind i ih =>
    rw [run_loop, h.ended]
    constructor
    · rintro ⟨m, hm, he, hR⟩
      rw [Bool.or_eq_true, ih m hm] at he
      rcases he with he | ⟨p, hp, he, n, hn⟩
      · exact ⟨m, hm, he, 0, .succ hR (.zero hR.le.2)⟩
      · exact ⟨p, Nat.lt_trans hp hm, he, n + 1, Rounds.last_iff.mpr ⟨m, hn, hR⟩⟩
    · rintro ⟨p, hp, he, n, hn⟩
      induction n with
      | zero =>
        obtain ⟨m, hm, hR⟩ := Rounds.last_iff.mp hn
        obtain ⟨rfl, _⟩ := Rounds.zero_iff.mp hm
        exact ⟨p, hp, by rw [he, Bool.true_or], hR⟩
      | succ n ihn =>
        obtain ⟨m, hm, hR⟩ := Rounds.last_iff.mp hn
        by_cases hmi : m = i
        · subst hmi; exact ihn hm
        · have hmi : m < i := by have := hR.le; omega
          refine ⟨m, hmi, ?_, hR⟩
          by_cases hpm : p = m
          · subst hpm; rw [he, Bool.true_or]
          · have hpm : p < m := by have := hm.le; omega
            rw [(ih m hmi).mpr ⟨p, hpm, he, n, hm⟩, Bool.or_true]

theorem Tracks.loop (h : Tracks text t (Matches text body)) :
    Tracks text t.loop fun p q => ∃ n, Rounds text body (n + 1) p q where
  within := by rintro p q ⟨n, hn⟩; exact hn.le
  passing i := by
    rw [Tracker.loop, h.passing]
    constructor
    · intro hi; exact ⟨0, .succ hi (.zero hi.le.2)⟩
    · rintro ⟨n, hn⟩; exact hn.one_of_still
  still hc := by
    rintro p q ⟨n, hn⟩
    exact hn.still (h.still hc)
  ended := ended_loop h

theorem Tracks.optional (h : Tracks text t R) :
    Tracks text (t.optional (allPositions text)) fun p q => p = q ∧ p ≤ text.length ∨ R p q where
  within := by
    rintro p q (⟨rfl, hp⟩ | hR)
    · exact ⟨Nat.le_refl p, hp⟩
    · exact h.within hR
  passing i := by
    rw [Tracker.optional, testBit_allPositions]
    constructor
    · intro hi; exact .inl ⟨rfl, hi⟩
    · rintro (⟨_, hi⟩ | hR)
      · exact hi
      · exact (h.within hR).2
  still hc := by
    rintro p q (⟨rfl, _⟩ | hR)
    · rfl
    · exact h.still hc hR
  ended enter i := by
    have hrun : (t.optional (allPositions text)).run text enter i = t.run text enter i := by
      induction i with
      | zero => rfl
      | succ i ih => rw [Tracker.run, Tracker.run, ih]; rfl
    rw [hrun, h.ended]
    constructor
    · rintro ⟨p, hp, he, hR⟩; exact ⟨p, hp, he, .inr hR⟩
    · rintro ⟨p, hp, he, ⟨rfl, _⟩ | hR⟩
      · omega
      · exact ⟨p, hp, he, hR⟩

theorem Tracks.stay_all : Tracks text (.stay (allPositions text)) (Rounds text body 0) :=
  Tracks.stay (fun i => by rw [testBit_allPositions, Rounds.zero_iff]; simp)
    (fun h => (Rounds.zero_iff.mp h).1) Rounds.le

theorem Tracks.halved (h : Tracks text t (Matches text body)) {fuel n : Nat} (hn : n ≤ fuel) :
    Tracks text (t.halved (allPositions text) fuel n) (Rounds text body n) := by
  induction fuel generalizing n with
  | zero =>
    obtain rfl : n = 0 := by omega
    exact Tracks.stay_all
  | succ fuel ih =>
    rw [Tracker.halved]
    by_cases h0 : n = 0
    · subst h0; exact Tracks.stay_all
    · rw [if_neg h0]
      by_cases h1 : n = 1
      · subst h1
        refine h.congr fun p q => ?_
        rw [Rounds.last_iff]
        constructor
        · intro hR; exact ⟨p, .zero (Nat.le_trans hR.le.1 hR.le.2), hR⟩
        · rintro ⟨m, hm, hR⟩
          obtain ⟨rfl, _⟩ := Rounds.zero_iff.mp hm
          exact hR
      · rw [if_neg h1]
        have hhalf := ih (n := n / 2) (by omega)
        have hboth : Tracks text _ (Rounds text body (n / 2 + n / 2)) :=
          (hhalf.sequence hhalf).congr fun p q => Rounds.add_iff.symm
        by_cases heven : n % 2 = 0
        · have hn : n / 2 + n / 2 = n := by omega
          rw [hn] at hboth
          simpa only [if_pos heven] using hboth
        · have hn : n / 2 + n / 2 + 1 = n := by omega
          have hall : Tracks text _ (Rounds text body (n / 2 + n / 2 + 1)) :=
            (h.sequence hboth).congr fun p q => Rounds.succ_iff.symm
          rw [hn] at hall
          simpa only [if_neg heven] using hall

theorem Tracks.exactly (h : Tracks text t (Matches text body)) (n : Nat) :
    Tracks text (.exactly (allPositions text) n t) (Rounds text body n) :=
  h.halved (Nat.le_refl n)

theorem Tracks.atLeast (h : Tracks text t (Matches text body)) (n : Nat) :
    Tracks text (.atLeast (allPositions text) n t) (Matches text (.repetition n none body)) := by
  cases n with
  | zero =>
    refine h.loop.optional.congr fun p q => ?_
    rw [matches_repetition_iff]
    constructor
    · rintro (⟨rfl, hp⟩ | ⟨n, hn⟩)
      · exact ⟨0, ⟨Nat.le_refl 0, by simp⟩, .zero hp⟩
      · exact ⟨n + 1, ⟨Nat.zero_le _, by simp⟩, hn⟩
    · rintro ⟨k, _, hk⟩
      cases k with
      | zero => exact .inl (Rounds.zero_iff.mp hk)
      | succ k => exact .inr ⟨k, hk⟩
  | succ n =>
    refine ((h.exactly n).sequence h.loop).congr fun p q => ?_
    rw [matches_repetition_iff]
    constructor
    · rintro ⟨m, hm, k, hk⟩
      exact ⟨n + (k + 1), ⟨by omega, by simp⟩, Rounds.add_iff.mpr ⟨m, hm, hk⟩⟩
    · rintro ⟨k, hk, hr⟩
      obtain ⟨k, rfl⟩ := Nat.exists_eq_add_of_le hk.1
      rw [show n + 1 + k = n + (k + 1) by omega] at hr
      obtain ⟨m, hm, hr⟩ := Rounds.add_iff.mp hr
      exact ⟨m, hm, k, hr⟩

theorem Tracks.atMost (h : Tracks text t (Matches text body)) (n : Nat) :
    Tracks text (.atMost (allPositions text) n t)
      fun p q => ∃ k, k ≤ n ∧ Rounds text body k p q := by
  have hone : Tracks text (t.optional (allPositions text))
      (Matches text (.repetition 0 (some 1) body)) :=
    h.optional.congr fun p q => matches_optional_iff.symm
  exact (hone.exactly n).congr fun p q => rounds_optional_iff

theorem Tracks.between (h : Tracks text t (Matches text body)) {least most : Nat}
    (hl : least ≤ most) :
    Tracks text (.sequence (.exactly (allPositions text) least t)
        (.atMost (allPositions text) (min (most - least) text.length) t))
      (Matches text (.repetition least (some most) body)) := by
  refine ((h.exactly least).sequence (h.atMost _)).congr fun p q => ?_
  rw [matches_repetition_iff]
  constructor
  · rintro ⟨m, hm, k, hk, hr⟩
    refine ⟨least + k, ⟨Nat.le_add_right _ _, ?_⟩, Rounds.add_iff.mpr ⟨m, hm, hr⟩⟩
    intro b hb
    cases hb
    omega
  · rintro ⟨n, hn, hr⟩
    obtain ⟨k, rfl⟩ := Nat.exists_eq_add_of_le hn.1
    have := hn.2 most rfl
    obtain ⟨m, hm, hr⟩ := Rounds.add_iff.mp hr
    by_cases hk : k ≤ text.length
    · exact ⟨m, hm, k, by omega, hr⟩
    · obtain ⟨j, hj, hshort⟩ := hr.shorten
      have := hr.le
      exact ⟨m, hm, j, by omega, hshort⟩

end

/-! ## The tracker of an expression -/

theorem tracks_tracker (text : List Char) (r : Regex) :
    Tracks text (tracker text r) (Matches text r) := by
  induction r with
  | empty =>
    refine Tracks.stay (fun i => ?_) (fun h => ?_) Matches.le
    · rw [testBit_allPositions]
      constructor
      · intro h; exact .empty h
      · intro h; exact h.le.2
    · cases h with | empty => rfl
  | oneOf set => exact Tracks.take set
  | assertion a =>
    refine Tracks.stay (fun i => ?_) (fun h => ?_) Matches.le
    · rw [testBit_assertionPositions, ← before?_eq]
      constructor
      · rintro ⟨h, ha⟩; exact .assertion h ha
      · intro h; cases h with | assertion h ha => exact ⟨h, ha⟩
    · cases h with | assertion => rfl
  | sequence first second ih₁ ih₂ =>
    refine (ih₁.sequence ih₂).congr fun p q => ?_
    constructor
    · rintro ⟨m, h₁, h₂⟩; exact .sequence h₁ h₂
    · intro h; cases h with | sequence h₁ h₂ => exact ⟨_, h₁, h₂⟩
  | alternative first second ih₁ ih₂ =>
    refine (ih₁.alternative ih₂).congr fun p q => ?_
    constructor
    · rintro (h | h)
      · exact .first h
      · exact .second h
    · intro h
      cases h with
      | first h => exact .inl h
      | second h => exact .inr h
  | repetition least most body ih =>
    cases most with
    | none => exact ih.atLeast least
    | some most =>
      rw [tracker]
      by_cases hl : least ≤ most
      · simpa only [if_pos hl] using ih.between hl
      · have hnone {p q : Nat} : ¬Matches text (.repetition least (some most) body) p q := by
          rw [matches_repetition_iff]
          rintro ⟨k, hk, _⟩
          have := hk.1
          have := hk.2 most rfl
          omega
        simp only [if_neg hl]
        exact Tracks.stay (fun i => by simp [hnone]) (fun h => absurd h hnone) Matches.le

theorem endsWithin_run (t : Tracker) (text : List Char) (i : Nat) :
    endsWithin t i (t.run text (fun _ => true) i) (text.drop i) = true ↔
      ∃ q, i < q ∧ q ≤ text.length ∧ (t.run text (fun _ => true) q).ended = true := by
  induction hn : text.length - i generalizing i with
  | zero =>
    rw [List.drop_eq_nil_of_le (by omega), endsWithin]
    constructor
    · intro h; cases h
    · rintro ⟨q, hq, hlen, _⟩; omega
  | succ n ih =>
    have hi : i < text.length := by omega
    have hrun : t.run text (fun _ => true) (i + 1) =
        t.step i text[i] true (t.run text (fun _ => true) i) := by
      rw [Tracker.run, List.getElem?_eq_getElem hi]
    rw [List.drop_eq_getElem_cons hi, endsWithin, Bool.or_eq_true, ← hrun, ih (i + 1) (by omega)]
    constructor
    · rintro (h | ⟨q, hq, hlen, h⟩)
      · exact ⟨i + 1, Nat.lt_succ_self i, hi, h⟩
      · exact ⟨q, by omega, hlen, h⟩
    · rintro ⟨q, hq, hlen, h⟩
      by_cases hqi : q = i + 1
      · exact .inl (hqi ▸ h)
      · exact .inr ⟨q, by omega, hlen, h⟩

/-- The search finds a match just when there is one. -/
theorem occurs_iff (r : Regex) (text : String) : occurs r text = true ↔ Occurs r text.toList := by
  have htracks := tracks_tracker text.toList r
  have hends := endsWithin_run (tracker text.toList r) text.toList 0
  rw [List.drop_zero, Tracker.run] at hends
  rw [occurs, Bool.or_eq_true, bne_iff_ne, hends]
  constructor
  · rintro (h | ⟨q, _, _, h⟩)
    · obtain ⟨i, hi⟩ := Nat.exists_testBit_of_ne_zero h
      exact ⟨i, i, (htracks.passing i).mp hi⟩
    · obtain ⟨p, _, _, hm⟩ := (htracks.ended _ q).mp h
      exact ⟨p, q, hm⟩
  · rintro ⟨p, q, hm⟩
    have hle := hm.le
    by_cases hpq : p = q
    · subst hpq
      have hp := (htracks.passing p).mpr hm
      refine .inl fun h => ?_
      rw [h, Nat.zero_testBit] at hp
      cases hp
    · exact .inr ⟨q, by omega, hle.2, (htracks.ended _ q).mpr ⟨p, by omega, rfl, hm⟩⟩

end SqlTemplate.Regex
