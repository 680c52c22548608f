import SqlTemplate.Unicode.Property

/-!
# SqlTemplate.Regex.Blank

Blanks and comments in a pattern. In verbose mode white space is skipped, and so is a comment from
a number sign to the end of its line; otherwise nothing is.
-/

namespace SqlTemplate.Regex

/-- Skips white space and comments, from within a comment if `inComment`. -/
def skipBlank : (inComment : Bool) → List Char → List Char
  | _, [] => []
  | true, c :: cs => skipBlank (c != '\n') cs
  | false, c :: cs =>
    if c = '#' then skipBlank true cs
    else if Unicode.isWhiteSpace c then skipBlank false cs
    else c :: cs

def skip (verbose : Bool) (cs : List Char) : List Char :=
  if verbose then skipBlank false cs else cs

theorem skip_false (cs : List Char) : skip false cs = cs := rfl

theorem length_skipBlank_le (inComment : Bool) (cs : List Char) :
    (skipBlank inComment cs).length ≤ cs.length := by
  fun_induction skipBlank inComment cs with
  | case1 => exact Nat.le_refl _
  | case2 _ _ ih => exact Nat.le_succ_of_le ih
  | case3 _ ih => exact Nat.le_succ_of_le ih
  | case4 _ _ _ _ ih => exact Nat.le_succ_of_le ih
  | case5 => exact Nat.le_refl _

theorem length_skip_le (verbose : Bool) (cs : List Char) :
    (skip verbose cs).length ≤ cs.length := by
  unfold skip
  split
  · exact length_skipBlank_le false cs
  · exact Nat.le_refl _

theorem length_lt_of_skip {verbose : Bool} {cs rest : List Char} {c : Char}
    (h : skip verbose cs = c :: rest) : rest.length < cs.length := by
  have := length_skip_le verbose cs
  rw [h, List.length_cons] at this
  omega

/-- The characters up to `last`, and what follows it. -/
def upTo (verbose : Bool) (last : Char) (cs : List Char) : Option (List Char × List Char) :=
  match _h : skip verbose cs with
  | [] => none
  | c :: rest =>
    if c = last then some ([], rest)
    else (upTo verbose last rest).map fun (text, after) => (c :: text, after)
termination_by cs.length
decreasing_by exact length_lt_of_skip _h

/-- The next `n` characters, and what follows them. -/
def take? (verbose : Bool) : Nat → List Char → Option (List Char × List Char)
  | 0, cs => some ([], cs)
  | n + 1, cs =>
    match skip verbose cs with
    | [] => none
    | c :: rest => (take? verbose n rest).map fun (text, after) => (c :: text, after)

/-- The digits that come next, and what follows them. -/
def takeDigits (verbose : Bool) (cs : List Char) : List Char × List Char :=
  match _h : skip verbose cs with
  | [] => ([], [])
  | c :: rest =>
    if c.isDigit then
      match takeDigits verbose rest with
      | (digits, after) => (c :: digits, after)
    else ([], c :: rest)
termination_by cs.length
decreasing_by exact length_lt_of_skip _h

theorem length_lt_of_upTo {verbose : Bool} {last : Char} {cs text after : List Char}
    (h : upTo verbose last cs = some (text, after)) : after.length < cs.length := by
  fun_induction upTo verbose last cs generalizing text with
  | case1 => cases h
  | case2 _ _ hs => cases h; exact length_lt_of_skip hs
  | case3 _ _ _ hs _ ih =>
    obtain ⟨⟨text', after'⟩, hu, heq⟩ := Option.map_eq_some_iff.mp h
    cases heq
    exact Nat.lt_trans (ih hu) (length_lt_of_skip hs)

theorem length_le_of_take? {verbose : Bool} {n : Nat} {cs text after : List Char}
    (h : take? verbose n cs = some (text, after)) : after.length ≤ cs.length := by
  induction n generalizing cs text with
  | zero => cases h; exact Nat.le_refl _
  | succ n ih =>
    simp only [take?] at h
    split at h
    · cases h
    · rename_i c rest hs
      obtain ⟨⟨text', after'⟩, ht, heq⟩ := Option.map_eq_some_iff.mp h
      cases heq
      exact Nat.le_trans (ih ht) (Nat.le_of_lt (length_lt_of_skip hs))

theorem length_takeDigits_le (verbose : Bool) (cs : List Char) :
    (takeDigits verbose cs).2.length ≤ cs.length := by
  fun_induction takeDigits verbose cs with
  | case1 => exact Nat.zero_le _
  | case2 cs c rest hs hd digits after heq ih =>
    rw [heq] at ih
    exact Nat.le_trans ih (Nat.le_of_lt (length_lt_of_skip hs))
  | case3 _ _ _ hs => exact length_lt_of_skip hs

end SqlTemplate.Regex
