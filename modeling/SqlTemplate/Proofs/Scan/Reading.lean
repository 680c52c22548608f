import SqlTemplate.Template.Segment

/-!
# SqlTemplate.Proofs.Scan.Reading

Reading a template without positions. Every step splits what is left of the text at the first
occurrence of a delimiter, and goes on with what follows it as a text of its own.

* `cut?_eq_some_iff`, `cut?_eq_none_iff`: the split is at the first occurrence.
* `readContent`: the content of a token and what follows it, if the token is closed.
* `read`: the segments of a template.
* `readContent_cut`, `read_tail`, `read_escaped`, `read_unescaped`: one step of either.
-/

namespace SqlTemplate.Template

variable {needle text before after : List Char}

/-! ## The first occurrence -/

/-- What stands before the first occurrence of `needle`, and what stands after it. -/
def cut? (needle : List Char) : List Char → Option (List Char × List Char)
  | [] => if needle.isEmpty then some ([], []) else none
  | c :: cs =>
    if needle.isPrefixOf (c :: cs) then some ([], (c :: cs).drop needle.length)
    else (cut? needle cs).map fun (before, after) => (c :: before, after)

theorem eq_append_of_cut? (h : cut? needle text = some (before, after)) :
    text = before ++ needle ++ after := by
  induction text generalizing before with
  | nil =>
    simp only [cut?] at h
    split at h
    · rename_i hn
      cases h
      rw [List.isEmpty_iff.mp hn]
      rfl
    · cases h
  | cons c cs ih =>
    simp only [cut?] at h
    split at h
    · rename_i hp
      cases h
      exact (List.prefix_iff_eq_append.mp (List.isPrefixOf_iff_prefix.mp hp)).symm
    · obtain ⟨⟨before', after'⟩, hcut, heq⟩ := Option.map_eq_some_iff.mp h
      cases heq
      rw [ih hcut]
      rfl

theorem length_le_of_cut? (h : cut? needle text = some (before, after))
    {before' after' : List Char} (heq : text = before' ++ needle ++ after') :
    before.length ≤ before'.length := by
  induction text generalizing before before' with
  | nil =>
    simp only [cut?] at h
    split at h
    · cases h; exact Nat.zero_le _
    · cases h
  | cons c cs ih =>
    simp only [cut?] at h
    split at h
    · cases h; exact Nat.zero_le _
    · rename_i hp
      obtain ⟨⟨tail, after⟩, hcut, heq'⟩ := Option.map_eq_some_iff.mp h
      cases heq'
      cases before' with
      | nil =>
        refine absurd (List.isPrefixOf_iff_prefix.mpr ?_) hp
        exact ⟨after', heq.symm⟩
      | cons d tail' =>
        cases heq
        exact Nat.succ_le_succ (ih hcut rfl)

theorem cut?_eq_none_iff : cut? needle text = none ↔ ¬needle <:+: text := by
  induction text with
  | nil =>
    rw [cut?, List.infix_nil, ← List.isEmpty_iff]
    split
    · rename_i hn
      constructor
      · rintro ⟨⟩
      · exact fun h => absurd hn h
    · rename_i hn
      exact ⟨fun _ => hn, fun _ => rfl⟩
  | cons c cs ih =>
    rw [cut?, List.infix_cons_iff, ← List.isPrefixOf_iff_prefix]
    split
    · rename_i hp
      constructor
      · rintro ⟨⟩
      · exact fun h => absurd (Or.inl hp) h
    · rename_i hp
      rw [Option.map_eq_none_iff, ih]
      constructor
      · rintro h (hstart | hwithin)
        · exact hp hstart
        · exact h hwithin
      · exact fun h hwithin => h (.inr hwithin)

theorem cut?_eq_some_iff :
    cut? needle text = some (before, after) ↔
      text = before ++ needle ++ after ∧
        ∀ before' after', text = before' ++ needle ++ after' → before.length ≤ before'.length := by
  constructor
  · intro h
    exact ⟨eq_append_of_cut? h, fun before' after' heq => length_le_of_cut? h heq⟩
  · rintro ⟨heq, hfirst⟩
    cases hcut : cut? needle text with
    | none => exact absurd ⟨before, after, heq.symm⟩ (cut?_eq_none_iff.mp hcut)
    | some result =>
      obtain ⟨before', after'⟩ := result
      have heq' := eq_append_of_cut? hcut
      have hlen := Nat.le_antisymm (length_le_of_cut? hcut heq) (hfirst before' after' heq')
      rw [heq', List.append_assoc, List.append_assoc] at heq
      obtain ⟨rfl, hrest⟩ := List.append_inj heq hlen
      rw [List.append_cancel_left hrest]

theorem cut?_nil (hne : needle ≠ []) : cut? needle [] = none := by
  rw [cut?_eq_none_iff, List.infix_nil]
  exact hne

theorem cut?_append (needle after : List Char) :
    cut? needle (needle ++ after) = some ([], after) := by
  rw [cut?_eq_some_iff]
  exact ⟨rfl, fun _ _ _ => Nat.zero_le _⟩

theorem cut?_cons {c : Char} {cs : List Char} (h : ¬needle <+: c :: cs) :
    cut? needle (c :: cs) = (cut? needle cs).map fun (before, after) => (c :: before, after) := by
  rw [cut?, if_neg (by rwa [List.isPrefixOf_iff_prefix])]

theorem length_lt_of_cut? (hne : needle ≠ []) (h : cut? needle text = some (before, after)) :
    after.length < text.length := by
  have hpos := List.length_pos_iff.mpr hne
  rw [eq_append_of_cut? h, List.length_append, List.length_append]
  omega

/-! ## Tokens -/

/-- An escape right before a delimiter takes its meaning from it. -/
def endsEscaped (text : List Char) : Bool :=
  text.getLast? == some escape

theorem ne_nil_of_endsEscaped (h : endsEscaped text = true) : text ≠ [] := by
  rintro rfl
  cases h

theorem endsEscaped_append (front text : List Char) :
    endsEscaped (front ++ text) = if text = [] then endsEscaped front else endsEscaped text := by
  split
  · rename_i h
    rw [h, List.append_nil]
  · rename_i h
    rw [endsEscaped, List.getLast?_append, List.getLast?_eq_some_getLast h, Option.some_or,
      ← List.getLast?_eq_some_getLast h, endsEscaped]

theorem endsEscaped_of_append (front : List Char) (h : endsEscaped (front ++ text) = false) :
    endsEscaped text = false := by
  rw [endsEscaped_append] at h
  split at h
  · rename_i htext
    rw [htext]
    rfl
  · exact h

theorem endsEscaped_cons {c : Char} (h : text ≠ []) :
    endsEscaped (c :: text) = endsEscaped text := by
  rw [← List.singleton_append, endsEscaped_append, if_neg h]

/-- Reads a content to its close delimiter, in which escaped close delimiters stand for
themselves. -/
def readContent (d : Delimiters) (text : List Char) : Option (List Char × List Char) :=
  match _h : cut? d.closing text with
  | none => none
  | some (before, after) =>
    if endsEscaped before then
      (readContent d after).map fun (content, rest) =>
        (before.dropLast ++ d.closing ++ content, rest)
    else some (before, after)
termination_by text.length
decreasing_by exact length_lt_of_cut? d.closing_ne_nil _h

theorem length_lt_of_readContent {d : Delimiters} {content rest : List Char}
    (h : readContent d text = some (content, rest)) : rest.length < text.length := by
  fun_induction readContent d text generalizing content with
  | case1 => cases h
  | case2 text before after hcut hescaped ih =>
    obtain ⟨⟨content', rest'⟩, hread, heq⟩ := Option.map_eq_some_iff.mp h
    cases heq
    exact Nat.lt_trans (ih hread) (length_lt_of_cut? d.closing_ne_nil hcut)
  | case3 text before after hcut hescaped =>
    cases h
    exact length_lt_of_cut? d.closing_ne_nil hcut

/-- Reads the segments of a text. An open delimiter without a close delimiter is text, and so is
all that follows it. -/
def read (d : Delimiters) (text : List Char) : List Segment :=
  match _h : cut? d.opening text with
  | none => [.literal text]
  | some (before, after) =>
    if endsEscaped before then .literal (before.dropLast ++ d.opening) :: read d after
    else
      match _hc : readContent d after with
      | none => [.literal before, .literal (d.opening ++ after)]
      | some (content, rest) => .literal before :: .token content :: read d rest
termination_by text.length
decreasing_by
  · exact length_lt_of_cut? d.opening_ne_nil _h
  · exact Nat.lt_trans (length_lt_of_readContent _hc) (length_lt_of_cut? d.opening_ne_nil _h)

/-! ## One step -/

variable {d : Delimiters}

theorem readContent_missing (h : cut? d.closing text = none) : readContent d text = none := by
  rw [readContent]
  split
  · rfl
  · rename_i heq
    rw [h] at heq
    cases heq

theorem readContent_cut (h : cut? d.closing text = some (before, after)) :
    readContent d text =
      if endsEscaped before then
        (readContent d after).map fun (content, rest) =>
          (before.dropLast ++ d.closing ++ content, rest)
      else some (before, after) := by
  rw [readContent]
  split
  · rename_i heq
    rw [h] at heq
    cases heq
  · rename_i heq
    rw [h] at heq
    cases heq
    rfl

theorem read_tail (h : cut? d.opening text = none) : read d text = [.literal text] := by
  rw [read]
  split
  · rfl
  · rename_i heq
    rw [h] at heq
    cases heq

theorem read_escaped (h : cut? d.opening text = some (before, after))
    (hescaped : endsEscaped before = true) :
    read d text = .literal (before.dropLast ++ d.opening) :: read d after := by
  rw [read]
  split
  · rename_i heq
    rw [h] at heq
    cases heq
  · rename_i heq
    rw [h] at heq
    cases heq
    rw [if_pos hescaped]

theorem read_unescaped (h : cut? d.opening text = some (before, after))
    (hescaped : endsEscaped before = false) :
    read d text =
      match readContent d after with
      | none => [.literal before, .literal (d.opening ++ after)]
      | some (content, rest) => .literal before :: .token content :: read d rest := by
  rw [read]
  split
  · rename_i heq
    rw [h] at heq
    cases heq
  · rename_i heq
    rw [h] at heq
    cases heq
    rw [if_neg (by rw [hescaped]; exact Bool.false_ne_true)]
    split <;> rename_i hread <;> rw [hread]

end SqlTemplate.Template
