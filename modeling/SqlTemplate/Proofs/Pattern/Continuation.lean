import Mathlib.Data.List.TakeWhile
import SqlTemplate.Regex.Lexer

/-!
# SqlTemplate.Proofs.Pattern.Continuation

Readers of parts of a pattern decide on the characters they take, not on what comes after these. So
they take the same when more text follows the pattern, and when it is cut short behind them. A
reader that looks ahead at what it leaves does so at its first character, or past blanks.

* `Takes`: what a reader takes is a part of its text, and decides what it reads there.
* `skip_takes`: blanks and comments, up to the character that ends them.
* `readEscape_takes`: what a backslash begins.
-/

namespace SqlTemplate.Regex

variable {verbose : Bool} {cs rest left after text s : List Char} {c : Char}
  {Next Next' : List Char → Prop} {Reads Reads' First Second : List Char → List Char → Prop}

/-! ## Taking a part of a text -/

/-- `Reads` relates a text to what a reader leaves of it. The reader takes what is before `after`,
and takes the same wherever it stands before a text that satisfies `Next`. -/
def Takes (Next : List Char → Prop) (Reads : List Char → List Char → Prop)
    (cs after : List Char) : Prop :=
  ∃ used, cs = used ++ after ∧ ∀ more, Next more → Reads (used ++ more) more

/-- No condition on what comes next. -/
def Anything (_ : List Char) : Prop :=
  True

/-- What a reader sees of the text that it leaves when it stops at its first character. -/
def SameHead (left more : List Char) : Prop :=
  more.head? = left.head?

theorem SameHead.append {more : List Char} (h : SameHead after more) (used : List Char) :
    SameHead (used ++ after) (used ++ more) := by
  cases used with
  | nil => exact h
  | cons c rest => rfl

theorem eq_nil_of_sameHead {more : List Char} (h : SameHead [] more) : more = [] :=
  List.head?_eq_none_iff.mp h

theorem exists_of_sameHead {more : List Char} (h : SameHead (c :: rest) more) :
    ∃ tail, more = c :: tail :=
  List.head?_eq_some_iff.mp h

namespace Takes

theorem here (h : ∀ more, Next more → Reads more more) : Takes Next Reads cs cs :=
  ⟨[], rfl, h⟩

theorem nothing (cs : List Char) : Takes Anything Eq cs cs :=
  here fun _ _ => rfl

theorem whole (h : Reads cs []) : Takes (SameHead []) Reads cs [] := by
  refine ⟨cs, (List.append_nil cs).symm, fun more hmore => ?_⟩
  rw [eq_nil_of_sameHead hmore, List.append_nil]
  exact h

theorem imp (h : Takes Next Reads cs after)
    (hreads : ∀ cs after, Reads cs after → Next after → Reads' cs after) :
    Takes Next Reads' cs after := by
  obtain ⟨used, rfl, hused⟩ := h
  exact ⟨used, rfl, fun more hmore => hreads _ _ (hused more hmore) hmore⟩

theorem mono (h : Takes Next Reads cs after) (hnext : ∀ more, Next' more → Next more) :
    Takes Next' Reads cs after := by
  obtain ⟨used, rfl, hused⟩ := h
  exact ⟨used, rfl, fun more hmore => hused more (hnext more hmore)⟩

theorem and_next (h : Takes Next Reads cs after) :
    Takes Next (fun cs after => Reads cs after ∧ Next after) cs after :=
  h.imp fun _ _ hreads hnext => ⟨hreads, hnext⟩

theorem weaken (h : Takes Anything Reads cs after) : Takes Next Reads cs after :=
  h.mono fun _ _ => trivial

theorem cons (h : Takes Next Reads rest after)
    (hreads : ∀ cs after, Reads cs after → Reads' (c :: cs) after) :
    Takes Next Reads' (c :: rest) after := by
  obtain ⟨used, rfl, hused⟩ := h
  exact ⟨c :: used, rfl, fun more hmore => hreads _ _ (hused more hmore)⟩

theorem cons_eq (h : Takes Next Reads rest after) :
    Takes Next (fun cs after => ∃ rest, cs = c :: rest ∧ Reads rest after) (c :: rest) after :=
  h.cons fun rest _ hreads => ⟨rest, rfl, hreads⟩

/-- The first reader stops where the second begins. What it sees there is, as far as the second
reader takes it, a part of the text. -/
theorem trans_of (h : Takes Next' First cs left) (h' : Takes Next Second left after)
    (hreads : ∀ cs left after, First cs left → Second left after → Reads cs after)
    (hnext : ∀ used, left = used ++ after → (∀ more, Next more → Second (used ++ more) more) →
      ∀ more, Next more → Next' (used ++ more)) : Takes Next Reads cs after := by
  obtain ⟨used, rfl, hused⟩ := h
  obtain ⟨used', rfl, hused'⟩ := h'
  refine ⟨used ++ used', (List.append_assoc ..).symm, fun more hmore => ?_⟩
  rw [List.append_assoc]
  exact hreads _ _ _ (hused _ (hnext used' rfl hused' more hmore)) (hused' more hmore)

theorem trans (h : Takes Anything First cs left) (h' : Takes Next Second left after)
    (hreads : ∀ cs left after, First cs left → Second left after → Reads cs after) :
    Takes Next Reads cs after :=
  h.trans_of h' hreads fun _ _ _ _ _ => trivial

theorem comp (h : Takes Anything First cs left) (h' : Takes Next Second left after) :
    Takes Next (fun cs after => ∃ left, First cs left ∧ Second left after) cs after :=
  h.trans h' fun _ left _ hfirst hsecond => ⟨left, hfirst, hsecond⟩

theorem trans_sameHead (h : Takes (SameHead left) First cs left)
    (h' : Takes (SameHead after) Second left after)
    (hreads : ∀ cs left after, First cs left → Second left after → Reads cs after) :
    Takes (SameHead after) Reads cs after := by
  refine h.trans_of h' hreads fun used heq _ more hmore => ?_
  rw [heq]
  exact hmore.append used

/-- With the character that the reader stops at, it does not look at what comes next. -/
theorem past (h : Takes (SameHead (c :: rest)) Reads cs (c :: rest)) :
    Takes Anything (fun cs after => Reads cs (c :: after)) cs rest := by
  obtain ⟨used, rfl, hused⟩ := h
  refine ⟨used ++ [c], (List.append_cons ..).symm ▸ rfl, fun more _ => ?_⟩
  rw [List.append_assoc]
  exact hused (c :: more) rfl

theorem mem (h : Takes Next Reads cs after) (hc : c ∈ after) : c ∈ cs := by
  obtain ⟨used, rfl, -⟩ := h
  exact List.mem_append_right used hc

theorem append (h : Takes Anything Reads cs after) (s : List Char) :
    Reads (cs ++ s) (after ++ s) := by
  obtain ⟨used, rfl, hused⟩ := h
  rw [List.append_assoc]
  exact hused _ trivial

end Takes

/-! ## Blanks -/

theorem skipBlank_takes (inComment : Bool) (cs : List Char) :
    Takes (SameHead (skipBlank inComment cs)) (fun cs after => skipBlank inComment cs = after) cs
      (skipBlank inComment cs) := by
  fun_induction skipBlank inComment cs with
  | case1 inComment =>
    refine .here fun more hmore => ?_
    rw [eq_nil_of_sameHead hmore]
    cases inComment <;> rfl
  | case2 c cs ih => exact ih.cons fun _ _ h => h
  | case3 cs ih => exact ih.cons fun _ _ h => by rw [skipBlank, if_pos rfl, h]
  | case4 c cs hc hw ih => exact ih.cons fun _ _ h => by rw [skipBlank, if_neg hc, if_pos hw, h]
  | case5 c cs hc hw =>
    refine .here fun more hmore => ?_
    obtain ⟨tail, rfl⟩ := exists_of_sameHead hmore
    rw [skipBlank, if_neg hc, if_neg hw]

theorem skip_takes (verbose : Bool) (cs : List Char) :
    Takes (SameHead (skip verbose cs)) (fun cs after => skip verbose cs = after) cs
      (skip verbose cs) := by
  cases verbose with
  | false => exact .here fun _ _ => rfl
  | true => exact skipBlank_takes false cs

theorem skip_append (h : skip verbose cs = c :: rest) (s : List Char) :
    skip verbose (cs ++ s) = c :: (rest ++ s) := by
  have htakes := skip_takes verbose cs
  rw [h] at htakes
  exact htakes.past.append s

/-- A reader that skips blanks first reads on behind the first character that is none. -/
theorem Takes.after_skip (h : skip verbose cs = c :: rest) (htakes : Takes Next Reads rest after)
    (hreads : ∀ cs rest after, skip verbose cs = c :: rest → Reads rest after → Reads' cs after) :
    Takes Next Reads' cs after := by
  have hskip := skip_takes verbose cs
  rw [h] at hskip
  exact hskip.past.trans htakes hreads

theorem skipBlank_skipBlank (inComment : Bool) (cs : List Char) :
    skipBlank false (skipBlank inComment cs) = skipBlank inComment cs := by
  fun_induction skipBlank inComment cs with
  | case1 => rfl
  | case2 _ _ ih => exact ih
  | case3 _ ih => exact ih
  | case4 _ _ _ _ ih => exact ih
  | case5 c cs hc hw => rw [skipBlank, if_neg hc, if_neg hw]

theorem skip_skip (verbose : Bool) (cs : List Char) :
    skip verbose (skip verbose cs) = skip verbose cs := by
  cases verbose with
  | false => rfl
  | true => exact skipBlank_skipBlank false cs

theorem skip_nil (verbose : Bool) : skip verbose [] = [] := by
  cases verbose <;> rfl

/-- A comment is open at the end of the text, and it began there: behind blanks there is a number
sign, and no line break after it. -/
def OpenComment (inComment : Bool) (cs : List Char) : Prop :=
  ∃ before line, cs = before ++ '#' :: line ∧ '\n' ∉ line ∧ skipBlank inComment before = []

/-- What a reader in verbose mode sees of a text that stands behind a comment or not. -/
def seen (inComment : Bool) (s : List Char) : List Char :=
  if inComment then skipBlank true s else s

theorem skipBlank_of_line {inComment : Bool} {line : List Char} (h : '\n' ∉ line) :
    skipBlank inComment ('#' :: line) = [] := by
  have hopen : skipBlank true line = [] := by
    induction line with
    | nil => rfl
    | cons c rest ih =>
      rw [List.mem_cons, not_or] at h
      rw [skipBlank, bne_iff_ne.mpr (Ne.symm h.1), ih h.2]
  cases inComment <;> exact hopen

/-- At the end of a pattern only this is left to know: whether a comment is open, and where it
began. It may have begun before the text. -/
theorem skipBlank_append_of_nil {inComment : Bool} (h : skipBlank inComment cs = []) :
    ∃ opened, (∀ s, skipBlank inComment (cs ++ s) = skipBlank opened s) ∧
      (opened = true → inComment = true ∧ '\n' ∉ cs ∨ OpenComment inComment cs) := by
  fun_induction skipBlank inComment cs with
  | case1 inComment =>
    exact ⟨inComment, fun s => rfl, fun hopen => .inl ⟨hopen, List.not_mem_nil⟩⟩
  | case2 c cs ih =>
    obtain ⟨opened, hskip, hopened⟩ := ih h
    refine ⟨opened, hskip, fun hopen => ?_⟩
    obtain ⟨hc, hline⟩ | ⟨before, line, rfl, hline, hbefore⟩ := hopened hopen
    · exact .inl ⟨rfl, List.not_mem_cons_of_ne_of_not_mem (Ne.symm (bne_iff_ne.mp hc)) hline⟩
    · exact .inr ⟨c :: before, line, rfl, hline, hbefore⟩
  | case3 cs ih =>
    obtain ⟨opened, hskip, hopened⟩ := ih h
    refine ⟨opened, hskip, fun hopen => .inr ?_⟩
    obtain ⟨-, hline⟩ | ⟨before, line, rfl, hline, hbefore⟩ := hopened hopen
    · exact ⟨[], cs, rfl, hline, rfl⟩
    · exact ⟨'#' :: before, line, rfl, hline, hbefore⟩
  | case4 c cs hc hw ih =>
    obtain ⟨opened, hskip, hopened⟩ := ih h
    refine ⟨opened, fun s => ?_, fun hopen => .inr ?_⟩
    · rw [List.cons_append, skipBlank, if_neg hc, if_pos hw, hskip]
    · obtain ⟨heq, -⟩ | ⟨before, line, rfl, hline, hbefore⟩ := hopened hopen
      · cases heq
      · exact ⟨c :: before, line, rfl, hline, by rw [skipBlank, if_neg hc, if_pos hw, hbefore]⟩
  | case5 => cases h

theorem skip_append_of_nil (h : skip verbose cs = []) :
    ∃ inComment, (∀ s, skip verbose (cs ++ s) = skip verbose (seen inComment s)) ∧
      (inComment = true → verbose = true ∧ OpenComment false cs) := by
  cases verbose with
  | false =>
    rw [skip_false] at h
    subst h
    exact ⟨false, fun s => rfl, fun heq => by cases heq⟩
  | true =>
    obtain ⟨opened, hskip, hopened⟩ := skipBlank_append_of_nil h
    refine ⟨opened, fun s => (hskip s).trans ?_, fun hopen => ⟨rfl, ?_⟩⟩
    · cases opened with
      | false => rfl
      | true => exact (skipBlank_skipBlank true s).symm
    · obtain ⟨heq, -⟩ | hbegun := hopened hopen
      · cases heq
      · exact hbegun

/-! ## Runs of characters -/

theorem span_takes (p : Char → Bool) (cs : List Char) :
    Takes (SameHead (cs.dropWhile p))
      (fun text after => text.takeWhile p = cs.takeWhile p ∧ text.dropWhile p = after) cs
      (cs.dropWhile p) := by
  induction cs with
  | nil =>
    refine .here fun more hmore => ?_
    rw [eq_nil_of_sameHead hmore]
    exact ⟨rfl, rfl⟩
  | cons c rest ih =>
    rw [List.dropWhile_cons, List.takeWhile_cons]
    split
    · rename_i hc
      refine ih.cons fun _ _ h => ?_
      rw [List.dropWhile_cons_of_pos hc, List.takeWhile_cons_of_pos hc, h.1]
      exact ⟨rfl, h.2⟩
    · rename_i hc
      refine .here fun more hmore => ?_
      obtain ⟨tail, rfl⟩ := exists_of_sameHead hmore
      rw [List.dropWhile_cons_of_neg hc, List.takeWhile_cons_of_neg hc]
      exact ⟨rfl, rfl⟩

theorem dropWhile_takes (p : Char → Bool) (cs : List Char) :
    Takes (SameHead (cs.dropWhile p)) (fun cs after => cs.dropWhile p = after) cs
      (cs.dropWhile p) :=
  (span_takes p cs).imp fun _ _ h _ => h.2

theorem dropWhile_append_of_cons {p : Char → Bool} (h : cs.dropWhile p = c :: rest)
    (s : List Char) : (cs ++ s).dropWhile p = c :: (rest ++ s) := by
  have htakes := dropWhile_takes p cs
  rw [h] at htakes
  exact htakes.past.append s

theorem upTo_cons {last : Char} (h : skip verbose cs = c :: rest) :
    upTo verbose last cs =
      if c = last then some ([], rest)
      else (upTo verbose last rest).map fun (text, after) => (c :: text, after) := by
  rw [upTo]
  split
  · rename_i h'
    rw [h] at h'
    cases h'
  · rename_i h'
    rw [h] at h'
    cases h'
    rfl

theorem upTo_takes {last : Char} (h : upTo verbose last cs = some (text, after)) :
    Takes Anything (fun cs after => upTo verbose last cs = some (text, after)) cs after := by
  fun_induction upTo verbose last cs generalizing text with
  | case1 => cases h
  | case2 cs rest hs =>
    cases h
    refine .after_skip hs (.nothing after) fun _ _ _ hs' heq => ?_
    rw [upTo_cons hs', if_pos rfl, heq]
  | case3 cs c rest hs hne ih =>
    obtain ⟨⟨text', after'⟩, hu, heq⟩ := Option.map_eq_some_iff.mp h
    cases heq
    refine .after_skip hs (ih hu) fun _ _ _ hs' hu' => ?_
    rw [upTo_cons hs', if_neg hne, hu']
    rfl

theorem take?_succ {n : Nat} (h : skip verbose cs = c :: rest) :
    take? verbose (n + 1) cs =
      (take? verbose n rest).map fun (text, after) => (c :: text, after) := by
  rw [take?, h]

theorem take?_takes {n : Nat} (h : take? verbose n cs = some (text, after)) :
    Takes Anything (fun cs after => take? verbose n cs = some (text, after)) cs after := by
  induction n generalizing cs text with
  | zero =>
    cases h
    exact .here fun _ _ => rfl
  | succ n ih =>
    cases hs : skip verbose cs with
    | nil => rw [take?, hs] at h; cases h
    | cons c rest =>
      rw [take?_succ hs] at h
      obtain ⟨⟨text', after'⟩, ht, heq⟩ := Option.map_eq_some_iff.mp h
      cases heq
      refine .after_skip hs (ih ht) fun _ _ _ hs' ht' => ?_
      rw [take?_succ hs', ht']
      rfl

theorem takeDigits_cons (h : skip verbose cs = c :: rest) :
    takeDigits verbose cs =
      if c.isDigit then (c :: (takeDigits verbose rest).1, (takeDigits verbose rest).2)
      else ([], c :: rest) := by
  rw [takeDigits]
  split
  · rename_i h'
    rw [h] at h'
    cases h'
  · rename_i h'
    rw [h] at h'
    cases h'
    rfl

theorem takeDigits_nil (h : skip verbose cs = []) : takeDigits verbose cs = ([], []) := by
  rw [takeDigits]
  split
  · rfl
  · rename_i h'
    rw [h] at h'
    cases h'

theorem takeDigits_takes (verbose : Bool) (cs : List Char) :
    Takes (SameHead (takeDigits verbose cs).2)
      (fun text after => takeDigits verbose text = ((takeDigits verbose cs).1, after)) cs
      (takeDigits verbose cs).2 := by
  fun_induction takeDigits verbose cs with
  | case1 cs hs => exact .whole (takeDigits_nil hs)
  | case2 cs c rest hs hd digits after heq ih =>
    rw [heq] at ih
    refine .after_skip hs ih fun _ _ _ hs' ht => ?_
    rw [takeDigits_cons hs', if_pos hd, ht]
  | case3 cs c rest hs hd =>
    have hskip := skip_takes verbose cs
    rw [hs] at hskip
    refine hskip.imp fun _ _ hs' hmore => ?_
    obtain ⟨tail, rfl⟩ := exists_of_sameHead hmore
    rw [takeDigits_cons hs', if_neg hd]

/-! ## Escapes -/

theorem readCodePoint_brace {count : Nat} (h : skip verbose cs = '{' :: rest) :
    readCodePoint verbose count cs =
      (upTo verbose '}' rest).bind fun (digits, after) =>
        (codePoint? digits).map fun c => (⟨c, false⟩, after) := by
  rw [readCodePoint, h]
  simp only
  cases upTo verbose '}' rest <;> rfl

theorem readCodePoint_digits {n : Nat} (h : skip verbose cs = c :: rest) (hc : c ≠ '{') :
    readCodePoint verbose (n + 1) cs =
      (take? verbose n rest).bind fun (digits, after) =>
        (codePoint? (c :: digits)).map fun char => (⟨char, n + 1 == 2⟩, after) := by
  have hskip : skip verbose (c :: rest) = c :: rest := by rw [← h, skip_skip]
  rw [readCodePoint, h]
  split
  · rename_i heq
    cases heq
  · rename_i heq
    cases heq
    exact absurd rfl hc
  · rw [take?_succ hskip]
    cases take? verbose n rest <;> rfl

theorem readCodePoint_takes {n : Nat} {literal : Literal}
    (h : readCodePoint verbose (n + 1) cs = some (literal, after)) :
    Takes Anything (fun cs after => readCodePoint verbose (n + 1) cs = some (literal, after)) cs
      after := by
  cases hs : skip verbose cs with
  | nil => rw [readCodePoint, hs] at h; cases h
  | cons c rest =>
    by_cases hc : c = '{'
    · subst hc
      rw [readCodePoint_brace hs, Option.bind_eq_some_iff] at h
      obtain ⟨⟨digits, left⟩, hu, hp⟩ := h
      obtain ⟨char, hchar, heq⟩ := Option.map_eq_some_iff.mp hp
      cases heq
      refine .after_skip hs (upTo_takes hu) fun _ _ _ hs' hu' => ?_
      simp only [readCodePoint_brace hs', hu', Option.bind_some, hchar, Option.map_some]
    · rw [readCodePoint_digits hs hc, Option.bind_eq_some_iff] at h
      obtain ⟨⟨digits, left⟩, ht, hp⟩ := h
      obtain ⟨char, hchar, heq⟩ := Option.map_eq_some_iff.mp hp
      cases heq
      refine .after_skip hs (take?_takes ht) fun _ _ _ hs' ht' => ?_
      simp only [readCodePoint_digits hs' hc, ht', Option.bind_some, hchar, Option.map_some]

theorem readProperty_brace (h : skip verbose cs = '{' :: rest) :
    readProperty verbose cs =
      (upTo verbose '}' rest).map fun (text, after) => (propertyQuery text, after) := by
  rw [readProperty, h]
  simp only
  cases upTo verbose '}' rest <;> rfl

theorem readProperty_letter (h : skip verbose cs = c :: rest) (hc : c ≠ '{') :
    readProperty verbose cs = if c = '\\' then none else some (.named [c], rest) := by
  rw [readProperty, h]
  split
  · rename_i heq
    cases heq
  · rename_i heq
    cases heq
    exact absurd rfl hc
  · rename_i heq
    cases heq
    rfl

theorem readProperty_takes {query : PropertyQuery}
    (h : readProperty verbose cs = some (query, after)) :
    Takes Anything (fun cs after => readProperty verbose cs = some (query, after)) cs after := by
  cases hs : skip verbose cs with
  | nil => rw [readProperty, hs] at h; cases h
  | cons c rest =>
    by_cases hc : c = '{'
    · subst hc
      rw [readProperty_brace hs] at h
      obtain ⟨⟨text, left⟩, hu, heq⟩ := Option.map_eq_some_iff.mp h
      cases heq
      refine .after_skip hs (upTo_takes hu) fun _ _ _ hs' hu' => ?_
      rw [readProperty_brace hs', hu']
      rfl
    · rw [readProperty_letter hs hc] at h
      split at h
      · cases h
      · rename_i hb
        cases h
        refine .after_skip hs (.nothing after) fun _ _ _ hs' heq => ?_
        rw [readProperty_letter hs' hc, if_neg hb, heq]

/-- Before `s` a word boundary is a plain one. -/
def PlainBoundary (verbose : Bool) (s : List Char) : Prop :=
  readWordBoundary verbose s = some (.boundary, s)

theorem plainBoundary_of_head? (h : cs.head? ≠ some '{') : PlainBoundary verbose cs := by
  unfold PlainBoundary readWordBoundary
  split
  · exact absurd rfl h
  · rfl

theorem readWordBoundary_named {d : Char} (h : skip verbose cs = d :: rest)
    (hd : (d.isAlpha || d == '-') = true) :
    readWordBoundary verbose ('{' :: cs) =
      (upTo verbose '}' rest).bind fun (name, after) =>
        (wordTest? (d :: name)).map fun test => (test, after) := by
  have hne : d ≠ '}' := by
    rintro rfl
    exact absurd hd (by decide)
  simp only [readWordBoundary, h, if_pos hd]
  rw [upTo_cons h, if_neg hne]
  cases upTo verbose '}' rest <;> rfl

theorem readWordBoundary_plain {d : Char} (h : skip verbose cs = d :: rest)
    (hd : (d.isAlpha || d == '-') = false) : PlainBoundary verbose ('{' :: cs) := by
  simp only [PlainBoundary, readWordBoundary, h, if_neg (Bool.eq_false_iff.mp hd)]

/-- A plain boundary takes nothing, so it looks at what comes next. -/
theorem readWordBoundary_takes {test : WordTest}
    (h : readWordBoundary verbose cs = some (test, after)) :
    Takes (fun more => test = .boundary → PlainBoundary verbose after → PlainBoundary verbose more)
      (fun cs after => readWordBoundary verbose cs = some (test, after)) cs after := by
  by_cases hb : cs.head? = some '{'
  · obtain ⟨tail, rfl⟩ := List.head?_eq_some_iff.mp hb
    cases hs : skip verbose tail with
    | nil => simp only [readWordBoundary, hs] at h; cases h
    | cons d rest =>
      cases hd : d.isAlpha || d == '-' with
      | false =>
        have hplain := readWordBoundary_plain hs hd
        rw [hplain] at h
        cases h
        exact .here fun more hmore => hmore rfl hplain
      | true =>
        rw [readWordBoundary_named hs hd] at h
        obtain ⟨⟨name, left⟩, hu, ht⟩ := Option.bind_eq_some_iff.mp h
        obtain ⟨found, hw, heq⟩ := Option.map_eq_some_iff.mp ht
        cases heq
        have hbrace : Takes Anything
            (fun cs after => readWordBoundary verbose ('{' :: cs) = some (test, after)) tail
            after := by
          refine .after_skip hs (upTo_takes hu) fun _ _ _ hs' hu' => ?_
          simp only [readWordBoundary_named hs' hd, hu', Option.bind_some, hw, Option.map_some]
        exact hbrace.weaken.cons fun _ _ hr => hr
  · have hplain : PlainBoundary verbose cs := plainBoundary_of_head? hb
    rw [hplain] at h
    cases h
    exact .here fun more hmore => hmore rfl hplain

/-- The look beyond the end of an atom: a plain word boundary does not have its braces there. -/
def KeepsBoundary (verbose : Bool) (atom : Atom) (after more : List Char) : Prop :=
  atom = .anchor (.word .boundary) → PlainBoundary verbose after → PlainBoundary verbose more

theorem codePointDigits?_eq_succ {count : Nat} (h : codePointDigits? c = some count) :
    ∃ n, count = n + 1 := by
  unfold codePointDigits? at h
  split at h <;> cases h <;> exact ⟨_, rfl⟩

theorem readEscape_takes {atom : Atom} (h : readEscape verbose cs = some (atom, after)) :
    Takes (KeepsBoundary verbose atom after)
      (fun cs after => readEscape verbose cs = some (atom, after)) cs after := by
  cases cs with
  | nil => cases h
  | cons c rest =>
    simp only [readEscape] at h
    split at h
    · rename_i count hcount
      obtain ⟨⟨literal, left⟩, hr, heq⟩ := Option.map_eq_some_iff.mp h
      cases heq
      obtain ⟨n, rfl⟩ := codePointDigits?_eq_succ hcount
      refine (readCodePoint_takes hr).weaken.cons fun _ _ hr' => ?_
      simp only [readEscape, hcount, hr', Option.map_some]
    · rename_i hcount
      split at h
      · rename_i hp
        obtain ⟨⟨query, left⟩, hr, heq⟩ := Option.map_eq_some_iff.mp h
        cases heq
        refine (readProperty_takes hr).weaken.cons fun _ _ hr' => ?_
        simp only [readEscape, hcount, if_pos hp, hr', Option.map_some]
      · rename_i hp
        split at h
        · rename_i hb
          obtain ⟨⟨test, left⟩, hr, heq⟩ := Option.map_eq_some_iff.mp h
          cases heq
          have hnext (more : List Char)
              (hmore : KeepsBoundary verbose (.anchor (.word test)) left more) :
              test = .boundary → PlainBoundary verbose left → PlainBoundary verbose more :=
            fun htest => hmore (by rw [htest])
          refine ((readWordBoundary_takes hr).mono hnext).cons fun _ _ hr' => ?_
          simp only [readEscape, hcount, if_neg hp, if_pos hb, hr', Option.map_some]
        · rename_i hb
          obtain ⟨found, hf, heq⟩ := Option.map_eq_some_iff.mp h
          cases heq
          refine (Takes.nothing after).weaken.cons fun _ _ heq => ?_
          simp only [readEscape, hcount, if_neg hp, if_neg hb, hf, Option.map_some, heq]

end SqlTemplate.Regex
