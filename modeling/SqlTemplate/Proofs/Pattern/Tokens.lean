import SqlTemplate.Proofs.Pattern.Bracket

/-!
# SqlTemplate.Proofs.Pattern.Tokens

The tokens of a pattern that is cut short or that more text follows. Only three things bear on a
token from behind it: a question mark, also behind blanks, the brace after a word boundary, and the
blanks themselves, which a token may have skipped.

* `readToken_leaves`: a token is the same, and what it leaves is the same up to blanks.
* `exists_textEnd`: where the tokens of a text end, and whether a comment is open there.
* `TextEnd.readTokens_sealed`, `TextEnd.readTokens_broken`: the tokens of a sealed pattern are its
  own and those of the seal, behind a line break if a comment is open.
* `readTokens_comment`: behind a comment there is no seal.
-/

namespace SqlTemplate.Regex

variable {verbose inner : Bool} {outer groups : List Bool} {cs rest left after s : List Char}
  {c : Char} {token : Token}

/-! ## Flags, names and counts -/

theorem FlagChange.readFrom_takes {change result : FlagChange} {negated dangling : Bool}
    {last : Char} (h : readFrom change negated dangling cs = some (result, last, after)) :
    Takes Anything
      (fun cs after => readFrom change negated dangling cs = some (result, last, after)) cs
      after := by
  fun_induction readFrom change negated dangling cs with
  | case1 => cases h
  | case2 => cases h
  | case3 change negated dangling c rest hc hd =>
    cases h
    refine (Takes.nothing after).cons fun _ _ heq => ?_
    rw [readFrom, if_pos hc, if_neg hd, heq]
  | case4 => cases h
  | case5 change negated dangling rest hn hc ih =>
    refine (ih h).cons fun _ _ hr => ?_
    rw [readFrom, if_neg hc, if_pos rfl, if_neg hn, hr]
  | case6 => cases h
  | case7 => cases h
  | case8 change dangling c rest hc hd flag hf hm ih =>
    refine (ih h).cons fun _ _ hr => ?_
    rw [readFrom, if_neg hc, if_neg hd, hf]
    simp only
    rw [if_neg hm, if_pos trivial, hr]
  | case9 change negated dangling c rest hc hd flag hf hm hn ih =>
    refine (ih h).cons fun _ _ hr => ?_
    rw [readFrom, if_neg hc, if_neg hd, hf]
    simp only
    rw [if_neg hm, if_neg hn, hr]

theorem readGroupFlags_takes (h : readGroupFlags cs = some (token, after)) :
    Takes Anything (fun cs after => readGroupFlags cs = some (token, after)) cs after := by
  unfold readGroupFlags at h
  cases hr : FlagChange.read cs with
  | none => rw [hr] at h; cases h
  | some result =>
    obtain ⟨change, last, rest⟩ := result
    rw [hr] at h
    simp only at h
    split at h
    · rename_i hl
      cases h
      refine (FlagChange.readFrom_takes hr).imp fun _ _ hr' _ => ?_
      simp only [readGroupFlags, FlagChange.read, hr', if_pos hl]
    · rename_i hl
      split at h
      · cases h
      · rename_i hc
        cases h
        refine (FlagChange.readFrom_takes hr).imp fun _ _ hr' _ => ?_
        simp only [readGroupFlags, FlagChange.read, hr', if_neg hl, if_neg hc]

theorem readGroupName_takes (h : readGroupName cs = some (token, after)) :
    Takes Anything (fun cs after => readGroupName cs = some (token, after)) cs after := by
  unfold readGroupName at h
  cases hd : cs.dropWhile (· != '>') with
  | nil => rw [hd] at h; cases h
  | cons c rest =>
    have hspan := span_takes (· != '>') cs
    rw [hd] at h hspan
    simp only at h
    split at h
    · rename_i hn
      cases h
      refine hspan.past.imp fun _ _ ⟨htake, hdrop⟩ _ => ?_
      simp only [readGroupName, htake, hdrop, if_pos hn]
    · cases h

/-- The text behind blanks, and behind white space outside verbose mode too. -/
def behindSpace (verbose : Bool) (cs : List Char) : List Char :=
  (skip verbose cs).dropWhile Unicode.isWhiteSpace

theorem behindSpace_takes (verbose : Bool) (cs : List Char) :
    Takes (SameHead (behindSpace verbose cs)) (fun text left => behindSpace verbose text = left) cs
      (behindSpace verbose cs) :=
  (skip_takes verbose cs).trans_sameHead (dropWhile_takes _ (skip verbose cs))
    fun _ _ _ hs hd => by rw [behindSpace, hs, hd]

theorem readNumber_eq (verbose : Bool) (cs : List Char) :
    readNumber verbose cs =
      (number? (takeDigits verbose (behindSpace verbose cs)).1).map fun n =>
        (n, (takeDigits verbose (behindSpace verbose cs)).2.dropWhile Unicode.isWhiteSpace) :=
  rfl

theorem readNumber_skip (verbose : Bool) (cs : List Char) :
    readNumber verbose (skip verbose cs) = readNumber verbose cs := by
  rw [readNumber_eq, behindSpace, skip_skip, ← behindSpace, ← readNumber_eq]

theorem readNumber_brace (h : skip verbose cs = '}' :: rest) : readNumber verbose cs = none := by
  have hspace : behindSpace verbose cs = '}' :: rest := by
    rw [behindSpace, h]
    exact List.dropWhile_cons_of_neg (by decide)
  have hskip : skip verbose ('}' :: rest) = '}' :: rest := by rw [← h, skip_skip]
  rw [readNumber_eq, hspace, takeDigits_cons hskip]
  rfl

theorem readNumber_nil (h : skip verbose cs = []) : readNumber verbose cs = none := by
  rw [readNumber_eq, behindSpace, h, List.dropWhile_nil, takeDigits_nil (skip_nil verbose)]
  rfl

theorem digits_takes (verbose : Bool) (cs : List Char) :
    Takes (SameHead ((takeDigits verbose cs).2.dropWhile Unicode.isWhiteSpace))
      (fun text after => (takeDigits verbose text).1 = (takeDigits verbose cs).1 ∧
        (takeDigits verbose text).2.dropWhile Unicode.isWhiteSpace = after)
      cs ((takeDigits verbose cs).2.dropWhile Unicode.isWhiteSpace) := by
  refine (takeDigits_takes verbose cs).trans_sameHead (dropWhile_takes _ _) fun _ _ _ ht hd => ?_
  rw [ht]
  exact ⟨rfl, hd⟩

theorem readNumber_takes {n : Nat} (h : readNumber verbose cs = some (n, after)) :
    Takes (SameHead after) (fun cs after => readNumber verbose cs = some (n, after)) cs after := by
  rw [readNumber_eq] at h
  obtain ⟨m, hm, heq⟩ := Option.map_eq_some_iff.mp h
  cases heq
  refine (behindSpace_takes verbose cs).trans_sameHead (digits_takes verbose _) ?_
  rintro text left after hs ⟨hdigits, hafter⟩
  rw [readNumber_eq, hs, hdigits, hm, hafter]
  rfl

/-! ## What a token leaves -/

/-- As far as a token looks ahead, it sees the same. -/
structure SameAhead (verbose : Bool) (left more : List Char) : Prop where
  mark : left.head? ≠ some '?' → more.head? ≠ some '?'
  markBehindBlanks : (skip verbose left).head? ≠ some '?' → (skip verbose more).head? ≠ some '?'
  boundary : PlainBoundary verbose left → PlainBoundary verbose more

/-- The token takes a part of the text. It may also skip the blanks behind that part, so what it
leaves is known up to blanks. -/
def Leaves (verbose : Bool) (read : List Char → Option (Token × List Char)) (cs : List Char)
    (token : Token) (after : List Char) : Prop :=
  ∃ left, skip verbose left = skip verbose after ∧
    Takes (SameAhead verbose left)
      (fun text left => ∃ after, read text = some (token, after) ∧
        skip verbose after = skip verbose left) cs left

namespace Leaves

variable {read read' : List Char → Option (Token × List Char)}

theorem of_takes
    (h : Takes (SameAhead verbose after) (fun cs after => read cs = some (token, after)) cs after) :
    Leaves verbose read cs token after :=
  ⟨after, rfl, h.imp fun _ after hr _ => ⟨after, hr, rfl⟩⟩

theorem behind {First : List Char → List Char → Prop} (h : Leaves verbose read left token after)
    (hfirst : Takes Anything First cs left)
    (hread : ∀ cs left, First cs left → read' cs = read left) :
    Leaves verbose read' cs token after := by
  obtain ⟨end', hend, htakes⟩ := h
  refine ⟨end', hend, hfirst.trans htakes fun text left' more hf ⟨after', hr, hs⟩ => ?_⟩
  exact ⟨after', (hread text left' hf).trans hr, hs⟩

end Leaves

theorem dropLazyMark_of_head?_ne (h : cs.head? ≠ some '?') : dropLazyMark cs = cs := by
  unfold dropLazyMark
  split
  · exact absurd rfl h
  · rfl

theorem dropLazyMark_takes (verbose : Bool) (cs : List Char) :
    Takes (SameAhead verbose (dropLazyMark cs)) (fun cs after => dropLazyMark cs = after) cs
      (dropLazyMark cs) := by
  by_cases hmark : cs.head? = some '?'
  · obtain ⟨tail, rfl⟩ := List.head?_eq_some_iff.mp hmark
    exact (Takes.nothing tail).weaken.cons fun _ _ heq => heq
  · rw [dropLazyMark_of_head?_ne hmark]
    exact .here fun more hmore => dropLazyMark_of_head?_ne (hmore.mark hmark)

theorem closeCount_leaves {least : Nat} {most : Option Nat}
    (h : closeCount verbose least most cs = some (token, after))
    (hscope : token.scope verbose outer = some (inner, groups)) :
    ∃ rest, cs = '}' :: rest ∧
      Leaves inner (fun cs => closeCount verbose least most ('}' :: cs)) rest token after := by
  unfold closeCount at h
  split at h
  · rename_i rest
    split at h
    · rename_i hm
      cases h
      cases hscope
      refine ⟨rest, rfl, ?_⟩
      have hread (text : List Char) : closeCount verbose least most ('}' :: text) =
          some (.repetition least most, dropLazyMark (skip verbose text)) := by
        rw [closeCount, if_pos hm]
      by_cases hmark : (skip verbose rest).head? = some '?'
      · obtain ⟨tail, hs⟩ := List.head?_eq_some_iff.mp hmark
        rw [hs]
        refine .of_takes (Takes.after_skip hs (.nothing tail) fun _ _ _ hs' heq => ?_).weaken
        rw [hread, hs', heq]
        rfl
      · rw [dropLazyMark_of_head?_ne hmark]
        refine ⟨rest, (skip_skip _ _).symm, .here fun more hmore => ?_⟩
        refine ⟨skip verbose more, (hread more).trans ?_, skip_skip _ _⟩
        rw [dropLazyMark_of_head?_ne (hmore.markBehindBlanks hmark)]
    · cases h
  · cases h

theorem readCount_number {n : Nat} (hn : readNumber verbose cs = some (n, rest))
    (hr : rest.head? ≠ some ',') : readCount verbose cs = closeCount verbose n (some n) rest := by
  unfold readCount
  rw [hn]
  split
  · rename_i heq
    cases heq
  · rename_i heq
    cases heq
    exact absurd rfl hr
  · rename_i heq
    cases heq
    rfl

theorem readCount_atLeast {n : Nat} (hn : readNumber verbose cs = some (n, ',' :: rest))
    (hr : skip verbose rest = '}' :: after) :
    readCount verbose cs = closeCount verbose n none ('}' :: after) := by
  unfold readCount
  rw [hn]
  simp only [hr]

theorem readCount_between {least most : Nat}
    (hn : readNumber verbose cs = some (least, ',' :: rest))
    (hm : readNumber verbose rest = some (most, after)) :
    readCount verbose cs = closeCount verbose least (some most) after := by
  unfold readCount
  rw [hn]
  simp only
  split
  · rename_i heq
    rw [readNumber_brace heq] at hm
    cases hm
  · rw [readNumber_skip, hm]

theorem readCount_leaves (h : readCount verbose cs = some (token, after))
    (hscope : token.scope verbose outer = some (inner, groups)) :
    Leaves inner (readCount verbose) cs token after := by
  cases hn : readNumber verbose cs with
  | none => rw [readCount, hn] at h; cases h
  | some result =>
    obtain ⟨least, rest⟩ := result
    have hnumber := readNumber_takes hn
    by_cases hcomma : rest.head? = some ','
    · obtain ⟨tail, rfl⟩ := List.head?_eq_some_iff.mp hcomma
      by_cases hclose : (skip verbose tail).head? = some '}'
      · obtain ⟨close, hs⟩ := List.head?_eq_some_iff.mp hclose
        have hskip := skip_takes verbose tail
        rw [hs] at hskip
        rw [readCount_atLeast hn hs] at h
        obtain ⟨_, heq, hleaves⟩ := closeCount_leaves h hscope
        cases heq
        exact hleaves.behind (hnumber.past.comp hskip.past) fun _ _ ⟨_, hn', hs'⟩ =>
          readCount_atLeast hn' hs'
      · cases hm : readNumber verbose tail with
        | none =>
          unfold readCount at h
          rw [hn] at h
          simp only at h
          split at h
          · rename_i heq
            rw [heq] at hclose
            exact absurd rfl hclose
          · rw [readNumber_skip, hm] at h; cases h
        | some result =>
          obtain ⟨most, close⟩ := result
          rw [readCount_between hn hm] at h
          obtain ⟨close', rfl, hleaves⟩ := closeCount_leaves h hscope
          exact hleaves.behind (hnumber.past.comp (readNumber_takes hm).past)
            fun _ _ ⟨_, hn', hm'⟩ => readCount_between hn' hm'
    · rw [readCount_number hn hcomma] at h
      obtain ⟨close, rfl, hleaves⟩ := closeCount_leaves h hscope
      exact hleaves.behind hnumber.past fun _ _ hn' => readCount_number hn' hcomma

theorem readGroup_plain (h : (skip verbose cs).head? ≠ some '?') :
    readGroup verbose cs = some (.groupStart none {}, skip verbose cs) := by
  have hne (tail : List Char) : skip verbose cs ≠ '?' :: tail := by
    intro heq
    rw [heq] at h
    exact h rfl
  unfold readGroup
  split
  case h_8 => rfl
  all_goals
    rename_i heq
    exact absurd heq (hne _)

theorem readGroup_named (h : skip verbose cs = '?' :: 'P' :: '<' :: rest) :
    readGroup verbose cs = readGroupName rest := by
  unfold readGroup
  rw [h]
  rfl

theorem readGroupName_eq_none (hc : isGroupNameStart c = false) (hne : c ≠ '>')
    (rest : List Char) : readGroupName (c :: rest) = none := by
  unfold readGroupName
  rw [List.takeWhile_cons_of_pos (by simpa using hne)]
  split
  · rfl
  · simp only [isGroupName, hc, Bool.false_and, Bool.false_eq_true, if_false]

/-- A name begins with a letter or an underscore, so it is not taken for a look behind. -/
theorem readGroup_angle (h : skip verbose cs = '?' :: '<' :: rest)
    (hname : readGroupName rest = some (token, after)) :
    readGroup verbose cs = some (token, after) := by
  unfold readGroup
  rw [h]
  split
  case h_3 heq =>
    cases heq
    rw [readGroupName_eq_none (by decide +kernel) (by decide)] at hname
    cases hname
  case h_4 heq =>
    cases heq
    rw [readGroupName_eq_none (by decide +kernel) (by decide)] at hname
    cases hname
  case h_6 heq =>
    cases heq
    exact hname
  case h_7 hne heq =>
    cases heq
    exact absurd rfl (hne _)
  case h_8 hne => exact absurd rfl (hne _)
  all_goals
    rename_i heq
    cases heq

theorem readGroup_flags (h : skip verbose cs = '?' :: rest)
    (hflags : readGroupFlags rest = some (token, after)) :
    readGroup verbose cs = some (token, after) := by
  unfold readGroup
  rw [h]
  split
  case h_7 heq =>
    cases heq
    exact hflags
  case h_8 hne => exact absurd rfl (hne _)
  all_goals
    rename_i heq
    cases heq
    cases hflags

theorem readGroup_marked (h : skip verbose cs = '?' :: rest)
    (hread : readGroup verbose cs = some (token, after)) :
    (∃ name, rest = 'P' :: '<' :: name ∧ readGroupName name = some (token, after)) ∨
      (∃ name, rest = '<' :: name ∧ readGroupName name = some (token, after)) ∨
        readGroupFlags rest = some (token, after) := by
  unfold readGroup at hread
  rw [h] at hread
  split at hread
  case h_5 name heq =>
    cases heq
    exact .inl ⟨name, rfl, hread⟩
  case h_6 name _ _ heq =>
    cases heq
    exact .inr (.inl ⟨name, rfl, hread⟩)
  case h_7 heq =>
    cases heq
    exact .inr (.inr hread)
  case h_8 hne => exact absurd rfl (hne _)
  all_goals cases hread

theorem readGroup_leaves (h : readGroup verbose cs = some (token, after))
    (hscope : token.scope verbose outer = some (inner, groups)) :
    Leaves inner (readGroup verbose) cs token after := by
  by_cases hmark : (skip verbose cs).head? = some '?'
  · obtain ⟨tail, hs⟩ := List.head?_eq_some_iff.mp hmark
    refine .of_takes (Takes.weaken ?_)
    obtain ⟨name, rfl, hname⟩ | ⟨name, rfl, hname⟩ | hflags := readGroup_marked hs h
    · refine .after_skip hs (readGroupName_takes hname).cons_eq.cons_eq ?_
      rintro text _ _ hs' ⟨_, rfl, name', rfl, hname'⟩
      exact (readGroup_named hs').trans hname'
    · refine .after_skip hs (readGroupName_takes hname).cons_eq ?_
      rintro text _ _ hs' ⟨name', rfl, hname'⟩
      exact readGroup_angle hs' hname'
    · exact .after_skip hs (readGroupFlags_takes hflags) fun _ _ _ hs' hr => readGroup_flags hs' hr
  · rw [readGroup_plain hmark] at h
    cases h
    cases hscope
    rw [FlagChange.apply_empty]
    refine ⟨cs, (skip_skip _ _).symm, .here fun more hmore => ?_⟩
    exact ⟨skip verbose more, readGroup_plain (hmore.markBehindBlanks hmark), skip_skip _ _⟩

theorem readToken_leaves (h : readToken verbose c cs = some (token, after))
    (hscope : token.scope verbose outer = some (inner, groups)) :
    Leaves inner (readToken verbose c) cs token after := by
  unfold readToken at h
  split at h
  case h_1 => exact readGroup_leaves h hscope
  case h_7 => exact readCount_leaves h hscope
  case h_8 =>
    obtain ⟨⟨negated, body, left⟩, hr, heq⟩ := Option.map_eq_some_iff.mp h
    cases heq
    refine .of_takes ((readBracket_takes hr).weaken.imp fun _ _ hr' _ => ?_)
    rw [readToken, hr']
    rfl
  case h_9 =>
    obtain ⟨⟨atom, left⟩, hr, heq⟩ := Option.map_eq_some_iff.mp h
    cases heq
    cases hscope
    have hnext (more : List Char) (hmore : SameAhead verbose after more) :
        KeepsBoundary verbose atom after more := fun _ => hmore.boundary
    refine .of_takes (((readEscape_takes hr).mono hnext).imp fun _ _ hr' _ => ?_)
    rw [readToken, hr']
    rfl
  case h_13 =>
    cases h
    refine .of_takes ((Takes.nothing _).weaken.imp fun _ _ heq _ => ?_)
    rw [← heq]
    unfold readToken
    split <;> first | rfl | contradiction
  case h_4 | h_5 | h_6 =>
    cases h
    refine .of_takes ((dropLazyMark_takes inner cs).imp fun _ _ heq _ => ?_)
    rw [readToken, heq]
  all_goals
    cases h
    refine .of_takes ((Takes.nothing _).weaken.imp fun _ _ heq _ => ?_)
    rw [← heq, readToken]

/-! ## The end of a text -/

theorem readTokens_eq (verbose : Bool) (outer : List Bool) (cs : List Char) :
    readTokens verbose outer cs =
      match skip verbose cs with
      | [] => some []
      | c :: rest =>
        (readToken verbose c rest).bind fun (token, after) =>
          (token.scope verbose outer).bind fun (inner, groups) =>
            (readTokens inner groups after).map (token :: ·) := by
  rw [readTokens]
  split
  · rename_i h
    rw [h]
  · rename_i c rest h
    rw [h]
    split
    · rename_i ht
      simp only [ht, Option.bind_none]
    · rename_i token after ht
      simp only [ht, Option.bind_some]
      cases token.scope verbose outer <;> rfl

theorem readTokens_nil (h : skip verbose cs = []) : readTokens verbose outer cs = some [] := by
  rw [readTokens_eq, h]

theorem readTokens_cons (h : skip verbose cs = c :: rest)
    (ht : readToken verbose c rest = some (token, after))
    (hscope : token.scope verbose outer = some (inner, groups)) :
    readTokens verbose outer cs = (readTokens inner groups after).map (token :: ·) := by
  rw [readTokens_eq, h]
  simp only [ht, hscope, Option.bind_some]

/-- Blanks before the first token do not bear on the tokens. -/
theorem readTokens_congr {cs' : List Char} (h : skip verbose cs' = skip verbose cs) :
    readTokens verbose outer cs' = readTokens verbose outer cs := by
  rw [readTokens_eq, readTokens_eq, h]

theorem Token.scope_append (hscope : token.scope verbose outer = some (inner, groups))
    (around : List Bool) :
    token.scope verbose (outer ++ around) = some (inner, groups ++ around) := by
  cases token with
  | groupEnd =>
    cases outer with
    | nil => cases hscope
    | cons before rest => cases hscope; rfl
  | _ => cases hscope; rfl

/-- The verbose flag after the tokens, and those of the groups around that place. -/
def scopeAfter (verbose : Bool) (outer : List Bool) : List Token → Option (Bool × List Bool)
  | [] => some (verbose, outer)
  | token :: tokens =>
    (token.scope verbose outer).bind fun (inner, groups) => scopeAfter inner groups tokens

/-- One token of a text, with what is left of the text told up to blanks. -/
theorem readTokens_takes (h : skip verbose cs = c :: rest)
    (ht : readToken verbose c rest = some (token, after))
    (hscope : token.scope verbose outer = some (inner, groups)) :
    ∃ left, skip inner left = skip inner after ∧
      Takes (SameAhead inner left)
        (fun text left => ∀ around, readTokens verbose (outer ++ around) text =
          (readTokens inner (groups ++ around) left).map (token :: ·)) cs left := by
  obtain ⟨left, hleft, htakes⟩ := readToken_leaves ht hscope
  refine ⟨left, hleft, .after_skip h htakes ?_⟩
  rintro text rest' left' hs ⟨after', ht', hblank⟩ around
  rw [readTokens_cons hs ht' (Token.scope_append hscope around), readTokens_congr hblank]

/-- Nothing in front of `s` looks at what `s` begins with. -/
structure Apart (s : List Char) : Prop where
  head?_ne_brace : s.head? ≠ some '{'
  head?_ne_mark : s.head? ≠ some '?'
  skipBlank_head?_ne : ∀ inComment, (skipBlank inComment s).head? ≠ some '?'

theorem exists_of_plainBoundary (h : PlainBoundary verbose ('{' :: cs)) :
    ∃ d rest, skip verbose cs = d :: rest ∧ (d.isAlpha || d == '-') = false := by
  cases hs : skip verbose cs with
  | nil =>
    simp only [PlainBoundary, readWordBoundary, hs] at h
    cases h
  | cons d rest =>
    refine ⟨d, rest, rfl, Bool.eq_false_iff.mpr fun hd => ?_⟩
    -- A boundary with braces leaves less than what it began with.
    rw [PlainBoundary, readWordBoundary_named hs hd] at h
    obtain ⟨⟨name, left⟩, hu, ht⟩ := Option.bind_eq_some_iff.mp h
    obtain ⟨test, -, heq⟩ := Option.map_eq_some_iff.mp ht
    cases heq
    have h₁ := length_lt_of_upTo hu
    have h₂ := length_lt_of_skip hs
    simp only [List.length_cons] at h₁
    omega

theorem sameAhead_append (hs : Apart s) (left : List Char) :
    SameAhead verbose left (left ++ s) := by
  refine ⟨fun h => ?_, fun h => ?_, fun h => ?_⟩
  · cases left with
    | nil => exact hs.head?_ne_mark
    | cons c rest => exact h
  · cases hskip : skip verbose left with
    | nil =>
      obtain ⟨inComment, happend, hopen⟩ := skip_append_of_nil hskip
      rw [happend]
      cases inComment with
      | false =>
        cases verbose with
        | false => exact hs.head?_ne_mark
        | true => exact hs.skipBlank_head?_ne false
      | true =>
        obtain ⟨rfl, -⟩ := hopen rfl
        rw [seen, if_pos rfl, skip, if_pos rfl, skipBlank_skipBlank]
        exact hs.skipBlank_head?_ne true
    | cons c rest =>
      rw [skip_append hskip]
      rw [hskip] at h
      exact h
  · cases left with
    | nil => exact plainBoundary_of_head? hs.head?_ne_brace
    | cons c rest =>
      by_cases hc : c = '{'
      · subst hc
        obtain ⟨d, tail, hskip, hd⟩ := exists_of_plainBoundary h
        exact readWordBoundary_plain (skip_append hskip s) hd
      · exact plainBoundary_of_head? fun heq => hc (Option.some.inj heq)

/-- A brace that begins a token has something in it. -/
theorem skip_ne_nil_of_readTokens {tokens : List Token}
    (h : readTokens verbose outer ('{' :: rest) = some tokens) : skip verbose rest ≠ [] := by
  intro hnil
  have hskip : skip verbose ('{' :: rest) = '{' :: rest := by cases verbose <;> rfl
  have hcount : readToken verbose '{' rest = none := by
    rw [readToken, readCount, readNumber_nil hnil]
  rw [readTokens_eq, hskip] at h
  simp only [hcount, Option.bind_none] at h
  cases h

/-- A text with tokens of its own shows the same where it is cut short. -/
theorem sameAhead_cut {tokens : List Token} (h : readTokens verbose outer cs = some tokens)
    (s : List Char) : SameAhead verbose (cs ++ s) cs := by
  refine ⟨fun hmark => ?_, fun hmark => ?_, fun hplain => ?_⟩
  · cases cs with
    | nil => exact nofun
    | cons c rest => exact hmark
  · cases hskip : skip verbose cs with
    | nil => exact nofun
    | cons c rest =>
      rw [skip_append hskip] at hmark
      exact hmark
  · cases cs with
    | nil => exact plainBoundary_of_head? nofun
    | cons c rest =>
      by_cases hc : c = '{'
      · subst hc
        rw [List.cons_append] at hplain
        obtain ⟨d, tail, hskip, hd⟩ := exists_of_plainBoundary hplain
        cases hrest : skip verbose rest with
        | nil => exact absurd hrest (skip_ne_nil_of_readTokens h)
        | cons e more =>
          rw [skip_append hrest] at hskip
          cases hskip
          exact readWordBoundary_plain hrest hd
      · exact plainBoundary_of_head? fun heq => hc (Option.some.inj heq)

/-- How a text ends that has tokens of its own: the flag and the groups after its last token, and
whether a comment is open there. Then the text behind it is read from that place on, and the text
up to the comment has the same tokens. -/
structure TextEnd (verbose : Bool) (outer : List Bool) (cs : List Char) (tokens : List Token)
    (inner : Bool) (groups : List Bool) (inComment : Bool) : Prop where
  scope : scopeAfter verbose outer tokens = some (inner, groups)
  append : ∀ s, Apart s → ∀ around, readTokens verbose (outer ++ around) (cs ++ s) =
    (readTokens inner (groups ++ around) (seen inComment s)).map (tokens ++ ·)
  comment : inComment = true → inner = true ∧ ∃ before line, cs = before ++ '#' :: line ∧
    '\n' ∉ line ∧ readTokens verbose outer before = some tokens

theorem textEnd_nil (h : skip verbose cs = []) :
    ∃ inComment, TextEnd verbose outer cs [] verbose outer inComment := by
  obtain ⟨inComment, hskip, hopen⟩ := skip_append_of_nil h
  refine ⟨inComment, rfl, fun s _ around => ?_, fun heq => ?_⟩
  · rw [readTokens_congr (hskip s)]
    exact (Option.map_id_apply).symm
  · obtain ⟨rfl, before, line, rfl, hline, hbefore⟩ := hopen heq
    exact ⟨rfl, before, line, rfl, hline, readTokens_nil hbefore⟩

theorem TextEnd.cons {groups' : List Bool} {inner' inComment : Bool} {tokens : List Token}
    (hscope : token.scope verbose outer = some (inner, groups))
    (htakes : Takes (SameAhead inner left)
      (fun text left => ∀ around, readTokens verbose (outer ++ around) text =
        (readTokens inner (groups ++ around) left).map (token :: ·)) cs left)
    (h : TextEnd inner groups left tokens inner' groups' inComment) :
    TextEnd verbose outer cs (token :: tokens) inner' groups' inComment := by
  obtain ⟨used, rfl, hused⟩ := htakes
  refine ⟨?_, fun s hs around => ?_, fun heq => ?_⟩
  · rw [scopeAfter, hscope]
    exact h.scope
  · rw [List.append_assoc, hused _ (sameAhead_append hs left), h.append s hs around,
      Option.map_map]
    rfl
  · obtain ⟨hinner, before, line, rfl, hline, hbefore⟩ := h.comment heq
    refine ⟨hinner, used ++ before, line, (List.append_assoc ..).symm, hline, ?_⟩
    have hcut := hused before (sameAhead_cut hbefore _) []
    rw [List.append_nil, List.append_nil, hbefore] at hcut
    exact hcut

theorem exists_textEnd {tokens : List Token} (h : readTokens verbose outer cs = some tokens) :
    ∃ inner groups inComment, TextEnd verbose outer cs tokens inner groups inComment := by
  -- Of what a token leaves only this much is known, that it is the same up to blanks.
  suffices hall : ∀ left, skip verbose left = skip verbose cs →
      ∃ inner groups inComment, TextEnd verbose outer left tokens inner groups inComment by
    exact hall cs rfl
  fun_induction readTokens verbose outer cs generalizing tokens with
  | case1 verbose outer cs hskip =>
    cases h
    intro left hleft
    exact ⟨verbose, outer, textEnd_nil (hleft.trans hskip)⟩
  | case2 => cases h
  | case3 => cases h
  | case4 verbose outer cs c rest hskip token after ht inner groups hscope ih =>
    obtain ⟨tokens', hrest, rfl⟩ := Option.map_eq_some_iff.mp h
    intro left hleft
    obtain ⟨left', hleft', htakes⟩ := readTokens_takes (hleft.trans hskip) ht hscope
    obtain ⟨inner', groups', inComment, hend⟩ := ih hrest left' hleft'
    exact ⟨inner', groups', inComment, hend.cons hscope htakes⟩

/-! ## Sealed patterns -/

/-- The tokens of a seal: the end of the group and the anchor. -/
def closing : List Token :=
  [.groupEnd, .atom (.anchor .lineEnd)]

theorem readTokens_closing (verbose around : Bool) (outer : List Bool) :
    readTokens verbose (outer ++ [around]) [')', '$'] = some closing := by
  obtain ⟨before, rest, heq⟩ : ∃ before rest, outer ++ [around] = before :: rest := by
    cases outer with
    | nil => exact ⟨around, [], rfl⟩
    | cons before rest => exact ⟨before, rest ++ [around], rfl⟩
  have hclose : skip verbose [')', '$'] = [')', '$'] := by cases verbose <;> decide
  have hend : skip before ['$'] = ['$'] := by cases before <;> decide
  rw [heq, readTokens_cons hclose rfl rfl, readTokens_cons hend rfl rfl,
    readTokens_nil (skip_nil before)]
  rfl

theorem apart_seal : Apart [')', '$'] :=
  ⟨by decide, by decide, by decide⟩

theorem apart_broken_seal : Apart ['\n', ')', '$'] :=
  ⟨by decide, by decide, by decide⟩

theorem apart_comment {line : List Char} (h : '\n' ∉ line) : Apart ('#' :: line) := by
  refine ⟨nofun, nofun, fun inComment => ?_⟩
  rw [skipBlank_of_line h]
  exact nofun

namespace TextEnd

variable {tokens : List Token}

theorem readTokens_sealed (h : TextEnd verbose outer cs tokens inner groups false)
    (around : Bool) :
    readTokens verbose (outer ++ [around]) (cs ++ [')', '$']) = some (tokens ++ closing) := by
  have hseen : seen false [')', '$'] = [')', '$'] := rfl
  rw [h.append _ apart_seal, hseen, readTokens_closing]
  rfl

/-- A line break ends the comment, and blanks are skipped there. -/
theorem readTokens_broken (h : TextEnd verbose outer cs tokens inner groups true)
    (around : Bool) :
    readTokens verbose (outer ++ [around]) (cs ++ ['\n', ')', '$']) = some (tokens ++ closing) := by
  have hseen : seen true ['\n', ')', '$'] = [')', '$'] := rfl
  rw [h.append _ apart_broken_seal, hseen, readTokens_closing]
  rfl

end TextEnd

/-- A comment adds no token. -/
theorem readTokens_comment {tokens : List Token} {line : List Char}
    (h : readTokens verbose outer cs = some tokens)
    (hscope : scopeAfter verbose outer tokens = some (true, groups)) (hline : '\n' ∉ line)
    (around : List Bool) :
    readTokens verbose (outer ++ around) (cs ++ '#' :: line) = some tokens := by
  obtain ⟨inner, groups', inComment, hend⟩ := exists_textEnd h
  have heq := hend.scope.symm.trans hscope
  cases heq
  have hseen : skip true (seen inComment ('#' :: line)) = [] := by
    cases inComment with
    | false => exact skipBlank_of_line hline
    | true =>
      rw [seen, if_pos rfl, skipBlank_of_line hline]
      rfl
  rw [hend.append _ (apart_comment hline), readTokens_nil hseen, Option.map_some, List.append_nil]

end SqlTemplate.Regex
