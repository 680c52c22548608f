import SqlTemplate.Proofs.Pattern.Continuation

/-!
# SqlTemplate.Proofs.Pattern.Bracket

Bracketed classes end with a bracket of their own, which decides what they are. Only their items
are read with a look ahead, and what comes next for an item is in the class.

* `readPosix?_split`, `setOperator?_eq_none`: what is not there is not made by what follows.
* `readItem_takes`: items and ranges, with what they see of the text behind them.
* `readBracket_takes`: whole classes.
-/

namespace SqlTemplate.Regex

variable {verbose : Bool} {cs rest after s : List Char} {c : Char}

/-! ## Named classes and operators -/

/-- The name of a class and the colon and bracket after it. -/
def readPosixName (negated : Bool) (name : List Char) : Option (ClassBody × List Char) :=
  match name.dropWhile (· != ':') with
  | ':' :: ']' :: after =>
    (PosixClass.ofName? (name.takeWhile (· != ':'))).map fun posix =>
      (.posix posix negated, after)
  | _ => none

theorem readPosix?_colon (rest : List Char) :
    readPosix? (':' :: rest) =
      if rest.head? == some '^' then readPosixName true (rest.drop 1)
      else readPosixName false rest := by
  rw [readPosix?]
  by_cases h : rest.head? == some '^'
  · simp only [h, if_true]; rfl
  · simp only [h, Bool.false_eq_true, if_false]; rfl

theorem readPosix?_of_ne (hc : c ≠ ':') (rest : List Char) : readPosix? (c :: rest) = none := by
  rw [readPosix?]
  intro rest' heq
  cases heq
  exact hc rfl

theorem notMem_of_ofName? {name : List Char} {posix : PosixClass}
    (h : PosixClass.ofName? name = some posix) : ']' ∉ name := by
  unfold PosixClass.ofName? at h
  split at h <;> first | decide | cases h

theorem readPosixName_split {negated : Bool} {name : List Char} {item : ClassBody}
    (h : readPosixName negated name = some (item, after)) :
    ∃ used, name = used ++ ']' :: after ∧ ']' ∉ used ∧
      ∀ more, readPosixName negated (used ++ ']' :: more) = some (item, more) := by
  unfold readPosixName at h
  split at h
  · rename_i left hd
    obtain ⟨posix, hname, heq⟩ := Option.map_eq_some_iff.mp h
    cases heq
    have hspan := span_takes (· != ':') name
    rw [hd] at hspan
    obtain ⟨used, hused, htakes⟩ := hspan.past
    refine ⟨used, hused, ?_, fun more => ?_⟩
    · obtain ⟨htake, hdrop⟩ := htakes [] trivial
      rw [List.append_nil] at htake hdrop
      rw [← List.takeWhile_append_dropWhile (p := (· != ':')) (l := used), htake, hdrop]
      have := notMem_of_ofName? hname
      simpa using this
    · obtain ⟨htake, hdrop⟩ := htakes (']' :: more) trivial
      simp only [readPosixName, htake, hdrop, hname, Option.map_some]
  · cases h

/-- A class with a name ends at its first bracket. -/
theorem readPosix?_split {item : ClassBody} (h : readPosix? cs = some (item, after)) :
    ∃ used, cs = used ++ ']' :: after ∧ ']' ∉ used ∧
      ∀ more, readPosix? (used ++ ']' :: more) = some (item, more) := by
  cases cs with
  | nil => cases h
  | cons c rest =>
    by_cases hc : c = ':'
    · subst hc
      rw [readPosix?_colon] at h
      split at h
      · rename_i hd
        obtain ⟨name, rfl⟩ := List.head?_eq_some_iff.mp (eq_of_beq hd)
        obtain ⟨used, rfl, hmem, hread⟩ := readPosixName_split h
        refine ⟨':' :: '^' :: used, rfl, by simpa using hmem, fun more => ?_⟩
        exact (readPosix?_colon _).trans (hread more)
      · rename_i hd
        obtain ⟨used, rfl, hmem, hread⟩ := readPosixName_split h
        refine ⟨':' :: used, rfl, by simpa using hmem, fun more => ?_⟩
        have hd' : ¬((used ++ ']' :: more).head? == some '^') = true := by
          cases used with
          | nil => exact fun heq => by cases heq
          | cons d tail => exact hd
        rw [List.cons_append, readPosix?_colon, if_neg hd']
        exact hread more
    · rw [readPosix?_of_ne hc] at h
      cases h

theorem readPosix?_takes {item : ClassBody} (h : readPosix? cs = some (item, after)) :
    Takes Anything (fun cs after => readPosix? cs = some (item, after)) cs after := by
  obtain ⟨used, rfl, -, hread⟩ := readPosix?_split h
  refine ⟨used ++ [']'], (List.append_cons ..).symm ▸ rfl, fun more _ => ?_⟩
  rw [List.append_assoc]
  exact hread more

/-- Behind the first bracket no class with a name begins. -/
theorem readPosix?_eq_none {used : List Char} (hmem : ']' ∈ used)
    (h : readPosix? (used ++ rest) = none) (s : List Char) : readPosix? (used ++ s) = none := by
  cases hr : readPosix? (used ++ s) with
  | none => rfl
  | some result =>
    obtain ⟨used', hsplit, hmem', hread⟩ := readPosix?_split hr
    obtain ⟨tail, rfl, -⟩ | ⟨tail, rfl, htail⟩ := List.append_eq_append_iff.mp hsplit
    · exact absurd (List.mem_append_left _ hmem) hmem'
    · cases tail with
      | nil =>
        rw [List.append_nil] at hmem
        exact absurd hmem hmem'
      | cons d tail =>
        obtain ⟨rfl, -⟩ := List.cons_eq_cons.mp htail
        rw [List.append_assoc, List.cons_append, hread] at h
        cases h

theorem setOperator?_split {operator : SetOperator}
    (h : setOperator? cs = some (operator, after)) :
    ∃ c, cs = c :: c :: after ∧ ∀ more, setOperator? (c :: c :: more) = some (operator, more) := by
  unfold setOperator? at h
  split at h <;> cases h <;> exact ⟨_, rfl, fun _ => rfl⟩

theorem setOperator?_takes {operator : SetOperator}
    (h : setOperator? (c :: rest) = some (operator, after)) :
    Takes Anything (fun cs after => setOperator? (c :: cs) = some (operator, after)) rest
      after := by
  obtain ⟨d, heq, hread⟩ := setOperator?_split h
  cases heq
  refine (Takes.nothing after).cons fun _ _ heq => ?_
  rw [hread, heq]

theorem setOperator?_eq_none (h : setOperator? (c :: rest) = none) (hs : SameHead rest s) :
    setOperator? (c :: s) = none := by
  cases hr : setOperator? (c :: s) with
  | none => rfl
  | some result =>
    obtain ⟨d, heq, hread⟩ := setOperator?_split hr
    cases heq
    obtain ⟨tail, rfl⟩ := exists_of_sameHead hs.symm
    rw [hread] at h
    cases h

/-! ## The start of a class -/

theorem readHyphens_cons (items : ClassBody) (h : skip verbose cs = c :: rest) :
    readHyphens verbose items cs =
      if c = '-' then readHyphens verbose (items.add (.literal ⟨'-', false⟩)) rest
      else (items, c :: rest) := by
  rw [readHyphens]
  split
  · rename_i h'
    rw [h] at h'
    cases h'
  · rename_i h'
    rw [h] at h'
    cases h'
    rfl

theorem readHyphens_nil (items : ClassBody) (h : skip verbose cs = []) :
    readHyphens verbose items cs = (items, []) := by
  rw [readHyphens]
  split
  · rfl
  · rename_i h'
    rw [h] at h'
    cases h'

theorem readHyphens_takes (items : ClassBody) (cs : List Char) :
    Takes (SameHead (readHyphens verbose items cs).2)
      (fun text after => readHyphens verbose items text = ((readHyphens verbose items cs).1, after))
      cs (readHyphens verbose items cs).2 := by
  fun_induction readHyphens verbose items cs with
  | case1 items cs hs => exact .whole (readHyphens_nil items hs)
  | case2 items cs rest hs ih =>
    refine .after_skip hs ih fun _ _ _ hs' hr => ?_
    rw [readHyphens_cons items hs', if_pos rfl, hr]
  | case3 items cs c rest hs hne =>
    have hskip := skip_takes verbose cs
    rw [hs] at hskip
    refine hskip.imp fun _ _ hs' hmore => ?_
    obtain ⟨tail, rfl⟩ := exists_of_sameHead hmore
    rw [readHyphens_cons items hs', if_neg hne]

/-- The start of a class after its negation and hyphens. -/
def openingItems (negated : Bool) : ClassBody × List Char → Bool × ClassBody × List Char
  | (.empty, ']' :: rest) => (negated, .literal ⟨']', false⟩, rest)
  | (items, rest) => (negated, items, rest)

theorem openingItems_takes {negated negated' : Bool} {items first : ClassBody} {left : List Char}
    (h : openingItems negated (items, left) = (negated', first, after)) :
    Takes (SameHead after)
      (fun left after => openingItems negated (items, left) = (negated', first, after)) left
      after := by
  unfold openingItems at h
  split at h
  · rename_i heq
    cases heq
    cases h
    exact (Takes.nothing _).weaken.cons fun _ _ heq => by rw [heq]; rfl
  · rename_i hne heq
    cases heq
    cases h
    refine .here fun more hmore => ?_
    unfold openingItems
    split
    · rename_i heq
      cases heq
      obtain ⟨tail, rfl⟩ := exists_of_sameHead hmore.symm
      exact absurd rfl (hne _ rfl)
    · rename_i heq
      cases heq
      rfl

theorem readOpening_eq (verbose : Bool) (cs : List Char) :
    readOpening verbose cs =
      if (skip verbose cs).head? == some '^' then
        openingItems true (readHyphens verbose .empty ((skip verbose cs).drop 1))
      else openingItems false (readHyphens verbose .empty (skip verbose cs)) := by
  rw [readOpening]
  by_cases h : (skip verbose cs).head? == some '^'
  · simp only [h, if_true]; rfl
  · simp only [h, Bool.false_eq_true, if_false]; rfl

/-- The hyphens and the bracket that are literals at the start of a class. -/
theorem openingItems_readHyphens_takes {negated negated' : Bool} {first : ClassBody}
    (h : openingItems negated (readHyphens verbose .empty cs) = (negated', first, after)) :
    Takes (SameHead after)
      (fun cs after =>
        openingItems negated (readHyphens verbose .empty cs) = (negated', first, after))
      cs after :=
  (readHyphens_takes .empty cs).trans_sameHead (openingItems_takes h) fun _ _ _ hr ho => by
    rw [hr, ho]

theorem readOpening_takes {negated : Bool} {first : ClassBody}
    (h : readOpening verbose cs = (negated, first, after)) :
    Takes (SameHead after) (fun cs after => readOpening verbose cs = (negated, first, after)) cs
      after := by
  rw [readOpening_eq] at h
  split at h
  · rename_i hd
    obtain ⟨rest, hs⟩ := List.head?_eq_some_iff.mp (eq_of_beq hd)
    rw [hs, List.drop_one, List.tail_cons] at h
    refine .after_skip hs (openingItems_readHyphens_takes h) fun _ _ _ hs' hr => ?_
    rw [readOpening_eq, hs']
    exact hr
  · rename_i hd
    refine (skip_takes verbose cs).and_next.trans_sameHead (openingItems_readHyphens_takes h) ?_
    rintro text left after' ⟨rfl, hhead⟩ hr
    rw [readOpening_eq, hhead, if_neg hd, hr]

/-! ## Items and ranges -/

theorem readItemAtom_takes {atom : Atom}
    (h : readItemAtom verbose (c :: rest) = some (atom, after)) :
    Takes (KeepsBoundary verbose atom after)
      (fun cs after => readItemAtom verbose (c :: cs) = some (atom, after)) rest after := by
  simp only [readItemAtom] at h
  split at h
  · rename_i hc
    refine (readEscape_takes h).imp fun _ _ hr _ => ?_
    rw [readItemAtom, if_pos hc, hr]
  · rename_i hc
    cases h
    refine (Takes.nothing _).weaken.imp fun _ _ heq _ => ?_
    rw [readItemAtom, if_neg hc, heq]

/-- What is not an anchor does not look at what comes next. -/
theorem readItemAtom_takes_of_ne {atom : Atom} (hatom : ∀ anchor, atom ≠ .anchor anchor)
    (h : readItemAtom verbose (c :: rest) = some (atom, after)) :
    Takes Anything (fun cs after => readItemAtom verbose (c :: cs) = some (atom, after)) rest
      after :=
  (readItemAtom_takes h).mono fun _ _ heq => absurd heq (hatom _)

theorem ne_anchor_of_itemOfAtom? {atom : Atom} {item : ClassBody}
    (h : itemOfAtom? atom = some item) (anchor : Anchor) : atom ≠ .anchor anchor := by
  rintro rfl
  cases h

theorem ne_anchor_of_rangeOfAtoms? {first last : Atom} {item : ClassBody}
    (h : rangeOfAtoms? first last = some item) :
    (∀ anchor, first ≠ .anchor anchor) ∧ ∀ anchor, last ≠ .anchor anchor := by
  constructor
  · rintro anchor rfl
    cases h
  · rintro anchor rfl
    cases first <;> cases h

theorem upcoming?_sign (h : cs.dropWhile Unicode.isWhiteSpace = '#' :: rest) :
    upcoming? true cs = (rest.dropWhile Unicode.isWhiteSpace).head? := by
  rw [upcoming?, if_pos rfl, h]
  rfl

theorem upcoming?_other (h : cs.dropWhile Unicode.isWhiteSpace = c :: rest) (hc : c ≠ '#') :
    upcoming? true cs = some c := by
  rw [upcoming?, if_pos rfl, h]
  split
  · rename_i heq
    cases heq
    exact absurd rfl hc
  · rfl

theorem upcoming?_append {d : Char} (h : upcoming? verbose cs = some d) (s : List Char) :
    upcoming? verbose (cs ++ s) = some d := by
  cases verbose with
  | false =>
    cases cs with
    | nil => cases h
    | cons c rest => exact h
  | true =>
    cases hd : cs.dropWhile Unicode.isWhiteSpace with
    | nil => rw [upcoming?, if_pos rfl, hd] at h; cases h
    | cons c rest =>
      have hd' := dropWhile_append_of_cons hd s
      by_cases hc : c = '#'
      · subst hc
        rw [upcoming?_sign hd] at h
        rw [upcoming?_sign hd']
        cases hr : rest.dropWhile Unicode.isWhiteSpace with
        | nil => rw [hr] at h; cases h
        | cons e tail =>
          rw [hr] at h
          rw [dropWhile_append_of_cons hr]
          exact h
      · rw [upcoming?_other hd hc] at h
        rw [upcoming?_other hd' hc]
        exact h

theorem skipBlank_of_all (inComment : Bool) (h : ∀ c ∈ cs, Unicode.isWhiteSpace c = true) :
    skipBlank inComment cs = [] := by
  induction cs generalizing inComment with
  | nil => cases inComment <;> rfl
  | cons c rest ih =>
    obtain ⟨hc, hrest⟩ := List.forall_mem_cons.mp h
    cases inComment with
    | true => exact ih _ hrest
    | false =>
      have hne : c ≠ '#' := by
        rintro rfl
        exact absurd hc (by decide)
      rw [skipBlank, if_neg hne, if_pos hc]
      exact ih _ hrest

theorem skipBlank_dropWhile (cs : List Char) :
    skipBlank false (cs.dropWhile Unicode.isWhiteSpace) = skipBlank false cs := by
  induction cs with
  | nil => rfl
  | cons c rest ih =>
    rw [List.dropWhile_cons]
    split
    · rename_i hc
      have hne : c ≠ '#' := by
        rintro rfl
        exact absurd hc (by decide)
      rw [ih, skipBlank, if_neg hne, if_pos hc]
    · rfl

/-- Where nothing comes up there is nothing but blanks. -/
theorem skip_of_upcoming?_eq_none (h : upcoming? verbose cs = none) : skip verbose cs = [] := by
  cases verbose with
  | false => exact List.head?_eq_none_iff.mp h
  | true =>
    rw [skip, if_pos rfl, ← skipBlank_dropWhile]
    cases hd : cs.dropWhile Unicode.isWhiteSpace with
    | nil => rfl
    | cons c rest =>
      by_cases hc : c = '#'
      · subst hc
        rw [upcoming?_sign hd, List.head?_eq_none_iff, List.dropWhile_eq_nil_iff] at h
        rw [skipBlank, if_pos rfl]
        exact skipBlank_of_all true h
      · rw [upcoming?_other hd hc] at h
        cases h

theorem readItem_alone {first : Atom} (hf : readItemAtom verbose cs = some (first, rest))
    (hk : ∀ tail, skip verbose rest ≠ '-' :: tail) :
    readItem verbose cs = (itemOfAtom? first).map fun item => (item, skip verbose rest) := by
  unfold readItem
  rw [hf]
  simp only

theorem readItem_hyphen {first : Atom} {tail : List Char}
    (hf : readItemAtom verbose cs = some (first, rest)) (hk : skip verbose rest = '-' :: tail) :
    readItem verbose cs =
      if upcoming? verbose tail = some ']' ∨ upcoming? verbose tail = some '-' then
        (itemOfAtom? first).map fun item => (item, '-' :: tail)
      else
        (readItemAtom verbose (skip verbose tail)).bind fun (last, left) =>
          (rangeOfAtoms? first last).map fun item => (item, left) := by
  rw [readItem, hf]
  simp only [hk]
  split
  · rfl
  · cases readItemAtom verbose (skip verbose tail) <;> rfl

/-- The character after blanks is seen from before them. -/
theorem upcoming?_takes (h : skip verbose cs = c :: rest) :
    Takes Anything
      (fun text after => skip verbose text = c :: after ∧
        upcoming? verbose text = upcoming? verbose cs)
      cs rest := by
  have hskip := skip_takes verbose cs
  rw [h] at hskip
  obtain ⟨used, rfl, hused⟩ := hskip.past
  refine ⟨used, rfl, fun more _ => ⟨hused more trivial, ?_⟩⟩
  cases hu : upcoming? verbose used with
  | none =>
    have hskip' := hused [] trivial
    rw [List.append_nil, skip_of_upcoming?_eq_none hu] at hskip'
    cases hskip'
  | some d => rw [upcoming?_append hu, upcoming?_append hu]

/-- What an item sees of the text that it leaves: the character there, and what comes up after it
if it is a hyphen. -/
def SameItemEnd (verbose : Bool) (after more : List Char) : Prop :=
  SameHead after more ∧ ∀ tail tail', after = '-' :: tail → more = '-' :: tail' →
    upcoming? verbose tail' = upcoming? verbose tail

theorem readItem_takes {item : ClassBody}
    (h : readItem verbose (c :: rest) = some (item, after)) :
    Takes (SameItemEnd verbose after)
      (fun cs after => readItem verbose (c :: cs) = some (item, after)) rest after := by
  cases hf : readItemAtom verbose (c :: rest) with
  | none => rw [readItem, hf] at h; cases h
  | some result =>
    obtain ⟨first, left⟩ := result
    by_cases hk : ∃ tail, skip verbose left = '-' :: tail
    · obtain ⟨tail, hk⟩ := hk
      have hskip := skip_takes verbose left
      rw [hk] at hskip
      rw [readItem_hyphen hf hk] at h
      split at h
      · rename_i hup
        obtain ⟨found, hi, heq⟩ := Option.map_eq_some_iff.mp h
        cases heq
        have hfirst := readItemAtom_takes_of_ne (ne_anchor_of_itemOfAtom? hi) hf
        have hend := hskip.mono fun more (hmore : SameItemEnd verbose ('-' :: tail) more) => hmore.1
        refine hfirst.trans hend.and_next ?_
        rintro text left' after' hf' ⟨hs, hhead, hup'⟩
        obtain ⟨tail', rfl⟩ := exists_of_sameHead hhead
        rw [readItem_hyphen hf' hs, hup' tail tail' rfl rfl, if_pos hup, hi]
        rfl
      · rename_i hup
        obtain ⟨⟨last, left'⟩, hl, hr⟩ := Option.bind_eq_some_iff.mp h
        obtain ⟨found, hi, heq⟩ := Option.map_eq_some_iff.mp hr
        cases heq
        obtain ⟨hfirst, hlast⟩ := ne_anchor_of_rangeOfAtoms? hi
        cases hs : skip verbose tail with
        | nil => rw [hs] at hl; cases hl
        | cons d more =>
          rw [hs] at hl
          have hrange : Takes Anything
              (fun text after => upcoming? verbose text = upcoming? verbose tail ∧
                readItemAtom verbose (skip verbose text) = some (last, after)) tail after := by
            refine (upcoming?_takes hs).trans (readItemAtom_takes_of_ne hlast hl) ?_
            rintro text left after' ⟨hs', hup'⟩ hl'
            rw [hs']
            exact ⟨hup', hl'⟩
          refine ((readItemAtom_takes_of_ne hfirst hf).trans (hskip.past.comp hrange) ?_).weaken
          rintro text left' after' hf' ⟨inner, hs', hup', hl'⟩
          rw [readItem_hyphen hf' hs', hup', if_neg hup, hl', Option.bind_some]
          simp only [hi, Option.map_some]
    · have hk' : ∀ tail, skip verbose left ≠ '-' :: tail := fun tail heq => hk ⟨tail, heq⟩
      rw [readItem_alone hf hk'] at h
      obtain ⟨found, hi, heq⟩ := Option.map_eq_some_iff.mp h
      cases heq
      have hfirst := readItemAtom_takes_of_ne (ne_anchor_of_itemOfAtom? hi) hf
      have hend := (skip_takes verbose left).mono
        fun more (hmore : SameItemEnd verbose (skip verbose left) more) => hmore.1
      refine hfirst.trans hend.and_next ?_
      rintro text left' after' hf' ⟨rfl, hhead, -⟩
      rw [readItem_alone hf' ?_, hi]
      · rfl
      · intro tail heq
        rw [heq] at hhead
        obtain ⟨tail', heq'⟩ := exists_of_sameHead hhead.symm
        exact hk' _ heq'

/-! ## Whole classes -/

section Body

variable {stack outer : List BracketFrame} {items item first body before : ClassBody}
  {negated : Bool}

theorem readBody_nil (h : skip verbose cs = []) : readBody verbose stack items cs = none := by
  rw [readBody]
  split
  · rfl
  · rename_i heq
    rw [h] at heq
    cases heq

theorem readBody_posix (h : skip verbose cs = '[' :: rest)
    (hp : readPosix? rest = some (item, after)) :
    readBody verbose stack items cs = readBody verbose stack (items.add item) after := by
  rw [readBody]
  split <;> rename_i heq <;> rw [h] at heq <;> cases heq
  rw [if_pos rfl]
  split <;> rename_i heq <;> rw [hp] at heq <;> cases heq
  rfl

theorem readBody_opened (h : skip verbose cs = '[' :: rest) (hp : readPosix? rest = none)
    (ho : readOpening verbose rest = (negated, first, after)) :
    readBody verbose stack items cs =
      readBody verbose (.opened negated items :: stack) first after := by
  rw [readBody]
  split <;> rename_i heq <;> rw [h] at heq <;> cases heq
  rw [if_pos rfl]
  split <;> rename_i heq <;> rw [hp] at heq <;> cases heq
  rw [ho]

theorem readBody_closed (h : skip verbose cs = ']' :: rest)
    (hb : settle stack items = (body, .opened negated before :: outer)) :
    readBody verbose stack items cs =
      if outer.isEmpty then some (negated, body, rest)
      else readBody verbose outer (before.add (.nested negated body)) rest := by
  rw [readBody]
  split <;> rename_i heq <;> rw [h] at heq <;> cases heq
  rw [if_neg (by decide), if_pos rfl, hb]

theorem readBody_operator {operator : SetOperator} (h : skip verbose cs = c :: rest)
    (hc : c ≠ '[') (hc' : c ≠ ']') (ho : setOperator? (c :: rest) = some (operator, after))
    (hb : settle stack items = (body, outer)) :
    readBody verbose stack items cs =
      readBody verbose (.operator operator body :: outer) .empty after := by
  rw [readBody]
  split <;> rename_i heq <;> rw [h] at heq <;> cases heq
  rw [if_neg hc, if_neg hc']
  split <;> rename_i heq <;> rw [ho] at heq <;> cases heq
  rw [hb]

theorem readBody_item (h : skip verbose cs = c :: rest) (hc : c ≠ '[') (hc' : c ≠ ']')
    (ho : setOperator? (c :: rest) = none)
    (hi : readItem verbose (c :: rest) = some (item, after)) :
    readBody verbose stack items cs = readBody verbose stack (items.add item) after := by
  rw [readBody]
  split <;> rename_i heq <;> rw [h] at heq <;> cases heq
  rw [if_neg hc, if_neg hc']
  split <;> rename_i heq <;> rw [ho] at heq <;> cases heq
  split <;> rename_i heq <;> rw [hi] at heq <;> cases heq
  rfl

/-- Reading in an open class stops only at a bracket. -/
theorem mem_of_readBody {result : Bool × ClassBody × List Char}
    (h : readBody verbose stack items cs = some result) : ']' ∈ cs := by
  fun_induction readBody verbose stack items cs with
  | case1 => cases h
  | case2 stack items cs rest item left hp hk ih =>
    have hmem := (readPosix?_takes hp).mem (ih h)
    exact (skip_takes verbose cs).mem (hk ▸ List.mem_cons_of_mem _ hmem)
  | case3 stack items cs rest hp negated' first left ho hk ih =>
    have hmem := (readOpening_takes ho).mem (ih h)
    exact (skip_takes verbose cs).mem (hk ▸ List.mem_cons_of_mem _ hmem)
  | case4 stack items cs rest body negated' before outer hb ho hk =>
    exact (skip_takes verbose cs).mem (hk ▸ List.mem_cons_self)
  | case5 stack items cs rest body negated' before outer hb ho hk hc ih =>
    exact (skip_takes verbose cs).mem (hk ▸ List.mem_cons_self)
  | case6 => cases h
  | case7 stack items cs c rest hk hc hc' operator left ho body' outer hb ih =>
    have hmem := (setOperator?_takes ho).mem (ih h)
    exact (skip_takes verbose cs).mem (hk ▸ List.mem_cons_of_mem _ hmem)
  | case8 => cases h
  | case9 stack items cs c rest hk hc hc' ho item left hi ih =>
    have hmem := (readItem_takes hi).mem (ih h)
    exact (skip_takes verbose cs).mem (hk ▸ List.mem_cons_of_mem _ hmem)

/-- A hyphen is not the last of a class. -/
theorem skip_ne_nil_of_readBody {tail : List Char} {result : Bool × ClassBody × List Char}
    (h : readBody verbose stack items ('-' :: tail) = some result) : skip verbose tail ≠ [] := by
  intro hnil
  have hskip : skip verbose ('-' :: tail) = '-' :: tail := by cases verbose <;> rfl
  have hoperator : setOperator? ('-' :: tail) = none := by
    cases hr : setOperator? ('-' :: tail) with
    | none => rfl
    | some result =>
      obtain ⟨d, heq, -⟩ := setOperator?_split hr
      cases heq
      cases verbose <;> cases hnil
  have hitem : readItem verbose ('-' :: tail) = some (.literal ⟨'-', false⟩, []) := by
    have hne (more : List Char) : skip verbose tail ≠ '-' :: more := by rw [hnil]; exact nofun
    rw [readItem_alone rfl hne, hnil]
    rfl
  rw [readBody_item hskip (by decide) (by decide) hoperator hitem,
    readBody_nil (skip_nil verbose)] at h
  cases h

section Ahead

variable {used : List Char}
  (hread : ∀ more, Anything more →
    readBody verbose stack items (used ++ more) = some (negated, body, more))
include hread

theorem sameHead_of_readBody (s s' : List Char) : SameHead (used ++ s) (used ++ s') := by
  cases used with
  | nil =>
    have hnil := hread [] trivial
    rw [List.append_nil, readBody_nil (skip_nil verbose)] at hnil
    cases hnil
  | cons c rest => rfl

theorem sameItemEnd_of_readBody (s s' : List Char) :
    SameItemEnd verbose (used ++ s) (used ++ s') := by
  refine ⟨sameHead_of_readBody hread s s', fun tail tail' h h' => ?_⟩
  have hbody := hread [] trivial
  rw [List.append_nil] at hbody
  cases used with
  | nil =>
    rw [readBody_nil (skip_nil verbose)] at hbody
    cases hbody
  | cons c inner =>
    cases h
    cases h'
    cases hu : upcoming? verbose inner with
    | none => exact absurd (skip_of_upcoming?_eq_none hu) (skip_ne_nil_of_readBody hbody)
    | some d => exact (upcoming?_append hu s').trans (upcoming?_append hu s).symm

end Ahead

theorem readBody_takes (h : readBody verbose stack items cs = some (negated, body, after)) :
    Takes Anything
      (fun cs after => readBody verbose stack items cs = some (negated, body, after)) cs after := by
  fun_induction readBody verbose stack items cs with
  | case1 => cases h
  | case2 stack items cs rest item left hp hk ih =>
    refine .after_skip hk ((readPosix?_takes hp).comp (ih h)) ?_
    rintro text rest' after' hk' ⟨left', hp', hr⟩
    rw [readBody_posix hk' hp', hr]
  | case3 stack items cs rest hp negated' first left ho hk ih =>
    obtain ⟨used, rfl, hused⟩ := readOpening_takes ho
    obtain ⟨used', rfl, hused'⟩ := ih h
    have hmem : ']' ∈ used ++ used' := by
      have hbody := hused' [] trivial
      rw [List.append_nil] at hbody
      exact List.mem_append_right used (mem_of_readBody hbody)
    have hopen : Takes Anything
        (fun text after => readPosix? text = none ∧
          ∃ left, readOpening verbose text = (negated', first, left) ∧
            readBody verbose (.opened negated' items :: stack) first left =
              some (negated, body, after))
        (used ++ (used' ++ after)) after := by
      refine ⟨used ++ used', (List.append_assoc ..).symm, fun more _ => ?_⟩
      rw [← List.append_assoc] at hp
      refine ⟨readPosix?_eq_none hmem hp more, used' ++ more, ?_, hused' more trivial⟩
      rw [List.append_assoc]
      exact hused _ (sameHead_of_readBody hused' after more)
    refine .after_skip hk hopen ?_
    rintro text rest' after' hk' ⟨hp', left', ho', hr⟩
    rw [readBody_opened hk' hp' ho', hr]
  | case4 stack items cs rest body negated' before outer hb ho hk =>
    cases h
    refine .after_skip hk (.nothing after) fun _ _ _ hk' heq => ?_
    rw [readBody_closed hk' hb, if_pos ho, heq]
  | case5 stack items cs rest body negated' before outer hb ho hk hc ih =>
    refine .after_skip hk (ih h) fun _ _ _ hk' hr => ?_
    rw [readBody_closed hk' hb, if_neg ho, hr]
  | case6 => cases h
  | case7 stack items cs c rest hk hc hc' operator left ho body' outer hb ih =>
    refine .after_skip hk ((setOperator?_takes ho).comp (ih h)) ?_
    rintro text rest' after' hk' ⟨left', ho', hr⟩
    rw [readBody_operator hk' hc hc' ho' hb, hr]
  | case8 => cases h
  | case9 stack items cs c rest hk hc hc' ho item left hi ih =>
    obtain ⟨used, rfl, hused⟩ := readItem_takes hi
    obtain ⟨used', rfl, hused'⟩ := ih h
    have hhead (s : List Char) : SameHead (used ++ (used' ++ after)) (used ++ (used' ++ s)) :=
      (sameHead_of_readBody hused' after s).append used
    have hitem : Takes Anything
        (fun text after => setOperator? (c :: text) = none ∧
          ∃ left, readItem verbose (c :: text) = some (item, left) ∧
            readBody verbose stack (items.add item) left = some (negated, body, after))
        (used ++ (used' ++ after)) after := by
      refine ⟨used ++ used', (List.append_assoc ..).symm, fun more _ => ?_⟩
      rw [List.append_assoc]
      exact ⟨setOperator?_eq_none ho (hhead more), used' ++ more,
        hused _ (sameItemEnd_of_readBody hused' after more), hused' more trivial⟩
    refine .after_skip hk hitem ?_
    rintro text rest' after' hk' ⟨ho', left', hi', hr⟩
    rw [readBody_item hk' hc hc' ho' hi', hr]

end Body

theorem readBracket_takes {negated : Bool} {body : ClassBody}
    (h : readBracket verbose cs = some (negated, body, after)) :
    Takes Anything (fun cs after => readBracket verbose cs = some (negated, body, after)) cs
      after := by
  cases ho : readOpening verbose cs with
  | mk negated' result =>
    simp only [readBracket, ho] at h
    refine (readOpening_takes ho).trans_of (readBody_takes h) (fun _ _ _ ho' hr => ?_)
      fun used heq hread more _ => ?_
    · simp only [readBracket, ho', hr]
    · rw [heq]
      exact sameHead_of_readBody hread _ more

end SqlTemplate.Regex
