import SqlTemplate.Proofs.Path.Parsing

/-!
# SqlTemplate.Proofs.Path.Position

Where a malformed path is found to be malformed. Reading stops after the longest text that some
path begins with, except that it takes all the digits of an index before it looks at their number.

* `exact_of_readBracket`, `exact_of_readSteps`, `exact_of_readPath`: where each reader stops.
* `parse_error_exact`: the position in an error, against the expressions that are accepted.
-/

namespace SqlTemplate.Path

variable {language : List Char → Prop} {cs front text read after : List Char} {failure : Failure}

/-- Some text of the language begins with `front`. -/
def Viable (language : List Char → Prop) (front : List Char) : Prop :=
  ∃ rest, language (front ++ rest)

/-- What is read is viable, and with the next character it would not be. -/
def Furthest (language : List Char → Prop) (read unread : List Char) : Prop :=
  Viable language read ∧ ∀ c ∈ unread.head?, ¬Viable language (read ++ [c])

/-- What is read ends with all the digits after a viable bracket, and they do not fit 64 bits. -/
def Overflows (language : List Char → Prop) (read unread : List Char) : Prop :=
  ∃ before digits, read = before ++ '[' :: digits ∧ (∀ c ∈ digits, '0' ≤ c ∧ c ≤ '9') ∧
    (∀ c ∈ unread.head?, ¬('0' ≤ c ∧ c ≤ '9')) ∧ 2 ^ 64 ≤ placeValue digits ∧
    Viable language (before ++ ['['])

/-- Reading stopped where its reason tells. -/
def Exact (language : List Char → Prop) (text : List Char) (failure : Failure) : Prop :=
  ∃ read, text = read ++ failure.unread ∧
    if failure.malformation = .indexTooLarge then Overflows language read failure.unread
    else Furthest language read failure.unread

theorem exact_of_furthest (read : List Char) (hreason : failure.malformation ≠ .indexTooLarge)
    (htext : text = read ++ failure.unread) (h : Furthest language read failure.unread) :
    Exact language text failure :=
  ⟨read, htext, by rwa [if_neg hreason]⟩

/-! ## Texts that are read to the end -/

def Reads (reader : List Char → Except Failure (List Step)) (text : List Char) : Prop :=
  ∃ steps, reader text = .ok steps

theorem exists_map_eq_ok_iff {steps : Except Failure (List Step)} {f : List Step → List Step} :
    (∃ steps', steps.map f = .ok steps') ↔ ∃ steps', steps = .ok steps' := by
  cases steps <;> simp [Except.map]

theorem reads_linkedText (segments : List Segment) : Reads readSteps (linkedText segments) :=
  ⟨_, readSteps_linkedText segments⟩

theorem reads_segment (segment : Segment) : Reads readSteps segment.linked := by
  have h := reads_linkedText [segment]
  rwa [linkedText_cons, linkedText, List.flatMap_nil, List.append_nil] at h

theorem linkedText_of_reads (h : Reads readSteps cs) : ∃ segments, cs = linkedText segments := by
  obtain ⟨steps, h⟩ := h
  obtain ⟨segments, h, -⟩ := linkedText_of_readSteps h
  exact ⟨segments, h⟩

theorem reads_linked (segment : Segment) (hafter : Ends segment.takesIn after) :
    Reads readSteps (segment.linked ++ after) ↔ Reads readSteps after := by
  rw [Reads, readSteps_linked segment hafter]
  exact exists_map_eq_ok_iff

theorem ends_of_reads (segment : Segment) (h : Reads readSteps after) :
    Ends segment.takesIn after := by
  obtain ⟨segments, rfl⟩ := linkedText_of_reads h
  exact ends_takesIn segment segments

theorem isNameStart_of_reads {c : Char} (h : Reads readSteps ('.' :: c :: cs)) :
    isNameStart c = true := by
  obtain ⟨segments, h⟩ := linkedText_of_reads h
  cases segments with
  | nil => cases h
  | cons segment rest =>
    cases segment with
    | name word =>
      obtain ⟨rfl, -⟩ := List.cons.inj (List.cons.inj h).2
      exact word.isNameStart_first
    | index numeral => cases (List.cons.inj h).1
    | key quoted => cases (List.cons.inj h).1

theorem readBracket_of_reads (h : Reads readSteps ('[' :: cs)) :
    ∃ step after, readBracket cs = .ok (step, after) := by
  obtain ⟨steps, h⟩ := h
  rw [readSteps] at h
  split at h
  · cases h
  · rename_i step after hbracket
    exact ⟨step, after, hbracket⟩

theorem viable_dot : Viable (Reads readSteps) ['.'] :=
  ⟨['a'], reads_segment (.name ⟨'a', [], by decide, List.forall_mem_nil _⟩)⟩

theorem viable_bracket : Viable (Reads readSteps) ['['] :=
  ⟨['0', ']'], reads_segment (.index ⟨['0'], by decide, by simp, by decide⟩)⟩

/-! ## In a bracket -/

theorem closeBracket_eq_error {step : Step} (h : closeBracket step cs = .error failure) :
    failure = ⟨cs, .unclosedBracket⟩ ∧ ∀ c ∈ cs.head?, c ≠ ']' := by
  unfold closeBracket at h
  split at h
  · cases h
  · rename_i hclose
    cases h
    refine ⟨rfl, ?_⟩
    rintro c hc rfl
    obtain ⟨after, rfl⟩ := List.head?_eq_some_iff.mp hc
    exact hclose after rfl

/-- Only a close bracket can follow what is read as a whole index or key. -/
theorem exact_of_closeBracket (front : List Char) {step : Step}
    (hread : ∀ c ∈ after.head?, ∀ rest,
      readBracket (front ++ c :: rest) = closeBracket step (c :: rest))
    (hclosed : Reads readSteps ('[' :: (front ++ [']'])))
    (h : closeBracket step after = .error failure) :
    Exact (Reads readSteps) ('[' :: (front ++ after)) failure := by
  obtain ⟨rfl, hclose⟩ := closeBracket_eq_error h
  refine exact_of_furthest ('[' :: front) (by simp) rfl ⟨⟨[']'], hclosed⟩, ?_⟩
  rintro c hc ⟨rest, hreads⟩
  rw [List.append_assoc, List.cons_append] at hreads
  obtain ⟨step', after', hbracket⟩ := readBracket_of_reads hreads
  rw [List.singleton_append, hread c hc] at hbracket
  exact hclose c hc (List.cons.inj (closeBracket_eq_ok hbracket).1).1

theorem exact_of_readKey {quote : Char} (hquote : quote = '\'' ∨ quote = '"')
    (h : readKey quote cs = .error failure) :
    Exact (Reads readSteps) ('[' :: quote :: cs) failure := by
  obtain ⟨quoted, rfl, htext⟩ : ∃ quoted : QuotedKey, quoted.quote = quote ∧
      quoted.text = cs.takeWhile (· != quote) := ⟨.upToQuote quote cs hquote, rfl, rfl⟩
  have hclosed := reads_segment (.key quoted)
  unfold readKey at h
  split at h
  · rename_i hdrop
    cases h
    have hsplit := List.takeWhile_append_dropWhile (p := (· != quoted.quote)) (l := cs)
    rw [hdrop, List.append_nil, ← htext] at hsplit
    refine exact_of_furthest ('[' :: quoted.quote :: cs) (by simp) (by simp)
      ⟨⟨[quoted.quote, ']'], ?_⟩, by simp⟩
    rwa [← hsplit]
  · rename_i c rest hdrop
    rw [← takeWhile_append_quote hdrop, ← htext]
    rw [← htext] at h
    have hexact := exact_of_closeBracket (quoted.quote :: (quoted.text ++ [quoted.quote]))
      (fun c _ rest => ?_) ?_ h
    · simpa using hexact
    · simpa using readBracket_key quoted
    · simpa [Segment.linked, Segment.text] using hclosed

theorem exact_of_readIndex {c : Char} (hc : c.isDigit = true)
    (h : readIndex (c :: cs) = .error failure) :
    Exact (Reads readSteps) ('[' :: c :: cs) failure := by
  have hends := ends_dropWhile Char.isDigit (c :: cs)
  have hsplit := List.takeWhile_append_dropWhile (p := Char.isDigit) (l := c :: cs)
  simp only [readIndex, decimal_eq] at h
  split at h
  · rename_i hbound
    rw [← hsplit]
    let numeral := Numeral.ofDigits c cs hc hbound
    refine exact_of_closeBracket _ (fun d hd rest => ?_) ?_ h
    · exact readBracket_index numeral (ends_cons (hends d hd))
    · exact reads_segment (.index numeral)
  · rename_i hbound
    cases h
    refine ⟨'[' :: (c :: cs).takeWhile Char.isDigit, by rw [List.cons_append, hsplit], ?_⟩
    rw [if_pos rfl]
    refine ⟨[], _, rfl, fun d hd => ?_, fun d hd hdigit => ?_, Nat.le_of_not_lt hbound,
      viable_bracket⟩
    · exact isDigit_eq_true_iff.mp (List.mem_takeWhile_imp hd)
    · exact absurd (isDigit_eq_true_iff.mpr hdigit) (by rw [hends d hd]; decide)

theorem exact_of_readBracket (h : readBracket cs = .error failure) :
    Exact (Reads readSteps) ('[' :: cs) failure := by
  unfold readBracket at h
  split at h
  · cases h
    exact exact_of_furthest ['['] (by simp) rfl ⟨viable_bracket, by simp⟩
  · rename_i c cs
    split at h
    · rename_i hquote
      exact exact_of_readKey hquote h
    · rename_i hquote
      split at h
      · rename_i hdigit
        exact exact_of_readIndex hdigit h
      · rename_i hdigit
        cases h
        refine exact_of_furthest ['['] (by simp) rfl ⟨viable_bracket, ?_⟩
        rintro d hd ⟨rest, hreads⟩
        cases hd
        obtain ⟨step, after, hbracket⟩ := readBracket_of_reads hreads
        simp only [List.append_eq, List.nil_append, List.cons_append, readBracket, if_neg hquote,
          if_neg hdigit] at hbracket
        cases hbracket

/-! ## At a name -/

theorem readName_eq_error (h : readName cs = .error failure) :
    failure = ⟨cs, .noName⟩ ∧ ∀ c ∈ cs.head?, isNameStart c = false := by
  cases cs with
  | nil =>
    cases h
    exact ⟨rfl, by simp⟩
  | cons c cs =>
    rw [readName] at h
    split at h
    · cases h
    · rename_i hstart
      cases h
      exact ⟨rfl, by simpa using hstart⟩

theorem exact_of_readName (hfront : Viable language front)
    (hname : ∀ c ∈ cs.head?, ∀ rest, language (front ++ c :: rest) → isNameStart c = true)
    (h : readName cs = .error failure) : Exact language (front ++ cs) failure := by
  obtain ⟨rfl, hstart⟩ := readName_eq_error h
  refine exact_of_furthest front (by simp) rfl ⟨hfront, ?_⟩
  rintro c hc ⟨rest, hrest⟩
  rw [List.append_assoc] at hrest
  exact absurd (hname c hc rest hrest) (by rw [hstart c hc]; decide)

/-! ## At a later step -/

/-- Whether a segment would go on is told by the next character. -/
theorem Ends.of_same_head {p : Char → Bool} {c : Char} {rest rest' : List Char}
    (h : Ends p (read ++ c :: rest)) : Ends p (read ++ c :: rest') := by
  cases read <;> exact h

/-- The place where reading stops stays where it is if a whole segment comes before. -/
theorem Exact.behind (segment : Segment)
    (hlanguage : ∀ after, Ends segment.takesIn after →
      (language (front ++ after) ↔ Reads readSteps after))
    (hends : Ends segment.takesIn text) (h : Exact (Reads readSteps) text failure) :
    Exact language (front ++ text) failure := by
  have hviable : ∀ read, Viable (Reads readSteps) read → Viable language (front ++ read) := by
    rintro read ⟨rest, hreads⟩
    refine ⟨rest, ?_⟩
    rw [List.append_assoc]
    exact (hlanguage _ (ends_of_reads segment hreads)).mpr hreads
  obtain ⟨read, rfl, h⟩ := h
  refine ⟨front ++ read, (List.append_assoc ..).symm, ?_⟩
  split
  · rename_i hreason
    rw [if_pos hreason] at h
    obtain ⟨before, digits, rfl, hdigits, hmaximal, hbound, hbefore⟩ := h
    refine ⟨front ++ before, digits, (List.append_assoc ..).symm, hdigits, hmaximal, hbound, ?_⟩
    rw [List.append_assoc]
    exact hviable _ hbefore
  · rename_i hreason
    rw [if_neg hreason] at h
    obtain ⟨hread, hnext⟩ := h
    refine ⟨hviable read hread, ?_⟩
    rintro c hc ⟨rest, hrest⟩
    obtain ⟨unread, hunread⟩ := List.head?_eq_some_iff.mp hc
    rw [hunread] at hends
    simp only [List.append_assoc, List.singleton_append] at hrest
    refine hnext c hc ⟨rest, ?_⟩
    rw [List.append_assoc]
    exact (hlanguage _ hends.of_same_head).mp hrest

theorem ends_takesIn_bracket {segment : Segment} (h : '[' :: cs = segment.linked ++ after) :
    Ends segment.takesIn after := by
  cases segment with
  | name word => cases (List.cons.inj h).1
  | index numeral => exact fun _ _ => rfl
  | key quoted => exact fun _ _ => rfl

theorem exact_of_readSteps (h : readSteps cs = .error failure) :
    Exact (Reads readSteps) cs failure := by
  fun_induction readSteps cs with
  | case1 => cases h
  | case2 inner failure' hname =>
    cases h
    exact exact_of_readName viable_dot (fun c _ rest => isNameStart_of_reads) hname
  | case3 inner name rest hname failure' hrest ih =>
    cases h
    have hends := ends_of_readName hname
    obtain ⟨word, rfl, rfl⟩ := text_of_readName hname
    exact (ih hrest).behind (.name word) (fun _ => reads_linked (.name word)) hends
  | case4 => cases h
  | case5 inner failure' hbracket =>
    cases h
    exact exact_of_readBracket hbracket
  | case6 inner step rest hbracket failure' hrest ih =>
    cases h
    obtain ⟨segment, hlinked, rfl⟩ := linked_of_readBracket hbracket
    rw [hlinked]
    exact (ih hrest).behind segment (fun _ => reads_linked segment) (ends_takesIn_bracket hlinked)
  | case7 => cases h
  | case8 c rest hdot hbracket =>
    cases h
    refine exact_of_furthest [] (by simp) rfl ⟨⟨[], reads_linkedText []⟩, ?_⟩
    rintro d hd ⟨rest', hreads⟩
    cases hd
    obtain ⟨segments, hlinked⟩ := linkedText_of_reads hreads
    cases segments with
    | nil => cases hlinked
    | cons segment segments =>
      cases segment with
      | name word => exact hdot (List.cons.inj hlinked).1
      | index numeral => exact hbracket (List.cons.inj hlinked).1
      | key quoted => exact hbracket (List.cons.inj hlinked).1

/-! ## Whole paths -/

theorem reads_name (word : Name) (hafter : Ends isNamePart after) :
    Reads readPath (word.text ++ after) ↔ Reads readSteps after := by
  rw [Reads, readPath_name (readName_text word hafter)]
  exact exists_map_eq_ok_iff

/-- A path that begins with a bracket is read as steps from the first on. -/
theorem Exact.of_bracket (h : Exact (Reads readSteps) ('[' :: cs) failure) :
    Exact (Reads readPath) ('[' :: cs) failure := by
  have himp : ∀ front, Viable (Reads readSteps) ('[' :: front) →
      Viable (Reads readPath) ('[' :: front) := fun _ ⟨rest, hrest⟩ => ⟨rest, hrest⟩
  obtain ⟨read, htext, h⟩ := h
  refine ⟨read, htext, ?_⟩
  cases read with
  | nil =>
    -- The bracket is viable, so it is among what is read.
    split at h
    · obtain ⟨before, digits, hread, -⟩ := h
      exact absurd hread.symm (by simp)
    · exact absurd viable_bracket (h.2 '[' (by rw [List.nil_append] at htext; rw [← htext]; rfl))
  | cons c read =>
    obtain rfl : '[' = c := (List.cons.inj htext).1
    split
    · rename_i hreason
      rw [if_pos hreason] at h
      obtain ⟨before, digits, hread, hdigits, hmaximal, hbound, hbefore⟩ := h
      refine ⟨before, digits, hread, hdigits, hmaximal, hbound, ?_⟩
      cases before with
      | nil => exact himp [] hbefore
      | cons c before =>
        obtain rfl : '[' = c := (List.cons.inj hread).1
        exact himp _ hbefore
    · rename_i hreason
      rw [if_neg hreason] at h
      exact ⟨himp read h.1, fun c hc ⟨rest, hrest⟩ => h.2 c hc ⟨rest, hrest⟩⟩

theorem isNameStart_of_readPath {c : Char} (hc : c ≠ '[') (h : Reads readPath (c :: cs)) :
    isNameStart c = true := by
  obtain ⟨steps, h⟩ := h
  obtain ⟨⟨first, rest⟩, htext, -⟩ := text_of_readPath h
  cases first with
  | name word =>
    obtain ⟨rfl, -⟩ := List.cons.inj htext
    exact word.isNameStart_first
  | index numeral => exact absurd (List.cons.inj htext).1.symm hc
  | key quoted => exact absurd (List.cons.inj htext).1.symm hc

theorem exact_of_readPath (h : readPath cs = .error failure) :
    Exact (Reads readPath) cs failure := by
  have hnil : Viable (Reads readPath) [] :=
    ⟨['a'], (reads_name ⟨'a', [], by decide, List.forall_mem_nil _⟩ ends_nil).mpr
      (reads_linkedText [])⟩
  unfold readPath at h
  split at h
  · cases h
    exact exact_of_furthest [] (by simp) rfl ⟨hnil, by simp⟩
  · exact (exact_of_readSteps h).of_bracket
  · rename_i hbracket
    split at h
    · rename_i failure' hname
      cases h
      refine exact_of_readName hnil (fun c hc rest => isNameStart_of_readPath ?_) hname
      rintro rfl
      obtain ⟨after, rfl⟩ := List.head?_eq_some_iff.mp hc
      exact hbracket after rfl
    · rename_i name rest hname
      split at h
      · rename_i failure' hrest
        cases h
        have hends := ends_of_readName hname
        obtain ⟨word, rfl, rfl⟩ := text_of_readName hname
        exact (exact_of_readSteps hrest).behind (.name word) (fun _ => reads_name word) hends
      · cases h

/-- The expressions that are accepted, without the white space around them. -/
def Accepted (text : List Char) : Prop :=
  ∃ source path, parse source = .ok path ∧ Text.trim source.toList = text

theorem accepted_iff : Accepted text ↔ Reads readPath text := by
  constructor
  · rintro ⟨source, path, h, rfl⟩
    simp only [parse] at h
    split at h
    · cases h
    · rename_i steps hsteps
      exact ⟨steps, hsteps⟩
  · rintro ⟨steps, h⟩
    obtain ⟨derivation, rfl, rfl⟩ := text_of_readPath h
    have htext : derivation.text = (String.ofList derivation.text).toList := by
      rw [String.toList_ofList]
    refine ⟨_, _, parse_of_derivation htext, ?_⟩
    rw [← htext, derivation.trim_text]

/-- An error quotes the expression without the white space around it, and its position counts the
bytes that are read. Some accepted expression begins with what is read, and none goes on with the
next character. Only an index that does not fit 64 bits is read to the end of its digits. -/
theorem parse_error_exact {source : String} {error : PathError} (h : parse source = .error error) :
    let text := Text.trim source.toList
    ∃ read unread malformation, text = read ++ unread ∧
      error = .malformed (String.ofList text) (Text.byteLength read) malformation ∧
        if malformation = .indexTooLarge then Overflows Accepted read unread
        else Furthest Accepted read unread := by
  intro text
  have hlanguage : Accepted = Reads readPath := funext fun _ => propext accepted_iff
  simp only [parse] at h
  split at h
  · rename_i failure hfailure
    cases h
    obtain ⟨read, htext, hexact⟩ := exact_of_readPath hfailure
    have hposition : Text.byteLength (Text.trim source.toList) - Text.byteLength failure.unread =
        Text.byteLength read := by
      rw [htext, Text.byteLength_append, Nat.add_sub_cancel]
    exact ⟨read, failure.unread, failure.malformation, htext, by rw [hposition],
      hlanguage ▸ hexact⟩
  · cases h

/-- The position counts bytes and starts after the white space, and it comes after all the digits of
an index that does not fit. -/
theorem parse_error_after_dot_and_digits :
    (parse " é.[0]" = .error (.malformed "é.[0]" 3 .noName) ∧
        Viable Accepted ['é', '.'] ∧ ¬Viable Accepted ['é', '.', '[']) ∧
      parse "a[18446744073709551616x" =
          .error (.malformed "a[18446744073709551616x" 22 .indexTooLarge) ∧
        Overflows Accepted "a[18446744073709551616".toList ['x'] := by
  have hdot : parse " é.[0]" = .error (.malformed "é.[0]" 3 .noName) := by decide +kernel
  have hdigits : parse "a[18446744073709551616x" =
      .error (.malformed "a[18446744073709551616x" 22 .indexTooLarge) := by decide +kernel
  refine ⟨⟨hdot, ?_⟩, hdigits, ?_⟩
  · obtain ⟨read, unread, malformation, htext, herror, hexact⟩ := parse_error_exact hdot
    obtain ⟨-, hposition, rfl⟩ := PathError.malformed.inj herror
    have hread := Text.takeBytes?_append read unread
    rw [← htext, ← hposition] at hread
    obtain rfl : ['é', '.'] = read := Option.some.inj hread
    have hunread : ['é', '.'] ++ ['[', '0', ']'] = ['é', '.'] ++ unread := htext
    obtain rfl := List.append_cancel_left hunread
    exact ⟨hexact.1, hexact.2 '[' rfl⟩
  · obtain ⟨read, unread, malformation, htext, herror, hexact⟩ := parse_error_exact hdigits
    obtain ⟨-, hposition, rfl⟩ := PathError.malformed.inj herror
    have hread := Text.takeBytes?_append read unread
    rw [← htext, ← hposition] at hread
    obtain rfl : "a[18446744073709551616".toList = read := Option.some.inj hread
    have hunread : "a[18446744073709551616".toList ++ ['x'] =
        "a[18446744073709551616".toList ++ unread := htext
    obtain rfl := List.append_cancel_left hunread
    exact hexact

end SqlTemplate.Path
