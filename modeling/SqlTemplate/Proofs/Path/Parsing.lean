import Mathlib.Data.List.Basic
import Mathlib.Data.List.TakeWhile
import Mathlib.Tactic.Ring
import SqlTemplate.Proofs.Path.Grammar

/-!
# SqlTemplate.Proofs.Path.Parsing

The readers of paths against the grammar. Each reader answers a piece of the grammar with the rest
of the text after it, and finds whatever piece there is.

* `readSteps_linkedText`, `linkedText_of_readSteps`: steps are read to the end exactly where
  segments spell them.
* `Derivation.trim_text`: no white space is taken off what the grammar derives.
* `parse_iff_derivation`: an expression is a path if the grammar derives it without the white space
  around it, and the one derivation tells the steps.
-/

namespace SqlTemplate

namespace Text

/-- What is left of a text without the white space at its two ends. -/
structure Trims (source text : List Char) : Prop where
  within : ∃ before after, source = before ++ text ++ after ∧
    ∀ c ∈ before ++ after, Unicode.isWhiteSpace c = true
  head : ∀ c ∈ text.head?, Unicode.isWhiteSpace c = false
  last : ∀ c ∈ text.getLast?, Unicode.isWhiteSpace c = false

theorem trimStart_spec (cs : List Char) :
    (∃ before, cs = before ++ trimStart cs ∧ ∀ c ∈ before, Unicode.isWhiteSpace c = true) ∧
      ∀ c ∈ (trimStart cs).head?, Unicode.isWhiteSpace c = false := by
  refine ⟨⟨cs.takeWhile Unicode.isWhiteSpace, ?_, fun c hc => ?_⟩, ?_⟩
  · exact List.takeWhile_append_dropWhile.symm
  · exact List.mem_takeWhile_imp hc
  · exact Path.ends_dropWhile Unicode.isWhiteSpace cs

theorem trims_trim (cs : List Char) : Trims cs (trim cs) := by
  obtain ⟨⟨before, hbefore, hblank⟩, hhead⟩ := trimStart_spec cs
  obtain ⟨⟨after, hafter, hblank'⟩, hlast⟩ := trimStart_spec (trimStart cs).reverse
  have hsplit : trimStart cs = trim cs ++ after.reverse := by
    rw [trim, trimEnd, ← List.reverse_append, ← hafter, List.reverse_reverse]
  refine ⟨⟨before, after.reverse, ?_, ?_⟩, fun c hc => ?_, fun c hc => ?_⟩
  · rw [List.append_assoc, ← hsplit, ← hbefore]
  · simp only [List.mem_append, List.mem_reverse]
    rintro c (hc | hc)
    · exact hblank c hc
    · exact hblank' c hc
  · refine hhead c ?_
    rw [hsplit, List.head?_append, Option.mem_def.mp hc]
    rfl
  · refine hlast c ?_
    rwa [trim, trimEnd, List.getLast?_reverse] at hc

theorem trimStart_of_head? {cs : List Char}
    (h : ∀ c ∈ cs.head?, Unicode.isWhiteSpace c = false) : trimStart cs = cs := by
  cases cs with
  | nil => rfl
  | cons c cs => exact trimStart_of_head (h c rfl)

theorem trim_of_ends {cs : List Char} (hhead : ∀ c ∈ cs.head?, Unicode.isWhiteSpace c = false)
    (hlast : ∀ c ∈ cs.getLast?, Unicode.isWhiteSpace c = false) : trim cs = cs := by
  have hreverse : trimStart cs.reverse = cs.reverse := by
    refine trimStart_of_head? fun c hc => hlast c ?_
    rwa [List.head?_reverse] at hc
  rw [trim, trimStart_of_head? hhead, trimEnd, hreverse, List.reverse_reverse]

/-- A text in pieces ends like one of its pieces. -/
theorem getLast?_flatMap {α : Type} {pieces : List α} {text : α → List Char}
    (h : ∀ piece ∈ pieces, ∀ c ∈ (text piece).getLast?, Unicode.isWhiteSpace c = false) :
    ∀ c ∈ (pieces.flatMap text).getLast?, Unicode.isWhiteSpace c = false := by
  induction pieces with
  | nil => intro c hc; cases hc
  | cons piece rest ih =>
    intro c hc
    rw [List.flatMap_cons, List.getLast?_append, Option.mem_def, Option.or_eq_some_iff] at hc
    rcases hc with hc | ⟨-, hc⟩
    · exact ih (fun piece hpiece => h piece (List.mem_cons_of_mem _ hpiece)) c hc
    · exact h piece (List.mem_cons_self ..) c hc

end Text

namespace Path

variable {cs after : List Char}

theorem foldl_decimal (digits : List Char) (n : Nat) :
    digits.foldl (fun n c => 10 * n + (c.toNat - 48)) n =
      n * 10 ^ digits.length + placeValue digits := by
  induction digits generalizing n with
  | nil => simp [placeValue]
  | cons c cs ih =>
    have hzero : '0'.toNat = 48 := rfl
    rw [List.foldl_cons, ih, placeValue, List.length_cons, Nat.pow_succ, hzero]
    ring

theorem decimal_eq (digits : List Char) : decimal digits = placeValue digits := by
  rw [decimal, foldl_decimal, Nat.zero_mul, Nat.zero_add]

/-! ## Names -/

theorem readName_text (name : Name) (hafter : Ends isNamePart after) :
    readName (name.text ++ after) = .ok (String.ofList name.text, after) := by
  rw [Name.text, List.cons_append, readName, if_pos name.isNameStart_first,
    takeWhile_run name.isNamePart_others hafter, dropWhile_run name.isNamePart_others hafter]

theorem text_of_readName {name : String} (h : readName cs = .ok (name, after)) :
    ∃ word : Name, cs = word.text ++ after ∧ name = String.ofList word.text := by
  cases cs with
  | nil => cases h
  | cons c cs =>
    rw [readName] at h
    split at h
    · rename_i hstart
      cases h
      refine ⟨⟨c, cs.takeWhile isNamePart, isNameStart_eq_true_iff.mp hstart, fun d hd => ?_⟩,
        ?_, rfl⟩
      · exact isNamePart_eq_true_iff.mp (List.mem_takeWhile_imp hd)
      · rw [Name.text, List.cons_append, List.takeWhile_append_dropWhile]
    · cases h

theorem ends_of_readName {name : String} (h : readName cs = .ok (name, after)) :
    Ends isNamePart after := by
  cases cs with
  | nil => cases h
  | cons c cs =>
    rw [readName] at h
    split at h
    · cases h
      exact ends_dropWhile isNamePart cs
    · cases h

/-! ## Brackets -/

theorem closeBracket_eq_ok {step step' : Step} (h : closeBracket step cs = .ok (step', after)) :
    cs = ']' :: after ∧ step' = step := by
  unfold closeBracket at h
  split at h
  · cases h; exact ⟨rfl, rfl⟩
  · cases h

theorem readIndex_digits (numeral : Numeral) (hafter : Ends Char.isDigit after) :
    readIndex (numeral.digits ++ after) =
      closeBracket (.index (placeValue numeral.digits)) after := by
  have hbound : placeValue numeral.digits < indexBound := numeral.bounded
  simp only [readIndex, takeWhile_run numeral.isDigit_digits hafter,
    dropWhile_run numeral.isDigit_digits hafter, decimal_eq, if_pos hbound]

/-- The numeral that a text begins with. -/
def Numeral.ofDigits (c : Char) (cs : List Char) (hc : c.isDigit = true)
    (hbound : placeValue ((c :: cs).takeWhile Char.isDigit) < 2 ^ 64) : Numeral where
  digits := (c :: cs).takeWhile Char.isDigit
  nonempty := by rw [List.takeWhile_cons_of_pos hc]; exact List.cons_ne_nil _ _
  ascii _ hd := isDigit_eq_true_iff.mp (List.mem_takeWhile_imp hd)
  bounded := hbound

theorem digits_of_readIndex {c : Char} (hc : c.isDigit = true) {step : Step}
    (h : readIndex (c :: cs) = .ok (step, after)) :
    ∃ numeral : Numeral, c :: cs = numeral.digits ++ ']' :: after ∧
      step = .index (placeValue numeral.digits) := by
  simp only [readIndex, decimal_eq] at h
  split at h
  · rename_i hbound
    obtain ⟨hclose, rfl⟩ := closeBracket_eq_ok h
    refine ⟨.ofDigits c cs hc hbound, ?_, rfl⟩
    rw [← hclose]
    exact List.takeWhile_append_dropWhile.symm
  · cases h

theorem readKey_text (quoted : QuotedKey) :
    readKey quoted.quote (quoted.text ++ quoted.quote :: after) =
      closeBracket (.key (String.ofList quoted.text)) after := by
  have hstop : Ends (· != quoted.quote) (quoted.quote :: after) := ends_cons (by simp)
  rw [readKey, takeWhile_run quoted.ne_quote hstop, dropWhile_run quoted.ne_quote hstop]

/-- The key that a text begins with, up to the next quote. -/
def QuotedKey.upToQuote (quote : Char) (cs : List Char) (hquote : quote = '\'' ∨ quote = '"') :
    QuotedKey where
  quote := quote
  text := cs.takeWhile (· != quote)
  isQuote := hquote
  closes h := absurd (List.mem_takeWhile_imp h) (by simp)

theorem takeWhile_append_quote {quote c : Char} {rest : List Char}
    (h : cs.dropWhile (· != quote) = c :: rest) :
    cs.takeWhile (· != quote) ++ quote :: rest = cs := by
  have hends := ends_dropWhile (· != quote) cs c (by rw [h]; rfl)
  have hc : c = quote := by simpa only [bne_eq_false_iff_eq] using hends
  rw [← hc, ← h, hc, List.takeWhile_append_dropWhile]

theorem text_of_readKey {quote : Char} (hquote : quote = '\'' ∨ quote = '"') {step : Step}
    (h : readKey quote cs = .ok (step, after)) :
    ∃ quoted : QuotedKey,
      quote :: cs = quoted.quote :: (quoted.text ++ quoted.quote :: ']' :: after) ∧
        step = .key (String.ofList quoted.text) := by
  unfold readKey at h
  split at h
  · cases h
  · rename_i c rest hdrop
    obtain ⟨rfl, rfl⟩ := closeBracket_eq_ok h
    refine ⟨.upToQuote quote cs hquote, ?_, rfl⟩
    rw [QuotedKey.upToQuote, takeWhile_append_quote hdrop]

/-- A numeral begins with a digit, which is no quote, so the first character tells what there is in
a bracket. -/
theorem readBracket_index (numeral : Numeral) (hafter : Ends Char.isDigit after) :
    readBracket (numeral.digits ++ after) =
      closeBracket (.index (placeValue numeral.digits)) after := by
  have hread := readIndex_digits numeral hafter
  obtain ⟨c, cs, hdigits, hc⟩ := numeral.digits_eq_cons
  rw [hdigits, List.cons_append] at hread ⊢
  rw [readBracket, if_neg (isDigit_ne_quote hc), if_pos hc, hread]

theorem readBracket_key (quoted : QuotedKey) :
    readBracket (quoted.quote :: (quoted.text ++ quoted.quote :: after)) =
      closeBracket (.key (String.ofList quoted.text)) after := by
  rw [readBracket, if_pos quoted.isQuote, readKey_text]

theorem linked_of_readBracket {step : Step} (h : readBracket cs = .ok (step, after)) :
    ∃ segment : Segment, '[' :: cs = segment.linked ++ after ∧ step = segment.step := by
  cases cs with
  | nil => cases h
  | cons c cs =>
    rw [readBracket] at h
    split at h
    · rename_i hquote
      obtain ⟨quoted, heq, hstep⟩ := text_of_readKey hquote h
      exact ⟨.key quoted, by rw [Segment.linked_key, heq], hstep⟩
    · split at h
      · rename_i hdigit
        obtain ⟨numeral, heq, hstep⟩ := digits_of_readIndex hdigit h
        exact ⟨.index numeral, by rw [Segment.linked_index, heq], hstep⟩
      · cases h

/-! ## Steps to the end of the text -/

theorem readSteps_dot {name : String} (hname : readName cs = .ok (name, after)) :
    readSteps ('.' :: cs) = (readSteps after).map (.field name :: ·) := by
  rw [readSteps]
  split
  · rename_i heq; rw [hname] at heq; cases heq
  · rename_i heq; rw [hname] at heq; cases heq
    cases readSteps after <;> rfl

theorem readSteps_bracket {step : Step} (hstep : readBracket cs = .ok (step, after)) :
    readSteps ('[' :: cs) = (readSteps after).map (step :: ·) := by
  rw [readSteps]
  split
  · rename_i heq; rw [hstep] at heq; cases heq
  · rename_i heq; rw [hstep] at heq; cases heq
    cases readSteps after <;> rfl

/-- The characters that a segment would take in if they followed it. -/
def Segment.takesIn : Segment → Char → Bool
  | .name _ => isNamePart
  | .index _ => fun _ => false
  | .key _ => fun _ => false

theorem ends_takesIn (segment : Segment) (segments : List Segment) :
    Ends segment.takesIn (linkedText segments) := by
  cases segment with
  | name word => exact ends_linkedText segments
  | index numeral => exact fun _ _ => rfl
  | key quoted => exact fun _ _ => rfl

theorem readSteps_linked (segment : Segment) (hafter : Ends segment.takesIn after) :
    readSteps (segment.linked ++ after) = (readSteps after).map (segment.step :: ·) := by
  cases segment with
  | name word => exact readSteps_dot (readName_text word hafter)
  | index numeral =>
    rw [Segment.linked_index]
    exact readSteps_bracket (readBracket_index numeral (ends_cons (by decide)))
  | key quoted =>
    rw [Segment.linked_key]
    exact readSteps_bracket (readBracket_key quoted)

theorem readSteps_linkedText (segments : List Segment) :
    readSteps (linkedText segments) = .ok (segments.map Segment.step) := by
  induction segments with
  | nil => rw [linkedText, List.flatMap_nil, readSteps]; rfl
  | cons segment rest ih =>
    rw [linkedText_cons, readSteps_linked segment (ends_takesIn segment rest), ih]
    rfl

theorem linkedText_of_readSteps {steps : List Step} (h : readSteps cs = .ok steps) :
    ∃ segments, cs = linkedText segments ∧ steps = segments.map Segment.step := by
  fun_induction readSteps cs generalizing steps with
  | case1 => cases h; exact ⟨[], rfl, rfl⟩
  | case2 => cases h
  | case3 => cases h
  | case4 inner name rest hname steps hsteps ih =>
    cases h
    obtain ⟨word, rfl, rfl⟩ := text_of_readName hname
    obtain ⟨segments, rfl, rfl⟩ := ih hsteps
    exact ⟨.name word :: segments, rfl, rfl⟩
  | case5 => cases h
  | case6 => cases h
  | case7 inner step rest hstep steps hsteps ih =>
    cases h
    obtain ⟨segment, hlinked, rfl⟩ := linked_of_readBracket hstep
    obtain ⟨segments, rfl, rfl⟩ := ih hsteps
    exact ⟨segment :: segments, hlinked, rfl⟩
  | case8 => cases h

/-! ## White space

No segment begins or ends with white space, so nothing is trimmed from what the grammar derives. -/

theorem not_isWhiteSpace_of_isNamePart {c : Char} (h : isNamePart c = true) :
    Unicode.isWhiteSpace c = false := by
  have hall : ∀ n ∈ Unicode.InversionList.members Unicode.Contributory.whiteSpace,
      isNamePart (Char.ofNat n) = false := by decide +kernel
  by_contra hspace
  have hmem := Unicode.InversionList.mem_members rfl (Bool.eq_true_of_not_eq_false hspace)
  have hpart := hall c.toNat hmem
  rw [Char.ofNat_toNat, h] at hpart
  cases hpart

theorem isNamePart_of_isNameStart {c : Char} (h : isNameStart c = true) : isNamePart c = true := by
  rw [isNamePart_eq_true_iff]
  rcases isNameStart_eq_true_iff.mp h with h | h
  · exact .inl (Unicode.Recent.isAlphanumeric_of_isAlphabetic h)
  · exact .inr h

theorem Name.isNamePart_text (name : Name) : ∀ c ∈ name.text, isNamePart c = true := by
  intro c hc
  rcases List.mem_cons.mp hc with rfl | hc
  · exact isNamePart_of_isNameStart name.isNameStart_first
  · exact name.isNamePart_others c hc

theorem Name.getLast?_text (name : Name) :
    ∀ c ∈ name.text.getLast?, Unicode.isWhiteSpace c = false :=
  fun c hc => not_isWhiteSpace_of_isNamePart (name.isNamePart_text c (List.mem_of_getLast? hc))

theorem getLast?_bracket {front : List Char} :
    ∀ c ∈ (front ++ [']']).getLast?, Unicode.isWhiteSpace c = false := by
  intro c hc
  rw [List.getLast?_concat] at hc
  obtain rfl := Option.some.inj hc
  decide

theorem Segment.getLast?_linked (segment : Segment) :
    ∀ c ∈ segment.linked.getLast?, Unicode.isWhiteSpace c = false := by
  intro c hc
  cases segment with
  | name word =>
    rw [linked, Name.text, List.getLast?_cons_of_ne_nil (List.cons_ne_nil _ _)] at hc
    exact word.getLast?_text c hc
  | index numeral => exact getLast?_bracket c hc
  | key quoted =>
    rw [linked, text, List.append_cons] at hc
    exact getLast?_bracket c hc

theorem getLast?_linkedText (segments : List Segment) :
    ∀ c ∈ (linkedText segments).getLast?, Unicode.isWhiteSpace c = false :=
  Text.getLast?_flatMap fun segment _ => segment.getLast?_linked

/-! ## Whole paths -/

theorem readPath_name {name : String} (hname : readName cs = .ok (name, after)) :
    readPath cs = (readSteps after).map (.field name :: ·) := by
  unfold readPath
  split
  · cases hname
  · cases hname
  · rw [hname]
    simp only
    cases readSteps after <;> rfl

theorem readPath_text (derivation : Derivation) :
    readPath derivation.text = .ok derivation.steps := by
  obtain ⟨first, rest⟩ := derivation
  cases first with
  | name word =>
    rw [Derivation.text, Segment.text, readPath_name (readName_text word (ends_linkedText rest)),
      readSteps_linkedText]
    rfl
  | index numeral => exact readSteps_linkedText (.index numeral :: rest)
  | key quoted => exact readSteps_linkedText (.key quoted :: rest)

theorem text_of_readPath {steps : List Step} (h : readPath cs = .ok steps) :
    ∃ derivation : Derivation, derivation.text = cs ∧ derivation.steps = steps := by
  unfold readPath at h
  split at h
  · cases h
  · obtain ⟨segments, heq, rfl⟩ := linkedText_of_readSteps h
    cases segments with
    | nil => cases heq
    | cons first rest =>
      refine ⟨⟨first, rest⟩, ?_, rfl⟩
      rw [heq]
      cases first with
      | name word => cases (List.cons.inj heq).1
      | index numeral => rfl
      | key quoted => rfl
  · split at h
    · cases h
    · rename_i name rest hname
      split at h
      · cases h
      · rename_i steps hsteps
        cases h
        obtain ⟨word, rfl, rfl⟩ := text_of_readName hname
        obtain ⟨segments, rfl, rfl⟩ := linkedText_of_readSteps hsteps
        exact ⟨⟨.name word, segments⟩, rfl, rfl⟩

/-- An accepted expression has a derivation. -/
theorem derivation_of_parse {source : String} {path : Path} (h : parse source = .ok path) :
    ∃ derivation : Derivation, derivation.text = path.expression.toList ∧
      derivation.steps = path.steps := by
  simp only [parse] at h
  split at h
  · cases h
  · rename_i steps hsteps
    cases h
    obtain ⟨derivation, htext, hsteps⟩ := text_of_readPath hsteps
    exact ⟨derivation, by rw [String.toList_ofList, htext], hsteps⟩

namespace Derivation

theorem text_ne_nil (derivation : Derivation) : derivation.text ≠ [] := by
  obtain ⟨first, rest⟩ := derivation
  cases first <;> exact List.cons_ne_nil _ _

/-- The text after a join: a name gets a dot, and a bracket stays as it is. -/
theorem linkedText_segments (derivation : Derivation) :
    linkedText (derivation.first :: derivation.rest) =
      if derivation.text.head? = some '[' then derivation.text else '.' :: derivation.text := by
  obtain ⟨first, rest⟩ := derivation
  cases first with
  | name word =>
    exact (if_neg (word.head?_ne_bracket (linkedText rest))).symm
  | index numeral => exact (if_pos rfl).symm
  | key quoted => exact (if_pos rfl).symm

theorem head?_text (derivation : Derivation) :
    ∀ c ∈ derivation.text.head?, Unicode.isWhiteSpace c = false := by
  intro c hc
  obtain ⟨first, rest⟩ := derivation
  cases first with
  | name word =>
    obtain rfl := Option.some.inj hc
    exact not_isWhiteSpace_of_isNamePart (isNamePart_of_isNameStart word.isNameStart_first)
  | index numeral => obtain rfl := Option.some.inj hc; decide
  | key quoted => obtain rfl := Option.some.inj hc; decide

theorem trim_text (derivation : Derivation) : Text.trim derivation.text = derivation.text := by
  refine Text.trim_of_ends derivation.head?_text fun c hc => ?_
  have hlast := getLast?_linkedText (derivation.first :: derivation.rest) c
  rw [linkedText_segments] at hlast
  split at hlast
  · exact hlast hc
  · rw [List.getLast?_cons_of_ne_nil derivation.text_ne_nil] at hlast
    exact hlast hc

end Derivation

theorem parse_of_derivation {derivation : Derivation} {expression : String}
    (h : derivation.text = expression.toList) :
    parse expression = .ok ⟨expression, derivation.steps⟩ := by
  simp only [parse]
  rw [← h, derivation.trim_text, readPath_text, h, String.ofList_toList]

/-- An expression is a path exactly if the grammar derives it without the white space around it.
There is one derivation then, and the path has its text and its steps. -/
theorem parse_iff_derivation (source : String) :
    let text := Text.trim source.toList
    Text.Trims source.toList text ∧
      (∀ path, parse source = .ok path ↔
        ∃ derivation : Derivation, derivation.text = text ∧
          path = ⟨String.ofList text, derivation.steps⟩) ∧
      ∀ derivation derivation' : Derivation,
        derivation.text = text → derivation'.text = text → derivation = derivation' := by
  intro text
  refine ⟨Text.trims_trim source.toList, fun path => ?_, fun derivation derivation' h h' => ?_⟩
  · constructor
    · intro h
      simp only [parse] at h
      split at h
      · cases h
      · rename_i steps hsteps
        cases h
        obtain ⟨derivation, htext, rfl⟩ := text_of_readPath hsteps
        exact ⟨derivation, htext, rfl⟩
    · rintro ⟨derivation, htext, rfl⟩
      have hread := readPath_text derivation
      rw [htext] at hread
      simp only [parse]
      rw [show readPath (Text.trim source.toList) = .ok derivation.steps from hread]
  · exact Derivation.text_injective (h.trans h'.symm)

/-- Zeros before an index do not count, and a key may hold what would end it without the quotes. -/
theorem parse_zeros_and_quotes :
    let derivation : Derivation :=
      ⟨.name ⟨'a', [], by decide, List.forall_mem_nil _⟩,
        [.index ⟨['0', '7'], by decide, by simp, by decide⟩,
          .key ⟨'"', ['.', ']', '\''], by decide, by decide⟩]⟩
    parse " a[07][\".]'\"] " = .ok ⟨"a[07][\".]'\"]", [.field "a", .index 7, .key ".]'"]⟩ ∧
      ∀ other : Derivation, other.text = "a[07][\".]'\"]".toList → other = derivation := by
  intro derivation
  have htrim : Text.trim " a[07][\".]'\"] ".toList = "a[07][\".]'\"]".toList := by decide
  obtain ⟨_, haccepts, hunique⟩ := parse_iff_derivation " a[07][\".]'\"] "
  rw [htrim] at haccepts hunique
  exact ⟨(haccepts _).mpr ⟨derivation, rfl, rfl⟩, fun other h => hunique other derivation h rfl⟩

end Path

end SqlTemplate
