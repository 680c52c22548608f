import Mathlib.Algebra.Group.Nat.Defs
import SqlTemplate.Path.Basic

/-!
# SqlTemplate.Proofs.Path.Grammar

The grammar of property paths, apart from how they are read:

    path    ::= segment ("." name | bracket)*
    segment ::= name | bracket
    bracket ::= "[" numeral "]" | "[" quote text quote "]"

A derivation says which rules spell a path. It has a text and it has steps, and `text_injective`
says that no two derivations share their text.
-/

namespace SqlTemplate.Path

@[ext]
structure Name where
  first : Char
  others : List Char
  starts : Unicode.Recent.isAlphabetic first = true ∨ first = '_' ∨ first = '$'
  continues : ∀ c ∈ others, Unicode.Recent.isAlphanumeric c = true ∨ c = '_' ∨ c = '$'

/-- The number that decimal digits stand for, each counting by its place. -/
def placeValue : List Char → Nat
  | [] => 0
  | digit :: rest => (digit.toNat - '0'.toNat) * 10 ^ rest.length + placeValue rest

/-- Leading zeros are allowed. -/
@[ext]
structure Numeral where
  digits : List Char
  nonempty : digits ≠ []
  ascii : ∀ c ∈ digits, '0' ≤ c ∧ c ≤ '9'
  bounded : placeValue digits < 2 ^ 64

/-- The text between the quotes is whatever is no such quote, the other kind of quote included. -/
@[ext]
structure QuotedKey where
  quote : Char
  text : List Char
  isQuote : quote = '\'' ∨ quote = '"'
  closes : quote ∉ text

inductive Segment where
  | name (word : Name)
  | index (numeral : Numeral)
  | key (quoted : QuotedKey)

@[ext]
structure Derivation where
  first : Segment
  rest : List Segment

def Name.text (name : Name) : List Char :=
  name.first :: name.others

namespace Segment

def text : Segment → List Char
  | .name word => word.text
  | .index numeral => '[' :: numeral.digits ++ [']']
  | .key quoted => '[' :: quoted.quote :: quoted.text ++ [quoted.quote, ']']

/-- The text of a segment that follows another. -/
def linked : Segment → List Char
  | .name word => '.' :: word.text
  | .index numeral => (Segment.index numeral).text
  | .key quoted => (Segment.key quoted).text

theorem linked_index (numeral : Numeral) (after : List Char) :
    (index numeral).linked ++ after = '[' :: (numeral.digits ++ ']' :: after) := by
  simp [linked, text]

theorem linked_key (quoted : QuotedKey) (after : List Char) :
    (key quoted).linked ++ after =
      '[' :: quoted.quote :: (quoted.text ++ quoted.quote :: ']' :: after) := by
  simp [linked, text]

def step : Segment → Step
  | .name word => .field (String.ofList word.text)
  | .index numeral => .index (placeValue numeral.digits)
  | .key quoted => .key (String.ofList quoted.text)

end Segment

/-- The text of segments that follow another. -/
def linkedText (segments : List Segment) : List Char :=
  segments.flatMap Segment.linked

theorem linkedText_cons (segment : Segment) (rest : List Segment) :
    linkedText (segment :: rest) = segment.linked ++ linkedText rest :=
  List.flatMap_cons

namespace Derivation

def text (derivation : Derivation) : List Char :=
  derivation.first.text ++ linkedText derivation.rest

def steps (derivation : Derivation) : List Step :=
  (derivation.first :: derivation.rest).map Segment.step

end Derivation

/-! ## Where a run of characters ends -/

section Run

variable {p : Char → Bool} {run run' after after' : List Char}

/-- The characters that satisfy `p` do not go on in `after`. -/
def Ends (p : Char → Bool) (after : List Char) : Prop :=
  ∀ c ∈ after.head?, p c = false

theorem ends_nil : Ends p [] := by
  simp [Ends]

theorem ends_cons {c : Char} (h : p c = false) : Ends p (c :: after) := by
  simp [Ends, h]

theorem takeWhile_run (hrun : ∀ c ∈ run, p c = true) (hafter : Ends p after) :
    (run ++ after).takeWhile p = run := by
  rw [List.takeWhile_append_of_pos hrun]
  cases after with
  | nil => simp
  | cons c cs =>
    have hc : p c = false := hafter c rfl
    rw [List.takeWhile_cons_of_neg (by simp [hc]), List.append_nil]

theorem dropWhile_run (hrun : ∀ c ∈ run, p c = true) (hafter : Ends p after) :
    (run ++ after).dropWhile p = after := by
  rw [List.dropWhile_append_of_pos hrun]
  cases after with
  | nil => rfl
  | cons c cs =>
    have hc : p c = false := hafter c rfl
    exact List.dropWhile_cons_of_neg (by simp [hc])

theorem run_unique (h : run ++ after = run' ++ after') (hrun : ∀ c ∈ run, p c = true)
    (hrun' : ∀ c ∈ run', p c = true) (hafter : Ends p after) (hafter' : Ends p after') :
    run = run' ∧ after = after' := by
  constructor
  · rw [← takeWhile_run hrun hafter, h, takeWhile_run hrun' hafter']
  · rw [← dropWhile_run hrun hafter, h, dropWhile_run hrun' hafter']

theorem ends_dropWhile (p : Char → Bool) (cs : List Char) : Ends p (cs.dropWhile p) := by
  intro c hc
  have h := List.head?_dropWhile_not p cs
  rw [Option.mem_def.mp hc] at h
  exact h

end Run

/-! ## Characters of the grammar -/

theorem isNameStart_eq_true_iff {c : Char} :
    isNameStart c = true ↔ Unicode.Recent.isAlphabetic c = true ∨ c = '_' ∨ c = '$' := by
  simp only [isNameStart, Bool.or_eq_true, beq_iff_eq]
  exact or_comm

theorem isNamePart_eq_true_iff {c : Char} :
    isNamePart c = true ↔ Unicode.Recent.isAlphanumeric c = true ∨ c = '_' ∨ c = '$' := by
  simp only [isNamePart, Bool.or_eq_true, beq_iff_eq]
  exact or_comm

theorem isDigit_eq_true_iff {c : Char} : c.isDigit = true ↔ '0' ≤ c ∧ c ≤ '9' := by
  simp [Char.isDigit, Char.le_def]

theorem isNameStart_ne_bracket {c : Char} (h : isNameStart c = true) : c ≠ '[' := by
  rintro rfl
  exact absurd h (by decide)

theorem isDigit_ne_quote {c : Char} (h : c.isDigit = true) : ¬(c = '\'' ∨ c = '"') := by
  rintro (rfl | rfl) <;> exact absurd h (by decide)

/-! ## Derivations are unique -/

theorem Name.isNameStart_first (name : Name) : isNameStart name.first = true :=
  isNameStart_eq_true_iff.mpr name.starts

theorem Name.isNamePart_others (name : Name) : ∀ c ∈ name.others, isNamePart c = true :=
  fun c hc => isNamePart_eq_true_iff.mpr (name.continues c hc)

theorem Numeral.isDigit_digits (numeral : Numeral) : ∀ c ∈ numeral.digits, c.isDigit = true :=
  fun c hc => isDigit_eq_true_iff.mpr (numeral.ascii c hc)

theorem Numeral.digits_eq_cons (numeral : Numeral) :
    ∃ c cs, numeral.digits = c :: cs ∧ c.isDigit = true := by
  obtain ⟨c, cs, hcons⟩ := List.exists_cons_of_ne_nil numeral.nonempty
  exact ⟨c, cs, hcons, numeral.isDigit_digits c (hcons ▸ List.mem_cons_self ..)⟩

theorem QuotedKey.ne_quote (quoted : QuotedKey) :
    ∀ c ∈ quoted.text, (c != quoted.quote) = true := by
  intro c hc
  rw [bne_iff_ne]
  rintro rfl
  exact quoted.closes hc

theorem ends_linkedText (segments : List Segment) : Ends isNamePart (linkedText segments) := by
  cases segments with
  | nil => exact ends_nil
  | cons segment rest => cases segment <;> exact ends_cons (by decide)

section Unique

variable {after after' : List Char}

theorem Name.text_unique {name name' : Name} (h : name.text ++ after = name'.text ++ after')
    (hafter : Ends isNamePart after) (hafter' : Ends isNamePart after') :
    name = name' ∧ after = after' := by
  obtain ⟨hfirst, hrest⟩ := List.cons.inj h
  obtain ⟨hothers, rfl⟩ :=
    run_unique hrest name.isNamePart_others name'.isNamePart_others hafter hafter'
  exact ⟨Name.ext hfirst hothers, rfl⟩

theorem Numeral.digits_unique {numeral numeral' : Numeral}
    (h : numeral.digits ++ ']' :: after = numeral'.digits ++ ']' :: after') :
    numeral = numeral' ∧ after = after' := by
  obtain ⟨hdigits, hafter⟩ := run_unique h numeral.isDigit_digits numeral'.isDigit_digits
    (ends_cons (by decide)) (ends_cons (by decide))
  exact ⟨Numeral.ext hdigits, (List.cons.inj hafter).2⟩

theorem QuotedKey.text_unique {quoted quoted' : QuotedKey}
    (hquote : quoted.quote = quoted'.quote)
    (h : quoted.text ++ quoted.quote :: after = quoted'.text ++ quoted'.quote :: after') :
    quoted = quoted' ∧ after = after' := by
  obtain ⟨htext, hafter⟩ := run_unique h quoted.ne_quote (hquote ▸ quoted'.ne_quote)
    (ends_cons (by simp)) (ends_cons (by simp [hquote]))
  exact ⟨QuotedKey.ext hquote htext, (List.cons.inj hafter).2⟩

/-- A numeral does not begin with a quote. -/
theorem digits_ne_quote (numeral : Numeral) (quoted : QuotedKey) {text text' : List Char} :
    numeral.digits ++ text ≠ quoted.quote :: text' := by
  obtain ⟨c, cs, hdigits, hc⟩ := numeral.digits_eq_cons
  rw [hdigits, List.cons_append]
  intro h
  exact isDigit_ne_quote hc ((List.cons.inj h).1 ▸ quoted.isQuote)

theorem Segment.linked_unique {segment segment' : Segment}
    (h : segment.linked ++ after = segment'.linked ++ after')
    (hafter : Ends isNamePart after) (hafter' : Ends isNamePart after') :
    segment = segment' ∧ after = after' := by
  cases segment with
  | name word =>
    cases segment' with
    | name word' =>
      obtain ⟨rfl, rfl⟩ := Name.text_unique (List.cons.inj h).2 hafter hafter'
      exact ⟨rfl, rfl⟩
    | index numeral' => cases (List.cons.inj h).1
    | key quoted' => cases (List.cons.inj h).1
  | index numeral =>
    cases segment' with
    | name word' => cases (List.cons.inj h).1
    | index numeral' =>
      rw [linked_index, linked_index] at h
      obtain ⟨rfl, rfl⟩ := Numeral.digits_unique (List.cons.inj h).2
      exact ⟨rfl, rfl⟩
    | key quoted' =>
      rw [linked_index, linked_key] at h
      exact absurd (List.cons.inj h).2 (digits_ne_quote numeral quoted')
  | key quoted =>
    cases segment' with
    | name word' => cases (List.cons.inj h).1
    | index numeral' =>
      rw [linked_key, linked_index] at h
      exact absurd (List.cons.inj h).2.symm (digits_ne_quote numeral' quoted)
    | key quoted' =>
      rw [linked_key, linked_key] at h
      obtain ⟨hquote, hinner⟩ := List.cons.inj (List.cons.inj h).2
      obtain ⟨rfl, hrest⟩ := QuotedKey.text_unique hquote hinner
      exact ⟨rfl, (List.cons.inj hrest).2⟩

end Unique

theorem linkedText_injective {segments segments' : List Segment}
    (h : linkedText segments = linkedText segments') : segments = segments' := by
  induction segments generalizing segments' with
  | nil =>
    cases segments' with
    | nil => rfl
    | cons segment' rest' => cases segment' <;> cases h
  | cons segment rest ih =>
    cases segments' with
    | nil => cases segment <;> cases h
    | cons segment' rest' =>
      obtain ⟨rfl, hrest⟩ :=
        Segment.linked_unique h (ends_linkedText rest) (ends_linkedText rest')
      rw [ih hrest]

/-- A path that begins with a name does not begin with a bracket. -/
theorem Name.head?_ne_bracket (name : Name) (text : List Char) :
    (name.text ++ text).head? ≠ some '[' :=
  fun h => isNameStart_ne_bracket name.isNameStart_first (Option.some.inj h)

theorem Name.text_ne_bracket (name : Name) {text text' : List Char} :
    name.text ++ text ≠ '[' :: text' :=
  fun h => name.head?_ne_bracket text (by rw [h]; rfl)

/-- Without the dot before a name, its first character still tells it from a bracket. -/
theorem Derivation.text_injective {derivation derivation' : Derivation}
    (h : derivation.text = derivation'.text) : derivation = derivation' := by
  obtain ⟨first, rest⟩ := derivation
  obtain ⟨first', rest'⟩ := derivation'
  have hlinked : first.linked ++ linkedText rest = first'.linked ++ linkedText rest' := by
    cases first with
    | name word =>
      cases first' with
      | name word' => exact congrArg ('.' :: ·) h
      | index numeral' => exact absurd h word.text_ne_bracket
      | key quoted' => exact absurd h word.text_ne_bracket
    | index numeral =>
      cases first' with
      | name word' => exact absurd h.symm word'.text_ne_bracket
      | index numeral' => exact h
      | key quoted' => exact h
    | key quoted =>
      cases first' with
      | name word' => exact absurd h.symm word'.text_ne_bracket
      | index numeral' => exact h
      | key quoted' => exact h
  obtain ⟨rfl, hrest⟩ :=
    Segment.linked_unique hlinked (ends_linkedText rest) (ends_linkedText rest')
  rw [linkedText_injective hrest]

end SqlTemplate.Path
