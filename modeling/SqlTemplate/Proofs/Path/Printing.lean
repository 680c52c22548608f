import SqlTemplate.Proofs.Path.Parsing

/-!
# SqlTemplate.Proofs.Path.Printing

Printing the steps of a path and reading them back. Indexes are printed without leading zeros and
keys between single quotes, so a key with a single quote in it is not read back.

* `exists_segment_of_printable`: a spelling of a step that is its own printed text.
* `printable_of_linkedText_eq`: segments that are spelled as their steps are printed.
* `parse_printed`: which printed paths are read back as the same steps.
-/

namespace SqlTemplate.Path

/-- The texts of the steps, one after the other. -/
def shown (steps : List Step) : List Char :=
  steps.flatMap fun step => step.text.toList

/-- A name at the start is printed without the dot before it. -/
def printed (steps : List Step) : String :=
  match steps with
  | .field _ :: _ => String.ofList (shown steps).tail
  | _ => String.ofList (shown steps)

/-- A key that can be printed between single quotes. -/
def Step.Printable : Step → Prop
  | .key name => '\'' ∉ name.toList
  | _ => True

theorem shown_cons (step : Step) (rest : List Step) :
    shown (step :: rest) = step.text.toList ++ shown rest :=
  List.flatMap_cons

/-! ## One step -/

theorem toList_text_field (name : String) :
    (Step.field name).text.toList = '.' :: name.toList := by
  simp [Step.text]

theorem toList_text_index (n : Nat) :
    (Step.index n).text.toList = '[' :: Nat.toDigits 10 n ++ [']'] := by
  simp [Step.text]

theorem toList_text_key (name : String) :
    (Step.key name).text.toList = '[' :: '\'' :: name.toList ++ ['\'', ']'] := by
  simp [Step.text]

theorem isDigit_toDigits (n : Nat) : ∀ c ∈ Nat.toDigits 10 n, c.isDigit = true :=
  fun _ hc => Nat.isDigit_of_mem_toDigits (by decide) (by decide) hc

theorem placeValue_toDigits (n : Nat) : placeValue (Nat.toDigits 10 n) = n := by
  rw [← decimal_eq]
  exact Nat.ofDigitChars_ten_toDigits

/-- The numeral without leading zeros. -/
def Numeral.canonical (n : Nat) (h : n < 2 ^ 64) : Numeral where
  digits := Nat.toDigits 10 n
  nonempty := Nat.toDigits_ne_nil
  ascii c hc := isDigit_eq_true_iff.mp (isDigit_toDigits n c hc)
  bounded := by rwa [placeValue_toDigits]

theorem exists_segment_of_printable (segment : Segment) (h : segment.step.Printable) :
    ∃ segment' : Segment, segment'.step = segment.step ∧
      segment'.linked = segment.step.text.toList := by
  cases segment with
  | name word => exact ⟨.name word, rfl, by simp [Segment.linked, Segment.step, Step.text]⟩
  | index numeral =>
    refine ⟨.index (.canonical (placeValue numeral.digits) numeral.bounded), ?_, ?_⟩
    · simp [Segment.step, Numeral.canonical, placeValue_toDigits]
    · rw [Segment.step, toList_text_index]
      rfl
  | key quoted =>
    rw [Segment.step, Step.Printable, String.toList_ofList] at h
    refine ⟨.key ⟨'\'', quoted.text, .inl rfl, h⟩, rfl, ?_⟩
    rw [Segment.step, toList_text_key, String.toList_ofList]
    rfl

/-! ## Steps one after the other -/

theorem exists_segments_of_printable (segments : List Segment)
    (h : ∀ step ∈ segments.map Segment.step, step.Printable) :
    ∃ segments' : List Segment, segments'.map Segment.step = segments.map Segment.step ∧
      linkedText segments' = shown (segments.map Segment.step) := by
  induction segments with
  | nil => exact ⟨[], rfl, rfl⟩
  | cons segment rest ih =>
    rw [List.map_cons, List.forall_mem_cons] at h
    obtain ⟨segment', hstep, hlinked⟩ := exists_segment_of_printable segment h.1
    obtain ⟨rest', hsteps, htext⟩ := ih h.2
    refine ⟨segment' :: rest', ?_, ?_⟩
    · rw [List.map_cons, List.map_cons, hstep, hsteps]
    · rw [linkedText_cons, List.map_cons, shown_cons, hlinked, htext]

/-- Where the spelling and the printed text agree, every quote is a single quote. -/
theorem printable_of_linkedText_eq {segments : List Segment}
    (h : linkedText segments = shown (segments.map Segment.step)) :
    ∀ step ∈ segments.map Segment.step, step.Printable := by
  induction segments with
  | nil => exact List.forall_mem_nil _
  | cons segment rest ih =>
    rw [linkedText_cons, List.map_cons, shown_cons] at h
    rw [List.map_cons, List.forall_mem_cons]
    cases segment with
    | name word =>
      rw [Segment.step, toList_text_field, String.toList_ofList] at h
      exact ⟨trivial, ih (List.append_cancel_left h)⟩
    | index numeral =>
      rw [Segment.step, toList_text_index, Segment.linked_index, List.append_assoc] at h
      have hend : ∀ after, Ends Char.isDigit (']' :: after) := fun _ => ends_cons (by decide)
      obtain ⟨-, hrest⟩ := run_unique (List.cons.inj h).2 numeral.isDigit_digits
        (isDigit_toDigits _) (hend _) (hend _)
      exact ⟨trivial, ih (List.cons.inj hrest).2⟩
    | key quoted =>
      rw [Segment.step, toList_text_key, Segment.linked_key, String.toList_ofList] at h
      obtain ⟨hquote, htext⟩ := List.cons.inj (List.cons.inj h).2
      refine ⟨?_, ih ?_⟩
      · rw [Segment.step, Step.Printable, String.toList_ofList, ← hquote]
        exact quoted.closes
      · have hafter := List.append_cancel_left (htext.trans (List.append_assoc ..))
        exact (List.cons.inj (List.cons.inj hafter).2).2

/-! ## The last character -/

theorem Segment.getLast?_text_step (segment : Segment) :
    ∀ c ∈ segment.step.text.toList.getLast?, Unicode.isWhiteSpace c = false := by
  intro c hc
  cases segment with
  | name word =>
    rw [step, toList_text_field, String.toList_ofList, Name.text,
      List.getLast?_cons_of_ne_nil (List.cons_ne_nil _ _)] at hc
    exact word.getLast?_text c hc
  | index numeral =>
    rw [step, toList_text_index] at hc
    exact getLast?_bracket c hc
  | key quoted =>
    rw [step, toList_text_key, List.append_cons] at hc
    exact getLast?_bracket c hc

/-! ## Whole paths -/

namespace Derivation

theorem getLast?_shown (derivation : Derivation) :
    ∀ c ∈ (shown derivation.steps).getLast?, Unicode.isWhiteSpace c = false := by
  refine Text.getLast?_flatMap fun step hstep => ?_
  obtain ⟨segment, -, rfl⟩ := List.mem_map.mp hstep
  exact segment.getLast?_text_step

theorem head?_printed (derivation : Derivation) :
    (printed derivation.steps).toList.head? = derivation.text.head? := by
  obtain ⟨first, rest⟩ := derivation
  cases first <;>
    simp [printed, steps, text, Segment.step, Segment.text, Name.text, shown_cons,
      toList_text_field, toList_text_index, toList_text_key]

/-- A path is spelled and printed with the same first character, so both lack the same dot. -/
theorem shown_steps (derivation : Derivation) :
    shown derivation.steps =
      if derivation.text.head? = some '[' then (printed derivation.steps).toList
      else '.' :: (printed derivation.steps).toList := by
  obtain ⟨first, rest⟩ := derivation
  cases first with
  | name word =>
    rw [text, Segment.text, if_neg (word.head?_ne_bracket (linkedText rest))]
    simp [printed, steps, Segment.step, shown_cons, toList_text_field]
  | index numeral => simp [printed, steps, text, Segment.step, Segment.text]
  | key quoted => simp [printed, steps, text, Segment.step, Segment.text]

theorem text_eq_printed_iff (derivation : Derivation) :
    derivation.text = (printed derivation.steps).toList ↔
      linkedText (derivation.first :: derivation.rest) = shown derivation.steps := by
  rw [linkedText_segments, shown_steps]
  split
  · exact Iff.rfl
  · exact (List.cons_inj_right '.').symm

theorem trim_printed (derivation : Derivation) :
    Text.trim (printed derivation.steps).toList = (printed derivation.steps).toList := by
  refine Text.trim_of_ends (fun c hc => derivation.head?_text c ?_) fun c hc => ?_
  · rwa [head?_printed] at hc
  · have hlast := derivation.getLast?_shown c
    rw [shown_steps] at hlast
    split at hlast
    · exact hlast hc
    · have hne : (printed derivation.steps).toList ≠ [] := by
        intro hnil
        have hhead := derivation.head?_printed
        rw [hnil] at hhead
        exact derivation.text_ne_nil (List.head?_eq_none_iff.mp hhead.symm)
      rw [List.getLast?_cons_of_ne_nil hne] at hlast
      exact hlast hc

end Derivation

theorem printable_iff (steps : List Step) :
    (∀ step ∈ steps, step.Printable) ↔ ∀ name, .key name ∈ steps → '\'' ∉ name.toList := by
  constructor
  · exact fun h name hname => h (.key name) hname
  · intro h step hstep
    cases step with
    | field name => trivial
    | index n => trivial
    | key name => exact h name hstep

theorem Derivation.parse_printed_eq_ok_iff (derivation : Derivation) :
    (∃ path, parse (printed derivation.steps) = .ok path ∧ path.steps = derivation.steps) ↔
      ∀ step ∈ derivation.steps, step.Printable := by
  constructor
  · rintro ⟨path, hparse, hsteps⟩
    obtain ⟨derivation', htext', hsteps'⟩ := derivation_of_parse hparse
    rw [expression_of_parse hparse, String.toList_ofList, derivation.trim_printed] at htext'
    rw [← hsteps, ← hsteps'] at htext' ⊢
    exact printable_of_linkedText_eq (derivation'.text_eq_printed_iff.mp htext')
  · intro hprintable
    obtain ⟨segments, hsteps, htext⟩ := exists_segments_of_printable _ hprintable
    cases segments with
    | nil => cases hsteps
    | cons first rest =>
      let derivation' : Derivation := ⟨first, rest⟩
      have hsteps' : derivation'.steps = derivation.steps := hsteps
      have htext' : derivation'.text = (printed derivation.steps).toList := by
        rw [← hsteps', derivation'.text_eq_printed_iff, hsteps']
        exact htext
      exact ⟨_, parse_of_derivation htext', hsteps'⟩

/-- The steps of a path that is read are printed and read back as the same steps exactly if there is
no single quote in a key. If there is one, the printed text is refused or read as other steps. -/
theorem parse_printed {source : String} {path : Path} (h : parse source = .ok path) :
    ((∃ path', parse (printed path.steps) = .ok path' ∧ path'.steps = path.steps) ↔
        ∀ name, .key name ∈ path.steps → '\'' ∉ name.toList) ∧
      ((∃ name, .key name ∈ path.steps ∧ '\'' ∈ name.toList) →
        (∃ error, parse (printed path.steps) = .error error) ∨
          ∃ path', parse (printed path.steps) = .ok path' ∧ path'.steps ≠ path.steps) := by
  obtain ⟨derivation, -, hsteps⟩ := derivation_of_parse h
  have hiff := derivation.parse_printed_eq_ok_iff
  rw [printable_iff, hsteps] at hiff
  refine ⟨hiff, ?_⟩
  rintro ⟨name, hname, hquote⟩
  cases hparse : parse (printed path.steps) with
  | error error => exact .inl ⟨error, rfl⟩
  | ok path' =>
    refine .inr ⟨path', rfl, fun heq => ?_⟩
    exact hiff.mp ⟨path', hparse, heq⟩ name hname hquote

/-- A key with a single quote in it may be read back as several steps, and zeros before an index are
not printed. -/
theorem parse_printed_quote_and_zeros :
    let quoting : Path := ⟨"a[\"x']['y\"]", [.field "a", .key "x']['y"]⟩
    let padded : Path := ⟨"[007].b", [.index 7, .field "b"]⟩
    (parse "a[\"x']['y\"]" = .ok quoting ∧ printed quoting.steps = "a['x']['y']" ∧
        ∃ path, parse "a['x']['y']" = .ok path ∧ path.steps ≠ quoting.steps) ∧
      parse " [007].b" = .ok padded ∧ printed padded.steps = "[7].b" ∧
        ∃ path, parse "[7].b" = .ok path ∧ path.steps = padded.steps := by
  intro quoting padded
  have hquoting : parse "a[\"x']['y\"]" = .ok quoting := by decide +kernel
  have hpadded : parse " [007].b" = .ok padded := by decide +kernel
  have hprinted : printed quoting.steps = "a['x']['y']" := by decide +kernel
  have hprinted' : printed padded.steps = "[7].b" := by decide +kernel
  refine ⟨⟨hquoting, hprinted, ?_⟩, hpadded, hprinted', ?_⟩
  · have hapart := (parse_printed hquoting).2 ⟨"x']['y", by simp [quoting], by decide⟩
    rw [hprinted] at hapart
    refine hapart.resolve_left ?_
    rintro ⟨error, herror⟩
    have hread : (parse "a['x']['y']").isOk = true := by decide +kernel
    rw [herror] at hread
    cases hread
  · have hback := (parse_printed hpadded).1.mpr fun name hname => by simp [padded] at hname
    rwa [hprinted'] at hback

end SqlTemplate.Path
