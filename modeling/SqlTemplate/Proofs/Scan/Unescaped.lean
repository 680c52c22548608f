import SqlTemplate.Proofs.Scan.Pieces

/-!
# SqlTemplate.Proofs.Scan.Unescaped

Delimiters that are not escaped, wherever they stand in a text. A scan judges an escape by the text
that it has not passed yet, and gives up at the first token that is not closed; neither hides a
delimiter that is not escaped.

* `Unescaped`: a delimiter that is not escaped, and what holds of the text after it.
* `Unescaped.escaped_iff`, `Unescaped.plain_iff`: what does not bear on these delimiters.
* `isSome_readContent_iff`, `contents_pieces_ne_nil_iff`: a token is closed, and a template has a
  token, just when there are such delimiters.
* `OccursAt`, `FollowsEscape`: where a delimiter stands, and what stands right before it.
* `hasToken_iff_positions`, `forall_cut?_iff`: delimiters by their positions.
-/

namespace SqlTemplate.Template

variable {needle text before after rest cs : List Char} {c : Char} {d : Delimiters}
  {P : List Char → Prop} {i : Nat}

/-- Somewhere in the text the delimiter stands without an escape before it, and `P` holds of what
follows it. -/
def Unescaped (needle : List Char) (P : List Char → Prop) (text : List Char) : Prop :=
  ∃ before after, text = before ++ (needle ++ after) ∧ endsEscaped before = false ∧ P after

namespace Unescaped

theorem not_nil (hclean : Clean needle) : ¬Unescaped needle P [] := by
  rintro ⟨before, after, heq, -⟩
  exact hclean.ne_nil (List.append_eq_nil_iff.mp (List.append_eq_nil_iff.mp heq.symm).2).1

theorem escaped_iff (hclean : Clean needle) :
    Unescaped needle P (escape :: (needle ++ rest)) ↔ Unescaped needle P rest := by
  constructor
  · rintro ⟨before, after, heq, hends, hafter⟩
    cases before with
    | nil => exact absurd ⟨after, heq.symm⟩ (hclean.not_prefix_escape _)
    | cons b bs =>
      obtain rfl := (List.cons.inj heq).1
      have htail : needle ++ rest = bs ++ (needle ++ after) := (List.cons.inj heq).2
      have hbs : bs ≠ [] := by
        rintro rfl
        cases hends
      obtain ⟨between, rfl⟩ := hclean.eq_append_of_append_eq hbs htail
      rw [List.append_assoc] at htail
      refine ⟨between, after, List.append_cancel_left htail, ?_, hafter⟩
      exact endsEscaped_of_append (escape :: needle) hends
  · rintro ⟨before, after, rfl, hends, hafter⟩
    refine ⟨escape :: (needle ++ before), after, by simp, ?_, hafter⟩
    rw [← List.cons_append, endsEscaped_append]
    split
    · rw [endsEscaped_cons hclean.ne_nil, hclean.endsEscaped]
    · exact hends

theorem plain_iff (hplain : ¬needle <+: c :: cs) (hesc : c = escape → ¬needle <+: cs) :
    Unescaped needle P (c :: cs) ↔ Unescaped needle P cs := by
  constructor
  · rintro ⟨before, after, heq, hends, hafter⟩
    cases before with
    | nil => exact absurd ⟨after, heq.symm⟩ hplain
    | cons b bs =>
      obtain ⟨rfl, rfl⟩ := List.cons.inj heq
      exact ⟨bs, after, rfl, endsEscaped_of_append [c] hends, hafter⟩
  · rintro ⟨before, after, rfl, hends, hafter⟩
    refine ⟨c :: before, after, rfl, ?_, hafter⟩
    cases before with
    | nil =>
      have hne : c ≠ escape := fun hc => hesc hc (List.prefix_append needle after)
      simpa [endsEscaped] using hne
    | cons b bs => rwa [endsEscaped_cons (List.cons_ne_nil b bs)]

end Unescaped

/-- A token is closed by any close delimiter that is not escaped. -/
theorem isSome_readContent_iff (hclosing : Clean d.closing) (text : List Char) :
    (readContent d text).isSome ↔ Unescaped d.closing (fun _ => True) text := by
  induction text using steps_induction d.closing_ne_nil with
  | nil =>
    rw [readContent_missing (cut?_nil d.closing_ne_nil)]
    exact iff_of_false Bool.false_ne_true (Unescaped.not_nil hclosing)
  | delimiter rest ih =>
    rw [readContent_closing]
    exact iff_of_true rfl ⟨[], rest, rfl, rfl, trivial⟩
  | escaped rest hplain ih =>
    rw [readContent_escaped hplain, Option.isSome_map, ih, Unescaped.escaped_iff hclosing]
  | plain c cs hplain hesc ih =>
    rw [readContent_cons hplain hesc, Option.isSome_map, ih, Unescaped.plain_iff hplain hesc]

/-- There is an open delimiter that is not escaped, and after it a close delimiter that is not. -/
def HasToken (d : Delimiters) : List Char → Prop :=
  Unescaped d.opening (Unescaped d.closing fun _ => True)

/-- What closes an open delimiter further on closes this one as well. -/
theorem hasToken_opening_iff (hopening : Clean d.opening) :
    HasToken d (d.opening ++ rest) ↔ Unescaped d.closing (fun _ => True) rest := by
  constructor
  · rintro ⟨before, after, heq, -, content, after', rfl, hcontent, -⟩
    cases before with
    | nil =>
      exact ⟨content, after', List.append_cancel_left heq, hcontent, trivial⟩
    | cons b bs =>
      obtain ⟨between, hbetween⟩ := hopening.eq_append_of_append_eq (List.cons_ne_nil b bs) heq
      rw [hbetween, List.append_assoc] at heq
      refine ⟨between ++ (d.opening ++ content), after', ?_, ?_, trivial⟩
      · rw [List.append_cancel_left heq]
        simp only [List.append_assoc]
      · rw [endsEscaped_append, if_neg (by simp [d.opening_ne_nil]), endsEscaped_append]
        split
        · exact hopening.endsEscaped
        · exact hcontent
  · exact fun h => ⟨[], rest, rfl, rfl, h⟩

theorem contents_pieces_ne_nil_iff (hopening : Clean d.opening) (hclosing : Clean d.closing)
    (text : List Char) : (pieces d text).contents ≠ [] ↔ HasToken d text := by
  induction text using steps_induction d.opening_ne_nil with
  | nil =>
    rw [pieces_nil]
    exact iff_of_false (fun h => h rfl) (Unescaped.not_nil hopening)
  | delimiter rest ih =>
    -- If this token is not closed, no later one is either.
    rw [hasToken_opening_iff hopening, ← isSome_readContent_iff hclosing, pieces_opening]
    cases readContent d rest with
    | none => exact iff_of_false (fun h => h rfl) Bool.false_ne_true
    | some found => exact iff_of_true (List.cons_ne_nil _ _) rfl
  | escaped rest hplain ih =>
    rw [pieces_escaped hplain, Pieces.contents_prepend, ih, HasToken,
      Unescaped.escaped_iff hopening]
  | plain c cs hplain hesc ih =>
    rw [pieces_cons hplain hesc, Pieces.contents_prepend, ih, HasToken,
      Unescaped.plain_iff hplain hesc]

/-! ## Positions -/

/-- The delimiter begins at position `i` of the text. -/
def OccursAt (needle text : List Char) (i : Nat) : Prop :=
  ∃ before after, text = before ++ (needle ++ after) ∧ before.length = i

/-- The character before position `i` of the text is an escape. -/
def FollowsEscape (text : List Char) (i : Nat) : Prop :=
  0 < i ∧ text[i - 1]? = some escape

theorem followsEscape_length (before rest : List Char) :
    FollowsEscape (before ++ rest) before.length ↔ endsEscaped before = true := by
  obtain rfl | ⟨init, c, hconcat⟩ := before.eq_nil_or_concat
  · simp [FollowsEscape, endsEscaped]
  · rw [List.concat_eq_append] at hconcat
    subst hconcat
    simp [FollowsEscape, endsEscaped]

theorem exists_append_of_getElem? {c : Char} (h : text[i]? = some c) :
    ∃ before after, text = before ++ c :: after ∧ before.length = i := by
  obtain ⟨hlt, rfl⟩ := List.getElem?_eq_some_iff.mp h
  refine ⟨text.take i, text.drop (i + 1), ?_, List.length_take_of_le (Nat.le_of_lt hlt)⟩
  rw [List.getElem_cons_drop, List.take_append_drop]

theorem occursAt_closing_iff :
    OccursAt Delimiters.dollar.closing text i ↔ text[i]? = some '}' := by
  constructor
  · rintro ⟨before, after, rfl, rfl⟩
    simp [Delimiters.dollar]
  · exact exists_append_of_getElem?

theorem occursAt_opening_iff :
    OccursAt Delimiters.dollar.opening text i ↔ text[i]? = some '$' ∧ text[i + 1]? = some '{' := by
  constructor
  · rintro ⟨before, after, rfl, rfl⟩
    simp [Delimiters.dollar]
  · rintro ⟨hdollar, hbrace⟩
    obtain ⟨before, rest, rfl, rfl⟩ := exists_append_of_getElem? hdollar
    rw [List.getElem?_append_right (by omega), Nat.add_sub_cancel_left,
      List.getElem?_cons_succ] at hbrace
    cases rest with
    | nil => cases hbrace
    | cons c after =>
      cases hbrace
      exact ⟨before, after, rfl, rfl⟩

/-- A token needs an open delimiter and a close delimiter after it, both not escaped; any two will
do. -/
theorem hasToken_iff_positions (hopening : Clean d.opening) (text : List Char) :
    HasToken d text ↔
      ∃ i j, i + d.opening.length ≤ j ∧ OccursAt d.opening text i ∧ ¬FollowsEscape text i ∧
        OccursAt d.closing text j ∧ ¬FollowsEscape text j := by
  constructor
  · rintro ⟨before, rest, rfl, hbefore, content, after, rfl, hcontent, -⟩
    have hsplit : before ++ (d.opening ++ (content ++ (d.closing ++ after))) =
        before ++ d.opening ++ content ++ (d.closing ++ after) := by
      simp only [List.append_assoc]
    refine ⟨before.length, (before ++ d.opening ++ content).length, ?_, ⟨before, _, rfl, rfl⟩, ?_,
      ⟨before ++ d.opening ++ content, after, hsplit, rfl⟩, ?_⟩
    · simp only [List.length_append]
      omega
    · rw [followsEscape_length, hbefore]
      exact Bool.false_ne_true
    · rw [hsplit, followsEscape_length, endsEscaped_append]
      split
      · rw [endsEscaped_append, if_neg d.opening_ne_nil, hopening.endsEscaped]
        exact Bool.false_ne_true
      · rw [hcontent]
        exact Bool.false_ne_true
  · rintro ⟨i, j, hle, ⟨before, rest, rfl, rfl⟩, hi, ⟨front, after, heq, rfl⟩, hj⟩
    have hopens : before ++ d.opening <+: before ++ (d.opening ++ rest) :=
      ⟨rest, List.append_assoc _ _ _⟩
    have hfront : before ++ d.opening <+: front :=
      List.prefix_of_prefix_length_le hopens ⟨d.closing ++ after, heq.symm⟩
        (by rwa [List.length_append])
    obtain ⟨content, rfl⟩ := hfront
    rw [followsEscape_length, Bool.not_eq_true] at hi
    rw [heq, followsEscape_length, Bool.not_eq_true] at hj
    refine ⟨before, rest, rfl, hi, content, after, ?_, endsEscaped_of_append _ hj, trivial⟩
    simp only [List.append_assoc] at heq
    exact List.append_cancel_left (List.append_cancel_left heq)

/-- The first occurrence of a delimiter, as a position. -/
theorem forall_cut?_iff :
    (∀ before after, cut? needle text = some (before, after) → endsEscaped before = false) ↔
      ∀ i, OccursAt needle text i → (∀ k, OccursAt needle text k → i ≤ k) →
        ¬FollowsEscape text i := by
  constructor
  · rintro h _ ⟨before, after, rfl, rfl⟩ hfirst
    have hcut : cut? needle (before ++ (needle ++ after)) = some (before, after) := by
      rw [cut?_eq_some_iff]
      refine ⟨(List.append_assoc _ _ _).symm, fun before' after' heq => ?_⟩
      exact hfirst _ ⟨before', after', by rw [heq, List.append_assoc], rfl⟩
    rw [followsEscape_length, h before after hcut]
    exact Bool.false_ne_true
  · intro h before after hcut
    obtain ⟨heq, hfirst⟩ := cut?_eq_some_iff.mp hcut
    rw [List.append_assoc] at heq
    have hnot := h before.length ⟨before, after, heq, rfl⟩ fun k => by
      rintro ⟨before', after', heq', rfl⟩
      exact hfirst before' after' (by rw [heq', List.append_assoc])
    rwa [heq, followsEscape_length, Bool.not_eq_true] at hnot

end SqlTemplate.Template
