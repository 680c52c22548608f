import SqlTemplate.Proofs.Scan.Unescaped
import SqlTemplate.Proofs.Screening

/-!
# SqlTemplate.Proofs.Classification

Which nodes are dynamic. A static node is the same text for every parameter, a dynamic one is not,
and a look at its text tells which of the two a node is.

* `last_of_pieces`: a text without tokens loses its escapes, and is kept if it has none.
* `length_fill`: tokens show in the length of a text that they are replaced in.
* `Node.isDynamic_iff_positions`: a node is dynamic if its text has an open and a close delimiter,
  in this order and both not escaped.
* `Node.isDynamic_separates`: a node is dynamic if it tells parameters apart.
-/

namespace SqlTemplate

namespace Template

variable {text before after rest fragment : List Char} {d : Delimiters}

/-! ## Texts without tokens -/

theorem Pieces.contents_eq_nil_iff {template : Pieces} :
    template.contents = [] ↔ ∃ literal, template = .last literal := by
  cases template with
  | last literal => exact iff_of_true rfl ⟨literal, rfl⟩
  | token literal content rest =>
    refine iff_of_false (List.cons_ne_nil _ _) ?_
    rintro ⟨_, h⟩
    cases h

theorem Pieces.prepend_eq_last_iff {template : Pieces} :
    template.prepend text = .last fragment ↔
      ∃ inner, template = .last inner ∧ fragment = text ++ inner := by
  cases template with
  | last literal =>
    simp only [Pieces.prepend, Pieces.last.injEq, exists_eq_left']
    exact eq_comm
  | token literal content rest => simp [Pieces.prepend]

/-- Without a token the only change is that escapes are left out. There are none just when the first
open delimiter is not escaped: it is not closed then, and what follows it is kept as it is. -/
theorem last_of_pieces (h : pieces d text = .last fragment) :
    (fragment = text ∨ fragment.length < text.length) ∧
      (fragment = text ↔
        ∀ before after, cut? d.opening text = some (before, after) →
          endsEscaped before = false) := by
  rw [pieces] at h
  fun_induction read d text generalizing fragment with
  | case1 text hcut =>
    cases h
    rw [List.append_nil, hcut]
    exact ⟨.inl rfl, iff_of_true rfl (by simp)⟩
  | case2 text before after hcut hescaped ih =>
    obtain ⟨inner, hinner, rfl⟩ := Pieces.prepend_eq_last_iff.mp h
    have hle : inner.length ≤ after.length := by
      obtain rfl | hlt := (ih hinner).1
      · exact Nat.le_refl _
      · exact Nat.le_of_lt hlt
    have hpos := List.length_pos_iff.mpr (ne_nil_of_endsEscaped hescaped)
    have hlt : (before.dropLast ++ d.opening ++ inner).length < text.length := by
      rw [eq_append_of_cut? hcut]
      simp only [List.length_append, List.length_dropLast]
      omega
    refine ⟨.inr hlt, iff_of_false (fun heq => ?_) fun hall => ?_⟩
    · rw [heq] at hlt
      exact Nat.lt_irrefl _ hlt
    · rw [hall before after hcut] at hescaped
      cases hescaped
  | case3 text before after hcut hescaped hread =>
    cases h
    have heq : before ++ (d.opening ++ after ++ []) = text := by
      rw [eq_append_of_cut? hcut, List.append_nil, List.append_assoc]
    refine ⟨.inl heq, iff_of_true heq ?_⟩
    intro before' after' hcut'
    rw [hcut] at hcut'
    cases hcut'
    exact Bool.not_eq_true _ ▸ hescaped
  | case4 text before after hcut hescaped content rest hread ih => cases h

theorem length_fill (template : Pieces) (text : String) :
    (template.fill (template.tokens.map fun _ => text)).length =
      (template.fill (template.tokens.map fun _ => "")).length +
        template.contents.length * text.length := by
  induction template with
  | last literal => simp [Pieces.fill, Pieces.contents]
  | token literal content rest ih =>
    have htokens : (Pieces.token literal content rest).tokens =
        String.ofList content :: rest.tokens := rfl
    rw [htokens, List.map_cons, List.map_cons, Pieces.fill, Pieces.fill, Pieces.contents]
    simp only [List.length_append, ih, List.length_cons, String.length_toList, String.length_empty]
    rw [Nat.add_mul, Nat.one_mul]
    omega

end Template

namespace Node

open Template

theorem isDynamic_eq_true_iff {node : Node} :
    node.isDynamic = true ↔ (pieces .dollar node.text.toList).contents ≠ [] := by
  rw [isDynamic, ← Pieces.contents_ofSegments, ofSegments_segments, Bool.not_eq_true',
    List.isEmpty_eq_false_iff]

theorem isDynamic_eq_false_iff {node : Node} :
    node.isDynamic = false ↔ ∃ fragment, pieces .dollar node.text.toList = .last fragment := by
  rw [← Pieces.contents_eq_nil_iff, ← Bool.not_eq_true, isDynamic_eq_true_iff, Classical.not_not]

/-- A node is dynamic if somewhere in its text an open delimiter stands that no escape precedes, and
somewhere after it a close delimiter that no escape precedes. -/
theorem isDynamic_iff_positions (node : Node) :
    let text := node.text.toList
    node.isDynamic = true ↔
      ∃ i j, i + 2 ≤ j ∧ text[i]? = some '$' ∧ text[i + 1]? = some '{' ∧
        (i = 0 ∨ text[i - 1]? ≠ some '\\') ∧ text[j]? = some '}' ∧ text[j - 1]? ≠ some '\\' := by
  intro text
  have hopening (i : Nat) : ¬FollowsEscape text i ↔ i = 0 ∨ text[i - 1]? ≠ some '\\' := by
    rw [FollowsEscape, Classical.not_and_iff_not_or_not, Nat.not_lt, Nat.le_zero]
    rfl
  have hclosing {i j : Nat} (h : i + 2 ≤ j) :
      ¬FollowsEscape text j ↔ text[j - 1]? ≠ some '\\' := by
    rw [hopening, or_iff_right (by omega)]
  rw [isDynamic_eq_true_iff, contents_pieces_ne_nil_iff clean_dollar.1 clean_dollar.2,
    hasToken_iff_positions clean_dollar.1]
  constructor
  · rintro ⟨i, j, hle, hi, hi', hj, hj'⟩
    obtain ⟨hdollar, hbrace⟩ := occursAt_opening_iff.mp hi
    exact ⟨i, j, hle, hdollar, hbrace, (hopening i).mp hi', occursAt_closing_iff.mp hj,
      (hclosing hle).mp hj'⟩
  · rintro ⟨i, j, hle, hdollar, hbrace, hi, hj, hj'⟩
    exact ⟨i, j, hle, occursAt_opening_iff.mpr ⟨hdollar, hbrace⟩, (hopening i).mpr hi,
      occursAt_closing_iff.mpr hj, (hclosing hle).mpr hj'⟩

theorem expand_of_last {d : Delimiters} {text : String} {fragment : List Char}
    (h : pieces d text.toList = .last fragment) {σ ε : Type} (handler : Handler σ ε) (state : σ) :
    expand d handler text state = (.ok (String.ofList fragment), state) := by
  rw [expand_eq_pieces, h]
  rfl

theorem apply_of_last {γ : Type} [RenderContext γ] {node : Node} {fragment : List Char}
    (h : pieces .dollar node.text.toList = .last fragment) (context : γ) (engine : Engine) :
    node.apply context engine =
      (.ok true, RenderContext.appendSql context (String.ofList fragment),
        engine.record (.rendered (String.ofList fragment))) := by
  rw [apply, resolve, expand_of_last h]

/-- The text of a node without a filter, for a parameter that is a string. -/
theorem render_string (text : String) (evaluator : Evaluator) (parameter : String)
    (engine : Engine) :
    let template := pieces .dollar text.toList
    (({ text, evaluator } : Node).render (some (.string parameter)) engine).1 =
      .ok (String.ofList (template.fill (template.tokens.map fun _ => parameter))) := by
  intro template
  have hsimple : (Value.string parameter).isSimple = true := rfl
  have hresolve := (resolve_plain_simple text evaluator hsimple engine).1
  simp only [← Pieces.fill_ofSegments, ← Pieces.tokens_ofSegments, ofSegments_segments] at hresolve
  rw [render_fst]
  exact hresolve

/-- A static node appends the same fragment whatever its filter, its evaluator and the statement,
and asks nothing for it: this is what its text is expanded to by any handler. The fragment is the
text itself unless an escape precedes the first open delimiter. A dynamic node without a filter
becomes different texts for two parameters. -/
theorem isDynamic_separates (text : String) :
    (({ text } : Node).isDynamic = false →
      ∃ fragment : String,
        (∀ (filter : Option Filter) (evaluator : Evaluator) {γ : Type} [RenderContext γ]
            (context : γ) (engine : Engine),
          ({ text, filter, evaluator } : Node).apply context engine =
            (.ok true, RenderContext.appendSql context fragment,
              engine.record (.rendered fragment))) ∧
          (∀ {σ ε : Type} (handler : Handler σ ε) (state : σ),
            expand .dollar handler text state = (.ok fragment, state)) ∧
          (fragment = text ↔
            ∀ i, OccursAt Delimiters.dollar.opening text.toList i →
              (∀ k, OccursAt Delimiters.dollar.opening text.toList k → i ≤ k) →
                ¬FollowsEscape text.toList i) ∧
          (fragment ≠ text → fragment.length < text.length)) ∧
      (({ text } : Node).isDynamic = true →
        ∀ (evaluator : Evaluator) (engine : Engine), ∃ first second sql sql' : String,
          (({ text, evaluator } : Node).render (some (.string first)) engine).1 = .ok sql ∧
            (({ text, evaluator } : Node).render (some (.string second)) engine).1 = .ok sql' ∧
            sql ≠ sql') := by
  constructor
  · intro hstatic
    obtain ⟨fragment, hlast⟩ := isDynamic_eq_false_iff.mp hstatic
    obtain ⟨hshorter, hverbatim⟩ := last_of_pieces hlast
    have heq : String.ofList fragment = text ↔ fragment = text.toList := by
      rw [← String.toList_inj, String.toList_ofList]
    refine ⟨String.ofList fragment, fun filter evaluator {γ} _ context engine => ?_,
      expand_of_last hlast, ?_, fun hne => ?_⟩
    · exact @apply_of_last γ _ { text, filter, evaluator } fragment hlast context engine
    · rw [heq, hverbatim, forall_cut?_iff]
    · rw [String.length_ofList, ← String.length_toList]
      exact hshorter.resolve_left fun h => hne (heq.mpr h)
  · intro hdynamic evaluator engine
    refine ⟨"", "x", _, _, render_string text evaluator "" engine,
      render_string text evaluator "x" engine, fun heq => ?_⟩
    -- Each token makes the second text longer by one character.
    have hlength := congrArg String.length heq
    have hpos : 0 < (pieces .dollar text.toList).contents.length :=
      List.length_pos_iff.mpr (isDynamic_eq_true_iff.mp hdynamic)
    have hone : "x".length = 1 := rfl
    rw [String.length_ofList, String.length_ofList, length_fill _ "x", hone] at hlength
    omega

/-- An escaped token before an unclosed one, and a token that is closed by the second of two close
delimiters. -/
theorem isDynamic_separates_escapes :
    (({ text := "\\$\x7ba\x7d $\x7bb" } : Node).isDynamic = false ∧
        ∃ fragment : String, fragment.length < "\\$\x7ba\x7d $\x7bb".length ∧
          ∀ state : List String,
            expand .dollar (fun content asked => (.error (), content :: asked))
                "\\$\x7ba\x7d $\x7bb" state = (.ok fragment, state)) ∧
      ({ text := "$\x7ba\\\x7d\x7d" } : Node).isDynamic = true ∧
        ∃ first second sql sql' : String,
          (({ text := "$\x7ba\\\x7d\x7d" } : Node).render (some (.string first)) {}).1 = .ok sql ∧
            (({ text := "$\x7ba\\\x7d\x7d" } : Node).render (some (.string second)) {}).1 =
              .ok sql' ∧
            sql ≠ sql' := by
  have hstatic : ({ text := "\\$\x7ba\x7d $\x7bb" } : Node).isDynamic = false := by decide +kernel
  have hdynamic : ({ text := "$\x7ba\\\x7d\x7d" } : Node).isDynamic = true := by decide +kernel
  obtain ⟨fragment, -, hexpand, hverbatim, hshorter⟩ := (isDynamic_separates _).1 hstatic
  refine ⟨⟨hstatic, fragment, hshorter fun heq => ?_, fun state => hexpand _ state⟩, hdynamic,
    (isDynamic_separates _).2 hdynamic .paths {}⟩
  have hfirst : OccursAt Delimiters.dollar.opening "\\$\x7ba\x7d $\x7bb".toList 1 :=
    ⟨['\\'], "a\x7d $\x7bb".toList, rfl, rfl⟩
  refine hverbatim.mp heq 1 hfirst (fun k hk => ?_) ⟨Nat.one_pos, rfl⟩
  cases k with
  | zero => cases (occursAt_opening_iff.mp hk).1
  | succ k => exact Nat.succ_pos k

end Node

end SqlTemplate
