import SqlTemplate.Proofs.Conversation
import SqlTemplate.Proofs.Scan.Cursor

/-!
# SqlTemplate.Proofs.Scan.Pieces

A template as literals and token contents in turn. Reading a template can leave literals side by
side, one for each escape in them; put together they are what stands between two tokens.

* `Pieces.ofSegments`: the pieces of a list of segments, with the same tokens, and filled in to the
  same text.
* `steps_induction`: with respect to a delimiter a text is empty, or begins with the delimiter, with
  an escaped one, or with a character that is not concerned.
* `readContent_closing`, `readContent_escaped`, `readContent_cons`: what the search for the end of
  a token makes of each of these.
* `pieces_nil`, `pieces_opening`, `pieces_escaped`, `pieces_cons`: and what reading a template does.
-/

namespace SqlTemplate.Template

/-- The contents of tokens, each with the literal before it, and the literal at the end. -/
inductive Pieces where
  | last (literal : List Char)
  | token (literal content : List Char) (rest : Pieces)
deriving Repr, DecidableEq

namespace Pieces

def prepend (text : List Char) : Pieces → Pieces
  | last literal => last (text ++ literal)
  | token literal content rest => token (text ++ literal) content rest

/-- Puts neighbouring literals together. -/
def ofSegments : List Segment → Pieces
  | [] => last []
  | .literal text :: rest => (ofSegments rest).prepend text
  | .token content :: rest => token [] content (ofSegments rest)

def contents : Pieces → List (List Char)
  | last _ => []
  | token _ content rest => content :: rest.contents

/-- The contents as texts, the way a handler gets them. -/
def tokens (pieces : Pieces) : List String :=
  pieces.contents.map String.ofList

/-- The literals, and in the place of each token the next of the given texts. -/
def fill : Pieces → List String → List Char
  | last literal, _ => literal
  | token literal _ rest, text :: texts => literal ++ text.toList ++ rest.fill texts
  | token literal _ rest, [] => literal ++ rest.fill []

@[simp] theorem prepend_nil (pieces : Pieces) : pieces.prepend [] = pieces := by
  cases pieces <;> rfl

@[simp] theorem prepend_prepend (first second : List Char) (pieces : Pieces) :
    (pieces.prepend second).prepend first = pieces.prepend (first ++ second) := by
  cases pieces <;> simp only [prepend, List.append_assoc]

@[simp] theorem contents_prepend (text : List Char) (pieces : Pieces) :
    (pieces.prepend text).contents = pieces.contents := by
  cases pieces <;> rfl

theorem fill_prepend (text : List Char) (pieces : Pieces) (texts : List String) :
    (pieces.prepend text).fill texts = text ++ pieces.fill texts := by
  cases pieces with
  | last literal => rfl
  | token literal content rest =>
    cases texts <;> simp only [prepend, fill, List.append_assoc]

theorem contents_ofSegments (segments : List Segment) :
    (ofSegments segments).contents = Template.contents segments := by
  induction segments with
  | nil => rfl
  | cons segment rest ih =>
    cases segment with
    | literal text => rw [ofSegments, contents_prepend, ih]; rfl
    | token content => rw [ofSegments, contents, ih]; rfl

theorem tokens_ofSegments (segments : List Segment) :
    (ofSegments segments).tokens = Template.tokens segments := by
  rw [tokens, contents_ofSegments, Template.tokens]

theorem fill_ofSegments (segments : List Segment) (texts : List String) :
    (ofSegments segments).fill texts = Template.fill segments texts := by
  induction segments generalizing texts with
  | nil => rfl
  | cons segment rest ih =>
    cases segment with
    | literal text => rw [ofSegments, fill_prepend, ih]; rfl
    | token content => cases texts <;> rw [ofSegments, fill, ih] <;> rfl

end Pieces

variable {needle text before after rest cs : List Char} {c : Char} {d : Delimiters}

/-! ## Clean delimiters -/

/-- Occurrences of the delimiter do not overlap, and the escape is no part of them. -/
def Clean (needle : List Char) : Prop :=
  ∃ first others, needle = first :: others ∧ first ∉ others ∧ escape ∉ needle

theorem clean_dollar : Clean Delimiters.dollar.opening ∧ Clean Delimiters.dollar.closing :=
  ⟨⟨'$', ['{'], rfl, by decide, by decide⟩, ⟨'}', [], rfl, by decide, by decide⟩⟩

theorem Clean.not_prefix_escape (hclean : Clean needle) (cs : List Char) :
    ¬needle <+: escape :: cs := by
  obtain ⟨first, others, rfl, -, hescape⟩ := hclean
  intro h
  exact List.ne_of_not_mem_cons hescape (List.cons_prefix_cons.mp h).1.symm

theorem Clean.ne_nil (hclean : Clean needle) : needle ≠ [] := by
  obtain ⟨first, others, rfl, -⟩ := hclean
  exact List.cons_ne_nil first others

theorem Clean.endsEscaped (hclean : Clean needle) : endsEscaped needle = false := by
  obtain ⟨first, others, rfl, -, hescape⟩ := hclean
  refine Bool.eq_false_iff.mpr fun h => hescape ?_
  exact List.mem_of_getLast? (beq_iff_eq.mp h)

/-- An occurrence that does not begin a text which begins with the delimiter comes after that. -/
theorem Clean.eq_append_of_append_eq (hclean : Clean needle) (hne : before ≠ [])
    (heq : needle ++ rest = before ++ (needle ++ after)) :
    ∃ between, before = needle ++ between := by
  obtain ⟨between, rfl, -⟩ | ⟨inner, hneedle, hrest⟩ := List.append_eq_append_iff.mp heq
  · exact ⟨between, rfl⟩
  · cases inner with
    | nil => exact ⟨[], by rw [hneedle, List.append_nil, List.append_nil]⟩
    | cons c cs =>
      obtain ⟨first, others, rfl, hfirst, -⟩ := hclean
      obtain ⟨b, bs, rfl⟩ := List.exists_cons_of_ne_nil hne
      cases hneedle
      obtain rfl := (List.cons.inj hrest).1
      exact absurd (List.mem_append_right bs (List.mem_cons_self ..)) hfirst

/-! ## Step by step -/

theorem steps_induction (hne : needle ≠ []) {motive : List Char → Prop}
    (nil : motive [])
    (delimiter : ∀ rest, motive rest → motive (needle ++ rest))
    (escaped : ∀ rest, ¬needle <+: escape :: (needle ++ rest) → motive rest →
      motive (escape :: (needle ++ rest)))
    (plain : ∀ c cs, ¬needle <+: c :: cs → (c = escape → ¬needle <+: cs) → motive cs →
      motive (c :: cs))
    (text : List Char) : motive text := by
  have hpos := List.length_pos_iff.mpr hne
  induction hlen : text.length using Nat.strongRecOn generalizing text with
  | ind n ih =>
    subst hlen
    by_cases hd : needle <+: text
    · obtain ⟨rest, rfl⟩ := hd
      exact delimiter rest (ih _ (by rw [List.length_append]; omega) rest rfl)
    · cases text with
      | nil => exact nil
      | cons c cs =>
        by_cases he : c = escape ∧ needle <+: cs
        · obtain ⟨rfl, rest, rfl⟩ := he
          have hlt : rest.length < (escape :: (needle ++ rest)).length := by
            rw [List.length_cons, List.length_append]
            omega
          exact escaped rest hd (ih _ hlt rest rfl)
        · exact plain c cs hd (fun hc hn => he ⟨hc, hn⟩) (ih _ (Nat.lt_succ_self _) cs rfl)

theorem cut?_escaped (h : ¬needle <+: escape :: (needle ++ rest)) :
    cut? needle (escape :: (needle ++ rest)) = some ([escape], rest) := by
  rw [cut?_cons h, cut?_append]
  rfl

/-- A character in front does not change whether the next delimiter is escaped, unless it is the
escape of a delimiter right after it. -/
theorem endsEscaped_cons_of_cut? (hesc : c = escape → ¬needle <+: cs)
    (hcut : cut? needle cs = some (before, after)) :
    endsEscaped (c :: before) = endsEscaped before := by
  cases before with
  | nil =>
    have hprefix : needle <+: cs := ⟨after, (eq_append_of_cut? hcut).symm⟩
    have hne : c ≠ escape := fun hc => hesc hc hprefix
    simpa [endsEscaped] using hne
  | cons b bs => exact endsEscaped_cons (List.cons_ne_nil b bs)

theorem readContent_closing (rest : List Char) :
    readContent d (d.closing ++ rest) = some ([], rest) := by
  rw [readContent_cut (cut?_append d.closing rest)]
  rfl

theorem readContent_escaped (h : ¬d.closing <+: escape :: (d.closing ++ rest)) :
    readContent d (escape :: (d.closing ++ rest)) =
      (readContent d rest).map fun (content, after) => (d.closing ++ content, after) := by
  rw [readContent_cut (cut?_escaped h)]
  rfl

theorem readContent_cons (hplain : ¬d.closing <+: c :: cs)
    (hesc : c = escape → ¬d.closing <+: cs) :
    readContent d (c :: cs) =
      (readContent d cs).map fun (content, after) => ([c] ++ content, after) := by
  have hcons := cut?_cons hplain
  cases hcut : cut? d.closing cs with
  | none =>
    rw [hcut] at hcons
    rw [readContent_missing hcons, readContent_missing hcut]
    rfl
  | some found =>
    obtain ⟨before, after⟩ := found
    rw [hcut] at hcons
    rw [readContent_cut hcons, readContent_cut hcut, endsEscaped_cons_of_cut? hesc hcut]
    split
    · rename_i hends
      rw [List.dropLast_cons_of_ne_nil (ne_nil_of_endsEscaped hends), Option.map_map]
      rfl
    · rfl

/-- The pieces of a text. -/
def pieces (d : Delimiters) (text : List Char) : Pieces :=
  Pieces.ofSegments (read d text)

theorem ofSegments_segments (d : Delimiters) (text : String) :
    Pieces.ofSegments (segments d text) = pieces d text.toList := by
  rw [pieces, segments, Trace.scan, (Cursor.start text.toList).segments_scanFrom]

/-- A template is expanded by a conversation about the tokens of its pieces. -/
theorem expand_eq_pieces (d : Delimiters) {σ ε : Type} (handler : Handler σ ε) (text : String)
    (state : σ) :
    let template := pieces d text.toList
    expand d handler text state =
      ((converse handler template.tokens state).1.map fun texts =>
          String.ofList (template.fill texts),
        (converse handler template.tokens state).2) := by
  intro template
  rw [expand_eq, ← Pieces.tokens_ofSegments, ofSegments_segments]
  simp only [← Pieces.fill_ofSegments, ofSegments_segments, template]

theorem pieces_nil : pieces d [] = .last [] := by
  rw [pieces, read_tail (cut?_nil d.opening_ne_nil)]
  rfl

/-- An open delimiter begins a token if it is closed, and is the rest of the text otherwise. -/
theorem pieces_opening (rest : List Char) :
    pieces d (d.opening ++ rest) =
      match readContent d rest with
      | none => .last (d.opening ++ rest)
      | some (content, after) => .token [] content (pieces d after) := by
  rw [pieces, read_unescaped (cut?_append d.opening rest) rfl]
  cases readContent d rest with
  | none =>
    show Pieces.last ([] ++ (d.opening ++ rest ++ [])) = _
    rw [List.nil_append, List.append_nil]
  | some found => rfl

theorem pieces_escaped (h : ¬d.opening <+: escape :: (d.opening ++ rest)) :
    pieces d (escape :: (d.opening ++ rest)) = (pieces d rest).prepend d.opening := by
  rw [pieces, read_escaped (cut?_escaped h) rfl]
  rfl

theorem pieces_cons (hplain : ¬d.opening <+: c :: cs) (hesc : c = escape → ¬d.opening <+: cs) :
    pieces d (c :: cs) = (pieces d cs).prepend [c] := by
  have hcons := cut?_cons hplain
  cases hcut : cut? d.opening cs with
  | none =>
    rw [hcut] at hcons
    rw [pieces, pieces, read_tail hcons, read_tail hcut]
    rfl
  | some found =>
    obtain ⟨before, after⟩ := found
    rw [hcut] at hcons
    have hkeep := endsEscaped_cons_of_cut? hesc hcut
    cases hends : endsEscaped before with
    | true =>
      rw [pieces, pieces, read_escaped hcons (hkeep.trans hends), read_escaped hcut hends,
        List.dropLast_cons_of_ne_nil (ne_nil_of_endsEscaped hends)]
      simp only [Pieces.ofSegments, Pieces.prepend_prepend]
      rfl
    | false =>
      rw [pieces, pieces, read_unescaped hcons (hkeep.trans hends), read_unescaped hcut hends]
      cases readContent d after with
      | none =>
        simp only [Pieces.ofSegments, Pieces.prepend_prepend]
        rfl
      | some found => rfl

end SqlTemplate.Template
