import Mathlib.Data.List.Basic
import SqlTemplate.Proofs.Classification

/-!
# SqlTemplate.Proofs.Concatenation

Templates one after the other. The joined text is read as the one text and then the other, provided
that the first leaves no token open and that the two make no new open delimiter where they meet.

* `cut?_more`, `readContent_more`: what is found in a text is found in a longer one.
* `pieces_append`: what joined texts are read as.
* `Node.expand_concat`: a joined template with any handler, and whether it is dynamic.
-/

namespace SqlTemplate

namespace Template

variable {needle text rest more before after content : List Char} {d : Delimiters}

/-! ## Joined pieces -/

namespace Pieces

/-- The literal at the end of the first goes together with the literal at the start of the
second. -/
def append : Pieces → Pieces → Pieces
  | last literal, template => template.prepend literal
  | token literal content rest, template => token literal content (rest.append template)

theorem append_prepend (text : List Char) (first second : Pieces) :
    (first.prepend text).append second = (first.append second).prepend text := by
  cases first with
  | last literal => rw [prepend, append, append, prepend_prepend]
  | token literal content rest => rfl

theorem contents_append (first second : Pieces) :
    (first.append second).contents = first.contents ++ second.contents := by
  induction first with
  | last literal => exact contents_prepend literal second
  | token literal content rest ih => exact congrArg (content :: ·) ih

theorem tokens_append (first second : Pieces) :
    (first.append second).tokens = first.tokens ++ second.tokens := by
  rw [tokens, contents_append, List.map_append]
  rfl

theorem fill_append {first second : Pieces} {texts : List String}
    (h : texts.length = first.tokens.length) (texts' : List String) :
    (first.append second).fill (texts ++ texts') = first.fill texts ++ second.fill texts' := by
  induction first generalizing texts with
  | last literal =>
    obtain rfl := List.eq_nil_of_length_eq_zero h
    exact fill_prepend literal second texts'
  | token literal content rest ih =>
    obtain ⟨text, texts, rfl⟩ := List.exists_cons_of_length_eq_add_one h
    have hrest := ih (Nat.succ.inj h)
    simp only [List.cons_append, append, fill, hrest, List.append_assoc]

end Pieces

/-! ## A longer text -/

theorem cut?_more (h : cut? needle text = some (before, after)) (more : List Char) :
    cut? needle (text ++ more) = some (before, after ++ more) := by
  have heq := eq_append_of_cut? h
  rw [cut?_eq_some_iff]
  refine ⟨by rw [heq, List.append_assoc], fun before' after' heq' => ?_⟩
  refine Nat.le_of_not_lt fun hlt => ?_
  -- An earlier occurrence ends within the text, too.
  have hlen : (before' ++ needle).length ≤ text.length := by
    rw [heq]
    simp only [List.length_append]
    omega
  have hprefix : before' ++ needle <+: text :=
    List.prefix_of_prefix_length_le ⟨after', heq'.symm⟩ (List.prefix_append text more) hlen
  obtain ⟨after'', htext⟩ := hprefix
  exact Nat.not_lt.mpr (length_le_of_cut? h htext.symm) hlt

theorem readContent_more (h : readContent d text = some (content, rest)) (more : List Char) :
    readContent d (text ++ more) = some (content, rest ++ more) := by
  fun_induction readContent d text generalizing content with
  | case1 => cases h
  | case2 text before after hcut hescaped ih =>
    obtain ⟨⟨content', rest'⟩, hread, heq⟩ := Option.map_eq_some_iff.mp h
    cases heq
    rw [readContent_cut (cut?_more hcut more), if_pos hescaped, ih hread]
    rfl
  | case3 text before after hcut hescaped =>
    cases h
    rw [readContent_cut (cut?_more hcut more), if_neg hescaped]

theorem suffix_of_readContent (h : readContent d text = some (content, rest)) : rest <:+ text := by
  fun_induction readContent d text generalizing content with
  | case1 => cases h
  | case2 text before after hcut hescaped ih =>
    obtain ⟨⟨content', rest'⟩, hread, heq⟩ := Option.map_eq_some_iff.mp h
    cases heq
    exact (ih hread).trans ⟨before ++ d.closing, (eq_append_of_cut? hcut).symm⟩
  | case3 text before after hcut hescaped =>
    cases h
    exact ⟨before ++ d.closing, (eq_append_of_cut? hcut).symm⟩

/-! ## Where two texts meet -/

/-- No delimiter begins in the one text and ends in the other, and none begins the other right
after an escape. -/
structure Seamless (needle front back : List Char) : Prop where
  whole : ∀ head tail, head ≠ [] → tail ≠ [] → needle = head ++ tail → head <:+ front →
    ¬tail <+: back
  plain : endsEscaped front = true → ¬needle <+: back

theorem Seamless.of_suffix (h : Seamless needle text more) (hrest : rest <:+ text) :
    Seamless needle rest more where
  whole head tail hhead htail hneedle hsuffix :=
    h.whole head tail hhead htail hneedle (hsuffix.trans hrest)
  plain hescaped := by
    obtain ⟨front, rfl⟩ := hrest
    refine h.plain ?_
    rw [endsEscaped_append, if_neg (ne_nil_of_endsEscaped hescaped)]
    exact hescaped

/-- A delimiter that begins in the first text would be in it. -/
theorem Seamless.not_prefix (h : Seamless needle text more) (hne : text ≠ [])
    (habsent : ¬needle <:+: text) : ¬needle <+: text ++ more := by
  rintro ⟨after, heq⟩
  obtain ⟨inner, htext, -⟩ | ⟨tail, hneedle, hmore⟩ := List.append_eq_append_iff.mp heq
  · exact habsent ⟨[], inner, htext.symm⟩
  · cases tail with
    | nil =>
      rw [List.append_nil] at hneedle
      exact habsent (hneedle ▸ List.infix_rfl)
    | cons c cs =>
      exact h.whole text (c :: cs) hne (List.cons_ne_nil c cs) hneedle List.suffix_rfl
        ⟨after, hmore.symm⟩

/-! ## Reading on -/

/-- The walk leaves no token open. -/
def Trace.isClosed : Trace → Bool
  | .tail _ => true
  | .escaped _ _ next => next.isClosed
  | .token _ _ _ next => next.isClosed
  | .unclosed _ _ _ => false

theorem pieces_append_of_plain (habsent : ¬d.opening <:+: text)
    (hseam : Seamless d.opening text more) :
    pieces d (text ++ more) = (pieces d more).prepend text := by
  induction text with
  | nil => rw [List.nil_append, Pieces.prepend_nil]
  | cons c cs ih =>
    have hseam' := hseam.of_suffix (List.suffix_cons c cs)
    have habsent' : ¬d.opening <:+: cs := fun h => habsent (h.trans (List.suffix_cons c cs).isInfix)
    have hplain : ¬d.opening <+: c :: (cs ++ more) :=
      hseam.not_prefix (List.cons_ne_nil c cs) habsent
    have hescape : c = escape → ¬d.opening <+: cs ++ more := by
      rintro rfl
      cases cs with
      | nil => exact hseam.plain rfl
      | cons c cs => exact hseam'.not_prefix (List.cons_ne_nil c cs) habsent'
    rw [List.cons_append, pieces_cons hplain hescape, ih habsent' hseam', Pieces.prepend_prepend]
    rfl

variable {offset : Nat}

/-- Each step of a walk that leaves no token open is a step of reading the longer text. -/
theorem Cursor.pieces_append (h : Cursor text offset rest)
    (hclosed : (Trace.scanFrom d text (Text.encode text).toArray offset).isClosed = true)
    (hseam : Seamless d.opening rest more) :
    pieces d (rest ++ more) = (pieces d rest).append (pieces d more) := by
  rw [pieces.eq_def d rest]
  fun_induction read d rest generalizing offset with
  | case1 rest hcut =>
    rw [pieces_append_of_plain (cut?_eq_none_iff.mp hcut) hseam, Pieces.ofSegments,
      Pieces.append_prepend]
    exact (congrArg _ (Pieces.prepend_nil _)).symm
  | case2 rest before after hcut hescaped ih =>
    rw [h.scanFrom_escaped hcut hescaped] at hclosed
    have hrest := ih (h.after_cut hcut) hclosed
      (hseam.of_suffix ⟨before ++ d.opening, (eq_append_of_cut? hcut).symm⟩)
    rw [pieces, read_escaped (cut?_more hcut more) hescaped, Pieces.ofSegments, Pieces.ofSegments,
      Pieces.append_prepend, ← hrest]
    rfl
  | case3 rest before after hcut hescaped hread =>
    rw [h.scanFrom_unclosed hcut hescaped hread] at hclosed
    cases hclosed
  | case4 rest before after hcut hescaped content left hread ih =>
    obtain ⟨-, stop, hstop, hleft⟩ := (h.after_cut hcut).stop?_eq_some hread
    rw [h.scanFrom_token hcut hescaped hstop] at hclosed
    have hsuffix : left <:+ rest := (suffix_of_readContent hread).trans
      ⟨before ++ d.opening, (eq_append_of_cut? hcut).symm⟩
    have hrest := ih hleft hclosed (hseam.of_suffix hsuffix)
    rw [pieces, read_unescaped (cut?_more hcut more) (Bool.eq_false_iff.mpr hescaped),
      readContent_more hread more]
    simp only [Pieces.ofSegments]
    rw [Pieces.append_prepend, Pieces.append, ← hrest]
    rfl

theorem pieces_append (hclosed : (Trace.scan d text).isClosed = true)
    (hseam : Seamless d.opening text more) :
    pieces d (text ++ more) = (pieces d text).append (pieces d more) :=
  (Cursor.start text).pieces_append hclosed hseam

/-- The open delimiter has two characters, so it is cut in two in one way only. -/
theorem seamless_dollar
    (hwhole : ¬(text.getLast? = some '$' ∧ more.head? = some '{'))
    (hplain : ¬(text.getLast? = some escape ∧ ['$', '{'] <+: more)) :
    Seamless Delimiters.dollar.opening text more where
  whole head tail hhead htail hneedle hsuffix hprefix := by
    obtain ⟨c, cs, rfl⟩ := List.exists_cons_of_ne_nil hhead
    obtain ⟨rfl, htail'⟩ := List.cons.inj hneedle
    cases cs with
    | nil =>
      obtain rfl : ['{'] = tail := htail'
      obtain ⟨front, rfl⟩ := hsuffix
      obtain ⟨back, rfl⟩ := hprefix
      exact hwhole ⟨List.getLast?_concat, rfl⟩
    | cons c cs =>
      have hnil : [] = cs ++ tail := (List.cons.inj htail').2
      exact htail (List.append_eq_nil_iff.mp hnil.symm).2
  plain hescaped hprefix := hplain ⟨beq_iff_eq.mp hescaped, hprefix⟩

variable {σ ε : Type}

theorem expand_of_pieces_append {text text' : String}
    (h : pieces d (text ++ text').toList = (pieces d text.toList).append (pieces d text'.toList))
    (handler : Handler σ ε) (state : σ) :
    expand d handler (text ++ text') state =
      match expand d handler text state with
      | (.error e, next) => (.error e, next)
      | (.ok result, next) =>
        ((expand d handler text' next).1.map (result ++ ·),
          (expand d handler text' next).2) := by
  rw [expand_eq_pieces, expand_eq_pieces, h, Pieces.tokens_append, converse_append]
  cases hfirst : converse handler (pieces d text.toList).tokens state with
  | mk outcome next =>
    cases outcome with
    | error e => rfl
    | ok texts =>
      simp only [expand_eq_pieces, Except.map]
      cases (converse handler (pieces d text'.toList).tokens next).1 with
      | error e => rfl
      | ok texts' =>
        simp only [Pieces.fill_append (length_of_converse hfirst), String.ofList_append]

end Template

namespace Node

open Template

/-- A text that leaves no token open, with another text after it, provided that the one does not end
in a dollar sign where the other begins with a brace, nor in an escape where the other begins with
an open delimiter. Any handler is asked for the contents of the first and then for those of the
second, and the result is that of the first followed by that of the second, or the first error. The
joined text is dynamic exactly if one of the two is. -/
theorem expand_concat {text text' : String}
    (hclosed : (Trace.scan .dollar text.toList).isClosed = true)
    (hwhole : ¬(text.toList.getLast? = some '$' ∧ text'.toList.head? = some '{'))
    (hplain : ¬(text.toList.getLast? = some '\\' ∧ ['$', '{'] <+: text'.toList)) :
    contents (segments .dollar (text ++ text')) =
        contents (segments .dollar text) ++ contents (segments .dollar text') ∧
      (∀ {σ ε : Type} (handler : Handler σ ε) (state : σ),
        expand .dollar handler (text ++ text') state =
          match expand .dollar handler text state with
          | (.error e, next) => (.error e, next)
          | (.ok result, next) =>
            ((expand .dollar handler text' next).1.map (result ++ ·),
              (expand .dollar handler text' next).2)) ∧
      ({ text := text ++ text' } : Node).isDynamic =
        (({ text } : Node).isDynamic || ({ text := text' } : Node).isDynamic) := by
  have hpieces := pieces_append hclosed (seamless_dollar hwhole hplain)
  rw [← String.toList_append] at hpieces
  have hcontents : contents (segments .dollar (text ++ text')) =
      contents (segments .dollar text) ++ contents (segments .dollar text') := by
    simp only [← Pieces.contents_ofSegments, ofSegments_segments]
    rw [hpieces, Pieces.contents_append]
  refine ⟨hcontents, expand_of_pieces_append hpieces, ?_⟩
  rw [isDynamic, isDynamic, isDynamic, hcontents]
  cases contents (segments .dollar text) <;> rfl

/-- The escape at the end of the first text stands before a dollar sign that opens nothing. -/
theorem expand_concat_escape_at_end :
    let echo : Handler (List String) Unit := fun content asked =>
      (.ok (some content), asked ++ [content])
    (Trace.scan .dollar "$\x7ba\x7d\\".toList).isClosed = true ∧
      contents (segments .dollar "$\x7ba\x7d\\$x$\x7bb\x7d") = [['a'], ['b']] ∧
      expand .dollar echo "$\x7ba\x7d\\$x$\x7bb\x7d" [] = (.ok "a\\$xb", ["a", "b"]) ∧
      ({ text := "$\x7ba\x7d\\$x$\x7bb\x7d" } : Node).isDynamic = true := by
  intro echo
  have hclosed : (Trace.scan .dollar "$\x7ba\x7d\\".toList).isClosed = true := by decide +kernel
  have hfirst : expand .dollar echo "$\x7ba\x7d\\" [] = (.ok "a\\", ["a"]) := by decide +kernel
  have hsecond : expand .dollar echo "$x$\x7bb\x7d" ["a"] = (.ok "$xb", ["a", "b"]) := by
    decide +kernel
  obtain ⟨hcontents, hexpand, hdynamic⟩ :=
    @expand_concat _ "$x$\x7bb\x7d" hclosed (by decide) (by decide)
  refine ⟨hclosed, hcontents.trans (by decide +kernel), (hexpand echo []).trans ?_,
    hdynamic.trans (by decide +kernel)⟩
  rw [hfirst]
  simp only [hsecond]
  rfl

end Node

end SqlTemplate
