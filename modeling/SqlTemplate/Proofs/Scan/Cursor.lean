import SqlTemplate.Proofs.Scan.Reading
import SqlTemplate.Template.Substitution

/-!
# SqlTemplate.Proofs.Scan.Cursor

The scan by byte positions reads a template the way it is read without positions. Each position at
which a step of the scan begins is tied to the text that is left there; every step keeps the tie.

* `Cursor`: the tie between a position and what is left of the text.
* `Cursor.escapedAt`: the byte before a delimiter is an escape if the last character is.
* `Cursor.stop?_eq_some`, `Cursor.segments_scanFrom`: the search inside a token and outside.
* `scan_eq_read`: the scan of a whole template.
-/

namespace SqlTemplate.Template

variable {needle text before after rest : List Char} {offset : Nat} {d : Delimiters}

/-! ## Positions -/

/-- At this position of the text the rest is left. -/
def Cursor (text : List Char) (offset : Nat) (rest : List Char) : Prop :=
  ∃ before, text = before ++ rest ∧ Text.byteLength before = offset

theorem find?_eq_cut? (needle text : List Char) :
    Text.find? needle text =
      (cut? needle text).map fun (before, _) => Text.byteLength before := by
  induction text with
  | nil =>
    rw [Text.find?, cut?]
    split <;> rfl
  | cons c cs ih =>
    rw [Text.find?, cut?]
    split
    · rfl
    · rw [ih, Option.map_map, Option.map_map]
      rfl

/-- The last byte of a character is an escape only if the character is. -/
theorem getLast?_utf8EncodeChar (c : Char) :
    (String.utf8EncodeChar c).getLast? = some escapeByte ↔ c = escape := by
  have hcontinued (n : Nat) : UInt8.ofNat (n % 64 + 128) ≠ escapeByte := by
    intro heq
    have := congrArg UInt8.toNat heq
    simp [escapeByte] at this
    omega
  have hlong (h : ¬c.val.toNat ≤ 127) : c ≠ escape := by
    rintro rfl
    exact h (by decide)
  unfold String.utf8EncodeChar
  simp only
  split
  · rename_i hone
    rw [List.getLast?_singleton, Option.some.injEq]
    constructor
    · intro heq
      have hval := congrArg UInt8.toNat heq
      rw [UInt8.toNat_ofNat', Nat.mod_eq_of_lt (Nat.lt_of_le_of_lt hone (by decide))] at hval
      exact Char.ext (UInt32.toNat_inj.mp hval)
    · rintro rfl
      rfl
  · rename_i hone
    have hlast (n : Nat) : some (UInt8.ofNat (n % 64 + 128)) = some escapeByte ↔ c = escape :=
      ⟨fun heq => absurd (Option.some.inj heq) (hcontinued n), fun heq => absurd heq (hlong hone)⟩
    split
    · exact hlast _
    · split <;> exact hlast _

theorem getElem?_encode (before after : List Char) (c : Char) :
    (Text.encode (before ++ c :: after))[Text.byteLength before + c.utf8Size - 1]? =
      (String.utf8EncodeChar c).getLast? := by
  have hsplit : Text.encode (before ++ c :: after) =
      Text.encode before ++ (String.utf8EncodeChar c ++ Text.encode after) := by
    rw [Text.encode, List.flatMap_append, List.flatMap_cons]
    rfl
  have hlen := Text.length_encode before
  have hpos := c.utf8Size_pos
  rw [hsplit, List.getElem?_append_right (by omega),
    List.getElem?_append_left (by rw [String.length_utf8EncodeChar]; omega),
    List.getLast?_eq_getElem?, String.length_utf8EncodeChar]
  congr 1
  omega

/-- What stands before an escape ends one byte before it. -/
theorem eq_concat_of_endsEscaped (h : endsEscaped before = true) (offset : Nat) :
    ∃ init, before = init ++ [escape] ∧
      offset + Text.byteLength before - 1 = offset + Text.byteLength init := by
  obtain ⟨init, rfl⟩ := List.getLast?_eq_some_iff.mp (beq_iff_eq.mp h)
  refine ⟨init, rfl, ?_⟩
  rw [Text.byteLength_append]
  rfl

namespace Cursor

theorem start (text : List Char) : Cursor text 0 text :=
  ⟨[], rfl, rfl⟩

theorem advance (h : Cursor text offset (before ++ rest)) :
    Cursor text (offset + Text.byteLength before) rest := by
  obtain ⟨front, rfl, rfl⟩ := h
  exact ⟨front ++ before, (List.append_assoc _ _ _).symm, Text.byteLength_append _ _⟩

theorem remainder (h : Cursor text offset rest) : remainder text offset = rest := by
  obtain ⟨front, rfl, rfl⟩ := h
  rw [Template.remainder, Text.dropBytes?_append, Option.getD_some]

theorem byteLength_eq (h : Cursor text offset rest) :
    Text.byteLength text = offset + Text.byteLength rest := by
  obtain ⟨front, rfl, rfl⟩ := h
  exact Text.byteLength_append _ _

theorem slice? (h : Cursor text offset (before ++ rest)) :
    Text.slice? text offset (offset + Text.byteLength before) = some before := by
  obtain ⟨front, rfl, rfl⟩ := h
  rw [Text.slice?, if_pos (Nat.le_add_right _ _), Text.dropBytes?_append]
  simp only
  rw [Nat.add_sub_cancel_left, Text.takeBytes?_append]

theorem slice?_end (h : Cursor text offset rest) :
    Text.slice? text offset (Text.byteLength text) = some rest := by
  rw [h.byteLength_eq]
  rw [← List.append_nil rest] at h
  exact h.slice?

theorem slice (h : Cursor text offset (before ++ rest)) :
    slice text offset (offset + Text.byteLength before) = before := by
  rw [Template.slice, h.slice?, Option.getD_some]

theorem slice_end (h : Cursor text offset rest) :
    Template.slice text offset (Text.byteLength text) = rest := by
  rw [Template.slice, h.slice?_end, Option.getD_some]

theorem escapedAt (h : Cursor text offset (before ++ rest)) :
    escapedAt (Text.encode text).toArray offset (offset + Text.byteLength before) =
      endsEscaped before := by
  obtain ⟨front, rfl, rfl⟩ := h
  -- A step that has passed nothing yet has no byte of its own before the delimiter.
  obtain rfl | ⟨init, c, hconcat⟩ := before.eq_nil_or_concat
  · rw [Template.escapedAt, decide_eq_false (by simp [Text.byteLength]), Bool.false_and]
    rfl
  · rw [List.concat_eq_append] at hconcat
    subst hconcat
    have hpos := c.utf8Size_pos
    have hindex : Text.byteLength front + Text.byteLength (init ++ [c]) - 1 =
        Text.byteLength (front ++ init) + c.utf8Size - 1 := by
      rw [Text.byteLength_append, Text.byteLength_append, Text.byteLength, Text.byteLength]
      omega
    have hlt : Text.byteLength front <
        Text.byteLength front + Text.byteLength (init ++ [c]) := by
      rw [Text.byteLength_append, Text.byteLength, Text.byteLength]
      omega
    have hsplit : front ++ (init ++ [c] ++ rest) = front ++ init ++ c :: rest := by simp
    rw [Template.escapedAt, decide_eq_true hlt, Bool.true_and, List.getElem?_toArray, hindex,
      hsplit, getElem?_encode, endsEscaped, List.getLast?_concat, Bool.eq_iff_iff, beq_iff_eq,
      beq_iff_eq, getLast?_utf8EncodeChar, Option.some.injEq]

theorem slice_escaped (h : Cursor text offset (before ++ rest))
    (hescaped : endsEscaped before = true) :
    Template.slice text offset (offset + Text.byteLength before - 1) = before.dropLast := by
  obtain ⟨init, rfl, hposition⟩ := eq_concat_of_endsEscaped hescaped offset
  rw [hposition, List.dropLast_concat]
  rw [List.append_assoc] at h
  exact h.slice

theorem find?_eq_none (h : Cursor text offset rest) (hcut : cut? needle rest = none) :
    Text.find? needle (Template.remainder text offset) = none := by
  rw [h.remainder, find?_eq_cut?, hcut]
  rfl

theorem find?_eq_some (h : Cursor text offset rest)
    (hcut : cut? needle rest = some (before, after)) :
    Text.find? needle (Template.remainder text offset) = some (Text.byteLength before) := by
  rw [h.remainder, find?_eq_cut?, hcut]
  rfl

theorem at_cut (h : Cursor text offset rest) (hcut : cut? needle rest = some (before, after)) :
    Cursor text offset (before ++ (needle ++ after)) := by
  rw [eq_append_of_cut? hcut, List.append_assoc] at h
  exact h

theorem after_cut (h : Cursor text offset rest) (hcut : cut? needle rest = some (before, after)) :
    Cursor text (offset + Text.byteLength before + Text.byteLength needle) after :=
  (h.at_cut hcut).advance.advance

/-! ## The end of a token -/

section Closing

variable {content : List Char}

theorem trace_missing (h : Cursor text offset rest) (hcut : cut? d.closing rest = none) :
    Closing.trace d text (Text.encode text).toArray offset = .missing offset :=
  Closing.trace_of_find?_eq_none (h.find?_eq_none hcut)

theorem trace_cut (h : Cursor text offset rest)
    (hcut : cut? d.closing rest = some (before, after)) :
    Closing.trace d text (Text.encode text).toArray offset =
      if endsEscaped before then
        .escaped offset (offset + Text.byteLength before)
          (Closing.trace d text (Text.encode text).toArray
            (offset + Text.byteLength before + Text.byteLength d.closing))
      else .found offset (offset + Text.byteLength before) := by
  rw [Closing.trace_of_find?_eq_some (h.find?_eq_some hcut), (h.at_cut hcut).escapedAt]

theorem stop?_eq_none (h : Cursor text offset rest) (hread : readContent d rest = none) :
    (Closing.trace d text (Text.encode text).toArray offset).stop? = none := by
  fun_induction readContent d rest generalizing offset with
  | case1 rest hcut =>
    rw [h.trace_missing hcut]
    rfl
  | case2 rest before after hcut hescaped ih =>
    rw [h.trace_cut hcut, if_pos hescaped]
    exact ih (h.after_cut hcut) (Option.map_eq_none_iff.mp hread)
  | case3 => cases hread

/-- The search for the end of a token gathers its content, and leaves what follows the token. -/
theorem stop?_eq_some (h : Cursor text offset rest)
    (hread : readContent d rest = some (content, after)) :
    (Closing.trace d text (Text.encode text).toArray offset).content d text = content ∧
      ∃ stop, (Closing.trace d text (Text.encode text).toArray offset).stop? = some stop ∧
        Cursor text (stop + Text.byteLength d.closing) after := by
  fun_induction readContent d rest generalizing offset content with
  | case1 => cases hread
  | case2 rest before between hcut hescaped ih =>
    obtain ⟨⟨tail, after'⟩, htail, heq⟩ := Option.map_eq_some_iff.mp hread
    cases heq
    obtain ⟨hcontent, stop, hstop, hleft⟩ := ih (h.after_cut hcut) htail
    rw [h.trace_cut hcut, if_pos hescaped]
    refine ⟨?_, stop, hstop, hleft⟩
    rw [Closing.content, (h.at_cut hcut).slice_escaped hescaped, hcontent]
  | case3 rest before between hcut hescaped =>
    cases hread
    rw [h.trace_cut hcut, if_neg hescaped]
    exact ⟨(h.at_cut hcut).slice, _, rfl, h.after_cut hcut⟩

end Closing

/-! ## The walk -/

section Walk

variable {stop : Nat}

theorem scanFrom_tail (h : Cursor text offset rest) (hcut : cut? d.opening rest = none) :
    Trace.scanFrom d text (Text.encode text).toArray offset = .tail offset :=
  Trace.scanFrom_of_find?_eq_none (h.find?_eq_none hcut)

theorem scanFrom_escaped (h : Cursor text offset rest)
    (hcut : cut? d.opening rest = some (before, after)) (hescaped : endsEscaped before = true) :
    Trace.scanFrom d text (Text.encode text).toArray offset =
      .escaped offset (offset + Text.byteLength before)
        (Trace.scanFrom d text (Text.encode text).toArray
          (offset + Text.byteLength before + Text.byteLength d.opening)) := by
  rw [Trace.scanFrom_of_find?_eq_some (h.find?_eq_some hcut), (h.at_cut hcut).escapedAt,
    if_pos hescaped]

theorem scanFrom_unclosed (h : Cursor text offset rest)
    (hcut : cut? d.opening rest = some (before, after)) (hescaped : ¬endsEscaped before = true)
    (hread : readContent d after = none) :
    Trace.scanFrom d text (Text.encode text).toArray offset =
      .unclosed offset (offset + Text.byteLength before)
        (Closing.trace d text (Text.encode text).toArray
          (offset + Text.byteLength before + Text.byteLength d.opening)) := by
  have hstop := (h.after_cut hcut).stop?_eq_none hread
  rw [Trace.scanFrom_of_find?_eq_some (h.find?_eq_some hcut), (h.at_cut hcut).escapedAt,
    if_neg hescaped]
  simp only
  rw [hstop]

theorem scanFrom_token (h : Cursor text offset rest)
    (hcut : cut? d.opening rest = some (before, after)) (hescaped : ¬endsEscaped before = true)
    (hstop : (Closing.trace d text (Text.encode text).toArray
      (offset + Text.byteLength before + Text.byteLength d.opening)).stop? = some stop) :
    Trace.scanFrom d text (Text.encode text).toArray offset =
      .token offset (offset + Text.byteLength before)
        (Closing.trace d text (Text.encode text).toArray
          (offset + Text.byteLength before + Text.byteLength d.opening))
        (Trace.scanFrom d text (Text.encode text).toArray
          (stop + Text.byteLength d.closing)) := by
  rw [Trace.scanFrom_of_find?_eq_some (h.find?_eq_some hcut), (h.at_cut hcut).escapedAt,
    if_neg hescaped]
  simp only
  rw [hstop]

theorem segments_scanFrom (h : Cursor text offset rest) :
    (Trace.scanFrom d text (Text.encode text).toArray offset).segments d text = read d rest := by
  fun_induction read d rest generalizing offset with
  | case1 rest hcut =>
    rw [h.scanFrom_tail hcut, Trace.segments, h.slice_end]
  | case2 rest before after hcut hescaped ih =>
    rw [h.scanFrom_escaped hcut hescaped, Trace.segments, (h.at_cut hcut).slice_escaped hescaped,
      ih (h.after_cut hcut)]
  | case3 rest before after hcut hescaped hread =>
    rw [h.scanFrom_unclosed hcut hescaped hread, Trace.segments, (h.at_cut hcut).slice,
      (h.at_cut hcut).advance.slice_end]
  | case4 rest before after hcut hescaped content left hread ih =>
    obtain ⟨hcontent, stop, hstop, hleft⟩ := (h.after_cut hcut).stop?_eq_some hread
    rw [h.scanFrom_token hcut hescaped hstop, Trace.segments, (h.at_cut hcut).slice, hcontent,
      ih hleft]

end Walk

end Cursor

end SqlTemplate.Template
