import SqlTemplate.Proofs.Scan.Calls

/-!
# SqlTemplate.Proofs.Scan.Bounds

No position that a scan works with lies outside of the text or within a character, and every step
moves on. So a pass through the text that refuses to slice it anywhere else refuses nothing.

* `Text.isSome_slice?_iff`: the positions between which a text can be sliced.
* `Meets`, `Closing.Sound`, `Trace.Sound`: what holds at each delimiter that a walk meets, and from
  one step to the next.
* `Cursor.sound_trace`, `Cursor.sound_scanFrom`: that it does hold.
* `Trace.Sound.ascends`, `Trace.Sound.length_contents_le`: what follows for a whole walk.
* `Trace.expandFrom?`: a pass in which every position is checked before it is used.
* `scan_in_bounds`: the bounds, the pass with the checks, and the number of calls.
-/

namespace SqlTemplate

namespace Text

theorem IsBoundary.le {text : List Char} {position : Nat} (h : IsBoundary text position) :
    position ≤ byteLength text := by
  obtain ⟨before, after, rfl, rfl⟩ := h
  rw [byteLength_append]
  exact Nat.le_add_right _ _

theorem eq_append_of_takeBytes? {text taken : List Char} {n : Nat}
    (h : takeBytes? text n = some taken) :
    ∃ after, text = taken ++ after ∧ byteLength taken = n := by
  fun_induction takeBytes? text n generalizing taken with
  | case1 cs =>
    cases h
    exact ⟨cs, rfl, rfl⟩
  | case2 => cases h
  | case3 c cs n hle ih =>
    obtain ⟨others, hothers, rfl⟩ := Option.map_eq_some_iff.mp h
    obtain ⟨after, rfl, hlen⟩ := ih hothers
    exact ⟨after, rfl, by rw [byteLength]; omega⟩
  | case4 => cases h

theorem eq_append_of_slice? {text part : List Char} {start stop : Nat}
    (h : slice? text start stop = some part) :
    ∃ before after, text = before ++ part ++ after ∧ byteLength before = start ∧
      start + byteLength part = stop := by
  rw [slice?] at h
  split at h
  · rename_i hle
    split at h
    · cases h
    · rename_i rest hdrop
      obtain ⟨before, rfl, rfl⟩ := eq_append_of_dropBytes? hdrop
      obtain ⟨after, rfl, hlen⟩ := eq_append_of_takeBytes? h
      exact ⟨before, after, (List.append_assoc _ _ _).symm, rfl, by omega⟩
  · cases h

/-- A text can be sliced from any position between two characters to any other behind it, and in no
other way. -/
theorem isSome_slice?_iff {text : List Char} {start stop : Nat} :
    (slice? text start stop).isSome = true ↔
      start ≤ stop ∧ IsBoundary text start ∧ IsBoundary text stop := by
  constructor
  · intro h
    obtain ⟨part, hpart⟩ := Option.isSome_iff_exists.mp h
    obtain ⟨before, after, rfl, rfl, rfl⟩ := eq_append_of_slice? hpart
    refine ⟨Nat.le_add_right _ _, ⟨before, part ++ after, List.append_assoc _ _ _, rfl⟩,
      before ++ part, after, rfl, byteLength_append _ _⟩
  · rintro ⟨hle, ⟨before, rest, rfl, rfl⟩, ⟨front, after, heq, rfl⟩⟩
    rw [slice?, if_pos hle, dropBytes?_append]
    simp only
    rcases List.append_eq_append_iff.mp heq with ⟨part, rfl, rfl⟩ | ⟨part, rfl, rfl⟩
    · rw [byteLength_append, Nat.add_sub_cancel_left, takeBytes?_append]
      rfl
    · -- The two positions are the same.
      rw [byteLength_append] at hle
      rw [Nat.sub_eq_zero_of_le (by rw [byteLength_append]; omega)]
      cases rest <;> rfl

/-- The position one byte before, if there is one. -/
def previous? : Nat → Option Nat
  | 0 => none
  | n + 1 => some n

end Text

namespace Template

variable {text needle before after rest content : List Char} {offset start stop : Nat}
  {d : Delimiters}

/-! ## Walks in bounds -/

/-- A step that begins at `offset` and meets the delimiter at `position`. Where it looks at the byte
before the delimiter there is one, and where this is an escape the text can be cut before it. -/
structure Meets (needle text : List Char) (offset position : Nat) : Prop where
  ordered : offset ≤ position
  within : position + Text.byteLength needle ≤ Text.byteLength text
  begins : Text.IsBoundary text offset
  meets : Text.IsBoundary text position
  leaves : Text.IsBoundary text (position + Text.byteLength needle)
  behind : offset < position → 1 ≤ position ∧ position - 1 < Text.byteLength text
  escaped : escapedAt (Text.encode text).toArray offset position = true →
    offset ≤ position - 1 ∧ Text.IsBoundary text (position - 1)

/-- Where the search begins. -/
def Closing.origin : Closing → Nat
  | .missing offset => offset
  | .found offset _ => offset
  | .escaped offset _ _ => offset

/-- Where the walk begins. -/
def Trace.origin : Trace → Nat
  | .tail offset => offset
  | .escaped offset _ _ => offset
  | .token offset _ _ _ => offset
  | .unclosed offset _ _ => offset

inductive Closing.Sound (d : Delimiters) (text : List Char) : Closing → Prop
  | missing {offset : Nat} : Text.IsBoundary text offset → Sound d text (.missing offset)
  | found {offset stop : Nat} : Meets d.closing text offset stop → Sound d text (.found offset stop)
  | escaped {offset stop : Nat} {next : Closing} : Meets d.closing text offset stop →
    next.origin = stop + Text.byteLength d.closing → Sound d text next →
      Sound d text (.escaped offset stop next)

/-- After a delimiter the walk goes on behind it, and after a token behind its close delimiter. -/
inductive Trace.Sound (d : Delimiters) (text : List Char) : Trace → Prop
  | tail {offset : Nat} : Text.IsBoundary text offset → Sound d text (.tail offset)
  | escaped {offset start : Nat} {next : Trace} : Meets d.opening text offset start →
    next.origin = start + Text.byteLength d.opening → Sound d text next →
      Sound d text (.escaped offset start next)
  | token {offset start stop : Nat} {closing : Closing} {next : Trace} :
    Meets d.opening text offset start →
      closing.origin = start + Text.byteLength d.opening → closing.Sound d text →
        closing.stop? = some stop → next.origin = stop + Text.byteLength d.closing →
          Sound d text next → Sound d text (.token offset start closing next)
  | unclosed {offset start : Nat} {closing : Closing} : Meets d.opening text offset start →
    closing.origin = start + Text.byteLength d.opening → closing.Sound d text →
      closing.stop? = none → Sound d text (.unclosed offset start closing)

namespace Cursor

theorem isBoundary (h : Cursor text offset rest) : Text.IsBoundary text offset := by
  obtain ⟨front, htext, hoffset⟩ := h
  exact ⟨front, rest, htext, hoffset⟩

theorem meets (h : Cursor text offset rest) (hcut : cut? needle rest = some (before, after)) :
    Meets needle text offset (offset + Text.byteLength before) := by
  have hat := h.at_cut hcut
  have hafter := h.after_cut hcut
  have hwithin : offset + Text.byteLength before + Text.byteLength needle ≤
      Text.byteLength text := by
    rw [hafter.byteLength_eq]
    exact Nat.le_add_right _ _
  refine ⟨Nat.le_add_right _ _, hwithin, h.isBoundary, hat.advance.isBoundary, hafter.isBoundary,
    fun hlt => by omega, fun hescaped => ?_⟩
  rw [hat.escapedAt] at hescaped
  obtain ⟨init, rfl, hposition⟩ := eq_concat_of_endsEscaped hescaped offset
  rw [List.append_assoc] at hat
  rw [hposition]
  exact ⟨Nat.le_add_right _ _, hat.advance.isBoundary⟩

theorem origin_trace (d : Delimiters) (text : List Char) (bytes : Array UInt8) (offset : Nat) :
    (Closing.trace d text bytes offset).origin = offset := by
  cases hfind : Text.find? d.closing (Template.remainder text offset) with
  | none => rw [Closing.trace_of_find?_eq_none hfind, Closing.origin]
  | some ahead =>
    rw [Closing.trace_of_find?_eq_some hfind]
    split <;> rfl

theorem origin_scanFrom (d : Delimiters) (text : List Char) (bytes : Array UInt8) (offset : Nat) :
    (Trace.scanFrom d text bytes offset).origin = offset := by
  cases hfind : Text.find? d.opening (Template.remainder text offset) with
  | none => rw [Trace.scanFrom_of_find?_eq_none hfind, Trace.origin]
  | some ahead =>
    rw [Trace.scanFrom_of_find?_eq_some hfind]
    split
    · rfl
    · simp only
      split <;> rfl

theorem sound_trace (h : Cursor text offset rest) :
    (Closing.trace d text (Text.encode text).toArray offset).Sound d text := by
  fun_induction readContent d rest generalizing offset with
  | case1 rest hcut =>
    rw [h.trace_missing hcut]
    exact .missing h.isBoundary
  | case2 rest before after hcut hescaped ih =>
    rw [h.trace_cut hcut, if_pos hescaped]
    exact .escaped (h.meets hcut) (origin_trace ..) (ih (h.after_cut hcut))
  | case3 rest before after hcut hescaped =>
    rw [h.trace_cut hcut, if_neg hescaped]
    exact .found (h.meets hcut)

theorem sound_scanFrom (h : Cursor text offset rest) :
    (Trace.scanFrom d text (Text.encode text).toArray offset).Sound d text := by
  fun_induction read d rest generalizing offset with
  | case1 rest hcut =>
    rw [h.scanFrom_tail hcut]
    exact .tail h.isBoundary
  | case2 rest before after hcut hescaped ih =>
    rw [h.scanFrom_escaped hcut hescaped]
    exact .escaped (h.meets hcut) (origin_scanFrom ..) (ih (h.after_cut hcut))
  | case3 rest before after hcut hescaped hread =>
    rw [h.scanFrom_unclosed hcut hescaped hread]
    exact .unclosed (h.meets hcut) (origin_trace ..) (h.after_cut hcut).sound_trace
      ((h.after_cut hcut).stop?_eq_none hread)
  | case4 rest before after hcut hescaped content left hread ih =>
    obtain ⟨-, stop, hstop, hleft⟩ := (h.after_cut hcut).stop?_eq_some hread
    rw [h.scanFrom_token hcut hescaped hstop]
    exact .token (h.meets hcut) (origin_trace ..) (h.after_cut hcut).sound_trace hstop
      (origin_scanFrom ..) (ih hleft)

end Cursor

/-! ## Progress -/

theorem Meets.advances {position : Nat} (h : Meets needle text offset position)
    (hne : needle ≠ []) : offset < position + Text.byteLength needle := by
  have := h.ordered
  have := Text.byteLength_pos hne
  omega

/-- Offsets that go up from `low` and not beyond `high`. -/
structure Ascends (low high : Nat) (offsets : List Nat) : Prop where
  rising : offsets.Pairwise (· < ·)
  bounded : ∀ o ∈ offsets, low ≤ o ∧ o ≤ high

namespace Ascends

variable {low high : Nat} {offsets : List Nat}

theorem singleton (h : low ≤ high) : Ascends low high [low] :=
  ⟨List.pairwise_singleton _ _, List.forall_mem_singleton.mpr ⟨Nat.le_refl _, h⟩⟩

theorem cons (h : Ascends low high offsets) (hlt : offset < low) (hle : offset ≤ high) :
    Ascends offset high (offset :: offsets) where
  rising := List.pairwise_cons.mpr
    ⟨fun o ho => Nat.lt_of_lt_of_le hlt (h.bounded o ho).1, h.rising⟩
  bounded := by
    refine List.forall_mem_cons.mpr ⟨⟨Nat.le_refl _, hle⟩, fun o ho => ?_⟩
    obtain ⟨hlow, hhigh⟩ := h.bounded o ho
    exact ⟨Nat.le_of_lt (Nat.lt_of_lt_of_le hlt hlow), hhigh⟩

theorem length_le (h : Ascends low high offsets) : offsets.length ≤ high + 1 - low := by
  induction offsets generalizing low with
  | nil => exact Nat.zero_le _
  | cons first others ih =>
    obtain ⟨hfirst, hothers⟩ := List.pairwise_cons.mp h.rising
    obtain ⟨hlow, hhigh⟩ := h.bounded first (List.mem_cons_self ..)
    have hrest : Ascends (first + 1) high others :=
      ⟨hothers, fun o ho => ⟨hfirst o ho, (h.bounded o (List.mem_cons_of_mem _ ho)).2⟩⟩
    have hlen := ih hrest
    rw [List.length_cons]
    omega

end Ascends

namespace Closing

/-- The offsets at which the steps begin. -/
def offsets : Closing → List Nat
  | .missing offset => [offset]
  | .found offset _ => [offset]
  | .escaped offset _ next => offset :: next.offsets

variable {closing : Closing}

theorem Sound.ascends (h : closing.Sound d text) :
    Ascends closing.origin (Text.byteLength text) closing.offsets := by
  induction h with
  | missing hboundary => exact .singleton hboundary.le
  | found hmeets => exact .singleton hmeets.begins.le
  | escaped hmeets hnext _ ih =>
    exact ih.cons (hnext ▸ hmeets.advances d.closing_ne_nil) hmeets.begins.le

theorem Sound.origin_le_stop (h : closing.Sound d text) (hstop : closing.stop? = some stop) :
    closing.origin ≤ stop := by
  induction h with
  | missing _ => cases hstop
  | found hmeets =>
    cases hstop
    exact hmeets.ordered
  | escaped hmeets hnext _ ih =>
    have hlt := hmeets.advances d.closing_ne_nil
    have hle := ih hstop
    rw [origin]
    omega

end Closing

namespace Trace

/-- The offsets at which the steps begin, and the one at which the walk ends: a token that is not
closed takes it to the end of the text. -/
def offsets (size : Nat) : Trace → List Nat
  | .tail offset => [offset]
  | .escaped offset _ next => offset :: next.offsets size
  | .token offset _ _ next => offset :: next.offsets size
  | .unclosed offset _ _ => [offset, size]

/-- The searches for the ends of tokens. -/
def closings : Trace → List Closing
  | .tail _ => []
  | .escaped _ _ next => next.closings
  | .token _ _ closing next => closing :: next.closings
  | .unclosed _ _ closing => [closing]

variable {trace : Trace}

theorem Sound.closings (h : trace.Sound d text) :
    ∀ closing ∈ trace.closings, closing.Sound d text := by
  induction h with
  | tail _ => exact List.forall_mem_nil _
  | escaped _ _ _ ih => exact ih
  | token _ _ hclosing _ _ _ ih => exact List.forall_mem_cons.mpr ⟨hclosing, ih⟩
  | unclosed _ _ hclosing _ => exact List.forall_mem_singleton.mpr hclosing

theorem Sound.ascends (h : trace.Sound d text) :
    Ascends trace.origin (Text.byteLength text) (trace.offsets (Text.byteLength text)) := by
  induction h with
  | tail hboundary => exact .singleton hboundary.le
  | escaped hmeets hnext _ ih =>
    exact ih.cons (hnext ▸ hmeets.advances d.opening_ne_nil) hmeets.begins.le
  | @token offset start stop closing next hmeets hinner hclosing hstop hnext _ ih =>
    have hlt := hmeets.advances d.opening_ne_nil
    have hle := hclosing.origin_le_stop hstop
    have hmoves : offset < next.origin := by omega
    exact ih.cons hmoves hmeets.begins.le
  | unclosed hmeets _ _ _ =>
    have hlt := hmeets.advances d.opening_ne_nil
    exact (Ascends.singleton (Nat.le_refl _)).cons (Nat.lt_of_lt_of_le hlt hmeets.within)
      hmeets.begins.le

/-- Every token takes up at least its delimiters. -/
theorem Sound.length_contents_le (h : trace.Sound d text) :
    trace.origin + (contents (trace.segments d text)).length *
        (Text.byteLength d.opening + Text.byteLength d.closing) ≤ Text.byteLength text := by
  induction h with
  | tail hboundary =>
    show _ + 0 * _ ≤ _
    rw [Nat.zero_mul]
    exact hboundary.le
  | @escaped offset start next hmeets hnext _ ih =>
    have hle := hmeets.ordered
    show offset + (contents (next.segments d text)).length * _ ≤ _
    omega
  | @token offset start stop closing next hmeets hinner hclosing hstop hnext _ ih =>
    have hle := hmeets.ordered
    have hstop' := hclosing.origin_le_stop hstop
    show offset + ((contents (next.segments d text)).length + 1) * _ ≤ _
    rw [Nat.add_mul, Nat.one_mul]
    omega
  | unclosed hmeets _ _ _ =>
    show _ + 0 * _ ≤ _
    rw [Nat.zero_mul]
    exact hmeets.begins.le

end Trace

/-! ## A pass with checks

Each part of a pass answers `none` as soon as it would slice the text elsewhere than between two
characters, look at a byte that there is not, or go back before the start. -/

/-- Looks for a delimiter from `offset` on. -/
def search? (needle text : List Char) (offset : Nat) : Option (Option Nat) :=
  (Text.slice? text offset (Text.byteLength text)).map (Text.find? needle)

theorem search?_le {ahead : Nat} (h : search? needle text offset = some (some ahead)) :
    offset + ahead + Text.byteLength needle ≤ Text.byteLength text := by
  obtain ⟨rest, hrest, hfind⟩ := Option.map_eq_some_iff.mp h
  obtain ⟨before, after, -, -, hlen⟩ := Text.eq_append_of_slice? hrest
  have hle := Text.find?_add_byteLength_le hfind
  omega

/-- Whether the delimiter at `position` is escaped, and what stands before it, the escape left
out. -/
def literal? (text : List Char) (bytes : Array UInt8) (offset position : Nat) :
    Option (Bool × List Char) :=
  if offset < position then
    match Text.previous? position with
    | none => none
    | some last =>
      match bytes[last]? with
      | none => none
      | some byte =>
        if byte = escapeByte then (Text.slice? text offset last).map (true, ·)
        else (Text.slice? text offset position).map (false, ·)
  else (Text.slice? text offset position).map (false, ·)

/-- Gathers the content of a token like `collect`. -/
def Closing.collect? (d : Delimiters) (text : List Char) (bytes : Array UInt8) (offset : Nat)
    (content : List Char) : Option (Option (List Char × Nat)) :=
  match _h : search? d.closing text offset with
  | none => none
  | some none => some none
  | some (some ahead) =>
    let stop := offset + ahead
    match literal? text bytes offset stop with
    | none => none
    | some (true, part) =>
      collect? d text bytes (stop + Text.byteLength d.closing) (content ++ part ++ d.closing)
    | some (false, part) => some (some (content ++ part, stop))
termination_by Text.byteLength text - offset
decreasing_by
  have := search?_le _h
  have := Text.byteLength_pos d.closing_ne_nil
  omega

theorem Closing.le_of_collect? {bytes : Array UInt8} {gathered : List Char}
    (h : collect? d text bytes offset gathered = some (some (content, stop))) : offset ≤ stop := by
  fun_induction collect? d text bytes offset gathered with
  | case1 => cases h
  | case2 => cases h
  | case3 => cases h
  | case4 offset gathered ahead hsearch s part hliteral ih =>
    have hle := ih h
    omega
  | case5 offset gathered ahead hsearch s part hliteral =>
    have hs : s = stop := (Prod.mk.inj (Option.some.inj (Option.some.inj h))).2
    rw [← hs]
    exact Nat.le_add_right _ _

variable {σ ε : Type}

/-- Reads the text like `expandFrom`. After a token that is not closed it goes on at the end of the
text, where it finds nothing. -/
def Trace.expandFrom? (d : Delimiters) (handler : Handler σ ε) (text : List Char)
    (bytes : Array UInt8) (offset : Nat) (output : List Char) (state : σ) :
    Option (Except ε (List Char) × σ) :=
  match _h : search? d.opening text offset with
  | none => none
  | some none =>
    if offset < Text.byteLength text then
      (Text.slice? text offset (Text.byteLength text)).map fun unread =>
        (.ok (output ++ unread), state)
    else some (.ok output, state)
  | some (some ahead) =>
    let start := offset + ahead
    let inner := start + Text.byteLength d.opening
    match literal? text bytes offset start with
    | none => none
    | some (true, part) =>
      expandFrom? d handler text bytes inner (output ++ part ++ d.opening) state
    | some (false, part) =>
      match _hc : Closing.collect? d text bytes inner [] with
      | none => none
      | some none =>
        match Text.slice? text start (Text.byteLength text) with
        | none => none
        | some unread =>
          expandFrom? d handler text bytes (Text.byteLength text) (output ++ part ++ unread) state
      | some (some (content, stop)) =>
        match handler (String.ofList content) state with
        | (.error e, next) => some (.error e, next)
        | (.ok reply, next) =>
          expandFrom? d handler text bytes (stop + Text.byteLength d.closing)
            (output ++ part ++ (reply.getD "").toList) next
termination_by Text.byteLength text - offset
decreasing_by
  · have := search?_le _h
    have := Text.byteLength_pos d.opening_ne_nil
    omega
  · have := search?_le _h
    have := Text.byteLength_pos d.opening_ne_nil
    omega
  · have := search?_le _h
    have := Text.byteLength_pos d.opening_ne_nil
    have := Closing.le_of_collect? _hc
    omega

/-! ## The checks pass -/

section Checks

variable {ahead : Nat} {bytes : Array UInt8}

theorem Closing.collect?_of_search?_eq_none (h : search? d.closing text offset = some none)
    (gathered : List Char) : collect? d text bytes offset gathered = some none := by
  rw [collect?]
  split <;> rename_i heq <;> rw [h] at heq <;> cases heq

theorem Closing.collect?_of_search? (h : search? d.closing text offset = some (some ahead))
    (gathered : List Char) :
    collect? d text bytes offset gathered =
      match literal? text bytes offset (offset + ahead) with
      | none => none
      | some (true, part) =>
        collect? d text bytes (offset + ahead + Text.byteLength d.closing)
          (gathered ++ part ++ d.closing)
      | some (false, part) => some (some (gathered ++ part, offset + ahead)) := by
  rw [collect?]
  split <;> rename_i heq <;> rw [h] at heq <;> cases heq
  rfl

theorem Trace.expandFrom?_of_search?_eq_none (handler : Handler σ ε)
    (h : search? d.opening text offset = some none) (output : List Char) (state : σ) :
    expandFrom? d handler text bytes offset output state =
      if offset < Text.byteLength text then
        (Text.slice? text offset (Text.byteLength text)).map fun unread =>
          (.ok (output ++ unread), state)
      else some (.ok output, state) := by
  rw [expandFrom?]
  split <;> rename_i heq <;> rw [h] at heq <;> cases heq

theorem Trace.expandFrom?_of_search? (handler : Handler σ ε)
    (h : search? d.opening text offset = some (some ahead)) (output : List Char) (state : σ) :
    expandFrom? d handler text bytes offset output state =
      match literal? text bytes offset (offset + ahead) with
      | none => none
      | some (true, part) =>
        expandFrom? d handler text bytes (offset + ahead + Text.byteLength d.opening)
          (output ++ part ++ d.opening) state
      | some (false, part) =>
        match Closing.collect? d text bytes (offset + ahead + Text.byteLength d.opening) [] with
        | none => none
        | some none =>
          match Text.slice? text (offset + ahead) (Text.byteLength text) with
          | none => none
          | some unread =>
            expandFrom? d handler text bytes (Text.byteLength text) (output ++ part ++ unread) state
        | some (some (content, stop)) =>
          match handler (String.ofList content) state with
          | (.error e, next) => some (.error e, next)
          | (.ok reply, next) =>
            expandFrom? d handler text bytes (stop + Text.byteLength d.closing)
              (output ++ part ++ (reply.getD "").toList) next := by
  rw [expandFrom?]
  split <;> rename_i heq <;> rw [h] at heq <;> cases heq
  simp only
  split
  · rfl
  · rfl
  · split <;> rename_i hcollect <;> rw [hcollect]

namespace Cursor

theorem search? (h : Cursor text offset rest) (needle : List Char) :
    Template.search? needle text offset =
      some ((cut? needle rest).map fun (before, _) => Text.byteLength before) := by
  rw [Template.search?, h.slice?_end, Option.map_some, find?_eq_cut?]

theorem search?_none (h : Cursor text offset rest) (hcut : cut? needle rest = none) :
    Template.search? needle text offset = some none := by
  rw [h.search?, hcut]
  rfl

theorem search?_some (h : Cursor text offset rest)
    (hcut : cut? needle rest = some (before, after)) :
    Template.search? needle text offset = some (some (Text.byteLength before)) := by
  rw [h.search?, hcut]
  rfl

/-- The last of the bytes passed is one of the text. It decides whether the delimiter is escaped. -/
theorem literal?_of_ne_nil (h : Cursor text offset (before ++ rest)) (hne : before ≠ []) :
    ∃ last byte, Text.previous? (offset + Text.byteLength before) = some last ∧
      last = offset + Text.byteLength before - 1 ∧
      (Text.encode text).toArray[last]? = some byte ∧
      (byte = escapeByte ↔ endsEscaped before = true) := by
  have hpos := Text.byteLength_pos hne
  have hescaped := h.escapedAt
  have hle := h.advance.isBoundary.le
  obtain ⟨last, hlast⟩ := Nat.exists_eq_add_one_of_ne_zero
    (Nat.ne_of_gt (Nat.add_pos_right offset hpos))
  have hlt : last < (Text.encode text).toArray.size := by
    rw [List.size_toArray, Text.length_encode]
    omega
  have hbyte := Array.getElem?_eq_getElem hlt
  rw [Template.escapedAt, decide_eq_true (Nat.lt_add_of_pos_right hpos), Bool.true_and, hlast,
    Nat.add_sub_cancel, hbyte] at hescaped
  refine ⟨last, _, by rw [hlast]; rfl, by omega, hbyte, ?_⟩
  rw [← hescaped, beq_iff_eq, Option.some.injEq]

theorem literal? (h : Cursor text offset (before ++ rest)) :
    Template.literal? text (Text.encode text).toArray offset (offset + Text.byteLength before) =
      some (endsEscaped before, if endsEscaped before then before.dropLast else before) := by
  by_cases hne : before = []
  · subst hne
    rw [Template.literal?, if_neg (by simp [Text.byteLength]), h.slice?]
    rfl
  · obtain ⟨last, byte, hprevious, hlast, hbyte, hescaped⟩ := h.literal?_of_ne_nil hne
    rw [Template.literal?, if_pos (Nat.lt_add_of_pos_right (Text.byteLength_pos hne)), hprevious]
    simp only [hbyte]
    by_cases hends : endsEscaped before = true
    · obtain ⟨init, rfl, hposition⟩ := eq_concat_of_endsEscaped hends offset
      rw [List.append_assoc] at h
      rw [if_pos (hescaped.mpr hends), if_pos hends, hends, hlast, hposition, h.slice?,
        List.dropLast_concat]
      rfl
    · rw [if_neg (fun heq => hends (hescaped.mp heq)), if_neg hends, h.slice?,
        Bool.eq_false_iff.mpr hends]
      rfl

theorem collect?_eq (h : Cursor text offset rest) (gathered : List Char) :
    Closing.collect? d text (Text.encode text).toArray offset gathered =
      some (Closing.collect d text (Text.encode text).toArray offset gathered) := by
  rw [Closing.collect_eq]
  fun_induction readContent d rest generalizing offset gathered with
  | case1 rest hcut =>
    rw [Closing.collect?_of_search?_eq_none (h.search?_none hcut), h.trace_missing hcut]
    rfl
  | case2 rest before after hcut hescaped ih =>
    rw [Closing.collect?_of_search? (h.search?_some hcut), (h.at_cut hcut).literal?, hescaped,
      h.trace_cut hcut, if_pos hescaped]
    simp only [if_true]
    rw [ih (h.after_cut hcut)]
    simp only [Closing.stop?, Closing.content, List.append_assoc,
      (h.at_cut hcut).slice_escaped hescaped]
  | case3 rest before after hcut hescaped =>
    rw [Closing.collect?_of_search? (h.search?_some hcut), (h.at_cut hcut).literal?,
      Bool.eq_false_iff.mpr hescaped, h.trace_cut hcut, if_neg hescaped, Closing.stop?,
      Closing.content, (h.at_cut hcut).slice]
    rfl

theorem eq_nil_of_le (h : Cursor text offset rest) (hle : Text.byteLength text ≤ offset) :
    rest = [] := by
  refine Decidable.byContradiction fun hne => ?_
  have hpos := Text.byteLength_pos hne
  have hlen := h.byteLength_eq
  omega

variable {handler : Handler σ ε}

theorem expandFrom?_tail (h : Cursor text offset rest) (hcut : cut? d.opening rest = none)
    (output : List Char) (state : σ) :
    Trace.expandFrom? d handler text (Text.encode text).toArray offset output state =
      some (.ok (output ++ rest), state) := by
  rw [Trace.expandFrom?_of_search?_eq_none handler (h.search?_none hcut)]
  split
  · rw [h.slice?_end]
    rfl
  · rename_i hle
    rw [h.eq_nil_of_le (Nat.le_of_not_lt hle), List.append_nil]

theorem expandFrom?_eq (h : Cursor text offset rest) (output : List Char) (state : σ) :
    Trace.expandFrom? d handler text (Text.encode text).toArray offset output state =
      some (following output (substitute handler (read d rest) state)) := by
  fun_induction read d rest generalizing offset output state with
  | case1 rest hcut =>
    rw [h.expandFrom?_tail hcut, substitute_literal, substitute, following_following, following,
      List.append_nil]
  | case2 rest before after hcut hescaped ih =>
    rw [Trace.expandFrom?_of_search? handler (h.search?_some hcut), (h.at_cut hcut).literal?,
      hescaped]
    simp only [if_true]
    rw [ih (h.after_cut hcut), substitute_literal, following_following, List.append_assoc]
  | case3 rest before after hcut hescaped hread =>
    have hstart := (h.at_cut hcut).advance
    have hdone : Cursor text (Text.byteLength text) [] := ⟨text, (List.append_nil _).symm, rfl⟩
    rw [Trace.expandFrom?_of_search? handler (h.search?_some hcut), (h.at_cut hcut).literal?,
      Bool.eq_false_iff.mpr hescaped, (h.after_cut hcut).collect?_eq, Closing.collect_eq,
      (h.after_cut hcut).stop?_eq_none hread, Option.map_none, hstart.slice?_end]
    simp only [Bool.false_eq_true, if_false]
    rw [hdone.expandFrom?_tail (cut?_nil d.opening_ne_nil), substitute_literal,
      substitute_literal, substitute, following_following, following_following, following,
      List.append_nil]
  | case4 rest before after hcut hescaped content left hread ih =>
    obtain ⟨hcontent, stop, hstop, hleft⟩ := (h.after_cut hcut).stop?_eq_some hread
    rw [Trace.expandFrom?_of_search? handler (h.search?_some hcut), (h.at_cut hcut).literal?,
      Bool.eq_false_iff.mpr hescaped, (h.after_cut hcut).collect?_eq,
      Closing.collect_eq_some_iff.mpr ⟨hstop, hcontent⟩]
    simp only [Bool.false_eq_true, if_false]
    cases hreply : handler (String.ofList content) state with
    | mk reply next =>
      cases reply with
      | error e =>
        rw [substitute_literal, substitute_failed hreply]
        rfl
      | ok reply =>
        simp only
        rw [ih hleft, substitute_literal, substitute_replied hreply, following_following,
          following_following, List.append_assoc]

end Cursor

end Checks

/-- A pass over a whole template, with every position checked. -/
def expandChecked? (d : Delimiters) (handler : Handler σ ε) (text : String) (state : σ) :
    Option (Except ε String × σ) :=
  match Trace.expandFrom? d handler text.toList (Text.encode text.toList).toArray 0 [] state with
  | none => none
  | some (.error e, final) => some (.error e, final)
  | some (.ok output, final) => some (.ok (String.ofList output), final)

theorem expandChecked?_eq (d : Delimiters) (handler : Handler σ ε) (text : String) (state : σ) :
    expandChecked? d handler text state = some (expand d handler text state) := by
  have hstart := Cursor.start text.toList
  rw [expandChecked?, hstart.expandFrom?_eq, following_nil, ← hstart.segments_scanFrom, expand,
    segments, Trace.scan]
  rcases substitute handler _ state with ⟨_ | _, final⟩ <;> rfl

/-- Each call takes up a token of the text. -/
theorem length_calls_le (d : Delimiters) (handler : Handler σ ε) (text : String) (state : σ) :
    (expand d handler.noted text (state, [])).2.2.length ≤
      Text.byteLength text.toList / (Text.byteLength d.opening + Text.byteLength d.closing) := by
  obtain ⟨made, heq, habides⟩ := expand_noted d handler text state
  have hasked := habides.asked.length_le
  have hwalk : (Trace.scan d text.toList).Sound d text.toList :=
    (Cursor.start text.toList).sound_scanFrom
  have hpos := Text.byteLength_pos d.opening_ne_nil
  rw [List.length_map, Pieces.tokens_ofSegments, tokens, List.length_map] at hasked
  rw [heq, Nat.le_div_iff_mul_le (Nat.add_pos_left hpos _)]
  calc made.length * (Text.byteLength d.opening + Text.byteLength d.closing)
      ≤ (contents (segments d text)).length *
          (Text.byteLength d.opening + Text.byteLength d.closing) := Nat.mul_le_mul_right _ hasked
    _ ≤ Text.byteLength text.toList :=
      Nat.le_trans (Nat.le_add_left _ _) hwalk.length_contents_le

/-- At every step of the walk over a text, and of each search inside it, the delimiter lies between
the offset of the step and the end of the text, and all positions in use are between characters. The
offsets go up. So a pass that slices the text nowhere else, and checks where it does, never stops on
one of the checks, and there are no more calls than tokens fit in the text. -/
theorem scan_in_bounds (d : Delimiters) (text : String) :
    let walk := Trace.scan d text.toList
    let size := Text.byteLength text.toList
    (walk.Sound d text.toList ∧ walk.origin = 0) ∧
      (∀ closing ∈ walk.closings, closing.Sound d text.toList) ∧
      (Ascends 0 size (walk.offsets size) ∧ (walk.offsets size).length ≤ size + 1) ∧
      (∀ closing ∈ walk.closings, Ascends closing.origin size closing.offsets ∧
        closing.offsets.length ≤ size + 1 - closing.origin) ∧
      (∀ start stop, (Text.slice? text.toList start stop).isSome = true ↔
        start ≤ stop ∧ Text.IsBoundary text.toList start ∧ Text.IsBoundary text.toList stop) ∧
      ∀ {σ ε : Type} (handler : Handler σ ε) (state : σ),
        expandChecked? d handler text state = some (expand d handler text state) ∧
          (expand d handler.noted text (state, [])).2.2.length ≤
            size / (Text.byteLength d.opening + Text.byteLength d.closing) := by
  intro walk size
  have hwalk : walk.Sound d text.toList := (Cursor.start text.toList).sound_scanFrom
  have horigin : walk.origin = 0 := Cursor.origin_scanFrom ..
  have hascends : Ascends 0 size (walk.offsets size) := horigin ▸ hwalk.ascends
  refine ⟨⟨hwalk, horigin⟩, hwalk.closings, ⟨hascends, hascends.length_le⟩,
    fun closing hclosing => ?_, fun start stop => Text.isSome_slice?_iff, fun handler state => ?_⟩
  · have hinside := (hwalk.closings closing hclosing).ascends
    exact ⟨hinside, hinside.length_le⟩
  · exact ⟨expandChecked?_eq d handler text state, length_calls_le d handler text state⟩

/-- Characters of two bytes stand before the delimiters and in the token, whose first close
delimiter is escaped. The text ends after its last delimiter. -/
theorem scan_in_bounds_two_byte_characters :
    let text := "é\\$\x7b$\x7bü\\\x7dé\x7d"
    let closing := Closing.escaped 7 10 (.found 11 13)
    Trace.scan .dollar text.toList = .escaped 0 3 (.token 5 5 closing (.tail 14)) ∧
      closing ∈ (Trace.scan .dollar text.toList).closings ∧
      Ascends 7 14 [7, 11] ∧
      (expand .dollar
          (Handler.noted fun content calls =>
            ((.ok (some content) : Except Unit (Option String)), calls + 1))
          text (0, [])).2.2.length ≤ 4 := by
  intro text closing
  have hscan : Trace.scan .dollar text.toList = .escaped 0 3 (.token 5 5 closing (.tail 14)) := by
    decide +kernel
  have hmem : closing ∈ (Trace.scan .dollar text.toList).closings := by
    rw [hscan]
    exact List.mem_singleton_self closing
  obtain ⟨-, -, -, hclosings, -, hhandlers⟩ := scan_in_bounds .dollar text
  have hsize : Text.byteLength text.toList = 14 := by decide +kernel
  have hinside := (hclosings closing hmem).1
  rw [hsize] at hinside hhandlers
  exact ⟨hscan, hmem, hinside, (hhandlers _ 0).2⟩

end Template

end SqlTemplate
