import SqlTemplate.Text.Bytes
import SqlTemplate.Template.Delimiters

/-!
# SqlTemplate.Template.Trace

The walk of a scan through a template, as byte positions. Outside a token the walk looks for the
open delimiter, inside one for the close delimiter; each step begins where the step before it
ended, and a delimiter right after an escape of the same step is text.
-/

namespace SqlTemplate.Template

/-- The search for the end of a token. Each step begins at `offset` and meets the close delimiter
at `stop`. -/
inductive Closing where
  | missing (offset : Nat)
  | found (offset stop : Nat)
  | escaped (offset stop : Nat) (next : Closing)
deriving Repr, DecidableEq

/-- The walk over a whole template. Each step begins at `offset` and meets the open delimiter at
`start`. -/
inductive Trace where
  | tail (offset : Nat)
  | escaped (offset start : Nat) (next : Trace)
  | token (offset start : Nat) (closing : Closing) (next : Trace)
  | unclosed (offset start : Nat) (closing : Closing)
deriving Repr, DecidableEq

/-- What a search from `offset` on looks through. -/
def remainder (text : List Char) (offset : Nat) : List Char :=
  (Text.dropBytes? text offset).getD []

/-- The byte before `position` is an escape, and it is not before `offset`. -/
def escapedAt (bytes : Array UInt8) (offset position : Nat) : Bool :=
  offset < position && bytes[position - 1]? == some escapeByte

theorem find?_remainder_le {needle text : List Char} {offset ahead : Nat} (hne : needle ≠ [])
    (h : Text.find? needle (remainder text offset) = some ahead) :
    offset + ahead + Text.byteLength needle ≤ Text.byteLength text := by
  have hle := Text.find?_add_byteLength_le h
  have hpos := Text.byteLength_pos hne
  cases hd : Text.dropBytes? text offset with
  | none => simp only [remainder, hd, Option.getD_none, Text.byteLength] at hle; omega
  | some rest =>
    obtain ⟨before, ht, hb⟩ := Text.eq_append_of_dropBytes? hd
    simp only [remainder, hd, Option.getD_some] at hle
    rw [ht, Text.byteLength_append]
    omega

namespace Closing

def trace (d : Delimiters) (text : List Char) (bytes : Array UInt8) (offset : Nat) : Closing :=
  match _h : Text.find? d.closing (remainder text offset) with
  | none => .missing offset
  | some ahead =>
    let stop := offset + ahead
    if escapedAt bytes offset stop then
      .escaped offset stop (trace d text bytes (stop + Text.byteLength d.closing))
    else .found offset stop
termination_by Text.byteLength text - offset
decreasing_by
  have := find?_remainder_le d.closing_ne_nil _h
  have := Text.byteLength_pos d.closing_ne_nil
  omega

section

variable {d : Delimiters} {text : List Char} {bytes : Array UInt8} {offset ahead : Nat}

theorem trace_of_find?_eq_none (h : Text.find? d.closing (remainder text offset) = none) :
    trace d text bytes offset = .missing offset := by
  rw [trace]
  split
  · rfl
  · rename_i heq
    rw [h] at heq
    cases heq

theorem trace_of_find?_eq_some (h : Text.find? d.closing (remainder text offset) = some ahead) :
    trace d text bytes offset =
      if escapedAt bytes offset (offset + ahead) then
        .escaped offset (offset + ahead)
          (trace d text bytes (offset + ahead + Text.byteLength d.closing))
      else .found offset (offset + ahead) := by
  rw [trace]
  split
  · rename_i heq
    rw [h] at heq
    cases heq
  · rename_i heq
    rw [h] at heq
    cases heq
    rfl

end

/-- Where the close delimiter that ends the token begins. -/
def stop? : Closing → Option Nat
  | .missing _ => none
  | .found _ stop => some stop
  | .escaped _ _ next => next.stop?

theorem stop?_trace_le {d : Delimiters} {text : List Char} {bytes : Array UInt8}
    {offset stop : Nat} (h : (trace d text bytes offset).stop? = some stop) :
    offset ≤ stop ∧ stop + Text.byteLength d.closing ≤ Text.byteLength text := by
  fun_induction trace d text bytes offset with
  | case1 => simp [stop?] at h
  | case2 offset ahead hf s hs ih =>
    obtain ⟨hle, hend⟩ := ih (by simpa [stop?] using h)
    exact ⟨by omega, hend⟩
  | case3 offset ahead hf s hs =>
    simp only [stop?, Option.some.injEq] at h
    have := find?_remainder_le d.closing_ne_nil hf
    omega

end Closing

namespace Trace

def scanFrom (d : Delimiters) (text : List Char) (bytes : Array UInt8) (offset : Nat) : Trace :=
  match _h : Text.find? d.opening (remainder text offset) with
  | none => .tail offset
  | some ahead =>
    let start := offset + ahead
    let inner := start + Text.byteLength d.opening
    if escapedAt bytes offset start then
      .escaped offset start (scanFrom d text bytes inner)
    else
      let closing := Closing.trace d text bytes inner
      match _hc : closing.stop? with
      | none => .unclosed offset start closing
      | some stop =>
        .token offset start closing (scanFrom d text bytes (stop + Text.byteLength d.closing))
termination_by Text.byteLength text - offset
decreasing_by
  · have := find?_remainder_le d.opening_ne_nil _h
    have := Text.byteLength_pos d.opening_ne_nil
    omega
  · have := find?_remainder_le d.opening_ne_nil _h
    have := Text.byteLength_pos d.opening_ne_nil
    have := Closing.stop?_trace_le _hc
    omega

section

variable {d : Delimiters} {text : List Char} {bytes : Array UInt8} {offset ahead : Nat}

theorem scanFrom_of_find?_eq_none (h : Text.find? d.opening (remainder text offset) = none) :
    scanFrom d text bytes offset = .tail offset := by
  rw [scanFrom]
  split
  · rfl
  · rename_i heq
    rw [h] at heq
    cases heq

theorem scanFrom_of_find?_eq_some
    (h : Text.find? d.opening (remainder text offset) = some ahead) :
    scanFrom d text bytes offset =
      if escapedAt bytes offset (offset + ahead) then
        .escaped offset (offset + ahead)
          (scanFrom d text bytes (offset + ahead + Text.byteLength d.opening))
      else
        let closing := Closing.trace d text bytes (offset + ahead + Text.byteLength d.opening)
        match closing.stop? with
        | none => .unclosed offset (offset + ahead) closing
        | some stop =>
          .token offset (offset + ahead) closing
            (scanFrom d text bytes (stop + Text.byteLength d.closing)) := by
  rw [scanFrom]
  split
  · rename_i heq
    rw [h] at heq
    cases heq
  · rename_i heq
    rw [h] at heq
    cases heq
    simp only
    split
    · rfl
    · split <;> rename_i hstop <;> rw [hstop]

end

def scan (d : Delimiters) (text : List Char) : Trace :=
  scanFrom d text (Text.encode text).toArray 0

end Trace

end SqlTemplate.Template
