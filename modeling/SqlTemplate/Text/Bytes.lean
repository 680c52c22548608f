/-!
# SqlTemplate.Text.Bytes

Byte positions in a text. A text is a list of characters, and a position counts the bytes of the
UTF-8 form before it. Only some numbers are positions between two characters: `slice?` answers
`none` for the others, and `find?` answers the first place where a text occurs in another.
-/

namespace SqlTemplate.Text

def byteLength : List Char → Nat
  | [] => 0
  | c :: cs => c.utf8Size + byteLength cs

/-- The bytes of the UTF-8 form. -/
def encode (cs : List Char) : List UInt8 :=
  cs.flatMap String.utf8EncodeChar

/-- What follows the first `n` bytes, if they end with a character. -/
def dropBytes? : List Char → Nat → Option (List Char)
  | cs, 0 => some cs
  | [], _ + 1 => none
  | c :: cs, n + 1 =>
    if c.utf8Size ≤ n + 1 then dropBytes? cs (n + 1 - c.utf8Size) else none

/-- The first `n` bytes, if they end with a character. -/
def takeBytes? : List Char → Nat → Option (List Char)
  | _, 0 => some []
  | [], _ + 1 => none
  | c :: cs, n + 1 =>
    if c.utf8Size ≤ n + 1 then (takeBytes? cs (n + 1 - c.utf8Size)).map (c :: ·) else none

/-- The text between two positions, if both lie between characters and in this order. -/
def slice? (text : List Char) (start stop : Nat) : Option (List Char) :=
  if start ≤ stop then
    match dropBytes? text start with
    | none => none
    | some rest => takeBytes? rest (stop - start)
  else none

/-- The position of the first occurrence of `needle`. -/
def find? (needle : List Char) : List Char → Option Nat
  | [] => if needle.isEmpty then some 0 else none
  | c :: cs =>
    if needle.isPrefixOf (c :: cs) then some 0 else (find? needle cs).map (c.utf8Size + ·)

/-- Position `p` of `text` lies between two characters or at an end. -/
def IsBoundary (text : List Char) (p : Nat) : Prop :=
  ∃ before after, text = before ++ after ∧ byteLength before = p

theorem byteLength_append (xs ys : List Char) :
    byteLength (xs ++ ys) = byteLength xs + byteLength ys := by
  induction xs with
  | nil => simp [byteLength]
  | cons c cs ih => simp only [List.cons_append, byteLength, ih]; omega

theorem byteLength_pos {cs : List Char} (h : cs ≠ []) : 0 < byteLength cs := by
  cases cs with
  | nil => exact absurd rfl h
  | cons c cs => have := c.utf8Size_pos; simp only [byteLength]; omega

theorem length_encode (cs : List Char) : (encode cs).length = byteLength cs := by
  induction cs with
  | nil => rfl
  | cons c cs ih =>
    simp only [encode, List.flatMap_cons, List.length_append, String.length_utf8EncodeChar]
    simp only [encode] at ih
    simp [byteLength, ih]

theorem dropBytes?_append (xs ys : List Char) :
    dropBytes? (xs ++ ys) (byteLength xs) = some ys := by
  induction xs with
  | nil => cases ys <;> simp [byteLength, dropBytes?]
  | cons c cs ih =>
    have hpos := c.utf8Size_pos
    have hsucc : c.utf8Size + byteLength cs = (c.utf8Size + byteLength cs - 1) + 1 := by omega
    rw [byteLength, List.cons_append, hsucc, dropBytes?, ← hsucc, if_pos (by omega),
      Nat.add_sub_cancel_left, ih]

theorem takeBytes?_append (xs ys : List Char) :
    takeBytes? (xs ++ ys) (byteLength xs) = some xs := by
  induction xs with
  | nil => cases ys <;> simp [byteLength, takeBytes?]
  | cons c cs ih =>
    have hpos := c.utf8Size_pos
    have hsucc : c.utf8Size + byteLength cs = (c.utf8Size + byteLength cs - 1) + 1 := by omega
    rw [byteLength, List.cons_append, hsucc, takeBytes?, ← hsucc, if_pos (by omega),
      Nat.add_sub_cancel_left, ih, Option.map_some]

theorem eq_append_of_dropBytes? {text rest : List Char} {n : Nat}
    (h : dropBytes? text n = some rest) :
    ∃ before, text = before ++ rest ∧ byteLength before = n := by
  fun_induction dropBytes? text n with
  | case1 cs => cases h; exact ⟨[], rfl, rfl⟩
  | case2 => cases h
  | case3 c cs n hle ih =>
    obtain ⟨before, hb, hn⟩ := ih h
    exact ⟨c :: before, by rw [hb, List.cons_append], by rw [byteLength]; omega⟩
  | case4 => cases h

theorem find?_add_byteLength_le {needle text : List Char} {p : Nat}
    (h : find? needle text = some p) : p + byteLength needle ≤ byteLength text := by
  induction text generalizing p with
  | nil =>
    simp only [find?] at h
    split at h
    · cases h; rename_i he; rw [List.isEmpty_iff.mp he]; simp [byteLength]
    · cases h
  | cons c cs ih =>
    simp only [find?] at h
    split at h
    · rename_i hp
      cases h
      obtain ⟨t, ht⟩ := List.isPrefixOf_iff_prefix.mp hp
      rw [← ht, byteLength_append]; omega
    · obtain ⟨q, hq, rfl⟩ := Option.map_eq_some_iff.mp h
      have := ih hq
      simp only [byteLength]; omega

end SqlTemplate.Text
