import SqlTemplate.Unicode.Property

/-!
# SqlTemplate.Text.Trim

Removing white space from both ends of a text. White space is the Unicode property, so no-break
and ideographic spaces go too.
-/

namespace SqlTemplate.Text

def trimStart (cs : List Char) : List Char :=
  cs.dropWhile Unicode.isWhiteSpace

def trimEnd (cs : List Char) : List Char :=
  (trimStart cs.reverse).reverse

def trim (cs : List Char) : List Char :=
  trimEnd (trimStart cs)

theorem trimStart_of_head {c : Char} {cs : List Char} (h : Unicode.isWhiteSpace c = false) :
    trimStart (c :: cs) = c :: cs := by
  simp [trimStart, h]

end SqlTemplate.Text
