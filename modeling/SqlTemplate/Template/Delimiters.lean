/-!
# SqlTemplate.Template.Delimiters

The two texts that mark the tokens of a template. Neither may be empty, so a scan moves on with
every delimiter it meets.
-/

namespace SqlTemplate.Template

structure Delimiters where
  opening : List Char
  closing : List Char
  opening_ne_nil : opening ≠ []
  closing_ne_nil : closing ≠ []

namespace Delimiters

def ofStrings? (opening closing : String) : Option Delimiters :=
  if ho : opening.toList ≠ [] then
    if hc : closing.toList ≠ [] then some ⟨opening.toList, closing.toList, ho, hc⟩ else none
  else none

/-- The delimiters of SQL templates: a dollar sign with an open brace, and a close brace. -/
def dollar : Delimiters :=
  ⟨['$', '{'], ['}'], by simp, by simp⟩

end Delimiters

/-- Written before a delimiter, it makes the delimiter part of the text. -/
def escape : Char := '\\'

/-- The escape is one byte long, and no other character has this byte in its UTF-8 form. -/
def escapeByte : UInt8 := 0x5C

end SqlTemplate.Template
