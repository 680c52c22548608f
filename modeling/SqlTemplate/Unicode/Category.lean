import SqlTemplate.Unicode.Letters
import SqlTemplate.Unicode.Marks
import SqlTemplate.Unicode.Numbers
import SqlTemplate.Unicode.Punctuation
import SqlTemplate.Unicode.Symbols
import SqlTemplate.Unicode.Separators

/-!
# SqlTemplate.Unicode.Category

The general category of a character. Every character is in exactly one of the listed categories or
in `unassigned`, which holds whatever the tables leave out.
-/

namespace SqlTemplate.Unicode

inductive Category where
  | uppercaseLetter | lowercaseLetter | titlecaseLetter | modifierLetter | otherLetter
  | nonspacingMark | spacingMark | enclosingMark
  | decimalNumber | letterNumber | otherNumber
  | connectorPunctuation | dashPunctuation | openPunctuation | closePunctuation
  | initialPunctuation | finalPunctuation | otherPunctuation
  | mathSymbol | currencySymbol | modifierSymbol | otherSymbol
  | spaceSeparator | lineSeparator | paragraphSeparator
  | control | format | privateUse
  | unassigned
deriving DecidableEq, Repr

namespace Category

/-- Every category that has a table of its own. -/
def assigned : List Category :=
  [.uppercaseLetter, .lowercaseLetter, .titlecaseLetter, .modifierLetter, .otherLetter,
   .nonspacingMark, .spacingMark, .enclosingMark, .decimalNumber, .letterNumber, .otherNumber,
   .connectorPunctuation, .dashPunctuation, .openPunctuation, .closePunctuation,
   .initialPunctuation, .finalPunctuation, .otherPunctuation, .mathSymbol, .currencySymbol,
   .modifierSymbol, .otherSymbol, .spaceSeparator, .lineSeparator, .paragraphSeparator,
   .control, .format, .privateUse]

def table : Category → InversionList
  | .uppercaseLetter => Letters.uppercase
  | .lowercaseLetter => Letters.lowercase
  | .titlecaseLetter => Letters.titlecase
  | .modifierLetter => Letters.modifier
  | .otherLetter => Letters.other
  | .nonspacingMark => Marks.nonspacing
  | .spacingMark => Marks.spacing
  | .enclosingMark => Marks.enclosing
  | .decimalNumber => Numbers.decimal
  | .letterNumber => Numbers.letter
  | .otherNumber => Numbers.other
  | .connectorPunctuation => Punctuation.connector
  | .dashPunctuation => Punctuation.dash
  | .openPunctuation => Punctuation.opening
  | .closePunctuation => Punctuation.closing
  | .initialPunctuation => Punctuation.initialQuote
  | .finalPunctuation => Punctuation.finalQuote
  | .otherPunctuation => Punctuation.other
  | .mathSymbol => Symbols.math
  | .currencySymbol => Symbols.currency
  | .modifierSymbol => Symbols.modifier
  | .otherSymbol => Symbols.other
  | .spaceSeparator => Separators.space
  | .lineSeparator => Separators.line
  | .paragraphSeparator => Separators.paragraph
  | .control => Separators.control
  | .format => Separators.format
  | .privateUse => Separators.privateUse
  | .unassigned => []

def holds (category : Category) (c : Char) : Bool :=
  match category with
  | .unassigned => assigned.all fun other => !other.table.includes c.toNat
  | other => other.table.includes c.toNat

def anyHolds (categories : List Category) (c : Char) : Bool :=
  categories.any fun category => category.holds c

def letters : List Category :=
  [.uppercaseLetter, .lowercaseLetter, .titlecaseLetter, .modifierLetter, .otherLetter]

def marks : List Category := [.nonspacingMark, .spacingMark, .enclosingMark]

def numbers : List Category := [.decimalNumber, .letterNumber, .otherNumber]

def punctuation : List Category :=
  [.connectorPunctuation, .dashPunctuation, .openPunctuation, .closePunctuation,
   .initialPunctuation, .finalPunctuation, .otherPunctuation]

def symbols : List Category := [.mathSymbol, .currencySymbol, .modifierSymbol, .otherSymbol]

def separators : List Category := [.spaceSeparator, .lineSeparator, .paragraphSeparator]

/-- Surrogates are no characters, so they have no place among the others. -/
def others : List Category := [.control, .format, .privateUse, .unassigned]

end Category

end SqlTemplate.Unicode
