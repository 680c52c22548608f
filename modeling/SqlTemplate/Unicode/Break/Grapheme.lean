import SqlTemplate.Unicode.Emoji
import SqlTemplate.Unicode.Property
import SqlTemplate.Unicode.Usage

/-!
# SqlTemplate.Unicode.Break.Grapheme

What a character does at the border between two user-perceived characters.
-/

namespace SqlTemplate.Unicode.Break

/-- Class L. -/
def leadingJamo : InversionList :=
  [0x1100, 0x1160, 0xA960, 0xA97D]

/-- Class V. -/
def vowelJamo : InversionList :=
  [0x1160, 0x11A8, 0xD7B0, 0xD7C7, 0x16D63, 0x16D64, 0x16D67, 0x16D6B]

/-- Class T. -/
def trailingJamo : InversionList :=
  [0x11A8, 0x1200, 0xD7CB, 0xD7FC]

/-- Letters of class Prepend. -/
def prependedLetter : InversionList :=
  [0xD4E, 0xD4F, 0x111C2, 0x111C4, 0x113D1, 0x113D2, 0x1193F, 0x11940, 0x11941, 0x11942, 0x11A3A,
   0x11A3B, 0x11A84, 0x11A8A, 0x11D46, 0x11D47, 0x11F02, 0x11F03]

/-- Spacing marks that stand on their own. -/
def standingMark : InversionList :=
  [0x102B, 0x102D, 0x1038, 0x1039, 0x1062, 0x1065, 0x1067, 0x106E, 0x1083, 0x1084, 0x1087, 0x108D,
   0x108F, 0x1090, 0x109A, 0x109D, 0x1A61, 0x1A62, 0x1A63, 0x1A65, 0xAA7B, 0xAA7C, 0xAA7D, 0xAA7E,
   0x11720, 0x11722]

/-- What class SpacingMark holds besides spacing marks. -/
def spacingVowel : InversionList :=
  [0xE33, 0xE34, 0xEB3, 0xEB4]

inductive GraphemeClass where
  | carriageReturn | lineFeed | control | extend | zeroWidthJoiner | regionalIndicator | prepend
  | spacingMark | leadingJamo | vowelJamo | trailingJamo | syllable | closedSyllable
deriving DecidableEq, Repr

/-- Syllables of two parts come every 28 code points; those between them have a third part. -/
def isSyllable (closed : Bool) (n : Nat) : Bool :=
  0xAC00 ≤ n && n ≤ 0xD7A3 && ((n - 0xAC00) % 28 == 0) != closed

namespace GraphemeClass

def holds (value : GraphemeClass) (c : Char) : Bool :=
  match value with
  | .carriageReturn => c == '\r'
  | .lineFeed => c == '\n'
  | .control =>
    (Category.anyHolds [.lineSeparator, .paragraphSeparator, .control, .format] c
        || Category.unassigned.holds c && isDefaultIgnorable c)
      && !(c == '\r' || c == '\n' || isJoinControl c || extendsGrapheme c
        || Usage.prependedConcatenationMark.includes c.toNat)
  | .extend => extendsGrapheme c || Emoji.modifier.includes c.toNat
  | .zeroWidthJoiner => c.toNat == 0x200D
  | .regionalIndicator => Emoji.regionalIndicator.includes c.toNat
  | .prepend =>
    Usage.prependedConcatenationMark.includes c.toNat || prependedLetter.includes c.toNat
  | .spacingMark =>
    Category.spacingMark.holds c && !extendsGrapheme c && !standingMark.includes c.toNat
      || spacingVowel.includes c.toNat
  | .leadingJamo => Break.leadingJamo.includes c.toNat
  | .vowelJamo => Break.vowelJamo.includes c.toNat
  | .trailingJamo => Break.trailingJamo.includes c.toNat
  | .syllable => isSyllable false c.toNat
  | .closedSyllable => isSyllable true c.toNat

end GraphemeClass

end SqlTemplate.Unicode.Break
