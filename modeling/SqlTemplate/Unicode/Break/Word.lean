import SqlTemplate.Unicode.Emoji
import SqlTemplate.Unicode.Ideograph
import SqlTemplate.Unicode.Property

/-!
# SqlTemplate.Unicode.Break.Word

What a character does at the border between two words.
-/

namespace SqlTemplate.Unicode.Break

/-- Class Hebrew_Letter. -/
def hebrewLetter : InversionList :=
  [0x5D0, 0x5EB, 0x5EF, 0x5F3, 0xFB1D, 0xFB1E, 0xFB1F, 0xFB29, 0xFB2A, 0xFB37, 0xFB38, 0xFB3D,
   0xFB3E, 0xFB3F, 0xFB40, 0xFB42, 0xFB43, 0xFB45, 0xFB46, 0xFB50]

/-- Class Katakana. -/
def katakana : InversionList :=
  [0x3031, 0x3036, 0x309B, 0x309D, 0x30A0, 0x30FB, 0x30FC, 0x3100, 0x31F0, 0x3200, 0x32D0, 0x32FF,
   0x3300, 0x3358, 0xFF66, 0xFF9E, 0x1AFF0, 0x1AFF4, 0x1AFF5, 0x1AFFC, 0x1AFFD, 0x1AFFF, 0x1B000,
   0x1B001, 0x1B120, 0x1B123, 0x1B155, 0x1B156, 0x1B164, 0x1B168]

/-- Script Hiragana. -/
def hiragana : InversionList :=
  [0x3041, 0x3097, 0x309D, 0x30A0, 0x1B001, 0x1B120, 0x1B132, 0x1B133, 0x1B150, 0x1B153, 0x1F200,
   0x1F201]

/-- Letters of scripts whose words are told apart with a dictionary. -/
def complexLetter : InversionList :=
  [0xE01, 0xE31, 0xE32, 0xE34, 0xE40, 0xE47, 0xE81, 0xE83, 0xE84, 0xE85, 0xE86, 0xE8B, 0xE8C, 0xEA4,
   0xEA5, 0xEA6, 0xEA7, 0xEB1, 0xEB2, 0xEB4, 0xEBD, 0xEBE, 0xEC0, 0xEC5, 0xEC6, 0xEC7, 0xEDC, 0xEE0,
   0x1000, 0x102B, 0x103F, 0x1040, 0x1050, 0x1056, 0x105A, 0x105E, 0x1061, 0x1062, 0x1065, 0x1067,
   0x106E, 0x1071, 0x1075, 0x1082, 0x108E, 0x108F, 0x1780, 0x17B4, 0x17D7, 0x17D8, 0x17DC, 0x17DD,
   0x1950, 0x196E, 0x1970, 0x1975, 0x1980, 0x19AC, 0x19B0, 0x19CA, 0x1A20, 0x1A55, 0x1AA7, 0x1AA8,
   0xA9E0, 0xA9E5, 0xA9E6, 0xA9F0, 0xA9FA, 0xA9FF, 0xAA60, 0xAA77, 0xAA7A, 0xAA7B, 0xAA7E, 0xAAB0,
   0xAAB1, 0xAAB2, 0xAAB5, 0xAAB7, 0xAAB9, 0xAABE, 0xAAC0, 0xAAC1, 0xAAC2, 0xAAC3, 0xAADB, 0xAADE,
   0x11700, 0x1171B, 0x11740, 0x11747]

/-- What class ALetter holds besides alphabetic characters. -/
def otherLetter : InversionList :=
  [0x2C2, 0x2C6, 0x2D2, 0x2D8, 0x2DE, 0x2E0, 0x2E5, 0x2EC, 0x2ED, 0x2EE, 0x2EF, 0x300, 0x55A, 0x55D,
   0x55E, 0x55F, 0x58A, 0x58B, 0x5F3, 0x5F4, 0x70F, 0x710, 0xA708, 0xA717, 0xA720, 0xA722, 0xA789,
   0xA78B, 0xAB5B, 0xAB5C]

/-- Class MidLetter. -/
def midLetter : InversionList :=
  [0x3A, 0x3B, 0xB7, 0xB8, 0x387, 0x388, 0x55F, 0x560, 0x5F4, 0x5F5, 0x2027, 0x2028, 0xFE13, 0xFE14,
   0xFE55, 0xFE56, 0xFF1A, 0xFF1B]

/-- Class MidNum. -/
def midNumber : InversionList :=
  [0x2C, 0x2D, 0x3B, 0x3C, 0x37E, 0x37F, 0x589, 0x58A, 0x60C, 0x60E, 0x66C, 0x66D, 0x7F8, 0x7F9,
   0x2044, 0x2045, 0xFE50, 0xFE51, 0xFE54, 0xFE55, 0xFF0C, 0xFF0D, 0xFF1B, 0xFF1C]

/-- Class MidNumLet. -/
def midNumberLetter : InversionList :=
  [0x2E, 0x2F, 0x2018, 0x201A, 0x2024, 0x2025, 0xFE52, 0xFE53, 0xFF07, 0xFF08, 0xFF0E, 0xFF0F]

/-- Class ExtendNumLet. -/
def wordConnector : InversionList :=
  [0x5F, 0x60, 0x202F, 0x2030, 0x203F, 0x2041, 0x2054, 0x2055, 0xFE33, 0xFE35, 0xFE4D, 0xFE50,
   0xFF3F, 0xFF40]

/-- Class Newline. -/
def newline : InversionList :=
  [0xB, 0xD, 0x85, 0x86, 0x2028, 0x202A]

/-- Class WSegSpace. -/
def wordSpace : InversionList :=
  [0x20, 0x21, 0x1680, 0x1681, 0x2000, 0x2007, 0x2008, 0x200B, 0x205F, 0x2060, 0x3000, 0x3001]

/-- What class Numeric holds besides decimal digits. -/
def wordNumeric : InversionList :=
  [0x600, 0x606, 0x66B, 0x66C, 0x6DD, 0x6DE, 0x890, 0x892, 0x8E2, 0x8E3, 0x19DA, 0x19DB, 0x110BD,
   0x110BE, 0x110CD, 0x110CE]

/-- Format controls of other classes. -/
def wordNonFormat : InversionList :=
  [0x600, 0x606, 0x6DD, 0x6DE, 0x70F, 0x710, 0x890, 0x892, 0x8E2, 0x8E3, 0x200B, 0x200E, 0x110BD,
   0x110BE, 0x110CD, 0x110CE, 0xE0020, 0xE0080]

inductive WordClass where
  | carriageReturn | lineFeed | newline | extend | zeroWidthJoiner | regionalIndicator | format
  | katakana | hebrewLetter | letter | singleQuote | doubleQuote | midNumberLetter | midLetter
  | midNumber | numeric | connector | space
deriving DecidableEq, Repr

/-- The part of class Extend that does not need a look at other classes. -/
def extendsWord (c : Char) : Bool :=
  extendsGrapheme c || Category.spacingMark.holds c || Emoji.modifier.includes c.toNat

namespace WordClass

def holds (value : WordClass) (c : Char) : Bool :=
  match value with
  | .carriageReturn => c == '\r'
  | .lineFeed => c == '\n'
  | .newline => Break.newline.includes c.toNat
  | .extend => extendsWord c
  | .zeroWidthJoiner => c.toNat == 0x200D
  | .regionalIndicator => Emoji.regionalIndicator.includes c.toNat
  | .format => Category.format.holds c && !wordNonFormat.includes c.toNat
  | .katakana => Break.katakana.includes c.toNat
  | .hebrewLetter => Break.hebrewLetter.includes c.toNat
  | .letter =>
    isAlphabetic c && !(Ideograph.ideographic.includes c.toNat || Break.katakana.includes c.toNat
        || hiragana.includes c.toNat || extendsWord c || Break.hebrewLetter.includes c.toNat
        || complexLetter.includes c.toNat)
      || otherLetter.includes c.toNat
  | .singleQuote => c == '\''
  | .doubleQuote => c == '"'
  | .midNumberLetter => Break.midNumberLetter.includes c.toNat
  | .midLetter => Break.midLetter.includes c.toNat
  | .midNumber => Break.midNumber.includes c.toNat
  | .numeric => isDigit c || wordNumeric.includes c.toNat
  | .connector => wordConnector.includes c.toNat
  | .space => wordSpace.includes c.toNat

end WordClass

/-- Marks, controls and letters that stand between the cased letters of a word without ending it. -/
def isCaseIgnorable (c : Char) : Bool :=
  Category.anyHolds
      [.nonspacingMark, .enclosingMark, .format, .modifierLetter, .modifierSymbol] c
    || [WordClass.midLetter, .midNumberLetter, .singleQuote].any fun value => value.holds c

end SqlTemplate.Unicode.Break
