import SqlTemplate.Unicode.Property
import SqlTemplate.Unicode.Usage

/-!
# SqlTemplate.Unicode.Break.Sentence

What a character does at the border between two sentences.
-/

namespace SqlTemplate.Unicode.Break

/-- Letters whose upper case does not begin a sentence. -/
def caselessLetter : InversionList :=
  [0x10D0, 0x10FB, 0x10FD, 0x1100, 0x1C90, 0x1CBB, 0x1CBD, 0x1CC0]

/-- What class OLetter holds besides alphabetic characters. -/
def otherSentenceLetter : InversionList :=
  [0x5F3, 0x5F4]

/-- What class Numeric holds besides decimal digits. -/
def sentenceNumeric : InversionList :=
  [0x600, 0x606, 0x66B, 0x66D, 0x6DD, 0x6DE, 0x890, 0x892, 0x8E2, 0x8E3, 0x19DA, 0x19DB, 0x110BD,
   0x110BE, 0x110CD, 0x110CE]

/-- Format controls of other classes. -/
def sentenceNonFormat : InversionList :=
  [0x600, 0x606, 0x6DD, 0x6DE, 0x890, 0x892, 0x8E2, 0x8E3, 0x200C, 0x200E, 0x110BD, 0x110BE,
   0x110CD, 0x110CE, 0xE0020, 0xE0080]

/-- Class ATerm. -/
def ambiguousTerminator : InversionList :=
  [0x2E, 0x2F, 0x2024, 0x2025, 0xFE52, 0xFE53, 0xFF0E, 0xFF0F]

/-- Class SContinue. -/
def sentenceContinue : InversionList :=
  [0x2C, 0x2E, 0x3A, 0x3C, 0x37E, 0x37F, 0x55D, 0x55E, 0x60C, 0x60E, 0x7F8, 0x7F9, 0x1802, 0x1803,
   0x1808, 0x1809, 0x2013, 0x2015, 0x3001, 0x3002, 0xFE10, 0xFE12, 0xFE13, 0xFE15, 0xFE31, 0xFE33,
   0xFE50, 0xFE52, 0xFE54, 0xFE56, 0xFE58, 0xFE59, 0xFE63, 0xFE64, 0xFF0C, 0xFF0E, 0xFF1A, 0xFF1C,
   0xFF64, 0xFF65]

/-- Class Sep. -/
def separator : InversionList :=
  [0x85, 0x86, 0x2028, 0x202A]

/-- What class Close holds besides brackets and quotation marks. -/
def otherClose : InversionList :=
  [0x275B, 0x2761, 0x2E00, 0x2E02, 0x2E06, 0x2E09, 0x2E0B, 0x2E0C, 0x1F676, 0x1F679]

/-- Quotation marks that are not of class Close. -/
def nonClose : InversionList :=
  [0xFF02, 0xFF03, 0xFF07, 0xFF08]

inductive SentenceClass where
  | carriageReturn | lineFeed | extend | separator | format | space | lower | upper | letter
  | numeric | ambiguousTerminator | sentenceContinue | terminator | close
deriving DecidableEq, Repr

def isSentenceUpper (c : Char) : Bool :=
  (isUppercase c || Category.titlecaseLetter.holds c) && !caselessLetter.includes c.toNat

def isSentenceLower (c : Char) : Bool :=
  isLowercase c && !extendsGrapheme c && !caselessLetter.includes c.toNat

/-- The part of class Extend that does not need a look at other classes. -/
def extendsSentence (c : Char) : Bool :=
  extendsGrapheme c || Category.spacingMark.holds c || c.toNat == 0x200D

namespace SentenceClass

def holds (value : SentenceClass) (c : Char) : Bool :=
  match value with
  | .carriageReturn => c == '\r'
  | .lineFeed => c == '\n'
  | .extend => extendsSentence c
  | .separator => Break.separator.includes c.toNat
  | .format => Category.format.holds c && !sentenceNonFormat.includes c.toNat
  | .space => isWhiteSpace c && !(c == '\r' || c == '\n' || Break.separator.includes c.toNat)
  | .lower => isSentenceLower c
  | .upper => isSentenceUpper c
  | .letter =>
    isAlphabetic c && !(isSentenceLower c || isSentenceUpper c || extendsSentence c)
      || otherSentenceLetter.includes c.toNat
  | .numeric => isDigit c || sentenceNumeric.includes c.toNat
  | .ambiguousTerminator => Break.ambiguousTerminator.includes c.toNat
  | .sentenceContinue => Break.sentenceContinue.includes c.toNat
  | .terminator =>
    Usage.sentenceTerminal.includes c.toNat && !Break.ambiguousTerminator.includes c.toNat
  | .close =>
    (Category.anyHolds
          [.openPunctuation, .closePunctuation, .initialPunctuation, .finalPunctuation] c
        || Usage.quotationMark.includes c.toNat) && !nonClose.includes c.toNat
      || otherClose.includes c.toNat

end SentenceClass

end SqlTemplate.Unicode.Break
