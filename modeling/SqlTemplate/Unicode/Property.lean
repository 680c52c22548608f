import SqlTemplate.Unicode.Category
import SqlTemplate.Unicode.Contributory
import SqlTemplate.Unicode.Usage

/-!
# SqlTemplate.Unicode.Property

The properties that are built from the categories: what is a letter and of which case, what is
blank, what is a word character, and what is drawn by itself.
-/

namespace SqlTemplate.Unicode

def isAlphabetic (c : Char) : Bool :=
  Category.anyHolds (.letterNumber :: Category.letters) c
    || Contributory.otherAlphabetic.includes c.toNat

def isLowercase (c : Char) : Bool :=
  Category.lowercaseLetter.holds c || Contributory.otherLowercase.includes c.toNat

def isUppercase (c : Char) : Bool :=
  Category.uppercaseLetter.holds c || Contributory.otherUppercase.includes c.toNat

def isCased (c : Char) : Bool :=
  isLowercase c || isUppercase c || Category.titlecaseLetter.holds c

def isMath (c : Char) : Bool :=
  Category.mathSymbol.holds c || Contributory.otherMath.includes c.toNat

def isWhiteSpace (c : Char) : Bool :=
  Contributory.whiteSpace.includes c.toNat

def isDigit (c : Char) : Bool :=
  Category.decimalNumber.holds c

/-- Zero-width joiner and non-joiner. -/
def isJoinControl (c : Char) : Bool :=
  c.toNat == 0x200C || c.toNat == 0x200D

def isWordCharacter (c : Char) : Bool :=
  isAlphabetic c || isJoinControl c
    || Category.anyHolds (.decimalNumber :: .connectorPunctuation :: Category.marks) c

/-- Such a character is drawn onto the one before it. -/
def extendsGrapheme (c : Char) : Bool :=
  Category.anyHolds [.nonspacingMark, .enclosingMark] c
    || Contributory.otherGraphemeExtend.includes c.toNat

def isGraphemeBase (c : Char) : Bool :=
  !Category.anyHolds
      [.control, .format, .privateUse, .unassigned, .lineSeparator, .paragraphSeparator] c
    && !extendsGrapheme c

/-- Format controls that show something: notes between the lines, joiners of hieroglyphs, and
marks around numbers. -/
def isVisibleFormat (c : Char) : Bool :=
  0xFFF9 ≤ c.toNat && c.toNat ≤ 0xFFFB || 0x13430 ≤ c.toNat && c.toNat ≤ 0x1343F
    || Usage.prependedConcatenationMark.includes c.toNat

/-- Nothing is shown for such a character where it is not supported. -/
def isDefaultIgnorable (c : Char) : Bool :=
  (Category.format.holds c || Usage.variationSelector.includes c.toNat)
      && !isWhiteSpace c && !isVisibleFormat c
    || Contributory.otherDefaultIgnorable.includes c.toNat

end SqlTemplate.Unicode
