import SqlTemplate.Unicode.Property

/-!
# SqlTemplate.Unicode.Recent

Names in expressions, names of groups and texts that are shown go by a later edition of the standard
than the classes of patterns do. The tables list what that edition adds.
-/

namespace SqlTemplate.Unicode.Recent

/-- Property Alphabetic. -/
def addedAlphabetic : InversionList :=
  [0x88F, 0x890, 0xC5C, 0xC5D, 0xCDC, 0xCDD, 0xA7CE, 0xA7D0, 0xA7D2, 0xA7D3, 0xA7D4, 0xA7D5, 0xA7F1,
   0xA7F2, 0x10940, 0x1095A, 0x10EC5, 0x10EC8, 0x10EFA, 0x10EFC, 0x11B60, 0x11B68, 0x11DB0, 0x11DDC,
   0x16EA0, 0x16EB9, 0x16EBB, 0x16ED4, 0x16FF2, 0x16FF7, 0x187F8, 0x18800, 0x18D09, 0x18D1F,
   0x18D80, 0x18DF3, 0x1E6C0, 0x1E6DF, 0x1E6E0, 0x1E6F6, 0x1E6FE, 0x1E700, 0x2B73A, 0x2B740,
   0x2CEA2, 0x2CEAE, 0x323B0, 0x3347A]

/-- The categories of numbers. -/
def addedNumber : InversionList :=
  [0x11DE0, 0x11DEA, 0x16FF4, 0x16FF7]

/-- All categories but separators, controls and unassigned code points. -/
def addedVisible : InversionList :=
  [0x88F, 0x890, 0xC5C, 0xC5D, 0xCDC, 0xCDD, 0x1ACF, 0x1ADE, 0x1AE0, 0x1AEC, 0x20C1, 0x20C2, 0x2B96,
   0x2B97, 0xA7CE, 0xA7D0, 0xA7D2, 0xA7D3, 0xA7D4, 0xA7D5, 0xA7F1, 0xA7F2, 0xFBC3, 0xFBD3, 0xFD90,
   0xFD92, 0xFDC8, 0xFDCF, 0x10940, 0x1095A, 0x10EC5, 0x10EC8, 0x10ED0, 0x10ED9, 0x10EFA, 0x10EFC,
   0x11B60, 0x11B68, 0x11DB0, 0x11DDC, 0x11DE0, 0x11DEA, 0x16EA0, 0x16EB9, 0x16EBB, 0x16ED4,
   0x16FF2, 0x16FF7, 0x187F8, 0x18800, 0x18D09, 0x18D1F, 0x18D80, 0x18DF3, 0x1CCFA, 0x1CCFD,
   0x1CEBA, 0x1CED1, 0x1CEE0, 0x1CEF1, 0x1E6C0, 0x1E6DF, 0x1E6E0, 0x1E6F6, 0x1E6FE, 0x1E700,
   0x1F6D8, 0x1F6D9, 0x1F777, 0x1F77B, 0x1F8D0, 0x1F8D9, 0x1FA54, 0x1FA58, 0x1FA8A, 0x1FA8B,
   0x1FA8E, 0x1FA8F, 0x1FAC8, 0x1FAC9, 0x1FACD, 0x1FACE, 0x1FAEA, 0x1FAEB, 0x1FAEF, 0x1FAF0,
   0x1FBFA, 0x1FBFB, 0x2B73A, 0x2B740, 0x2CEA2, 0x2CEAE, 0x323B0, 0x3347A]

/-- Property Grapheme_Extend. -/
def addedGraphemeExtend : InversionList :=
  [0x1ACF, 0x1ADE, 0x1AE0, 0x1AEC, 0x10EFA, 0x10EFC, 0x11B60, 0x11B61, 0x11B62, 0x11B65, 0x11B66,
   0x11B67, 0x1E6E3, 0x1E6E4, 0x1E6E6, 0x1E6E7, 0x1E6EE, 0x1E6F0, 0x1E6F5, 0x1E6F6]

def isAlphabetic (c : Char) : Bool :=
  Unicode.isAlphabetic c || addedAlphabetic.includes c.toNat

/-- Any kind of number counts, superscripts and Roman numerals included. -/
def isAlphanumeric (c : Char) : Bool :=
  isAlphabetic c || Category.anyHolds Category.numbers c || addedNumber.includes c.toNat

/-- The plain space is the one separator that can be shown, and fillers show nothing. -/
def isPrintable (c : Char) : Bool :=
  c == ' '
    || (!Category.anyHolds (Category.separators ++ Category.others) c
        || addedVisible.includes c.toNat)
      && !isDefaultIgnorable c

/-- Such a character is drawn onto the one before it. The halfwidth sound marks extend a grapheme,
but take a place of their own. -/
def isAttached (c : Char) : Bool :=
  (extendsGrapheme c || addedGraphemeExtend.includes c.toNat)
    && !(c.toNat == 0xFF9E || c.toNat == 0xFF9F)

theorem isAlphanumeric_of_isAlphabetic {c : Char} (h : isAlphabetic c = true) :
    isAlphanumeric c = true := by
  simp [isAlphanumeric, h]

end SqlTemplate.Unicode.Recent
