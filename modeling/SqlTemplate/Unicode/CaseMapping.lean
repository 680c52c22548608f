import SqlTemplate.Unicode.CaseFolding
import SqlTemplate.Unicode.InversionList

/-!
# SqlTemplate.Unicode.CaseMapping

Which characters change when a text is put in lower, upper or title case, or when its case is
folded. Each of these sets is close to one that simple folding gives; the tables list where the
two differ, mostly for characters with several forms or with a form of several characters.
-/

namespace SqlTemplate.Unicode.CaseMapping

/-- Folded but not put in lower case, or the other way round. -/
def lowercasedUnlikeFolded : InversionList :=
  [0xB5, 0xB6, 0x130, 0x131, 0x17F, 0x180, 0x345, 0x346, 0x3C2, 0x3C3, 0x3D0, 0x3D2, 0x3D5, 0x3D7,
   0x3F0, 0x3F2, 0x3F5, 0x3F6, 0x13A0, 0x13F6, 0x13F8, 0x13FE, 0x1C80, 0x1C89, 0x1E9B, 0x1E9C,
   0x1FBE, 0x1FBF, 0x1FD3, 0x1FD4, 0x1FE3, 0x1FE4, 0xAB70, 0xABC0, 0xFB05, 0xFB06]

/-- The form of another character but without an upper case, or the other way round. -/
def uppercasedUnlikeFold : InversionList :=
  [0xB5, 0xB6, 0x131, 0x132, 0x149, 0x14A, 0x17F, 0x180, 0x1C5, 0x1C6, 0x1C8, 0x1C9, 0x1CB, 0x1CC,
   0x1F0, 0x1F1, 0x1F2, 0x1F3, 0x345, 0x346, 0x3C2, 0x3C3, 0x3D0, 0x3D2, 0x3D5, 0x3D7, 0x3F0, 0x3F2,
   0x3F5, 0x3F6, 0x587, 0x588, 0x13A0, 0x13F6, 0x13F8, 0x13FE, 0x1C80, 0x1C89, 0x1E96, 0x1E9C,
   0x1F50, 0x1F51, 0x1F52, 0x1F53, 0x1F54, 0x1F55, 0x1F56, 0x1F57, 0x1F88, 0x1F90, 0x1F98, 0x1FA0,
   0x1FA8, 0x1FB0, 0x1FB2, 0x1FB3, 0x1FB4, 0x1FB5, 0x1FB6, 0x1FB8, 0x1FBC, 0x1FBD, 0x1FBE, 0x1FBF,
   0x1FC2, 0x1FC3, 0x1FC4, 0x1FC5, 0x1FC6, 0x1FC8, 0x1FCC, 0x1FCD, 0x1FD2, 0x1FD4, 0x1FD6, 0x1FD8,
   0x1FE2, 0x1FE5, 0x1FE6, 0x1FE8, 0x1FF2, 0x1FF3, 0x1FF4, 0x1FF5, 0x1FF6, 0x1FF8, 0x1FFC, 0x1FFD,
   0xAB70, 0xABC0, 0xFB00, 0xFB06, 0xFB13, 0xFB18]

/-- Changed in just one of title case and upper case. -/
def titlecasedUnlikeUppercased : InversionList :=
  [0x1C4, 0x1C6, 0x1C7, 0x1C9, 0x1CA, 0x1CC, 0x1F1, 0x1F3, 0x10D0, 0x10FB, 0x10FD, 0x1100, 0x1F88,
   0x1F90, 0x1F98, 0x1FA0, 0x1FA8, 0x1FB0, 0x1FBC, 0x1FBD, 0x1FCC, 0x1FCD, 0x1FFC, 0x1FFD]

/-- Changed by just one of simple folding and folding to several characters. -/
def fullyFoldedUnlikeFolded : InversionList :=
  [0xDF, 0xE0, 0x130, 0x131, 0x149, 0x14A, 0x587, 0x588, 0x1E9A, 0x1E9B, 0x1F80, 0x1F88, 0x1F90,
   0x1F98, 0x1FA0, 0x1FA8, 0x1FB2, 0x1FB5, 0x1FB7, 0x1FB8, 0x1FBE, 0x1FBF, 0x1FC2, 0x1FC5, 0x1FC7,
   0x1FC8, 0x1FD3, 0x1FD4, 0x1FE3, 0x1FE4, 0x1FF2, 0x1FF5, 0x1FF7, 0x1FF8, 0xFB00, 0xFB05, 0xFB06,
   0xFB07, 0xFB13, 0xFB18]

def isFolded (c : Char) : Bool := simpleFold c != c

/-- Another character folds to `c`. -/
def isFoldOfOther (c : Char) : Bool :=
  simpleFold c == c && 1 < (caseVariants c).length

def changesWhenLowercased (c : Char) : Bool :=
  isFolded c != lowercasedUnlikeFolded.includes c.toNat

def changesWhenUppercased (c : Char) : Bool :=
  isFoldOfOther c != uppercasedUnlikeFold.includes c.toNat

def changesWhenTitlecased (c : Char) : Bool :=
  changesWhenUppercased c != titlecasedUnlikeUppercased.includes c.toNat

def changesWhenCasefolded (c : Char) : Bool :=
  isFolded c != fullyFoldedUnlikeFolded.includes c.toNat

def changesWhenCasemapped (c : Char) : Bool :=
  changesWhenLowercased c || changesWhenUppercased c || changesWhenTitlecased c

end SqlTemplate.Unicode.CaseMapping
