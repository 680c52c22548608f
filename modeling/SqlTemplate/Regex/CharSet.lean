import SqlTemplate.Unicode.Property
import SqlTemplate.Unicode.CaseFolding

/-!
# SqlTemplate.Regex.CharSet

Sets of characters, given by their tests.
-/

namespace SqlTemplate.Regex

abbrev CharSet := Char → Bool

namespace CharSet

def none : CharSet := fun _ => false

def single (c : Char) : CharSet := fun x => x == c

/-- Both ends belong to the range. -/
def range (first last : Char) : CharSet := fun x => first ≤ x && x ≤ last

def union (s t : CharSet) : CharSet := fun x => s x || t x

def inter (s t : CharSet) : CharSet := fun x => s x && t x

def diff (s t : CharSet) : CharSet := fun x => s x && !t x

def symmDiff (s t : CharSet) : CharSet := fun x => s x != t x

def compl (s : CharSet) : CharSet := fun x => !s x

def negateIf (negated : Bool) (s : CharSet) : CharSet :=
  if negated then compl s else s

def isAscii (c : Char) : Bool := c.toNat < 128

/-- With each character all its case variants; without Unicode only the letters from A to Z have
variants. -/
def foldCase (unicode : Bool) (s : CharSet) : CharSet :=
  if unicode then fun x => (Unicode.caseVariants x).any s
  else fun x => s x || s x.toLower || s x.toUpper

def foldCaseIf (fold unicode : Bool) (s : CharSet) : CharSet :=
  if fold then foldCase unicode s else s

end CharSet

end SqlTemplate.Regex
