import SqlTemplate.Regex.CharSet
import SqlTemplate.Regex.PropertyName
import SqlTemplate.Regex.Token

/-!
# SqlTemplate.Regex.Property

The sets that the classes with a name stand for. Names of Unicode properties are matched loosely:
case, blanks, hyphens, underscores and a leading `is` do not matter.
-/

namespace SqlTemplate.Regex

def PosixClass.set : PosixClass → CharSet
  | .alnum => Char.isAlphanum
  | .alpha => Char.isAlpha
  | .ascii => CharSet.isAscii
  | .blank => fun c => c == ' ' || c == '\t'
  | .cntrl => fun c => c.toNat < 32 || c.toNat == 127
  | .digit => Char.isDigit
  | .graph => CharSet.range '!' '~'
  | .lower => Char.isLower
  | .print => CharSet.range ' ' '~'
  | .punct => CharSet.diff (CharSet.range '!' '~') Char.isAlphanum
  | .space => fun c => c == ' ' || CharSet.range '\t' '\r' c
  | .upper => Char.isUpper
  | .word => fun c => c.isAlphanum || c == '_'
  | .xdigit => fun c => c.isDigit || CharSet.range 'a' 'f' c || CharSet.range 'A' 'F' c

def ShortClass.set (unicode : Bool) : ShortClass → CharSet
  | .digit => if unicode then Unicode.isDigit else PosixClass.set .digit
  | .space => if unicode then Unicode.isWhiteSpace else PosixClass.set .space
  | .word => if unicode then Unicode.isWordCharacter else PosixClass.set .word

/-- The form in which names are compared. Without a leading `is`, the name `isc` would be that of
the category `c`, but it names a property of its own. -/
def normalizeName (name : List Char) : List Char :=
  let strip (cs : List Char) : List Char :=
    (cs.filter fun c => c.toNat < 128 && c != ' ' && c != '_' && c != '-').map Char.toLower
  match name with
  | i :: s :: rest =>
    if (i == 'i' || i == 'I') && (s == 's' || s == 'S') then
      if strip rest == ['c'] then ['i', 's', 'c'] else strip rest
    else strip name
  | _ => strip name

def PropertyQuery.set? : PropertyQuery → Option CharSet
  | .named name => PropertyName.set? (String.ofList (normalizeName name))
  | .valued name value _ =>
    PropertyName.valueSet? (String.ofList (normalizeName name))
      (String.ofList (normalizeName value))

end SqlTemplate.Regex
