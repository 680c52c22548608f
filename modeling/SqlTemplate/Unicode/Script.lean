import SqlTemplate.Unicode.InversionList

/-!
# SqlTemplate.Unicode.Script

The scripts that characters belong to. A script is known by its four-letter code and by its name,
both in lower case and without blanks.
-/

namespace SqlTemplate.Unicode

structure Script where
  code : String
  names : List String
  codePoints : InversionList
deriving Repr

namespace Script

def isNamed (script : Script) (name : String) : Bool :=
  script.code == name || script.names.contains name

def holds (script : Script) (c : Char) : Bool :=
  script.codePoints.includes c.toNat

end Script

end SqlTemplate.Unicode
