import SqlTemplate.Regex.Token
import SqlTemplate.Unicode.Property

/-!
# SqlTemplate.Regex.Assertion

Tests of a place between two characters. Each looks at the character before the place and the one
after it, of which either is missing at an end of the text.
-/

namespace SqlTemplate.Regex

inductive Assertion where
  | textStart
  | textEnd
  | lineStart (crlf : Bool)
  | lineEnd (crlf : Bool)
  | word (test : WordTest) (unicode : Bool)
deriving DecidableEq, Repr

def isAsciiWordCharacter (c : Char) : Bool :=
  c.isAlphanum || c == '_'

def isWord (unicode : Bool) (c : Char) : Bool :=
  if unicode then Unicode.isWordCharacter c else isAsciiWordCharacter c

def WordTest.holds (test : WordTest) (wordBefore wordAfter : Bool) : Bool :=
  match test with
  | .boundary => wordBefore != wordAfter
  | .inside => wordBefore == wordAfter
  | .start => !wordBefore && wordAfter
  | .stop => wordBefore && !wordAfter
  | .startHalf => !wordBefore
  | .stopHalf => !wordAfter

namespace Assertion

/-- With `crlf` a carriage return ends a line too, and no line begins or ends between it and the
line feed after it. -/
def holds (assertion : Assertion) (before after : Option Char) : Bool :=
  match assertion with
  | .textStart => before.isNone
  | .textEnd => after.isNone
  | .lineStart false => before.isNone || before == some '\n'
  | .lineEnd false => after.isNone || after == some '\n'
  | .lineStart true =>
    before.isNone || before == some '\n' || (before == some '\r' && after != some '\n')
  | .lineEnd true =>
    after.isNone || after == some '\r' || (after == some '\n' && before != some '\r')
  | .word test unicode => test.holds (before.any (isWord unicode)) (after.any (isWord unicode))

end Assertion

end SqlTemplate.Regex
