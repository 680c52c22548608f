import SqlTemplate.Text.Hex
import SqlTemplate.Unicode.Recent

/-!
# SqlTemplate.Text.Quoted

Texts in quotes, for showing. Quotes, backslashes and the usual control characters have short
escapes; characters that cannot be shown by themselves are written as their code point in braces.
-/

namespace SqlTemplate.Text

def escapeCodePoint (c : Char) : List Char :=
  ['\\', 'u', '{'] ++ hexText c.toNat ++ ['}']

def escapeShown (c : Char) : List Char :=
  match c with
  | '\x00' => ['\\', '0']
  | '\t' => ['\\', 't']
  | '\r' => ['\\', 'r']
  | '\n' => ['\\', 'n']
  | '\\' => ['\\', '\\']
  | '"' => ['\\', '"']
  | c =>
    if Unicode.Recent.isAttached c || !Unicode.Recent.isPrintable c then escapeCodePoint c
    else [c]

def quoted (text : String) : String :=
  String.ofList ('"' :: text.toList.flatMap escapeShown ++ ['"'])

end SqlTemplate.Text
