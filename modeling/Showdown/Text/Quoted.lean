import Showdown.Text.Unprintable

/-!
# Quoted text

Messages quote the text they complain about. A quoted text stands between double quotes; a
quote, a backslash and the common controls have an escape of two characters, any other
character that is not printed is written as `\u` with its code point in lower-case hexadecimal
digits between braces, and all else stands as it is.
-/

namespace Showdown.Text

/-- A character as it stands between the quotes. -/
def quotedChar (c : Char) : List Char :=
  if c == '"' then ['\\', '"']
  else if c == '\\' then ['\\', '\\']
  else if c == '\n' then ['\\', 'n']
  else if c == '\r' then ['\\', 'r']
  else if c == '\t' then ['\\', 't']
  else if c == '\x00' then ['\\', '0']
  else if isPrintable c then [c]
  else ['\\', 'u', '\x7b'] ++ Nat.toDigits 16 c.toNat ++ ['\x7d']

/-- A string between quotes. -/
def quoted (s : String) : String :=
  String.ofList (['"'] ++ s.toList.flatMap quotedChar ++ ['"'])

end Showdown.Text
