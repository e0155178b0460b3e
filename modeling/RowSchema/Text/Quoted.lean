import RowSchema.Text.Printable
import RowSchema.Text.Extending

/-!
# Quoted texts

A text in double quotes in which every character is visible and unambiguous, for messages and type
descriptions.

## Main definitions

* `escape` — what stands for one character
* `quoted` — the quoted text
-/

namespace RowSchema.Text

/-- A character by its code point, in lower-case hexadecimal without padding. -/
def codePointEscape (c : Char) : List Char :=
  ['\\', 'u', '{'] ++ Nat.toDigits 16 c.toNat ++ ['}']

/-- What stands for `c` between the quotes: the usual controls, the double quote and the backslash
have short forms, and a character that would not be seen on its own is given by its code point. A
single quote needs no escape. -/
def escape (c : Char) : List Char :=
  if c = '\x00' then ['\\', '0']
  else if c = '\t' then ['\\', 't']
  else if c = '\r' then ['\\', 'r']
  else if c = '\n' then ['\\', 'n']
  else if c = '"' then ['\\', '"']
  else if c = '\\' then ['\\', '\\']
  else if isExtending c || !isPrintable c then codePointEscape c
  else [c]

/-- The text between double quotes, each character escaped. -/
def quoted (s : String) : String :=
  String.ofList ('"' :: s.toList.flatMap escape ++ ['"'])

end RowSchema.Text
