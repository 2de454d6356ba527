/-!
# Quoted text

The form in which a diagnostic shows a piece of text as a value: between double quotes, with
the characters that would break the line or end the quotation written as escapes. Everything
that can be read as it stands, accented letters and ideographs included, is left alone.

Two things make the form safe to read back by eye: a double quote never stands unescaped inside
the quotes, and a backslash always starts an escape.
-/

set_option autoImplicit false

namespace Rendezvous.Text

/-- The digits of a number in base sixteen, lower case. -/
def hex (n : Nat) : List Char := Nat.toDigits 16 n

/-- How one character is written between the quotes. Tab, line feed, carriage return and NUL
have escapes of their own; the other control characters are written by number. -/
def escape (c : Char) : List Char :=
  if c = '"' then ['\\', '"']
  else if c = '\\' then ['\\', '\\']
  else if c = '\n' then ['\\', 'n']
  else if c = '\t' then ['\\', 't']
  else if c = '\r' then ['\\', 'r']
  else if c.toNat = 0 then ['\\', '0']
  else if c.toNat < 32 ∨ c.toNat = 127 then ['\\', 'u', '\x7b'] ++ hex c.toNat ++ ['\x7d']
  else [c]

/-- A text in double quotes. -/
def quoted (s : String) : String :=
  String.ofList ('"' :: s.toList.flatMap escape ++ ['"'])

end Rendezvous.Text
