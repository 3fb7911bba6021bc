/-
# Quoted texts

A text between double quotes, as diagnostics show it.  The quote, the backslash, tab, line feed and
carriage return have an escape of one letter, NUL is `\0`; every other character that does not show
on its own -- controls, formats, separators other than the space, marks that join the character
before them -- is written by its number in hexadecimal.
-/
import ImageImport.Text.Invisible
import ImageImport.Text.Joining

namespace ImageImport.Text

/-! ## 1. Characters that are hidden in a text -/

/-- The character is written by its number: it does not show, or it joins the one before it. -/
def isHidden (c : Char) : Bool := isInvisible c || isJoining c

/-! ## 2. Writing -/

/-- A number in lowercase hexadecimal digits. -/
def hexadecimal (n : Nat) : List Char := (Nat.toDigits 16 n).map Char.toLower

/-- One character between the quotes. -/
def quotedChar (c : Char) : List Char :=
  if c = '"' then ['\\', '"']
  else if c = '\\' then ['\\', '\\']
  else if c = '\t' then ['\\', 't']
  else if c = '\n' then ['\\', 'n']
  else if c = '\r' then ['\\', 'r']
  else if c.toNat = 0 then ['\\', '0']
  else if isHidden c then ['\\', 'u', '\x7b'] ++ hexadecimal c.toNat ++ ['\x7d']
  else [c]

/-- The text with its quotes. -/
def quoted (s : String) : String := String.ofList ('"' :: (s.toList.flatMap quotedChar ++ ['"']))

end ImageImport.Text
