/-
# Writing JSON

The compact form: no blanks, members in the order of the object, characters as they are except for
the quote, the backslash and the control characters.  A document part without a value of its own is
written as one text that reads back as the same part.
-/
import ImageImport.Json.Basic
import ImageImport.Resource

namespace ImageImport.Json

/-- The two lowercase hexadecimal digits of a control character. -/
def hexPair (n : Nat) : List Char := [Resource.hexDigit (n / 16), Resource.hexDigit n]

/-- A character inside a string: the short escapes where there are some, `\u00XX` for the other control
characters. -/
def escape (c : Char) : List Char :=
  if c = '"' then ['\\', '"']
  else if c = '\\' then ['\\', '\\']
  else if c = '\n' then ['\\', 'n']
  else if c = '\r' then ['\\', 'r']
  else if c = '\t' then ['\\', 't']
  else if c.toNat = 8 then ['\\', 'b']
  else if c.toNat = 12 then ['\\', 'f']
  else if c.toNat < 32 then ['\\', 'u', '0', '0'] ++ hexPair c.toNat
  else [c]

/-- A string with its quotes. -/
def quote : JsonText → List Char
  | some s => '"' :: (s.toList.flatMap escape ++ ['"'])
  | none => "\"\\ud800\"".toList

/-- Texts with a comma between each two. -/
def commaSeparated : List (List Char) → List Char
  | [] => []
  | [t] => t
  | t :: ts => t ++ ',' :: commaSeparated ts

mutual
/-- The compact text of a document. -/
def print : Json → List Char
  | null => "null".toList
  | bool true => "true".toList
  | bool false => "false".toList
  | int n => (toString n).toList
  | real true => "0.5".toList
  | real false => "1e999".toList
  | text t => quote t
  | array items => '[' :: (commaSeparated (printItems items) ++ [']'])
  | object members => '{' :: (commaSeparated (printMembers members) ++ ['}'])
/-- The texts of the items of a list. -/
def printItems : List Json → List (List Char)
  | [] => []
  | j :: js => print j :: printItems js
/-- The texts of the members of an object. -/
def printMembers : List (JsonText × Json) → List (List Char)
  | [] => []
  | (key, j) :: ms => (quote key ++ ':' :: print j) :: printMembers ms
end

/-- The compact text of a document. -/
def render (j : Json) : String := String.ofList j.print

end ImageImport.Json
