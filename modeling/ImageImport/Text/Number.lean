/-
# Numbers in texts

A signed 64-bit number as workers report it: decimal digits behind an optional sign.
-/
import ImageImport.Text.Basic

namespace ImageImport.Text

/-- The number of one or more digits. -/
def natural? (ds : List Char) : Option Nat :=
  if ds.isEmpty || !ds.all isDigit then none else some (ofDigits ds)

/-- The number of digits behind an optional sign. -/
def integer? : List Char → Option Int
  | '-' :: ds => (natural? ds).map fun n => -(n : Int)
  | '+' :: ds => (natural? ds).map fun n => (n : Int)
  | ds => (natural? ds).map fun n => (n : Int)

/-- **A signed 64-bit number**, with blanks around it. -/
def int64? (s : String) : Option Int64 :=
  (integer? (trimChars s.toList)).bind fun n =>
    if -Int.pow 2 63 ≤ n ∧ n < Int.pow 2 63 then some (Int64.ofInt n) else none

end ImageImport.Text
