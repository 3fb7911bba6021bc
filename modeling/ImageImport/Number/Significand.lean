/-
# Numbers with 53 significant bits

Sizes are scaled and decimal literals are judged in floating point: after each operation the result
keeps its 53 leading bits, rounded to the nearest, a tie going to the even neighbour.  On natural
numbers that is one function, `round53`; nothing here needs a floating-point type.
-/

namespace ImageImport.Number

/-- The nearest number with at most 53 significant bits; of two equally near the even one. -/
def round53 (n : Nat) : Nat :=
  let unit := Nat.pow 2 (n.log2 + 1 - 53)
  let q := n / unit
  let r := n % unit
  if unit < 2 * r ∨ (2 * r = unit ∧ q % 2 = 1) then (q + 1) * unit else q * unit

/-- The first number too large for a finite result. -/
def overflowBound : Nat := Nat.pow 2 1024

/-- `significand · 10 ^ exponent` is finite after rounding the factors and the product. -/
def isFinite (significand : Nat) (exponent : Int) : Bool :=
  if exponent < 0 || significand = 0 then true
  else if 308 < exponent then false
  else round53 (round53 significand * round53 (Nat.pow 10 exponent.toNat)) < overflowBound

end ImageImport.Number
