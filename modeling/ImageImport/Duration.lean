/-
# Spans of time

A span is a number of seconds below `2^64` and a fraction in nanoseconds.  Workflow definitions spell whole
seconds (`90s`, `20m`, `2h`: `parse_duration`, `format_duration`); diagnostics spell the span exactly, in the
largest unit that gives a whole part (`1.5s`, `50ms`).  Reading and writing the first spelling agree on whole
seconds: what is written is read back.
-/
import ImageImport.Text.Basic

namespace ImageImport

/-- Seconds and nanoseconds, the latter less than one second. -/
structure Duration where
  secs : UInt64
  nanos : Nat
  nanos_lt : nanos < 1000000000 := by decide
  deriving DecidableEq

namespace Duration

instance : Inhabited Duration := ⟨⟨0, 0, by decide⟩⟩

/-- Whole seconds. -/
def ofSecs (secs : UInt64) : Duration := { secs, nanos := 0 }

/-- Seconds and any number of nanoseconds, carried over. -/
def ofParts (secs : UInt64) (nanos : Nat) : Duration where
  secs := secs + (nanos / 1000000000).toUInt64
  nanos := nanos % 1000000000
  nanos_lt := Nat.mod_lt _ (by decide)

/-- Milliseconds. -/
def ofMillis (ms : Nat) : Duration where
  secs := (ms / 1000).toUInt64
  nanos := ms % 1000 * 1000000
  nanos_lt := by have := Nat.mod_lt ms (show 1000 > 0 by decide); omega

/-- Whole milliseconds, the rest cut off. -/
def toMillis (d : Duration) : Nat := d.secs.toNat * 1000 + d.nanos / 1000000

/-- The first whole millisecond that is not before the span is over. -/
def millisCeil (d : Duration) : Nat := d.secs.toNat * 1000 + (d.nanos + 999999) / 1000000

/-! ## 1. The spelling of workflow definitions -/

/-- How many seconds a unit letter stands for; a bare number counts seconds. -/
def unitSecs : List Char → Option Nat
  | [] => some 1
  | ['s'] => some 1
  | ['m'] => some 60
  | ['h'] => some 3600
  | _ => none

/-- **Digits and a unit**, with blanks around them.  Nothing else is a duration, and neither is a
number of seconds that does not fit. -/
def parse? (text : String) : Option Duration :=
  let cs := Text.trimChars text.toList
  let digits := cs.takeWhile Text.isDigit
  if digits.isEmpty then none
  else match unitSecs (cs.dropWhile Text.isDigit) with
    | none => none
    | some unit =>
      let n := Text.ofDigits digits * unit
      if n < Nat.pow 2 64 then some (ofSecs n.toUInt64) else none

/-- The largest unit that divides the whole seconds; none at all is `0s`. -/
def format (d : Duration) : String :=
  let n := d.secs.toNat
  if 0 < n ∧ n % 3600 = 0 then toString (n / 3600) ++ "h"
  else if 0 < n ∧ n % 60 = 0 then toString (n / 60) ++ "m"
  else toString n ++ "s"

/-! ## 2. The exact spelling -/

/-- `places` decimal digits of a fraction, without the zeros at the end and with the point. -/
def fraction (places n : Nat) : String :=
  let digits := (toString n).toList
  let padded := List.replicate (places - digits.length) '0' ++ digits
  match (padded.reverse.dropWhile (· == '0')).reverse with
  | [] => ""
  | ds => String.ofList ('.' :: ds)

/-- **The span exactly**, in seconds, milliseconds, microseconds or nanoseconds: the first of these of
which it holds at least one. -/
def exact (d : Duration) : String :=
  if d.secs ≠ 0 then toString d.secs.toNat ++ fraction 9 d.nanos ++ "s"
  else if 1000000 ≤ d.nanos then
    toString (d.nanos / 1000000) ++ fraction 6 (d.nanos % 1000000) ++ "ms"
  else if 1000 ≤ d.nanos then
    toString (d.nanos / 1000) ++ fraction 3 (d.nanos % 1000) ++ "µs"
  else toString d.nanos ++ "ns"

end Duration

end ImageImport
