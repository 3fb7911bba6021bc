/-
# Instants of the calendar

An instant is counted in seconds from the start of 1970, with nanoseconds; a leap second is written as
the second before it with more than a full second of nanoseconds.  Instants are written in universal
time with as many groups of three decimals as they need, and read with any offset.
-/
import ImageImport.Text.Basic

namespace ImageImport

/-- Seconds since the start of 1970, and nanoseconds. -/
structure Timestamp where
  secs : Int
  nanos : Nat
  deriving DecidableEq

namespace Timestamp

/-- Milliseconds since the start of 1970. -/
def ofMillis (ms : Nat) : Timestamp := ⟨(ms / 1000 : Nat), ms % 1000 * 1000000⟩

/-! ## 1. The calendar -/

/-- Days from the start of 1970 to a day of the calendar. -/
def daysOf (year : Int) (month day : Nat) : Int :=
  let y := if month ≤ 2 then year - 1 else year
  let era := Int.fdiv y 400
  let yearOfEra := y - era * 400
  let shifted := if 2 < month then month - 3 else month + 9
  let dayOfYear : Int := (153 * shifted + 2) / 5 + day - 1
  let dayOfEra := yearOfEra * 365 + yearOfEra / 4 - yearOfEra / 100 + dayOfYear
  era * 146097 + dayOfEra - 719468

/-- The day of the calendar, from the days since the start of 1970. -/
def dateOf (days : Int) : Int × Nat × Nat :=
  let z := days + 719468
  let era := Int.fdiv z 146097
  let dayOfEra := (z - era * 146097).toNat
  let yearOfEra := (dayOfEra - dayOfEra / 1460 + dayOfEra / 36524 - dayOfEra / 146096) / 365
  let dayOfYear := dayOfEra - (365 * yearOfEra + yearOfEra / 4 - yearOfEra / 100)
  let shifted := (5 * dayOfYear + 2) / 153
  let day := dayOfYear - (153 * shifted + 2) / 5 + 1
  let month := if shifted < 10 then shifted + 3 else shifted - 9
  let year := (yearOfEra : Int) + era * 400
  (if month ≤ 2 then year + 1 else year, month, day)

/-- A leap year. -/
def isLeap (year : Int) : Bool := year % 4 = 0 && (year % 100 ≠ 0 || year % 400 = 0)

/-- The days of a month. -/
def daysIn (year : Int) (month : Nat) : Nat :=
  if month = 2 then if isLeap year then 29 else 28
  else if month = 4 ∨ month = 6 ∨ month = 9 ∨ month = 11 then 30 else 31

/-! ## 2. Writing -/

/-- A number with zeros in front. -/
def padded (width n : Nat) : String :=
  let ds := (toString n).toList
  String.ofList (List.replicate (width - ds.length) '0' ++ ds)

/-- The year with four digits; outside of them with a sign. -/
def yearText (year : Int) : String :=
  if 0 ≤ year ∧ year ≤ 9999 then padded 4 year.toNat
  else if year < 0 then "-" ++ padded 4 year.natAbs else "+" ++ padded 4 year.toNat

/-- The decimals of a second, in groups of three. -/
def decimals (nanos : Nat) : String :=
  if nanos = 0 then ""
  else if nanos % 1000000 = 0 then "." ++ padded 3 (nanos / 1000000)
  else if nanos % 1000 = 0 then "." ++ padded 6 (nanos / 1000)
  else "." ++ padded 9 nanos

/-- **The instant in universal time.** -/
def format (t : Timestamp) : String :=
  let days := Int.fdiv t.secs 86400
  let (year, month, day) := dateOf days
  let ofDay := (t.secs - days * 86400).toNat
  let leap := 1000000000 ≤ t.nanos
  let sec := ofDay % 60 + if leap then 1 else 0
  yearText year ++ "-" ++ padded 2 month ++ "-" ++ padded 2 day ++ "T" ++ padded 2 (ofDay / 3600) ++
    ":" ++ padded 2 (ofDay / 60 % 60) ++ ":" ++ padded 2 sec ++
    decimals (if leap then t.nanos - 1000000000 else t.nanos) ++ "Z"

/-! ## 3. Reading -/

/-- The characters without the blanks in front. -/
def skipBlanks (cs : List Char) : List Char := cs.dropWhile Text.isBlank

/-- Up to `most` digits, at least one. -/
def digits? (most : Nat) (cs : List Char) : Option (Nat × List Char) :=
  let ds := (cs.take most).takeWhile Text.isDigit
  if ds.isEmpty then none else some (Text.ofDigits ds, cs.drop ds.length)

/-- A year: four digits, or a sign and any number of them. -/
def year? (cs : List Char) : Option (Int × List Char) :=
  match cs with
  | '-' :: rest => (digits? rest.length rest).map fun (n, r) => (-n, r)
  | '+' :: rest => (digits? rest.length rest).map fun (n, r) => (n, r)
  | _ => (digits? 4 cs).map fun (n, r) => (n, r)

/-- Blanks and then one given character. -/
def mark? (c : Char) (cs : List Char) : Option (List Char) :=
  match skipBlanks cs with
  | d :: rest => if d = c then some rest else none
  | [] => none

/-- The decimals behind a point, as nanoseconds; what is finer is cut off. -/
def nanos? (cs : List Char) : Option (Nat × List Char) :=
  match cs with
  | '.' :: rest =>
    let ds := rest.takeWhile Text.isDigit
    if ds.isEmpty then none
    else
      let nine := ds.take 9
      some (Text.ofDigits nine * Nat.pow 10 (9 - nine.length), rest.dropWhile Text.isDigit)
  | _ => some (0, cs)

/-- Exactly two digits. -/
def twoDigits? : List Char → Option (Nat × List Char)
  | a :: b :: rest =>
    if Text.isDigit a && Text.isDigit b then some (Text.ofDigits [a, b], rest) else none
  | _ => none

/-- An offset in seconds: `Z`, or a sign, hours and minutes with any colons and blanks between them. -/
def offset? (cs : List Char) : Option (Int × List Char) :=
  match cs with
  | 'Z' :: rest | 'z' :: rest => some (0, rest)
  | sign :: rest =>
    if sign = '+' || sign = '-' || sign.toNat = 0x2212 then do
      let (hours, r) ← twoDigits? rest
      let (minutes, r) ← twoDigits? (r.dropWhile fun c => c = ':' || Text.isBlank c)
      if 59 < minutes then none
      let total : Int := hours * 3600 + minutes * 60
      return (if sign = '+' then total else -total, r)
    else none
  | [] => none

/-- An offset, or the name of universal time. -/
def zone? (cs : List Char) : Option (Int × List Char) :=
  if Text.lowerAscii (String.ofList (cs.take 3)) = "utc" then some (0, cs.drop 3) else offset? cs

/-- The first year of the calendar. -/
def firstYear : Int := -262143

/-- The last year of the calendar. -/
def lastYear : Int := 262142

/-- The instant is within the years of the calendar. -/
def isInCalendar (t : Timestamp) : Bool :=
  daysOf firstYear 1 1 * 86400 ≤ t.secs && t.secs < daysOf (lastYear + 1) 1 1 * 86400

/-- **Read an instant**: a date, `T` or a space, a time and an offset.  Both the date that is written and
the one in universal time are within the calendar. -/
def parse? (s : String) : Option Timestamp := do
  let (year, r) ← year? (skipBlanks s.toList)
  let r ← mark? '-' r
  let (month, r) ← digits? 2 (skipBlanks r)
  let r ← mark? '-' r
  let (day, r) ← digits? 2 (skipBlanks r)
  let r ← match r with
    | c :: r => if c = 'T' || c = 't' || c = ' ' then some r else none
    | [] => none
  let (hour, r) ← digits? 2 (skipBlanks r)
  let r ← mark? ':' r
  let (minute, r) ← digits? 2 (skipBlanks r)
  let r ← mark? ':' r
  let (second, r) ← digits? 2 (skipBlanks r)
  let (nanos, r) ← nanos? r
  let (offset, r) ← zone? (skipBlanks r)
  if !(skipBlanks r).isEmpty || month = 0 || 12 < month || day = 0 || daysIn year month < day ||
    23 < hour || 59 < minute || 60 < second || 86400 ≤ offset.natAbs ||
    year < firstYear || lastYear < year then none
  let sec := if second = 60 then 59 else second
  let instant : Timestamp :=
    ⟨daysOf year month day * 86400 + (hour * 3600 + minute * 60 + sec : Nat) - offset,
      if second = 60 then nanos + 1000000000 else nanos⟩
  if instant.isInCalendar then some instant else none

end Timestamp

end ImageImport
