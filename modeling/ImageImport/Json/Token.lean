/-
# The tokens of a JSON text

A text is cut into brackets, colons, commas, words, numbers and strings, with blanks in between.  The
rules are those of the standard and no more: no byte order mark, no leading zeros, no control
characters inside strings, no blanks but space, tab, line feed and carriage return.

A number and a word reach as far as their characters do; what is too long for its kind is refused
there, which is no loss, since two values never stand next to each other.
-/
import ImageImport.Json.Basic
import ImageImport.Number.Significand
import ImageImport.Text.Escape

namespace ImageImport.Json

/-- One token.  A value that is neither list nor object is one token. -/
inductive Token where
  | openList
  | closeList
  | openObject
  | closeObject
  | colon
  | comma
  | text (value : JsonText)
  | scalar (value : Json)

/-! ## 1. Strings -/

/-- The value of four hexadecimal digits. -/
def unit? (a b c d : Char) : Option Nat := do
  return 4096 * (← Text.hexValue? a) + 256 * (← Text.hexValue? b) + 16 * (← Text.hexValue? c) +
    (← Text.hexValue? d)

/-- The character of a one-letter escape. -/
def shortEscape? : Char → Option Char
  | '"' => some '"'
  | '\\' => some '\\'
  | '/' => some '/'
  | 'b' => some (Char.ofNat 8)
  | 'f' => some (Char.ofNat 12)
  | 'n' => some '\n'
  | 'r' => some '\r'
  | 't' => some '\t'
  | _ => none

/-- The first half of a surrogate pair. -/
def isHigh (u : Nat) : Bool := 0xD800 ≤ u && u < 0xDC00

/-- The second half of a surrogate pair. -/
def isLow (u : Nat) : Bool := 0xDC00 ≤ u && u < 0xE000

/-- The character of a surrogate pair. -/
def pairChar (high low : Nat) : Char := Char.ofNat (0x10000 + 0x400 * (high - 0xD800) + (low - 0xDC00))

/-- **The characters up to the closing quote**, and what follows it.  A surrogate escape without its
partner makes the whole string unsound, but does not end it. -/
def stringBody : List Char → Option (Option (List Char) × List Char)
  | [] => none
  | '"' :: rest => some (some [], rest)
  | '\\' :: 'u' :: a :: b :: c :: d :: '\\' :: 'u' :: e :: f :: g :: h :: rest =>
    match unit? a b c d with
    | none => none
    | some u =>
      if isHigh u then
        match unit? e f g h with
        | none => none
        | some v =>
          if isLow v then
            (stringBody rest).map fun (cs, behind) => (cs.map (pairChar u v :: ·), behind)
          else (stringBody ('\\' :: 'u' :: e :: f :: g :: h :: rest)).map fun (_, behind) => (none, behind)
      else
        (stringBody ('\\' :: 'u' :: e :: f :: g :: h :: rest)).map fun (cs, behind) =>
          (if isLow u then none else cs.map (Char.ofNat u :: ·), behind)
  | '\\' :: 'u' :: a :: b :: c :: d :: rest =>
    match unit? a b c d with
    | none => none
    | some u =>
      (stringBody rest).map fun (cs, behind) =>
        (if isHigh u || isLow u then none else cs.map (Char.ofNat u :: ·), behind)
  | '\\' :: e :: rest =>
    match shortEscape? e with
    | none => none
    | some c => (stringBody rest).map fun (cs, behind) => (cs.map (c :: ·), behind)
  | c :: rest =>
    if c.toNat < 32 || c = '\\' then none
    else (stringBody rest).map fun (cs, behind) => (cs.map (c :: ·), behind)

/-! ## 2. Numbers -/

/-- Take digits into a significand of at most 64 bits; what is left starts at the first digit that
does not fit, or behind the digits. -/
def takeDigits (significand : Nat) : List Char → Nat × List Char
  | [] => (significand, [])
  | d :: ds =>
    if Text.isDigit d && 10 * significand + (d.toNat - '0'.toNat) < Nat.pow 2 64 then
      takeDigits (10 * significand + (d.toNat - '0'.toNat)) ds
    else (significand, d :: ds)

/-- Finite, for the digits before and behind the point and the exponent. -/
def isFiniteNumber (whole fraction : List Char) (exponent : Int) : Bool :=
  let (s, skipped) := takeDigits 0 whole
  let (s', skipped') := takeDigits s fraction
  let used := fraction.length - skipped'.length
  Number.isFinite s' (skipped.length - used + exponent)

/-- A sign and digits behind an exponent mark. -/
def exponent? : List Char → Option Int
  | '+' :: ds => if ds.isEmpty || !ds.all Text.isDigit then none else some (Text.ofDigits ds)
  | '-' :: ds => if ds.isEmpty || !ds.all Text.isDigit then none else some (-Text.ofDigits ds)
  | ds => if ds.isEmpty || !ds.all Text.isDigit then none else some (Text.ofDigits ds)

/-- The digits behind a point, if there is one, and what follows. -/
def fraction? : List Char → Option (Option (List Char) × List Char)
  | '.' :: rest =>
    let ds := rest.takeWhile Text.isDigit
    if ds.isEmpty then none else some (some ds, rest.dropWhile Text.isDigit)
  | rest => some (none, rest)

/-- The exponent behind its mark, if there is one; nothing may follow. -/
def exponentPart? : List Char → Option (Option Int)
  | [] => some none
  | c :: rest => if c = 'e' || c = 'E' then (exponent? rest).map some else none

/-- **A whole number token is an integer if it fits into 64 bits**, with or without sign; `-0`, anything
with a point or an exponent, and anything longer is a real. -/
def unsigned? (negative : Bool) (cs : List Char) : Option Json := do
  let whole := cs.takeWhile Text.isDigit
  if whole.isEmpty || (whole.head? == some '0' && whole.length != 1) then none
  let (fraction, behind) ← fraction? (cs.dropWhile Text.isDigit)
  let exponent ← exponentPart? behind
  let n := Text.ofDigits whole
  if fraction.isNone && exponent.isNone && !negative && n < Nat.pow 2 64 then return int n
  else if fraction.isNone && exponent.isNone && negative && n ≠ 0 && n ≤ Nat.pow 2 63 then return int (-n)
  else return real (isFiniteNumber whole (fraction.getD []) (exponent.getD 0))

/-- A number token. -/
def number? : List Char → Option Json
  | '-' :: cs => unsigned? true cs
  | cs => unsigned? false cs

/-- A character that a number may contain. -/
def isNumberChar (c : Char) : Bool :=
  Text.isDigit c || c = '-' || c = '+' || c = '.' || c = 'e' || c = 'E'

/-! ## 3. Words and whole texts -/

/-- One of the three words. -/
def word? (cs : List Char) : Option Json :=
  if cs = "null".toList then some null
  else if cs = "true".toList then some (bool true)
  else if cs = "false".toList then some (bool false)
  else none

/-- A blank of the format. -/
def isSpace (c : Char) : Bool := c = ' ' || c = '\n' || c = '\t' || c = '\r'

/-- The token of a single character. -/
def punctuation? : Char → Option Token
  | '[' => some .openList
  | ']' => some .closeList
  | '\x7b' => some .openObject
  | '\x7d' => some .closeObject
  | ':' => some .colon
  | ',' => some .comma
  | _ => none

theorem length_stringBody_lt {cs : List Char} {t : Option (List Char)} {rest : List Char}
    (h : stringBody cs = some (t, rest)) : rest.length < cs.length := by
  fun_induction stringBody cs generalizing t rest <;>
    simp_all only [Option.map_eq_some_iff, Prod.exists, Prod.mk.injEq, List.length_cons,
      Option.some.injEq, reduceCtorEq] <;> grind

/-- **Cut a text into tokens.** -/
def tokens (cs : List Char) : Option (List Token) :=
  match cs with
  | [] => some []
  | c :: rest =>
    if isSpace c then tokens rest
    else if c = '"' then
      match h : stringBody rest with
      | none => none
      | some (t, behind) =>
        have := length_stringBody_lt h
        (tokens behind).map (.text (t.map String.ofList) :: ·)
    else match punctuation? c with
    | some t => (tokens rest).map (t :: ·)
    | none =>
      if isNumberChar c then
        match number? (c :: rest.takeWhile isNumberChar) with
        | none => none
        | some v =>
          have := (List.dropWhile_sublist isNumberChar (l := rest)).length_le
          (tokens (rest.dropWhile isNumberChar)).map (.scalar v :: ·)
      else
        match word? (c :: rest.takeWhile Text.isLower) with
        | none => none
        | some v =>
          have := (List.dropWhile_sublist Text.isLower (l := rest)).length_le
          (tokens (rest.dropWhile Text.isLower)).map (.scalar v :: ·)
termination_by cs.length

end ImageImport.Json
