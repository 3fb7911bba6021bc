/-
# Filters

A filter says what is recorded.  It is a list of directives between commas, and each of them is a level,
or names a target or a span, or both, with or without a level behind an equals sign.  A span may ask for
one of its fields, with or without a value.

A directive is taken apart without the blanks around it.  Its level and its field are then cut out of the
text with the blanks, at the places where they stand in the text without them: blanks in front shift
both, and blanks behind belong to the level.  Places are counted in bytes.
-/
import ImageImport.Telemetry.Pattern

namespace ImageImport.Telemetry

/-! ## 1. Places -/

/-- How many bytes the characters take. -/
def byteCount (cs : List Char) : Nat := cs.foldr (fun c n => c.utf8Size + n) 0

/-- What is left behind a number of bytes. -/
def behindBytes : Nat → List Char → List Char
  | _, [] => []
  | n, c :: cs => if n = 0 then c :: cs else behindBytes (n - c.utf8Size) cs

/-- What stands in front of a number of bytes. -/
def withinBytes : Nat → List Char → List Char
  | _, [] => []
  | n, c :: cs => if n = 0 then [] else c :: withinBytes (n - c.utf8Size) cs

/-! ## 2. Levels and fields -/

/-- A number from 0 to 5, with or without a plus sign. -/
def isLevelNumber (cs : List Char) : Bool :=
  let ds := match cs with
    | '+' :: rest => rest
    | _ => cs
  !ds.isEmpty && ds.all Text.isDigit && Text.ofDigits ds ≤ 5

/-- A level by name or number; nothing stands for all levels. -/
def isLevel (cs : List Char) : Bool :=
  cs.isEmpty || isLevelNumber cs ||
    ["trace", "debug", "info", "warn", "error", "off"].contains (Text.lowerAscii (String.ofList cs))

/-- A decimal number without a sign. -/
def isDecimal (cs : List Char) : Bool :=
  let whole := cs.takeWhile Text.isDigit
  let rest := cs.dropWhile Text.isDigit
  let (places, rest) := match rest with
    | '.' :: r => (r.takeWhile Text.isDigit, r.dropWhile Text.isDigit)
    | _ => ([], rest)
  let exponent (ds : List Char) : Bool := !ds.isEmpty && ds.all Text.isDigit
  !(whole.isEmpty && places.isEmpty) &&
    match rest with
    | [] => true
    | e :: r =>
      (e = 'e' || e = 'E') &&
        match r with
        | '+' :: ds | '-' :: ds => exponent ds
        | ds => exponent ds

/-- A number behind a plus sign, which as a pattern would have nothing to repeat. -/
def isPlusNumber (cs : List Char) : Bool :=
  match cs with
  | '+' :: rest =>
    isDecimal rest ||
      ["inf", "infinity", "nan"].contains (Text.lowerAscii (String.ofList rest))
  | _ => false

/-- A field: its name, and behind an equals sign a value, which ends before the next one. -/
def isField (cs : List Char) : Bool :=
  !cs.isEmpty &&
    match (cs.dropWhile (· != '=')) with
    | [] => true
    | _ :: rest =>
      let value := rest.takeWhile (· != '=')
      isPlusNumber value || Pattern.isPattern value

/-! ## 3. Directives -/

/-- The first character of a target. -/
def startsTarget (c : Char) : Bool := c = '-' || c = ':' || c = '_' || Text.isLetterOrNumber c

/-- What follows a span: nothing, or an equals sign and a level. -/
def isSpanEnd (all : List Char) (place : Nat) : List Char → Bool
  | [] => true
  | c :: _ => c = '=' && isLevel (behindBytes (place + 1) all)

/-- What follows the bracket that opens a span. -/
def isSpan (all : List Char) (place : Nat) (cs : List Char) : Bool :=
  let isEnd (c : Char) : Bool := c = ']' || c = '\x7b'
  let place := place + byteCount (cs.takeWhile (!isEnd ·)) + 1
  match cs.dropWhile (!isEnd ·) with
  | [] => false
  | ']' :: rest => isSpanEnd all place rest
  | _ :: rest =>
    let size := byteCount (rest.takeWhile (· != '\x7d'))
    match rest.dropWhile (· != '\x7d') with
    | _ :: ']' :: behind =>
      isField (withinBytes size (behindBytes place all)) && isSpanEnd all (place + size + 2) behind
    | _ => false

/-- **One directive.** -/
def isDirective (all : List Char) : Bool :=
  match Text.trimChars all with
  | [] => false
  | '[' :: rest => isSpan all 1 rest
  | c :: rest =>
    let isEnd (c : Char) : Bool := c = '=' || c = '['
    let place := byteCount (c :: rest.takeWhile (!isEnd ·)) + 1
    startsTarget c &&
      match rest.dropWhile (!isEnd ·) with
      | [] => true
      | '=' :: _ => isLevel (behindBytes place all)
      | _ :: behind => isSpan all place behind

/-- **A filter is a list of directives**, between commas; empty places count for nothing. -/
def isFilter (filter : String) : Bool :=
  (filter.toList.splitOn ',').all fun d => d.isEmpty || isDirective d

end ImageImport.Telemetry
