/-
# Scalars on one line or several

A scalar is written plainly, or between single or double quotes.  It may run over several lines, and then
the line breaks are folded: one break becomes a space, of several the first is dropped, and the blanks
around them do not count.  What lies between two characters of a scalar is kept as a `Gap` until it is
known whether anything follows.

A mark that starts or ends a document at the start of a line ends a plain scalar, and is an error between
quotes.
-/
import ImageImport.Text.Escape
import ImageImport.Yaml.Basic

namespace ImageImport.Yaml

/-! ## 1. Gaps -/

/-- What lies between two characters: blanks, or a first line break and further ones.  A first break that
is escaped counts for nothing. -/
inductive Gap where
  | blanks (cs : List Char)
  | breaks (first : Option Char) (more : List Char)

namespace Gap

/-- Nothing. -/
def empty : Gap := blanks []

/-- One more blank; next to a line break it does not count. -/
def blank (c : Char) : Gap → Gap
  | blanks cs => blanks (cs ++ [c])
  | breaks first more => breaks first more

/-- One more line break. -/
def newline (c : Char) : Gap → Gap
  | blanks _ => breaks (some c) []
  | breaks first more => breaks first (more ++ [c])

/-- There is a line break in it. -/
def isBroken : Gap → Bool
  | blanks _ => false
  | breaks _ _ => true

/-- **What the gap counts for.**  Only line feeds are folded; other breaks are kept. -/
def text : Gap → List Char
  | blanks cs => cs
  | breaks none more => more
  | breaks (some c) more =>
    if c != '\n' then c :: more else if more.isEmpty then [' '] else more

end Gap

/-! ## 2. Quoted scalars -/

/-- Up to the closing single quote; two quotes stand for one.  `atStart` says that a line starts here. -/
def single (gap : Gap) (atStart : Bool) : List Char → Option (List Char × List Char)
  | [] => none
  | [c] => if isSingleQuote c then some (gap.text, []) else none
  | c :: d :: rest =>
    if isSingleQuote c then
      if isSingleQuote d then (single .empty false rest).map fun (t, r) => (gap.text ++ c :: t, r)
      else some (gap.text, d :: rest)
    else if isBreak c then single (gap.newline c) true (d :: rest)
    else if isBlank c then single (gap.blank c) false (d :: rest)
    else if atStart && isDocumentMark (c :: d :: rest) then none
    else (single .empty false (d :: rest)).map fun (t, r) => (gap.text ++ c :: t, r)

/-- The character of a one-letter escape. -/
def shortEscape? : Char → Option Char
  | '0' => some (Char.ofNat 0)
  | 'a' => some (Char.ofNat 7)
  | 'b' => some (Char.ofNat 8)
  | 't' | '\t' => some '\t'
  | 'n' => some '\n'
  | 'v' => some (Char.ofNat 11)
  | 'f' => some (Char.ofNat 12)
  | 'r' => some '\r'
  | 'e' => some (Char.ofNat 27)
  | ' ' => some ' '
  | '"' => some '"'
  | '/' => some '/'
  | '\\' => some '\\'
  | 'N' => some (Char.ofNat 0x85)
  | '_' => some (Char.ofNat 0xA0)
  | 'L' => some (Char.ofNat 0x2028)
  | 'P' => some (Char.ofNat 0x2029)
  | _ => none

/-- Up to the closing double quote.  A line break behind a backslash joins the lines. -/
def double (gap : Gap) (atStart : Bool) (cs : List Char) : Option (List Char × List Char) :=
  match cs with
  | [] => none
  | '"' :: rest => some (gap.text, rest)
  | '\\' :: e :: rest =>
    if isBreak e then
      (double (.breaks none []) true rest).map fun (t, r) => (gap.text ++ t, r)
    else
      let places := Text.escapeDigits e
      let c? := if places = 0 then shortEscape? e
        else if rest.length < places then none else Text.numbered? (rest.take places)
      match c? with
      | none => none
      | some c => (double .empty false (rest.drop places)).map fun (t, r) => (gap.text ++ c :: t, r)
  | c :: rest =>
    if isBreak c then double (gap.newline c) true rest
    else if isBlank c then double (gap.blank c) false rest
    else if atStart && isDocumentMark (c :: rest) then none
    else (double .empty false rest).map fun (t, r) => (gap.text ++ c :: t, r)
termination_by cs.length
decreasing_by all_goals simp only [List.length_cons, List.length_drop]; omega

/-! ## 3. Plain scalars -/

/-- May a plain scalar start with this character?  Marks may not, but for three of them in front of a
character, two of those only outside of flow collections. -/
def startsPlain (inFlow : Bool) (c : Char) (rest : List Char) : Bool :=
  if c = '-' then !atBlank rest
  else if c = '?' || c = ':' then !inFlow && !atBlank rest
  else !(isFlowMark c || isBlank c || isBreak c || c = '#' || c = '&' || c = '*' || c = '!' ||
    c = '|' || c = '>' || isSingleQuote c || c = '"' || c = '%' || c = '@' || c = '`')

/-- The characters of a plain scalar. -/
structure Plain where
  text : List Char
  rest : List Char
  /-- A line break lies behind the last character. -/
  isBroken : Bool

namespace Plain

/-- One more character in front, and the gap before it. -/
def cons (gap : Gap) (c : Char) (p : Plain) : Plain := { p with text := gap.text ++ c :: p.text }

/-- The scalar ends here. -/
def ending (gap : Gap) (rest : List Char) : Option Plain := some ⟨[], rest, gap.isBroken⟩

/-- Is the colon in front of this an error inside of flow collections? -/
def isStrayColon : List Char → Bool
  | c :: _ => isFlowMark c || c = '?'
  | [] => false

end Plain

/-- **A plain scalar.**  Outside of flow collections its lines stand no further left than the column
`least`, and nowhere may a tab stand left of that. -/
def plain? (inFlow : Bool) (least : Nat) (gap : Gap) (column : Nat) : List Char → Option Plain
  | [] => Plain.ending gap []
  | c :: rest =>
    let afterGap := match gap with
      | .blanks [] => false
      | _ => true
    if isBreak c then plain? inFlow least (gap.newline c) 0 rest
    else if isBlank c then
      if gap.isBroken && column < least && c = '\t' then none
      else plain? inFlow least (gap.blank c) (column + 1) rest
    else if afterGap && ((!inFlow && column < least) || c = '#' ||
        (column = 0 && isDocumentMark (c :: rest))) then Plain.ending gap (c :: rest)
    else if inFlow && c = ':' && Plain.isStrayColon rest then none
    else if (c = ':' && atBlank rest) || (inFlow && isFlowMark c) then Plain.ending gap (c :: rest)
    else (plain? inFlow least .empty (column + 1) rest).map (·.cons gap c)

end ImageImport.Yaml
