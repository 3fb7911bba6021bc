/-
# YAML documents

A document is a tree of scalars, sequences and mappings.  Of a scalar only its text is kept, and whether
it was written plainly: the reader of the document decides what a plain scalar stands for.  Line breaks
are those of Unicode, and a document holds no control characters.
-/
import ImageImport.Text.Basic

namespace ImageImport

/-- **A document**: a scalar, which is plain when it is written without quotes, a sequence, or a mapping
with its entries in order. -/
inductive Yaml where
  | scalar (plain : Bool) (text : String)
  | sequence (items : List Yaml)
  | mapping (entries : List (Yaml × Yaml))

namespace Yaml

/-- What stands where a value is left out. -/
def absent : Yaml := scalar true ""

/-! ## 1. Characters -/

/-- A blank inside a line. -/
def isBlank (c : Char) : Bool := c = ' ' || c = '\t'

/-- A line break of a text in which those of ASCII and the next-line character are line feeds. -/
def isBreak (c : Char) : Bool := c = '\n' || c.toNat = 0x2028 || c.toNat = 0x2029

/-- Nothing, or a blank or line break first. -/
def atBlank : List Char → Bool
  | [] => true
  | c :: _ => isBlank c || isBreak c

/-- The single quote. -/
def isSingleQuote (c : Char) : Bool := c.toNat = 39

/-- The mark of a byte order. -/
def isOrderMark (c : Char) : Bool := c.toNat = 0xFEFF

/-- A character that means something inside flow collections. -/
def isFlowMark (c : Char) : Bool := c = ',' || c = '[' || c = ']' || c = '\x7b' || c = '\x7d'

/-- A character of names: an ASCII letter or digit, the underscore or the minus. -/
def isWord (c : Char) : Bool := c.isAlphanum || c = '_' || c = '-'

/-- Three times the character, and nothing or a blank behind it. -/
def isMarkOf (c : Char) : List Char → Bool
  | a :: b :: d :: rest => a = c && b = c && d = c && atBlank rest
  | _ => false

/-- At the start of a line this starts or ends a document. -/
def isDocumentMark (cs : List Char) : Bool := isMarkOf '-' cs || isMarkOf '.' cs

/-! ## 2. Texts -/

/-- A character a document may contain. -/
def isAllowed (c : Char) : Bool :=
  let n := c.toNat
  n = 9 || n = 10 || n = 13 || (0x20 ≤ n && n ≤ 0x7E) || n = 0x85 || (0xA0 ≤ n && n ≤ 0xFFFD) ||
    0x10000 ≤ n

/-- The text with the line breaks of ASCII and the next-line character as line feeds. -/
def normalize : List Char → List Char
  | [] => []
  | '\r' :: '\n' :: rest => '\n' :: normalize rest
  | c :: rest => (if c = '\r' || c.toNat = 0x85 then '\n' else c) :: normalize rest

/-- What follows the rest of a line, which holds nothing but blanks and a comment. -/
def nextLine? (cs : List Char) : Option (List Char) :=
  let behind := match cs.dropWhile isBlank with
    | '#' :: rest => rest.dropWhile (!isBreak ·)
    | rest => rest
  match behind with
  | [] => some []
  | c :: rest => if isBreak c then some rest else none

/-- A place in a text: what follows, and where that stands. -/
structure Cursor where
  rest : List Char
  index : Nat := 0
  line : Nat := 0
  column : Nat := 0

namespace Cursor

/-- Behind one character. -/
def pass (c : Cursor) (passed : Char) : Cursor :=
  if isBreak passed then { c with index := c.index + 1, line := c.line + 1, column := 0 }
  else { c with index := c.index + 1, column := c.column + 1 }

/-- **At a later place**, of which one knows what follows. -/
def moveTo (c : Cursor) (rest : List Char) : Cursor :=
  { (c.rest.take (c.rest.length - rest.length)).foldl pass c with rest }

end Cursor

end Yaml

end ImageImport
