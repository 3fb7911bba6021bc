/-
# Characters and plain texts

The character classes and the small operations on text that the rest of the library shares.  Blanks
are the white space of Unicode: the ASCII blanks, the next-line and no-break characters, and the
spaces and separators of the general punctuation block.  Letters and digits are those of ASCII; the
classes of all scripts are tables of ranges in modules of their own.
-/

namespace ImageImport.Text

/-! ## 1. Blanks -/

/-- White space in the sense of Unicode. -/
def isBlank (c : Char) : Bool :=
  let n := c.toNat
  (9 ≤ n && n ≤ 13) || n = 0x20 || n = 0x85 || n = 0xA0 || n = 0x1680 ||
  (0x2000 ≤ n && n ≤ 0x200A) || n = 0x2028 || n = 0x2029 || n = 0x202F || n = 0x205F || n = 0x3000

/-- The characters without the blanks at either end. -/
def trimChars (cs : List Char) : List Char :=
  ((cs.dropWhile isBlank).reverse.dropWhile isBlank).reverse

/-- The text without the blanks at either end. -/
def trim (s : String) : String := String.ofList (trimChars s.toList)

/-- Nothing but blanks. -/
def isBlankText (s : String) : Bool := s.toList.all isBlank

/-! ## 2. Letters and digits -/

/-- The ASCII capitals in lower case, all else as it is. -/
def lowerAscii (s : String) : String := String.ofList (s.toList.map Char.toLower)

/-- An ASCII digit. -/
def isDigit (c : Char) : Bool := '0' ≤ c && c ≤ '9'

/-- A lowercase ASCII letter. -/
def isLower (c : Char) : Bool := 'a' ≤ c && c ≤ 'z'

/-- The number of the character is in one of the ranges, ends included. -/
def isWithin (ranges : List (Nat × Nat)) (c : Char) : Bool :=
  ranges.any fun (first, last) => first ≤ c.toNat && c.toNat ≤ last

/-- The number a list of digits spells. -/
def ofDigits (ds : List Char) : Nat := ds.foldl (fun n d => 10 * n + (d.toNat - '0'.toNat)) 0

/-! ## 3. Parts of a text -/

/-- Does the text start with `p`? -/
def startsWith (s p : String) : Bool := p.toList.isPrefixOf s.toList

/-- Does the text end in `p`? -/
def endsWith (s p : String) : Bool := p.toList.isSuffixOf s.toList

/-- Does `p` occur in the characters? -/
def occursIn (p : List Char) : List Char → Bool
  | [] => p.isEmpty
  | c :: cs => p.isPrefixOf (c :: cs) || occursIn p cs

/-- What follows the first characters `p`, if the text starts with them. -/
def after? (p : List Char) (cs : List Char) : Option (List Char) :=
  if p.isPrefixOf cs then some (cs.drop p.length) else none

theorem length_after?_le {p cs rest : List Char} (h : after? p cs = some rest) :
    rest.length ≤ cs.length := by
  unfold after? at h
  split at h
  · cases h; simp
  · cases h

theorem length_after?_lt {p cs rest : List Char} (hp : p ≠ []) (h : after? p cs = some rest) :
    rest.length < cs.length := by
  unfold after? at h
  split at h
  next hpre =>
    cases h
    have := (List.isPrefixOf_iff_prefix.mp hpre).length_le
    have : 0 < p.length := List.length_pos_iff.mpr hp
    simp only [List.length_drop]
    omega
  next => cases h

theorem length_dropWhile_le (p : Char → Bool) (cs : List Char) :
    (cs.dropWhile p).length ≤ cs.length := (List.dropWhile_sublist p).length_le

end ImageImport.Text
