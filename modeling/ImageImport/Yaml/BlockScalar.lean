/-
# Scalars as blocks of lines

A block scalar stands behind a bar, and then its line breaks are kept, or behind an angle, and then they
are folded where neither the line before nor the line behind starts with a blank.  Its lines share an
indentation, which the header gives or the first line shows.  The header also says what becomes of the
line breaks at the end.
-/
import ImageImport.Yaml.Basic

namespace ImageImport.Yaml

/-! ## 1. Headers -/

/-- What becomes of the line breaks at the end of a block. -/
inductive Chomp where
  | strip
  | clip
  | keep

/-- What stands in front of a block: how its end is treated and how far it is indented, if that is
said. -/
structure BlockHeader where
  chomp : Chomp := .clip
  increment : Option Nat := none

namespace BlockHeader

/-- The sign that says how the end is treated. -/
def chomp? : Char → Option Chomp
  | '+' => some .keep
  | '-' => some .strip
  | _ => none

/-- The digit that says how far the block is indented. -/
def increment? (c : Char) : Option Nat :=
  if '1' ≤ c && c ≤ '9' then some (c.toNat - '0'.toNat) else none

/-- The header and what follows it: at most one sign and one digit, in either order. -/
def read (cs : List Char) : BlockHeader × List Char :=
  match cs with
  | [] => ({}, [])
  | a :: rest =>
    match chomp? a, increment? a with
    | some chomp, _ =>
      match rest with
      | b :: rest' =>
        ({ chomp, increment := increment? b }, if (increment? b).isSome then rest' else rest)
      | [] => ({ chomp }, [])
    | none, some n =>
      match rest with
      | b :: rest' =>
        match chomp? b with
        | some chomp => ({ chomp, increment := some n }, rest')
        | none => ({ increment := some n }, rest)
      | [] => ({ increment := some n }, [])
    | none, none => ({}, cs)

end BlockHeader

/-! ## 2. Lines -/

/-- What lies in front of a line of a block: line breaks and blanks, of which those count for the
indentation that stand left of it. -/
structure BlockGap where
  breaks : List Char
  column : Nat
  widest : Nat
  rest : List Char

/-- Up to the next line that is not empty.  Without a `limit` all spaces count for the indentation; a tab
does not stand among them. -/
def blockGap? (limit : Option Nat) (breaks : List Char) (column widest : Nat) :
    List Char → Option BlockGap
  | [] => some ⟨breaks, column, widest, []⟩
  | c :: rest =>
    let isIndent := limit.all (column < ·)
    if c = ' ' && isIndent then blockGap? limit breaks (column + 1) (max widest (column + 1)) rest
    else if c = '\t' && isIndent then none
    else if isBreak c then blockGap? limit (breaks ++ [c]) 0 widest rest
    else some ⟨breaks, column, widest, c :: rest⟩

/-- How far a block has been read: its text, the break behind the last line, the further breaks, and
whether the last line starts with a blank. -/
structure BlockState where
  text : List Char := []
  first : List Char := []
  more : List Char := []
  blankFirst : Bool := false

namespace BlockState

/-- One more line. -/
def push (folded : Bool) (s : BlockState) (line breakBehind more : List Char) : BlockState :=
  let blank := line.head?.any isBlank
  let lead :=
    if folded && s.first == ['\n'] && !s.blankFirst && !blank then
      if s.more.isEmpty then [' '] else []
    else s.first
  { text := s.text ++ lead ++ s.more ++ line, first := breakBehind, more, blankFirst := blank }

/-- The text of a block that has ended. -/
def finish (s : BlockState) : Chomp → List Char
  | .strip => s.text
  | .clip => s.text ++ s.first
  | .keep => s.text ++ s.first ++ s.more

end BlockState

/-- The lines of a block in a column, and what follows them; `fuel` bounds their number. -/
def blockLines (folded : Bool) (column : Nat) (fuel : Nat) (s : BlockState) (g : BlockGap) :
    Option (BlockState × List Char) :=
  match fuel with
  | 0 => none
  | fuel + 1 =>
    if g.column ≠ column || g.rest.isEmpty then some ({ s with more := g.breaks }, g.rest)
    else
      let line := g.rest.takeWhile (!isBreak ·)
      let behind := g.rest.dropWhile (!isBreak ·)
      match blockGap? (some column) [] 0 0 (behind.drop 1) with
      | none => none
      | some g' =>
        let s' := ({ s with more := g.breaks } : BlockState).push folded line (behind.take 1) []
        blockLines folded column fuel s' g'

/-- **A block scalar** and what follows it, from behind the bar or angle on.  Its lines stand no further
left than the column `least`, nor at the start of the line. -/
def blockScalar? (folded : Bool) (least : Nat) (cs : List Char) : Option (List Char × List Char) := do
  let (header, rest) := BlockHeader.read cs
  let rest ← nextLine? rest
  let limit := header.increment.map (least - 1 + ·)
  let gap ← blockGap? limit [] 0 0 rest
  let column := limit.getD (max 1 (max least gap.widest))
  let (s, behind) ← blockLines folded column (rest.length + 1) {} gap
  return (s.finish header.chomp, behind)

end ImageImport.Yaml
