/-
# A text, its references, and one pass over them

A text is made of literals without an opening, of references whose name runs to the first closing, and maybe of an
opening at the end that is never closed.  Literals are as long as can be, so there is one way to split a text
(`Splits.unique`), and there always is one (`exists_splits`).

Substitution goes over these pieces once.  The text that is put in is no piece, so it is not looked at again.  What
could be taken for a reference in the result stands across two pieces: a `$` at the end of one, and a brace at the start
of the next.  It takes a value that is empty or begins with a brace, or one with a `$` of its own.  Where no value is
like this, substituting twice is substituting once (`substitute_substitute`).

Main statement: `substituteText_one_pass`, for all texts and dictionaries.  It also speaks of the pass as a loop over
what is still to be read, from one opening to the next (`Scan`).  The loop ends on every text, after one turn for each
piece that opens.
-/
import ImageImport.Proofs.Text.Parts
import ImageImport.Proofs.Workflow.Substitution
import Mathlib.Data.List.Infix

namespace ImageImport

namespace Reference

variable {value? : List Char → Option (List Char)} {cs : List Char}

/-! ## 1. Openings and closings -/

theorem opening_append (inside : List Char) : opening ++ inside = '$' :: '\x7b' :: inside := rfl

theorem print_append (name behind : List Char) : print name ++ behind = opening ++ (name ++ closing :: behind) := by
  rw [print, List.append_assoc, List.append_assoc, List.singleton_append]

theorem not_opening_infix_nil : ¬ opening <:+: [] := by
  simp [opening]

theorem after?_opening_print (name behind : List Char) :
    Text.after? opening (print name ++ behind) = some (name ++ closing :: behind) := by
  rw [print_append, Text.after?_append]

/-- **What is closed is a reference**: its name runs to the first closing. -/
theorem eq_print_of_closed {inside behind : List Char} {c : Char} (hin : Text.after? opening cs = some inside)
    (hdrop : inside.dropWhile (· != closing) = c :: behind) :
    cs = print (inside.takeWhile (· != closing)) ++ behind := by
  rw [Text.after?_eq_some_iff.mp hin, print_append, ← Text.eq_append_of_dropWhile_ne hdrop]

/-! ## 2. What is replaced in a text -/

/-- What no opening begins in stays. -/
theorem substitute_append_of {p : List Char} (h : ∀ t, t ≠ [] → t <:+ p → Text.after? opening (t ++ cs) = none) :
    substitute value? (p ++ cs) = p ++ substitute value? cs := by
  induction p with
  | nil => rfl
  | cons c p ih =>
    have hnone : Text.after? opening (c :: (p ++ cs)) = none := h (c :: p) (by simp) (List.suffix_refl _)
    rw [List.cons_append, substitute]
    split
    next => rw [ih fun t ht hsuffix => h t ht (hsuffix.trans (List.suffix_cons c p)), List.cons_append]
    next inside hin =>
      rw [hnone] at hin
      cases hin

/-- **What stands before the first `$` stays.** -/
theorem substitute_append {p : List Char} (h : '$' ∉ p) (cs : List Char) :
    substitute value? (p ++ cs) = p ++ substitute value? cs := by
  refine substitute_append_of fun t ht hsuffix => ?_
  obtain ⟨c, t, rfl⟩ := List.exists_cons_of_ne_nil ht
  have hc : c ≠ '$' := by
    rintro rfl
    exact h (hsuffix.subset List.mem_cons_self)
  simp [Text.after?, opening, hc.symm]

/-- **No opening begins in a literal**, if what follows does not close a brace onto its last `$`. -/
theorem after?_literal {l : List Char} (hne : l ≠ []) (hplain : ¬ opening <:+: l) (hcs : cs.head? ≠ some '\x7b') :
    Text.after? opening (l ++ cs) = none := by
  rw [Option.eq_none_iff_forall_ne_some]
  intro inside hin
  have hopens := Text.after?_eq_some_iff.mp hin
  match l, hne with
  | [c], _ =>
    -- the brace is the first character behind the literal
    have hbrace : cs = '\x7b' :: inside := (List.cons.inj hopens).2
    exact hcs (congrArg List.head? hbrace)
  | c :: d :: l, _ =>
    obtain ⟨rfl, hrest⟩ := List.cons.inj hopens
    obtain ⟨rfl, -⟩ := List.cons.inj hrest
    exact hplain (List.prefix_append opening l).isInfix

/-- **A literal stays**, under the same condition. -/
theorem substitute_literal_append {l : List Char} (hplain : ¬ opening <:+: l) (hcs : cs.head? ≠ some '\x7b') :
    substitute value? (l ++ cs) = l ++ substitute value? cs :=
  substitute_append_of fun _ hne hsuffix => after?_literal hne (fun hfound => hplain (hfound.trans hsuffix.isInfix)) hcs

/-- **A reference is replaced**, if its name stands for something. -/
theorem substitute_print_append {name : List Char} (h : closing ∉ name) (cs : List Char) :
    substitute value? (print name ++ cs) = (value? name).getD (print name) ++ substitute value? cs := by
  have hopening := after?_opening_print name cs
  rw [print_append, opening_append] at hopening ⊢
  rw [substitute]
  split
  next hin =>
    rw [hopening] at hin
    cases hin
  next inside hin =>
    rw [hopening] at hin
    cases hin
    split
    next hdrop =>
      rw [Text.dropWhile_ne_append h] at hdrop
      cases hdrop
    next c behind hdrop =>
      rw [Text.dropWhile_ne_append h] at hdrop
      cases hdrop
      rw [Text.takeWhile_ne_append h]

/-- **An opening that is never closed stays**, and so does all behind it. -/
theorem substitute_unclosed {inside : List Char} (h : closing ∉ inside) :
    substitute value? (opening ++ inside) = opening ++ inside := by
  have hopening := Text.after?_append opening inside
  rw [opening_append] at hopening ⊢
  rw [substitute]
  split
  next hin =>
    rw [hopening] at hin
    cases hin
  next rest hin =>
    rw [hopening] at hin
    cases hin
    split
    next => rfl
    next c behind hdrop =>
      rw [Text.dropWhile_ne_eq_nil_iff.mpr h] at hdrop
      cases hdrop

/-! ## 3. Pieces -/

/-- **What a text is made of.** -/
inductive Piece where
  /-- Text that is no part of a reference. -/
  | literal (cs : List Char)
  /-- A reference to a name. -/
  | reference (name : List Char)
  /-- An opening that is never closed, and what is behind it. -/
  | unclosed (inside : List Char)
  deriving DecidableEq

namespace Piece

/-- The piece as it stands in the text. -/
def print : Piece → List Char
  | literal cs => cs
  | reference name => Reference.print name
  | unclosed inside => opening ++ inside

/-- **What becomes of the piece**: a reference is replaced if its name stands for something. -/
def replace (value? : List Char → Option (List Char)) : Piece → List Char
  | literal cs => cs
  | reference name => (value? name).getD (Reference.print name)
  | unclosed inside => opening ++ inside

/-- Does the piece begin with an opening? -/
def opens : Piece → Bool
  | literal _ => false
  | reference _ => true
  | unclosed _ => true

end Piece

/-- **The pieces of a text**, in order.  No literal has an opening in it, and none follows on another.  The name of a
reference runs to the first closing.  Behind an opening that is never closed there is no closing, and no other piece. -/
inductive Splits : List Piece → List Char → Prop where
  | nil : Splits [] []
  | literal {l cs : List Char} {pieces : List Piece} (hne : l ≠ []) (hplain : ¬ opening <:+: l)
      (hnext : ∀ piece ∈ pieces.head?, piece.opens = true) (hrest : Splits pieces cs) :
      Splits (.literal l :: pieces) (l ++ cs)
  | reference {name cs : List Char} {pieces : List Piece} (hname : closing ∉ name) (hrest : Splits pieces cs) :
      Splits (.reference name :: pieces) (print name ++ cs)
  | unclosed {inside : List Char} (hinside : closing ∉ inside) : Splits [.unclosed inside] (opening ++ inside)

namespace Splits

variable {pieces : List Piece}

/-- **The pieces make up the text.** -/
theorem flatMap_print (h : Splits pieces cs) : pieces.flatMap Piece.print = cs := by
  induction h with
  | nil => rfl
  | literal _ _ _ _ ih => rw [List.flatMap_cons, ih, Piece.print]
  | reference _ _ ih => rw [List.flatMap_cons, ih, Piece.print]
  | unclosed => simp [Piece.print]

/-- Where no literal is first, the text is over or opens. -/
theorem opens_of_head (h : Splits pieces cs) (hhead : ∀ piece ∈ pieces.head?, piece.opens = true) :
    cs = [] ∨ opening <+: cs := by
  cases h with
  | nil => exact .inl rfl
  | literal => exact absurd (hhead _ rfl) Bool.false_ne_true
  | reference =>
    rw [print_append]
    exact .inr (List.prefix_append _ _)
  | unclosed => exact .inr (List.prefix_append _ _)

/-- **A character joins the pieces behind it** where no opening begins. -/
theorem cons (h : Splits pieces cs) {c : Char} (hc : Text.after? opening (c :: cs) = none) :
    ∃ more, Splits more (c :: cs) := by
  have hprefix : ¬ opening <+: c :: cs := by
    rintro ⟨inside, hinside⟩
    rw [Text.after?_eq_some_iff.mpr hinside.symm] at hc
    cases hc
  have hshort : ¬ opening <:+: [c] := fun hfound => absurd hfound.length_le (by simp [opening])
  have hne : [c] ≠ [] := List.cons_ne_nil c []
  cases h with
  | nil => exact ⟨[.literal [c]], .literal hne hshort (by simp) .nil⟩
  | @literal l cs pieces _ hplain hnext hrest =>
    refine ⟨.literal (c :: l) :: pieces, .literal (List.cons_ne_nil c l) (fun hfound => ?_) hnext hrest⟩
    rcases List.infix_cons_iff.mp hfound with hfirst | hfound
    · exact hprefix (hfirst.trans (List.prefix_append (c :: l) cs))
    · exact hplain hfound
  | @reference name cs pieces hname hrest =>
    refine ⟨.literal [c] :: .reference name :: pieces, ?_⟩
    exact .literal hne hshort (by simp [Piece.opens]) (.reference hname hrest)
  | @unclosed inside hinside =>
    refine ⟨[.literal [c], .unclosed inside], ?_⟩
    exact .literal hne hshort (by simp [Piece.opens]) (.unclosed hinside)

end Splits

/-- **Every text is made of pieces.** -/
theorem exists_splits (cs : List Char) : ∃ pieces, Splits pieces cs := by
  -- the cases of the pass, whatever names stand for
  fun_induction substitute (fun _ => none) cs with
  | case1 => exact ⟨[], .nil⟩
  | case2 c rest hin ih =>
    obtain ⟨pieces, h⟩ := ih
    exact h.cons hin
  | case3 c rest inside hin hdrop =>
    rw [Text.after?_eq_some_iff.mp hin]
    exact ⟨[.unclosed inside], .unclosed (Text.dropWhile_ne_eq_nil_iff.mp hdrop)⟩
  | case4 c rest inside hin x behind hdrop hlen name ih =>
    obtain ⟨pieces, h⟩ := ih
    rw [eq_print_of_closed hin hdrop]
    exact ⟨.reference name :: pieces, .reference (Text.notMem_takeWhile_ne closing inside) h⟩

/-! ## 4. The first opening -/

/-- **The first opening of a text**: what stands before it, and what behind. -/
def firstOpening? : List Char → Option (List Char × List Char)
  | [] => none
  | c :: rest =>
    match Text.after? opening (c :: rest) with
    | some inside => some ([], inside)
    | none => (firstOpening? rest).map fun (before, inside) => (c :: before, inside)

theorem not_infix_tail {c : Char} {l : List Char} (hplain : ¬ opening <:+: c :: l) : ¬ opening <:+: l :=
  fun hfound => hplain (hfound.trans (List.suffix_cons c l).isInfix)

theorem firstOpening?_plain {l : List Char} (hplain : ¬ opening <:+: l) : firstOpening? l = none := by
  induction l with
  | nil => rfl
  | cons c l ih =>
    have hnone : Text.after? opening (c :: l) = none := by
      rw [← List.append_nil (c :: l)]
      exact after?_literal (List.cons_ne_nil c l) hplain nofun
    rw [firstOpening?, hnone, ih (not_infix_tail hplain)]
    rfl

theorem firstOpening?_append {l : List Char} (hplain : ¬ opening <:+: l) (inside : List Char) :
    firstOpening? (l ++ (opening ++ inside)) = some (l, inside) := by
  induction l with
  | nil =>
    have hopening := Text.after?_append opening inside
    rw [opening_append] at hopening
    rw [List.nil_append, opening_append, firstOpening?, hopening]
  | cons c l ih =>
    have hnone : Text.after? opening (c :: (l ++ (opening ++ inside))) = none :=
      after?_literal (List.cons_ne_nil c l) hplain (by simp [opening])
    rw [List.cons_append, firstOpening?, hnone, ih (not_infix_tail hplain)]
    rfl

/-- **A literal ends where the text is over or opens.** -/
theorem literal_eq {l m cs ds : List Char} (hl : ¬ opening <:+: l) (hm : ¬ opening <:+: m)
    (hcs : cs = [] ∨ opening <+: cs) (hds : ds = [] ∨ opening <+: ds) (h : l ++ cs = m ++ ds) : l = m := by
  have hfirst := congrArg firstOpening? h
  rcases hcs with rfl | ⟨inside, rfl⟩
  · rcases hds with rfl | ⟨inside', rfl⟩
    · simpa using h
    · rw [List.append_nil, firstOpening?_plain hl, firstOpening?_append hm] at hfirst
      cases hfirst
  · rcases hds with rfl | ⟨inside', rfl⟩
    · rw [List.append_nil, firstOpening?_plain hm, firstOpening?_append hl] at hfirst
      cases hfirst
    · rw [firstOpening?_append hm, firstOpening?_append hl] at hfirst
      cases hfirst
      rfl

/-- What opens has no literal first. -/
theorem literal_eq_nil {l cs ds : List Char} (hl : ¬ opening <:+: l) (hcs : cs = [] ∨ opening <+: cs)
    (h : l ++ cs = opening ++ ds) : l = [] :=
  literal_eq hl not_opening_infix_nil hcs (.inr (List.prefix_append opening ds)) h

/-! ## 5. One way to split -/

namespace Splits

variable {pieces other : List Piece}

theorem eq_nil (h : Splits other []) : other = [] := by
  generalize htext : [] = text at h
  cases h with
  | nil => rfl
  | literal hne => exact absurd (List.append_eq_nil_iff.mp htext.symm).1 hne
  | reference => simp [print, opening] at htext
  | unclosed => simp [opening] at htext

theorem of_literal {l : List Char} (hne : l ≠ []) (hplain : ¬ opening <:+: l) (hcs : cs = [] ∨ opening <+: cs)
    (h : Splits other (l ++ cs)) : ∃ rest, other = .literal l :: rest ∧ Splits rest cs := by
  generalize htext : l ++ cs = text at h
  cases h with
  | nil => exact absurd (List.append_eq_nil_iff.mp htext).1 hne
  | @literal m ds rest _ hplain' hnext hrest =>
    obtain rfl := literal_eq hplain hplain' hcs (hrest.opens_of_head hnext) htext
    rw [List.append_cancel_left htext]
    exact ⟨rest, rfl, hrest⟩
  | reference =>
    rw [print_append] at htext
    exact absurd (literal_eq_nil hplain hcs htext) hne
  | unclosed => exact absurd (literal_eq_nil hplain hcs htext) hne

theorem of_reference {name : List Char} (hname : closing ∉ name) (h : Splits other (print name ++ cs)) :
    ∃ rest, other = .reference name :: rest ∧ Splits rest cs := by
  rw [print_append] at h
  generalize htext : opening ++ (name ++ closing :: cs) = text at h
  cases h with
  | nil => simp [opening] at htext
  | literal hne hplain hnext hrest =>
    exact absurd (literal_eq_nil hplain (hrest.opens_of_head hnext) htext.symm) hne
  | @reference name' ds rest hname' hrest =>
    rw [print_append] at htext
    have hinside : name ++ closing :: cs = name' ++ closing :: ds := List.append_cancel_left htext
    obtain rfl : name = name' := by
      rw [← Text.takeWhile_ne_append hname cs, hinside, Text.takeWhile_ne_append hname']
    rw [(List.cons.inj (List.append_cancel_left hinside)).2]
    exact ⟨rest, rfl, hrest⟩
  | @unclosed inside hinside =>
    refine absurd ?_ hinside
    rw [← List.append_cancel_left htext]
    simp

theorem of_unclosed {inside : List Char} (hinside : closing ∉ inside) (h : Splits other (opening ++ inside)) :
    other = [.unclosed inside] := by
  generalize htext : opening ++ inside = text at h
  cases h with
  | nil => simp [opening] at htext
  | literal hne hplain hnext hrest =>
    exact absurd (literal_eq_nil hplain (hrest.opens_of_head hnext) htext.symm) hne
  | @reference name ds rest hname hrest =>
    rw [print_append] at htext
    refine absurd ?_ hinside
    rw [List.append_cancel_left htext]
    simp
  | unclosed => rw [List.append_cancel_left htext]

/-- **There is one way to split a text.** -/
theorem unique (h : Splits pieces cs) (h' : Splits other cs) : other = pieces := by
  induction h generalizing other with
  | nil => exact h'.eq_nil
  | literal hne hplain hnext hrest ih =>
    obtain ⟨rest, rfl, hrest'⟩ := of_literal hne hplain (hrest.opens_of_head hnext) h'
    rw [ih hrest']
  | reference hname _ ih =>
    obtain ⟨rest, rfl, hrest'⟩ := of_reference hname h'
    rw [ih hrest']
  | unclosed hinside => exact of_unclosed hinside h'

end Splits

/-! ## 6. What the pass makes of the pieces -/

section Passing

variable {pieces : List Piece}

theorem head?_of_opens (h : cs = [] ∨ opening <+: cs) : cs.head? ≠ some '\x7b' := by
  rcases h with rfl | ⟨inside, rfl⟩
  · nofun
  · simp [opening]

/-- **Each piece becomes what it is replaced with**, by induction on the pieces. -/
theorem Splits.substitute_eq (h : Splits pieces cs) :
    substitute value? cs = pieces.flatMap (Piece.replace value?) := by
  induction h with
  | nil => rw [substitute, List.flatMap_nil]
  | literal _ hplain hnext hrest ih =>
    rw [substitute_literal_append hplain (head?_of_opens (hrest.opens_of_head hnext)), ih, List.flatMap_cons,
      Piece.replace]
  | reference hname _ ih => rw [substitute_print_append hname, ih, List.flatMap_cons, Piece.replace]
  | unclosed hinside =>
    rw [substitute_unclosed hinside, List.flatMap_cons, List.flatMap_nil, List.append_nil, Piece.replace]

/-- **References to nothing stay**, and with them the text. -/
theorem Splits.substitute_eq_self (h : Splits pieces cs)
    (hnone : ∀ name, .reference name ∈ pieces → value? name = none) : substitute value? cs = cs := by
  have hreplace : ∀ piece ∈ pieces, piece.replace value? = piece.print := by
    intro piece hmem
    cases piece with
    | literal => rfl
    | reference name => rw [Piece.replace, hnone name hmem, Option.getD_none, Piece.print]
    | unclosed => rfl
  rw [h.substitute_eq, ← h.flatMap_print, List.flatMap_congr hreplace]

/-- **Values that make up no reference**, wherever they are put: none is empty, none has a `$`, and none begins with a
brace. -/
def Settled (value? : List Char → Option (List Char)) : Prop :=
  ∀ name value, value? name = some value → value ≠ [] ∧ '$' ∉ value ∧ value.head? ≠ some '\x7b'

/-- Where no literal is first, no brace is first in the result. -/
theorem Splits.head?_replaced (hvalues : Settled value?) (h : Splits pieces cs)
    (hhead : ∀ piece ∈ pieces.head?, piece.opens = true) :
    (pieces.flatMap (Piece.replace value?)).head? ≠ some '\x7b' := by
  cases h with
  | nil => nofun
  | literal => exact absurd (hhead _ rfl) Bool.false_ne_true
  | @reference name _ pieces =>
    rw [List.flatMap_cons, Piece.replace]
    cases hvalue : value? name with
    | none => simp [print, opening]
    | some value =>
      obtain ⟨hne, -, hbrace⟩ := hvalues name value hvalue
      rwa [Option.getD_some, List.head?_append_of_ne_nil _ hne]
  | unclosed => simp [Piece.replace, opening]

/-- **What has been replaced is not replaced again.** -/
theorem Splits.substitute_replaced (hvalues : Settled value?) (h : Splits pieces cs) :
    substitute value? (pieces.flatMap (Piece.replace value?)) = pieces.flatMap (Piece.replace value?) := by
  induction h with
  | nil => rw [List.flatMap_nil, substitute]
  | literal _ hplain hnext hrest ih =>
    rw [List.flatMap_cons, Piece.replace, substitute_literal_append hplain (hrest.head?_replaced hvalues hnext), ih]
  | @reference name _ pieces hname _ ih =>
    rw [List.flatMap_cons, Piece.replace]
    cases hvalue : value? name with
    | none => rw [Option.getD_none, substitute_print_append hname, hvalue, Option.getD_none, ih]
    | some value => rw [Option.getD_some, substitute_append (hvalues name value hvalue).2.1, ih]
  | unclosed hinside =>
    rw [List.flatMap_cons, List.flatMap_nil, List.append_nil, Piece.replace, substitute_unclosed hinside]

/-- **Substituting twice is substituting once.** -/
theorem substitute_substitute (hvalues : Settled value?) (cs : List Char) :
    substitute value? (substitute value? cs) = substitute value? cs := by
  obtain ⟨pieces, h⟩ := exists_splits cs
  rw [h.substitute_eq, h.substitute_replaced hvalues]

/-- An empty value lets a `$` and a brace meet, and so does a value that begins with the brace. -/
example :
    let value? (name : List Char) : Option (List Char) :=
      if name = ['e'] then some [] else if name = ['b'] then some ['\x7b']
      else if name = ['x'] then some ['1'] else none
    substitute value? "$$\x7be\x7d\x7bx\x7d".toList = "$\x7bx\x7d".toList ∧
      substitute value? "$$\x7bb\x7dx\x7d".toList = "$\x7bx\x7d".toList ∧
      substitute value? "$\x7bx\x7d".toList = "1".toList := by
  cbv

end Passing

/-! ## 7. The pass as a loop -/

/-- **Where the loop stands**: what has been written, and what is still to be read. -/
structure Scan where
  written : List Char
  rest : List Char

namespace Scan

/-- **One turn**, while there is an opening: what stands before it is written as it is, and then the reference or, where
it is never closed, all that is left. -/
def turn? (value? : List Char → Option (List Char)) (s : Scan) : Option Scan :=
  (firstOpening? s.rest).map fun (before, inside) =>
    match inside.dropWhile (· != closing) with
    | [] => ⟨s.written ++ before ++ (opening ++ inside), []⟩
    | _ :: behind =>
      let name := inside.takeWhile (· != closing)
      ⟨s.written ++ before ++ (value? name).getD (print name), behind⟩

/-- **The loop ends** after some turns, where there is no further one. -/
inductive Ends (value? : List Char → Option (List Char)) : Nat → Scan → Scan → Prop where
  | over {s : Scan} (hover : s.turn? value? = none) : Ends value? 0 s s
  | turn {n : Nat} {s next last : Scan} (hturn : s.turn? value? = some next) (hrest : Ends value? n next last) :
      Ends value? (n + 1) s last

variable {l : List Char}

theorem turn?_plain (written : List Char) (hplain : ¬ opening <:+: l) : turn? value? ⟨written, l⟩ = none := by
  rw [turn?, firstOpening?_plain hplain, Option.map_none]

theorem turn?_reference (written : List Char) (hplain : ¬ opening <:+: l) {name : List Char} (hname : closing ∉ name) :
    turn? value? ⟨written, l ++ (print name ++ cs)⟩ =
      some ⟨written ++ l ++ (value? name).getD (print name), cs⟩ := by
  simp only [print_append, turn?, firstOpening?_append hplain, Option.map_some, Text.dropWhile_ne_append hname,
    Text.takeWhile_ne_append hname]

theorem turn?_unclosed (written : List Char) (hplain : ¬ opening <:+: l) {inside : List Char}
    (hinside : closing ∉ inside) :
    turn? value? ⟨written, l ++ (opening ++ inside)⟩ = some ⟨written ++ l ++ (opening ++ inside), []⟩ := by
  simp only [turn?, firstOpening?_append hplain, Option.map_some, Text.dropWhile_ne_eq_nil_iff.mpr hinside]

/-- **The loop ends on what is made of pieces**, after a turn for each piece that opens, with what becomes of them
written.  A literal is not written before the next turn: in the induction it stands before the pieces that are left. -/
theorem ends_of_splits {pieces : List Piece} (h : Splits pieces cs) (written : List Char) (hplain : ¬ opening <:+: l)
    (hnext : l ≠ [] → ∀ piece ∈ pieces.head?, piece.opens = true) :
    ∃ last, Ends value? (pieces.countP Piece.opens) ⟨written, l ++ cs⟩ last ∧
      last.written ++ last.rest = written ++ l ++ pieces.flatMap (Piece.replace value?) := by
  induction h generalizing written l with
  | nil =>
    rw [List.append_nil]
    exact ⟨⟨written, l⟩, .over (turn?_plain written hplain), by simp⟩
  | @literal m cs pieces _ hplain' hnext' _ ih =>
    obtain rfl : l = [] := by
      by_contra hl
      exact Bool.false_ne_true (hnext hl _ rfl)
    obtain ⟨last, hends, hlast⟩ := ih written hplain' fun _ => hnext'
    refine ⟨last, ?_, ?_⟩
    · rw [List.countP_cons_of_neg (by simp [Piece.opens])]
      exact hends
    · rw [hlast, List.flatMap_cons, Piece.replace, List.append_nil, List.append_assoc]
  | @reference name cs pieces hname _ ih =>
    obtain ⟨last, hends, hlast⟩ :=
      ih (written ++ l ++ (value? name).getD (print name)) not_opening_infix_nil (absurd rfl)
    refine ⟨last, ?_, ?_⟩
    · rw [List.countP_cons_of_pos rfl]
      exact .turn (turn?_reference written hplain hname) hends
    · rw [hlast, List.flatMap_cons, Piece.replace, List.append_nil, List.append_assoc _ _ (pieces.flatMap _)]
  | @unclosed inside hinside =>
    refine ⟨⟨written ++ l ++ (opening ++ inside), []⟩, ?_, by simp [Piece.replace]⟩
    rw [List.countP_cons_of_pos rfl, List.countP_nil]
    exact .turn (turn?_unclosed written hplain hinside) (.over (turn?_plain _ not_opening_infix_nil))

end Scan

end Reference

/-! ## 8. Texts -/

open Reference

/-- The characters of the value under a name. -/
def Dict.chars? (values : Dict String) (name : List Char) : Option (List Char) :=
  (values.find? (String.ofList name)).map String.toList

theorem toList_substituteText (values : Dict String) (s : String) :
    (substituteText values s).toList = substitute values.chars? s.toList := by
  rw [substituteText, String.toList_ofList]
  rfl

theorem settled_chars? {values : Dict String} (h : ∀ name value, values.find? name = some value →
    value ≠ "" ∧ ∀ c ∈ value.toList, c ∉ opening ∧ c ≠ closing) : Settled values.chars? := by
  intro name value hvalue
  obtain ⟨text, htext, rfl⟩ := Option.map_eq_some_iff.mp hvalue
  obtain ⟨hne, hchars⟩ := h _ text htext
  refine ⟨?_, fun hmem => ?_, fun hhead => ?_⟩
  · rwa [ne_eq, String.toList_eq_nil_iff]
  · exact (hchars _ hmem).1 (by simp [opening])
  · exact (hchars _ (List.mem_of_head? hhead)).1 (by simp [opening])

/-- **The text is substituted in one pass** over its pieces. -/
structure OnePass (values : Dict String) (s : String) (pieces : List Piece) : Prop where
  /-- The text is made of these pieces, ... -/
  splits : Splits pieces s.toList
  /-- ... and there is no other way to split it. -/
  unique : ∀ other, Splits other s.toList → other = pieces
  /-- The result is what becomes of them, one after the other: values are put in as they are. -/
  replaced : (substituteText values s).toList = pieces.flatMap (Piece.replace values.chars?)
  /-- If no reference stands for anything, the text stays as it is. -/
  unchanged : (∀ name, .reference name ∈ pieces → values.find? (String.ofList name) = none) →
    substituteText values s = s
  /-- If no value is empty or has a character of which openings and closings are made, substituting twice is
  substituting once. -/
  settled : (∀ name value, values.find? name = some value →
      value ≠ "" ∧ ∀ c ∈ value.toList, c ∉ opening ∧ c ≠ closing) →
    substituteText values (substituteText values s) = substituteText values s
  /-- The loop over what is still to be read ends, after one turn for each piece that opens, with this result. -/
  ends : ∃ last, Scan.Ends values.chars? (pieces.countP Piece.opens) ⟨[], s.toList⟩ last ∧
    last.written ++ last.rest = (substituteText values s).toList

/-- **Substitution is one pass from left to right**, on every text. -/
theorem substituteText_one_pass (s : String) : ∃ pieces, ∀ values : Dict String, OnePass values s pieces := by
  obtain ⟨pieces, h⟩ := exists_splits s.toList
  refine ⟨pieces, fun values => ⟨h, fun other => h.unique, ?_, fun hnone => ?_, fun hplain => ?_, ?_⟩⟩
  · rw [toList_substituteText, h.substitute_eq]
  · refine String.toList_injective ?_
    rw [toList_substituteText, h.substitute_eq_self]
    intro name hmem
    rw [Dict.chars?, hnone name hmem, Option.map_none]
  · refine String.toList_injective ?_
    rw [toList_substituteText, toList_substituteText, substitute_substitute (settled_chars? hplain)]
  · obtain ⟨last, hends, hlast⟩ := Scan.ends_of_splits h [] not_opening_infix_nil (absurd rfl)
    refine ⟨last, hends, ?_⟩
    rw [hlast, toList_substituteText, h.substitute_eq]
    rfl

end ImageImport
