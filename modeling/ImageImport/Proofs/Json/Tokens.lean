/-
# The tokens of a written text

Main statements: `tokens_punctuation`, `tokens_quote`, `tokens_int` and `tokens_word`, one for each kind of token that is
written.  Whatever a string holds, each character is written so that it is read (`stringBody_escape`).

A number or a word reaches as far as its characters do.  What is behind it must therefore begin with a character of
another kind, and in a written text it does (`Delimited`).
-/
import ImageImport.Json.Parser
import ImageImport.Json.Printer
import ImageImport.Proofs.Text.Digits
import Mathlib.Tactic.SplitIfs

namespace ImageImport.Json

open Text (isDigit isLower)

variable {c : Char} {cs rest : List Char}

/-! ## 1. Strings -/

/-- The two digits of a control character stand for it. -/
theorem unit?_hexPair : ∀ n < 32, unit? '0' '0' (Resource.hexDigit (n / 16)) (Resource.hexDigit n) = some n := by
  decide

/-- A character that is written by its number is read. -/
theorem stringBody_numbered {a b : Char} {n : Nat} (hn : n < 32) (h : unit? '0' '0' a b = some n) (rest : List Char) :
    stringBody ('\\' :: 'u' :: '0' :: '0' :: a :: b :: rest) =
      (stringBody rest).map fun (cs, behind) => (cs.map (Char.ofNat n :: ·), behind) := by
  have hhigh : isHigh n = false := by simp [isHigh]; omega
  have hlow : isLow n = false := by simp [isLow]; omega
  rw [stringBody.eq_def]
  split
  next heq => cases heq
  next heq => simp at heq
  next heq =>
    cases heq
    simp [h, hhigh, hlow]
  next heq =>
    cases heq
    simp [h, hhigh, hlow]
  next hother heq =>
    cases heq
    exact absurd rfl (hother _ _ _ _ _ rfl)
  next hother heq =>
    cases heq
    exact absurd rfl (hother _ _ rfl)

/-- A character that is written by a letter is read. -/
theorem stringBody_lettered (e : Char) (he : e ≠ 'u') (h : shortEscape? e = some c) (rest : List Char) :
    stringBody ('\\' :: e :: rest) = (stringBody rest).map fun (cs, behind) => (cs.map (c :: ·), behind) := by
  rw [stringBody.eq_def]
  split
  next heq => cases heq
  next heq => simp at heq
  next heq =>
    cases heq
    exact absurd rfl he
  next heq =>
    cases heq
    exact absurd rfl he
  next heq =>
    cases heq
    simp [h]
  next hother heq =>
    cases heq
    exact absurd rfl (hother _ _ rfl)

/-- A character that is written as it is is read. -/
theorem stringBody_plain (hquote : c ≠ '"') (hslash : c ≠ '\\') (hcontrol : ¬ c.toNat < 32) (rest : List Char) :
    stringBody (c :: rest) = (stringBody rest).map fun (cs, behind) => (cs.map (c :: ·), behind) := by
  rw [stringBody.eq_def]
  split
  next heq => cases heq
  next heq =>
    cases heq
    exact absurd rfl hquote
  next heq =>
    cases heq
    exact absurd rfl hslash
  next heq =>
    cases heq
    exact absurd rfl hslash
  next heq =>
    cases heq
    exact absurd rfl hslash
  next heq =>
    cases heq
    have hnone : ¬ (decide (c.toNat < 32) || decide (c = '\\')) = true := by simpa [hslash] using hcontrol
    rw [if_neg hnone]

/-- **Every character is read as it was written.** -/
theorem stringBody_escape (c : Char) (rest : List Char) :
    stringBody (escape c ++ rest) = (stringBody rest).map fun (cs, behind) => (cs.map (c :: ·), behind) := by
  have hnumber : ∀ {n : Nat} {d : Char}, c.toNat = n → d.toNat = n → d = c := fun h h' => Char.toNat_inj.mp (h'.trans h.symm)
  unfold escape
  split_ifs with hquote hslash hline hreturn htab hback hfeed hcontrol
  · exact stringBody_lettered '"' (by decide) (congrArg some hquote.symm) rest
  · exact stringBody_lettered '\\' (by decide) (congrArg some hslash.symm) rest
  · exact stringBody_lettered 'n' (by decide) (congrArg some hline.symm) rest
  · exact stringBody_lettered 'r' (by decide) (congrArg some hreturn.symm) rest
  · exact stringBody_lettered 't' (by decide) (congrArg some htab.symm) rest
  · exact stringBody_lettered 'b' (by decide) (congrArg some (hnumber hback rfl)) rest
  · exact stringBody_lettered 'f' (by decide) (congrArg some (hnumber hfeed rfl)) rest
  · have h := stringBody_numbered hcontrol (unit?_hexPair c.toNat hcontrol) rest
    rwa [Char.ofNat_toNat] at h
  · exact stringBody_plain hquote hslash hcontrol rest

/-- **A string is read as it was written**, up to its closing quote. -/
theorem stringBody_quoted (cs rest : List Char) :
    stringBody (cs.flatMap escape ++ '"' :: rest) = some (some cs, rest) := by
  induction cs with
  | nil => simp [stringBody]
  | cons c cs ih =>
    rw [List.flatMap_cons, List.append_assoc, stringBody_escape, ih]
    rfl

/-! ## 2. Numbers -/

/-- Characters of a kind that ends with them are taken as a whole. -/
theorem span_append {p : Char → Bool} (hall : ∀ c ∈ cs, p c = true) (hrest : ∀ c ∈ rest.head?, p c = false) :
    (cs ++ rest).takeWhile p = cs ∧ (cs ++ rest).dropWhile p = rest := by
  have hstop : rest.takeWhile p = [] ∧ rest.dropWhile p = rest := by
    cases rest with
    | nil => exact ⟨rfl, rfl⟩
    | cons d ds => simp [hrest d rfl]
  rw [List.takeWhile_append_of_pos hall, List.dropWhile_append_of_pos hall, hstop.1, hstop.2, List.append_nil]
  exact ⟨rfl, rfl⟩

/-- Digits are taken as a whole, and leave nothing. -/
theorem span_isDigit_toDigits (n : Nat) :
    (Nat.toDigits 10 n).takeWhile isDigit = Nat.toDigits 10 n ∧ (Nat.toDigits 10 n).dropWhile isDigit = [] := by
  have hspan : (Nat.toDigits 10 n ++ []).takeWhile isDigit = Nat.toDigits 10 n ∧
      (Nat.toDigits 10 n ++ []).dropWhile isDigit = [] :=
    span_append (fun _ h => Text.isDigit_of_mem h) nofun
  rwa [List.append_nil] at hspan

/-- **The digits of an integer are read as the integer**, if it is not too large for its sign. -/
theorem unsigned?_toDigits {n : Nat} {negative : Bool} {v : Int} (h : negative = false ∧ n < Nat.pow 2 64 ∧ v = n ∨
    negative = true ∧ n ≠ 0 ∧ n ≤ Nat.pow 2 63 ∧ v = -n) : unsigned? negative (Nat.toDigits 10 n) = some (int v) := by
  have hnotempty : (Nat.toDigits 10 n).isEmpty = false := by simp [Nat.toDigits_ne_nil]
  have hzero : ((Nat.toDigits 10 n).head? == some '0' && (Nat.toDigits 10 n).length != 1) = false := by
    by_cases h : (Nat.toDigits 10 n).head? = some '0'
    · rw [Text.head?_toDigits h]
      rfl
    · simp [h]
  obtain ⟨htake, hdrop⟩ := span_isDigit_toDigits n
  unfold unsigned?
  rw [htake, hdrop]
  rcases h with ⟨rfl, hn, rfl⟩ | ⟨rfl, hzero', hn, rfl⟩
  · simpa [hnotempty, hzero, fraction?, exponentPart?] using hn
  · simpa [hnotempty, hzero, fraction?, exponentPart?, hzero'] using hn

/-- Digits are a number without a sign. -/
theorem number?_toDigits (n : Nat) : number? (Nat.toDigits 10 n) = unsigned? false (Nat.toDigits 10 n) := by
  cases hdigits : Nat.toDigits 10 n with
  | nil => exact absurd hdigits Nat.toDigits_ne_nil
  | cons d ds =>
    have hd : isDigit d = true := Text.isDigit_of_mem (n := n) (hdigits ▸ List.mem_cons_self)
    have hminus : d ≠ '-' := by
      rintro rfl
      exact absurd hd (by decide)
    rw [number?.eq_def]
    split
    next heq =>
      cases heq
      exact absurd rfl hminus
    next => rfl

theorem toList_toString_ofNat (n : Nat) : (toString (Int.ofNat n)).toList = Nat.toDigits 10 n := Nat.toList_repr

theorem toList_toString_negSucc (n : Nat) : (toString (Int.negSucc n)).toList = '-' :: Nat.toDigits 10 (n + 1) := by
  show ("-" ++ Nat.repr (n + 1)).toList = _
  simp

/-- **The text of an integer is read as the integer.** -/
theorem number?_toString {n : Int} (low : -Int.pow 2 63 ≤ n) (high : n < Int.pow 2 64) :
    number? (toString n).toList = some (int n) := by
  cases n with
  | ofNat n =>
    have hn : n < Nat.pow 2 64 := Int.ofNat_lt.mp high
    rw [toList_toString_ofNat, number?_toDigits]
    exact unsigned?_toDigits (.inl ⟨rfl, hn, rfl⟩)
  | negSucc n =>
    have hn : n + 1 ≤ Nat.pow 2 63 := Int.ofNat_le.mp (Int.neg_le_neg_iff.mp low)
    rw [toList_toString_negSucc]
    exact unsigned?_toDigits (.inr ⟨rfl, Nat.succ_ne_zero n, hn, Int.negSucc_eq n⟩)

/-- ... and every character of it is one that a number may contain. -/
theorem isNumberChar_of_mem {n : Int} (h : c ∈ (toString n).toList) : isNumberChar c = true := by
  have hdigit : ∀ {m : Nat}, c ∈ Nat.toDigits 10 m → isNumberChar c = true := by
    intro m hm
    simp [isNumberChar, Text.isDigit_of_mem hm]
  cases n with
  | ofNat n =>
    exact hdigit (toList_toString_ofNat n ▸ h)
  | negSucc n =>
    rw [toList_toString_negSucc] at h
    rcases List.mem_cons.mp h with rfl | h
    · rfl
    · exact hdigit h

/-! ## 3. Tokens -/

/-- **What is behind a number or a word** does not begin with a character of one. -/
def Delimited (cs : List Char) : Prop := ∀ c ∈ cs.head?, isNumberChar c = false ∧ isLower c = false

theorem delimited_nil : Delimited [] := fun _ h => by cases h

theorem delimited_cons (hnumber : isNumberChar c = false) (hlower : isLower c = false) : Delimited (c :: cs) := by
  intro d hd
  cases hd
  exact ⟨hnumber, hlower⟩

/-- What is neither blank, nor a quote, nor a token of its own begins a number or a word. -/
structure Begins (c : Char) : Prop where
  space : isSpace c = false
  quote : c ≠ '"'
  punctuation : punctuation? c = none

theorem Begins.of_kind {p : Char → Bool} (h : p c = true) (hspace : " \n\t\r".toList.any p = false)
    (hmark : "\"[]\x7b\x7d:,".toList.any p = false) : Begins c := by
  have hne : ∀ {ds : List Char}, ds.any p = false → ∀ d ∈ ds, c ≠ d := by
    rintro ds hds d hd rfl
    exact absurd h (List.any_eq_false.mp hds c hd)
  have hspace' := hne hspace
  have hmark' := hne hmark
  refine ⟨?_, hmark' '"' (by simp), ?_⟩
  · simp [isSpace, hspace' ' ' (by simp), hspace' '\n' (by simp), hspace' '\t' (by simp), hspace' '\r' (by simp)]
  · unfold punctuation?
    split
    all_goals first | rfl | exact absurd rfl (hmark' _ (by simp))

theorem tokens_punctuation {t : Token} (h : punctuation? c = some t) (rest : List Char) :
    tokens (c :: rest) = (tokens rest).map (t :: ·) := by
  have hspace : isSpace c = false := by
    cases hs : isSpace c with
    | false => rfl
    | true =>
      simp only [isSpace, Bool.or_eq_true, decide_eq_true_eq] at hs
      rcases hs with ((rfl | rfl) | rfl) | rfl <;> cases h
  have hquote : c ≠ '"' := by
    rintro rfl
    cases h
  rw [tokens.eq_def]
  simp only [hspace, Bool.false_eq_true, if_false, if_neg hquote, h]

theorem tokens_quote (s : String) (rest : List Char) :
    tokens (quote (some s) ++ rest) = (tokens rest).map (.text (some s) :: ·) := by
  have hbody : stringBody (s.toList.flatMap escape ++ '"' :: rest) = some (some s.toList, rest) := stringBody_quoted _ _
  show tokens ('"' :: (s.toList.flatMap escape ++ ['"'] ++ rest)) = _
  rw [List.append_assoc, List.singleton_append, tokens.eq_def]
  simp only [show isSpace '"' = false from rfl, Bool.false_eq_true, if_false, if_true]
  split
  next hnone => rw [hbody] at hnone; cases hnone
  next t behind hsome =>
    rw [hbody] at hsome
    cases hsome
    simp

theorem tokens_int {n : Int} (low : -Int.pow 2 63 ≤ n) (high : n < Int.pow 2 64) (hrest : Delimited rest) :
    tokens ((toString n).toList ++ rest) = (tokens rest).map (.scalar (int n) :: ·) := by
  have hall : ∀ d ∈ (toString n).toList, isNumberChar d = true := fun _ => isNumberChar_of_mem
  have hread := number?_toString low high
  cases hn : (toString n).toList with
  | nil =>
    rw [hn] at hread
    cases hread
  | cons c cs =>
    rw [hn] at hall hread
    have hc : isNumberChar c = true := hall c List.mem_cons_self
    obtain ⟨hspace, hquote, hpunctuation⟩ := Begins.of_kind hc rfl rfl
    have hspan : (cs ++ rest).takeWhile isNumberChar = cs ∧ (cs ++ rest).dropWhile isNumberChar = rest :=
      span_append (fun d hd => hall d (List.mem_cons_of_mem _ hd)) fun d hd => (hrest d hd).1
    rw [List.cons_append, tokens.eq_def]
    simp only [hspace, Bool.false_eq_true, if_false, if_neg hquote, hpunctuation, hc, if_true, hspan, hread]

theorem tokens_word {v : Json} (hc : isNumberChar c = false) (hall : (c :: cs).all isLower = true)
    (h : word? (c :: cs) = some v) (hrest : Delimited rest) :
    tokens (c :: cs ++ rest) = (tokens rest).map (.scalar v :: ·) := by
  have hlower : ∀ d ∈ c :: cs, isLower d = true := List.all_eq_true.mp hall
  obtain ⟨hspace, hquote, hpunctuation⟩ := Begins.of_kind (hlower c List.mem_cons_self) rfl rfl
  have hspan : (cs ++ rest).takeWhile isLower = cs ∧ (cs ++ rest).dropWhile isLower = rest :=
    span_append (fun d hd => hlower d (List.mem_cons_of_mem _ hd)) fun d hd => (hrest d hd).2
  rw [List.cons_append, tokens.eq_def]
  simp only [hspace, Bool.false_eq_true, if_false, if_neg hquote, hpunctuation, hc, hspan, h]

end ImageImport.Json
