/-
# Numbers and their digits

The digits of a number are digits, they spell the number, and they start with a zero for zero only
(`ofDigits_toDigits`, `isDigit_of_mem`, `head?_toDigits`).  A text is read as a signed 64-bit number exactly if it spells
one (`int64?_eq_some_iff`).
-/
import ImageImport.Text.Number

namespace ImageImport.Text

variable {n : Nat} {c : Char}

theorem toList_toString (n : Nat) : (toString n).toList = Nat.toDigits 10 n := Nat.toList_repr

/-- Digits are digits. -/
theorem isDigit_of_mem (h : c ∈ Nat.toDigits 10 n) : isDigit c = true :=
  Nat.isDigit_of_mem_toDigits (by decide) (by decide) h

/-- **The digits of a number spell it.** -/
@[simp] theorem ofDigits_toDigits (n : Nat) : ofDigits (Nat.toDigits 10 n) = n := Nat.ofDigitChars_ten_toDigits

/-- Only zero starts with a zero. -/
theorem head?_toDigits (h : (Nat.toDigits 10 n).head? = some '0') : n = 0 := by
  have hdigit : ∀ k < 10, Nat.digitChar k = '0' → k = 0 := by decide
  induction n using Nat.strongRecOn with
  | ind n ih =>
    by_cases hn : n < 10
    · rw [Nat.toDigits_of_lt_base hn] at h
      exact hdigit n hn (Option.some.inj h)
    · rw [Nat.toDigits_of_base_le (by decide) (by omega), List.head?_append,
        List.head?_eq_some_head Nat.toDigits_ne_nil, Option.some_or, ← List.head?_eq_some_head] at h
      have hzero := ih (n / 10) (by omega) h
      omega

/-- A digit is no blank. -/
theorem isBlank_of_isDigit (h : isDigit c = true) : isBlank c = false := by
  simp only [isDigit, Bool.and_eq_true, decide_eq_true_eq, Char.le_def, UInt32.le_iff_toNat_le] at h
  have h0 : '0'.val.toNat = 48 := rfl
  have h9 : '9'.val.toNat = 57 := rfl
  have hc : c.toNat = c.val.toNat := rfl
  simp only [isBlank, hc, Bool.or_eq_false_iff, Bool.and_eq_false_iff, decide_eq_false_iff_not]
  omega

/-- **Characters that spell a signed number**: one or more digits, behind a sign or none. -/
inductive Spells : List Char → Int → Prop where
  | plain {ds : List Char} (ne_nil : ds ≠ []) (digits : ∀ d ∈ ds, isDigit d = true) : Spells ds (ofDigits ds)
  | plus {ds : List Char} (ne_nil : ds ≠ []) (digits : ∀ d ∈ ds, isDigit d = true) : Spells ('+' :: ds) (ofDigits ds)
  | minus {ds : List Char} (ne_nil : ds ≠ []) (digits : ∀ d ∈ ds, isDigit d = true) :
      Spells ('-' :: ds) (-(ofDigits ds : Int))

theorem natural?_eq_some_iff {ds : List Char} {n : Nat} :
    natural? ds = some n ↔ ds ≠ [] ∧ (∀ d ∈ ds, isDigit d = true) ∧ n = ofDigits ds := by
  unfold natural?
  split
  next h =>
    simp only [Bool.or_eq_true, List.isEmpty_iff, Bool.not_eq_true', List.all_eq_false] at h
    constructor
    · rintro ⟨⟩
    · rintro ⟨hne, hdigits, -⟩
      rcases h with rfl | ⟨d, hd, hnot⟩
      · exact absurd rfl hne
      · exact absurd (hdigits d hd) hnot
  next h =>
    simp only [Bool.or_eq_true, List.isEmpty_iff, Bool.not_eq_true', List.all_eq_false, not_or, not_exists, not_and,
      Decidable.not_not] at h
    constructor
    · rintro ⟨⟩
      exact ⟨h.1, h.2, rfl⟩
    · rintro ⟨-, -, rfl⟩
      rfl

/-- **What is read as a number is what spells it.** -/
theorem integer?_eq_some_iff {cs : List Char} {n : Int} : integer? cs = some n ↔ Spells cs n := by
  constructor
  · intro h
    unfold integer? at h
    simp only [Option.bind_eq_bind, Option.map_bind] at h
    split at h <;> obtain ⟨k, hk, hn⟩ := Option.bind_eq_some_iff.mp h <;>
      obtain ⟨hne, hdigits, rfl⟩ := natural?_eq_some_iff.mp hk <;> cases hn
    · exact .minus hne hdigits
    · exact .plus hne hdigits
    · exact .plain hne hdigits
  · intro h
    cases h with
    | minus hne hdigits =>
      rw [integer?, natural?_eq_some_iff.mpr ⟨hne, hdigits, rfl⟩]
      rfl
    | plus hne hdigits =>
      rw [integer?, natural?_eq_some_iff.mpr ⟨hne, hdigits, rfl⟩]
      rfl
    | plain hne hdigits =>
      -- a sign is no digit
      have hfirst : ∀ d, isDigit d = false → ∀ ds, cs ≠ d :: ds := by
        rintro d hd ds rfl
        rw [hdigits d List.mem_cons_self] at hd
        cases hd
      unfold integer?
      split
      next ds => exact absurd rfl (hfirst '-' (by decide) ds)
      next ds => exact absurd rfl (hfirst '+' (by decide) ds)
      next =>
        rw [natural?_eq_some_iff.mpr ⟨hne, hdigits, rfl⟩]
        rfl

/-- **What is read as a signed 64-bit number** is what spells it, but for the blanks around it. -/
theorem int64?_eq_some_iff {s : String} {n : Int64} : int64? s = some n ↔ Spells (trimChars s.toList) n.toInt := by
  rw [int64?, Option.bind_eq_some_iff]
  constructor
  · rintro ⟨i, hi, h⟩
    split at h
    next hfits =>
      cases h
      rw [Int64.toInt_ofInt_of_le hfits.1 hfits.2]
      exact integer?_eq_some_iff.mp hi
    next => cases h
  · intro h
    refine ⟨n.toInt, integer?_eq_some_iff.mpr h, ?_⟩
    rw [if_pos ⟨n.le_toInt, n.toInt_lt⟩, Int64.ofInt_toInt]

end ImageImport.Text
