/-
# Durations that are read

A text spells a number of seconds by digits and a unit (`Spells`).  It is read exactly when that number is below
`2^64`, and then as that many seconds (`parse?_eq_some_iff`, `isSome_parse?_iff`): no product wraps around.  What is
written spells the whole seconds of the span, so it is read back (`parse?_format`).
-/
import ImageImport.Duration
import ImageImport.Proofs.Text.Digits
import ImageImport.Proofs.Text.Parts

namespace ImageImport.Duration

/-! ## 1. What spells a duration -/

/-- **A unit as it is spelled**, and the seconds it stands for. -/
inductive Scale : List Char → Nat → Prop where
  | bare : Scale [] 1
  | seconds : Scale ['s'] 1
  | minutes : Scale ['m'] 60
  | hours : Scale ['h'] 3600

/-- **A text that spells a number of seconds**: one or more digits and a unit, with blanks around them or none.
The number may be of any size. -/
inductive Spells : String → Nat → Prop where
  | digits {left digits unit right : List Char} {each : Nat} (before : ∀ c ∈ left, Text.isBlank c = true)
      (ne_nil : digits ≠ []) (all : ∀ c ∈ digits, Text.isDigit c = true) (scale : Scale unit each)
      (behind : ∀ c ∈ right, Text.isBlank c = true) :
      Spells (String.ofList (left ++ (digits ++ unit) ++ right)) (Nat.ofDigitChars 10 digits 0 * each)

variable {unit : List Char} {each n : Nat} {s : String} {d : Duration}

theorem scale_iff : Scale unit each ↔ unitSecs unit = some each := by
  constructor
  · intro h
    cases h <;> rfl
  · intro h
    unfold unitSecs at h
    split at h <;> cases h
    · exact .bare
    · exact .seconds
    · exact .minutes
    · exact .hours

theorem Scale.not_blank (h : Scale unit each) : ∀ c ∈ unit, Text.isBlank c = false := by
  cases h with
  | bare => exact fun c hc => absurd hc List.not_mem_nil
  | seconds => exact List.forall_mem_singleton.mpr rfl
  | minutes => exact List.forall_mem_singleton.mpr rfl
  | hours => exact List.forall_mem_singleton.mpr rfl

/-- **What is spelled is found** by trimming the text and cutting it behind its digits. -/
theorem spells_iff : Spells s n ↔
    (Text.trimChars s.toList).takeWhile Text.isDigit ≠ [] ∧
      ∃ each, unitSecs ((Text.trimChars s.toList).dropWhile Text.isDigit) = some each ∧
        n = Text.ofDigits ((Text.trimChars s.toList).takeWhile Text.isDigit) * each := by
  constructor
  · intro h
    obtain @⟨left, digits, unit, right, each, before, hne, hall, hscale, behind⟩ := h
    have hplain : ∀ c ∈ digits ++ unit, Text.isBlank c = false := by
      intro c hc
      rcases List.mem_append.mp hc with hc | hc
      · exact Text.isBlank_of_isDigit (hall c hc)
      · exact hscale.not_blank c hc
    have htrim : Text.trimChars (left ++ (digits ++ unit) ++ right) = digits ++ unit :=
      Text.trimChars_between before behind (fun c hc => hplain c (List.mem_of_mem_head? hc))
        fun c hc => hplain c (List.mem_of_mem_getLast? hc)
    have htake : (digits ++ unit).takeWhile Text.isDigit = digits := by
      rw [List.takeWhile_append_of_pos hall]
      cases hscale <;> simp [Text.isDigit]
    have hdrop : (digits ++ unit).dropWhile Text.isDigit = unit := by
      have hjoin := List.takeWhile_append_dropWhile (p := Text.isDigit) (l := digits ++ unit)
      rw [htake] at hjoin
      exact List.append_cancel_left hjoin
    rw [String.toList_ofList, htrim, htake, hdrop]
    exact ⟨hne, each, scale_iff.mp hscale, rfl⟩
  · rintro ⟨hne, each, hunit, rfl⟩
    obtain ⟨left, right, before, behind, hs⟩ := Text.exists_blanks_around s.toList
    have hsplit : Text.trimChars s.toList = (Text.trimChars s.toList).takeWhile Text.isDigit ++
        (Text.trimChars s.toList).dropWhile Text.isDigit := List.takeWhile_append_dropWhile.symm
    have htext : s = String.ofList (left ++ ((Text.trimChars s.toList).takeWhile Text.isDigit ++
        (Text.trimChars s.toList).dropWhile Text.isDigit) ++ right) := by
      rw [← hsplit, ← hs, String.ofList_toList]
    have hspells := Spells.digits before hne (fun c => List.mem_takeWhile_imp) (scale_iff.mpr hunit) behind
    rw [← htext] at hspells
    exact hspells

/-! ## 2. What is read -/

/-- A whole number of seconds, by what it holds. -/
theorem ofSecs_eq_iff {n : Nat} (h : n < Nat.pow 2 64) : ofSecs n.toUInt64 = d ↔ d.secs.toNat = n ∧ d.nanos = 0 := by
  have hback : n.toUInt64.toNat = n := UInt64.toNat_ofNat_of_lt' h
  constructor
  · rintro rfl
    exact ⟨hback, rfl⟩
  · rintro ⟨hsecs, hnanos⟩
    obtain ⟨secs, nanos, hlt⟩ := d
    have hsame : n.toUInt64 = secs := UInt64.toNat_inj.mp (hback.trans hsecs.symm)
    subst hsame
    cases hnanos
    rfl

/-- **What is read is what is spelled**, to the second.  That the seconds fit is in the type of `d`. -/
theorem parse?_eq_some_iff : parse? s = some d ↔ Spells s d.secs.toNat ∧ d.nanos = 0 := by
  rw [spells_iff]
  unfold parse?
  dsimp only
  split
  next hnone => simp [List.isEmpty_iff.mp hnone]
  next hsome =>
    rw [List.isEmpty_iff] at hsome
    cases hunit : unitSecs ((Text.trimChars s.toList).dropWhile Text.isDigit) with
    | none => simp
    | some each =>
      have hlt : d.secs.toNat < Nat.pow 2 64 := d.secs.toNat_lt
      dsimp only
      split
      next hfits =>
        simp only [Option.some.injEq, ofSecs_eq_iff hfits, exists_eq_left', ne_eq, hsome, not_false_eq_true, true_and]
      next hwide =>
        simp only [reduceCtorEq, Option.some.injEq, exists_eq_left', false_iff, not_and]
        rintro ⟨-, hsecs⟩
        omega

/-- **A text is read exactly when it spells a number of seconds below `2^64`.** -/
theorem isSome_parse?_iff : (parse? s).isSome = true ↔ ∃ n < UInt64.size, Spells s n := by
  rw [Option.isSome_iff_exists]
  constructor
  · rintro ⟨d, h⟩
    exact ⟨d.secs.toNat, d.secs.toNat_lt_size, (parse?_eq_some_iff.mp h).1⟩
  · rintro ⟨n, hlt, h⟩
    have hback : n.toUInt64.toNat = n := UInt64.toNat_ofNat_of_lt' hlt
    refine ⟨ofSecs n.toUInt64, parse?_eq_some_iff.mpr ⟨?_, rfl⟩⟩
    rw [ofSecs, hback]
    exact h

/-- The hours that fit, and one hour more. -/
example : (parse? "5124095576030431h").map secs = some 18446744073709551600 ∧ parse? "5124095576030432h" = none := by
  decide +kernel

/-! ## 3. What is written -/

/-- The digits of a number with a unit behind them. -/
theorem spells_toString (n : Nat) (unit : String) (h : Scale unit.toList each) :
    Spells (toString n ++ unit) (n * each) := by
  have hspells : Spells (String.ofList ([] ++ (Nat.toDigits 10 n ++ unit.toList) ++ []))
      (Nat.ofDigitChars 10 (Nat.toDigits 10 n) 0 * each) :=
    .digits (fun _ hc => nomatch hc) Nat.toDigits_ne_nil (fun _ => Text.isDigit_of_mem) h fun _ hc => nomatch hc
  rw [Nat.ofDigitChars_ten_toDigits, List.nil_append, List.append_nil, ← Text.toList_toString, ← String.toList_append,
    String.ofList_toList] at hspells
  exact hspells

/-- **What is written spells the whole seconds.** -/
theorem spells_format (d : Duration) : Spells d.format d.secs.toNat := by
  unfold format
  dsimp only
  split
  next h =>
    have hspells := spells_toString (d.secs.toNat / 3600) "h" .hours
    rwa [Nat.div_mul_cancel (Nat.dvd_of_mod_eq_zero h.2)] at hspells
  · split
    next h =>
      have hspells := spells_toString (d.secs.toNat / 60) "m" .minutes
      rwa [Nat.div_mul_cancel (Nat.dvd_of_mod_eq_zero h.2)] at hspells
    next =>
      have hspells := spells_toString d.secs.toNat "s" .seconds
      rwa [Nat.mul_one] at hspells

/-- **What is written is read back**, as whole seconds. -/
theorem parse?_format (d : Duration) : parse? d.format = some (ofSecs d.secs) :=
  parse?_eq_some_iff.mpr ⟨spells_format d, rfl⟩

end ImageImport.Duration
