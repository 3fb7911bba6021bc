/-
# Patterns

A pattern stands for the texts it matches whole: the sets of texts with their sum, their product and their star.  What
patterns are built of here is one character of a class (`oneOf`), once or any number of times, and at the beginning
some fixed characters.  This module says for each of these which texts it adds; which texts a pattern matches is then
put together from them.
-/
import Mathlib.Computability.Language

namespace ImageImport.Text

open scoped Computability

variable {p : Char → Bool} {L : Language Char} {cs : List Char}

/-- The texts of one character of a class. -/
def oneOf (p : Char → Bool) : Language Char := {cs | ∃ c, p c = true ∧ cs = [c]}

/-- The one text. -/
def exactly (text : List Char) : Language Char := {text}

theorem mem_oneOf_mul : cs ∈ oneOf p * L ↔ ∃ c rest, p c = true ∧ rest ∈ L ∧ cs = c :: rest := by
  rw [Language.mem_mul]
  constructor
  · rintro ⟨_, ⟨c, hc, rfl⟩, rest, hrest, rfl⟩
    exact ⟨c, rest, hc, hrest, rfl⟩
  · rintro ⟨c, rest, hc, hrest, rfl⟩
    exact ⟨[c], ⟨c, hc, rfl⟩, rest, hrest, rfl⟩

theorem mem_mul_oneOf : cs ∈ L * oneOf p ↔ ∃ init c, init ∈ L ∧ p c = true ∧ cs = init ++ [c] := by
  rw [Language.mem_mul]
  constructor
  · rintro ⟨init, hinit, _, ⟨c, hc, rfl⟩, rfl⟩
    exact ⟨init, c, hinit, hc, rfl⟩
  · rintro ⟨init, c, hinit, hc, rfl⟩
    exact ⟨init, hinit, [c], ⟨c, hc, rfl⟩, rfl⟩

theorem mem_exactly_mul {text : List Char} : cs ∈ exactly text * L ↔ ∃ rest ∈ L, cs = text ++ rest := by
  rw [Language.mem_mul]
  constructor
  · rintro ⟨_, rfl, rest, hrest, rfl⟩
    exact ⟨rest, hrest, rfl⟩
  · rintro ⟨rest, hrest, rfl⟩
    exact ⟨text, rfl, rest, hrest, rfl⟩

/-- **Any number of characters of a class.** -/
theorem mem_oneOf_kstar : cs ∈ (oneOf p)∗ ↔ ∀ c ∈ cs, p c = true := by
  rw [Language.mem_kstar]
  constructor
  · rintro ⟨pieces, rfl, hpieces⟩ c hc
    obtain ⟨piece, hmem, hc⟩ := List.mem_flatten.mp hc
    obtain ⟨c', hp, rfl⟩ := hpieces piece hmem
    rwa [List.mem_singleton.mp hc]
  · intro h
    refine ⟨cs.map ([·]), ?_, ?_⟩
    · rw [← List.flatMap_def, List.flatMap_singleton']
    · intro piece hpiece
      obtain ⟨c, hc, rfl⟩ := List.mem_map.mp hpiece
      exact ⟨c, h c hc, rfl⟩

/-- **Up to so many characters of a class.** -/
theorem mem_upTo {n : Nat} : cs ∈ (1 + oneOf p) ^ n ↔ cs.length ≤ n ∧ ∀ c ∈ cs, p c = true := by
  induction n generalizing cs with
  | zero =>
    rw [pow_zero, Language.mem_one, Nat.le_zero, List.length_eq_zero_iff]
    constructor
    · rintro rfl
      exact ⟨rfl, by simp⟩
    · exact And.left
  | succ n ih =>
    rw [pow_succ', add_mul, one_mul, Language.mem_add, mem_oneOf_mul, ih]
    constructor
    · rintro (⟨hlen, hall⟩ | ⟨c, rest, hc, hrest, rfl⟩)
      · exact ⟨Nat.le_succ_of_le hlen, hall⟩
      · obtain ⟨hlen, hall⟩ := ih.mp hrest
        exact ⟨Nat.succ_le_succ hlen, List.forall_mem_cons.mpr ⟨hc, hall⟩⟩
    · rintro ⟨hlen, hall⟩
      cases cs with
      | nil => exact .inl ⟨Nat.zero_le n, hall⟩
      | cons c rest =>
        obtain ⟨hc, hrest⟩ := List.forall_mem_cons.mp hall
        exact .inr ⟨c, rest, hc, ih.mpr ⟨Nat.le_of_succ_le_succ hlen, hrest⟩, rfl⟩

end ImageImport.Text
