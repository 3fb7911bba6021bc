/-
# Blanks, beginnings and ends

A text without the blanks at its ends is empty when there is nothing but blanks (`trim_eq_empty_iff`).  It is what
stands between blanks (`trimChars_between`), and nothing but blanks is missing of the text (`exists_blanks_around`).
The tests for a beginning and an end say that the text is put together so (`startsWith_iff`, `endsWith_iff`), and so
does what follows a beginning (`after?_eq_some_iff`).  What does not contain a character ends where that character
stands (`takeWhile_ne_append`, `dropWhile_ne_append`), and what contains it is split there
(`eq_append_of_dropWhile_ne`).
-/
import ImageImport.Text.Basic
import Mathlib.Data.List.TakeWhile

namespace ImageImport.Text

theorem trimChars_eq_nil_iff (cs : List Char) : trimChars cs = [] ↔ ∀ c ∈ cs, isBlank c = true := by
  rw [trimChars, List.reverse_eq_nil_iff, List.dropWhile_eq_nil_iff]
  constructor
  · intro h
    -- the first character that is no blank would be left
    refine List.dropWhile_eq_nil_iff.mp ?_
    cases hd : cs.dropWhile isBlank with
    | nil => rfl
    | cons c rest =>
      have hblank := h c (by simp [hd])
      have hnot : isBlank c ≠ true := by
        have := List.head?_dropWhile_not isBlank cs
        simpa [hd] using this
      exact absurd hblank hnot
  · exact fun h c hc => h c ((List.dropWhile_sublist _).subset (List.mem_reverse.mp hc))

/-- **Nothing is left of blanks**, and only of blanks. -/
theorem trim_eq_empty_iff (s : String) : trim s = "" ↔ isBlankText s = true := by
  rw [trim, isBlankText, List.all_eq_true, ← trimChars_eq_nil_iff]
  exact String.ofList_eq_empty_iff

/-- A text that does not begin with a blank has none dropped. -/
theorem dropWhile_isBlank_of_head? {cs : List Char} (h : ∀ c ∈ cs.head?, isBlank c = false) :
    cs.dropWhile isBlank = cs := by
  cases cs with
  | nil => rfl
  | cons c rest => rw [List.dropWhile_cons_of_neg (by simp [h c rfl])]

/-- **What stands between blanks** is left, where it has no blank at either end. -/
theorem trimChars_between {left mid right : List Char} (hleft : ∀ c ∈ left, isBlank c = true)
    (hright : ∀ c ∈ right, isBlank c = true) (hfirst : ∀ c ∈ mid.head?, isBlank c = false)
    (hlast : ∀ c ∈ mid.getLast?, isBlank c = false) : trimChars (left ++ mid ++ right) = mid := by
  have hright' : ∀ c ∈ right.reverse, isBlank c = true := fun c hc => hright c (List.mem_reverse.mp hc)
  have hlast' : mid.reverse.dropWhile isBlank = mid.reverse :=
    dropWhile_isBlank_of_head? (by rwa [List.head?_reverse])
  rw [trimChars, List.append_assoc, List.dropWhile_append_of_pos hleft]
  cases mid with
  | nil =>
    rw [List.nil_append, List.dropWhile_eq_nil_iff.mpr hright]
    rfl
  | cons c rest =>
    have hmid : (c :: rest ++ right).dropWhile isBlank = c :: rest ++ right := dropWhile_isBlank_of_head? hfirst
    rw [hmid, List.reverse_append, List.dropWhile_append_of_pos hright', hlast', List.reverse_reverse]

/-- **Only blanks are trimmed.** -/
theorem exists_blanks_around (cs : List Char) : ∃ left right, (∀ c ∈ left, isBlank c = true) ∧
    (∀ c ∈ right, isBlank c = true) ∧ cs = left ++ trimChars cs ++ right := by
  let rest := cs.dropWhile isBlank
  refine ⟨cs.takeWhile isBlank, (rest.reverse.takeWhile isBlank).reverse, fun c => List.mem_takeWhile_imp, ?_, ?_⟩
  · exact fun c hc => List.mem_takeWhile_imp (List.mem_reverse.mp hc)
  · have hrest : rest = trimChars cs ++ (rest.reverse.takeWhile isBlank).reverse := by
      rw [trimChars, ← List.reverse_append, List.takeWhile_append_dropWhile, List.reverse_reverse]
    calc cs = cs.takeWhile isBlank ++ rest := List.takeWhile_append_dropWhile.symm
      _ = cs.takeWhile isBlank ++ trimChars cs ++ (rest.reverse.takeWhile isBlank).reverse := by
          rw [List.append_assoc, ← hrest]

theorem lowerAscii_eq_empty_iff (s : String) : lowerAscii s = "" ↔ s = "" := by
  rw [lowerAscii, String.ofList_eq_empty_iff, List.map_eq_nil_iff]
  exact String.toList_eq_nil_iff

theorem startsWith_iff (s p : String) : startsWith s p = true ↔ ∃ rest, s = p ++ rest := by
  rw [startsWith, List.isPrefixOf_iff_prefix]
  constructor
  · rintro ⟨rest, h⟩
    exact ⟨String.ofList rest, String.toList_injective (by simp [h])⟩
  · rintro ⟨rest, rfl⟩
    exact ⟨rest.toList, by simp⟩

theorem endsWith_iff (s p : String) : endsWith s p = true ↔ ∃ stem, s = stem ++ p := by
  rw [endsWith, List.isSuffixOf_iff_suffix]
  constructor
  · rintro ⟨stem, h⟩
    exact ⟨String.ofList stem, String.toList_injective (by simp [h])⟩
  · rintro ⟨stem, rfl⟩
    exact ⟨stem.toList, by simp⟩

/-- **What follows a beginning** is what it takes to put the text together. -/
theorem after?_eq_some_iff {p cs rest : List Char} : after? p cs = some rest ↔ cs = p ++ rest := by
  unfold after?
  constructor
  · intro h
    split at h
    next hpre =>
      cases h
      exact (List.prefix_iff_eq_append.mp (List.isPrefixOf_iff_prefix.mp hpre)).symm
    next => cases h
  · rintro rfl
    rw [if_pos (List.isPrefixOf_iff_prefix.mpr (List.prefix_append p rest)), List.drop_left]

theorem forall_mem_bne_iff {c : Char} {cs : List Char} : (∀ x ∈ cs, (x != c) = true) ↔ c ∉ cs := by
  constructor
  · intro h hmem
    simpa using h c hmem
  · intro h x hx
    rw [bne_iff_ne]
    rintro rfl
    exact h hx

/-- **Up to a character**: what does not contain it ends where it stands. -/
theorem takeWhile_ne_append {c : Char} {cs : List Char} (h : c ∉ cs) (rest : List Char) :
    (cs ++ c :: rest).takeWhile (· != c) = cs := by
  rw [List.takeWhile_append_of_pos (forall_mem_bne_iff.mpr h), List.takeWhile_cons_of_neg (by simp), List.append_nil]

/-- **From that character on.** -/
theorem dropWhile_ne_append {c : Char} {cs : List Char} (h : c ∉ cs) (rest : List Char) :
    (cs ++ c :: rest).dropWhile (· != c) = c :: rest := by
  have hall := List.takeWhile_append_dropWhile (p := (· != c)) (l := cs ++ c :: rest)
  rw [takeWhile_ne_append h] at hall
  exact List.append_cancel_left hall

theorem notMem_takeWhile_ne (c : Char) (cs : List Char) : c ∉ cs.takeWhile (· != c) :=
  forall_mem_bne_iff.mp fun _ => List.mem_takeWhile_imp

theorem dropWhile_ne_eq_nil_iff {c : Char} {cs : List Char} : cs.dropWhile (· != c) = [] ↔ c ∉ cs := by
  rw [List.dropWhile_eq_nil_iff, forall_mem_bne_iff]

/-- **What contains a character is split by it**, where it stands first. -/
theorem eq_append_of_dropWhile_ne {c x : Char} {cs behind : List Char} (h : cs.dropWhile (· != c) = x :: behind) :
    cs = cs.takeWhile (· != c) ++ c :: behind := by
  obtain rfl : x = c := by
    have hnot := List.head?_dropWhile_not (· != c) cs
    simpa [h] using hnot
  rw [← h, List.takeWhile_append_dropWhile]

@[simp] theorem after?_append (p rest : List Char) : after? p (p ++ rest) = some rest :=
  after?_eq_some_iff.mpr rfl

end ImageImport.Text
