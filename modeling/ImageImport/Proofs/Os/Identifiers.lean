/-
# Identifiers of operating systems

What the three ways to come to an identifier mean.  An inspected release has one when neither its distribution nor
its major version is blank, and it is put together of the two (`candidateId_eq_some_iff`); an identifier has at most
one entry in the table (`lookup_eq_some_iff`); and its bring-your-own-license variant ends in `-byol`
(`byolVariant_eq_iff`).
-/
import ImageImport.Os.Registry
import ImageImport.Proofs.Text.Parts

namespace ImageImport.Os

open Text (trim lowerAscii isBlankText)

/-! ## 1. Of an inspected release -/

/-- The family of a distribution: some are known by more than one name. -/
def family (distro : String) : String :=
  if distro = "sles_sap" then "sles-sap"
  else if distro = "redhat" then "rhel"
  else if distro = "opensuse-leap" then "opensuse"
  else distro

/-- **The identifier of an inspected release**: its family and its major version, and for Ubuntu the minor one
after that.  Blanks around them do not count, nor do capitals in the name of the distribution. -/
structure IsCandidate (r : OsRelease) (id : String) : Prop where
  distro : isBlankText r.distro = false
  major : isBlankText r.majorVersion = false
  id_eq : id = family (lowerAscii (trim r.distro)) ++ "-" ++ trim r.majorVersion ++
    (if lowerAscii (trim r.distro) = "ubuntu" then trim r.minorVersion else "")

/-- The names of one family have one beginning. -/
theorem candidate_eq (distro major minor : String) :
    (if distro = "ubuntu" then "ubuntu-" ++ major ++ minor
      else if distro = "sles_sap" ∨ distro = "sles-sap" then "sles-sap-" ++ major
      else if distro = "redhat" ∨ distro = "rhel" then "rhel-" ++ major
      else if distro = "opensuse-leap" ∨ distro = "opensuse" then "opensuse-" ++ major
      else distro ++ "-" ++ major) =
    family distro ++ "-" ++ major ++ (if distro = "ubuntu" then minor else "") := by
  unfold family
  by_cases hubuntu : distro = "ubuntu"
  · subst hubuntu
    rfl
  by_cases hsles : distro = "sles_sap" ∨ distro = "sles-sap"
  · rcases hsles with rfl | rfl <;> simp
  by_cases hrhel : distro = "redhat" ∨ distro = "rhel"
  · rcases hrhel with rfl | rfl <;> simp
  by_cases hsuse : distro = "opensuse-leap" ∨ distro = "opensuse"
  · rcases hsuse with rfl | rfl <;> simp
  rw [not_or] at hsles hrhel hsuse
  simp [hubuntu, hsles, hrhel, hsuse]

theorem candidateId_eq_some_iff (r : OsRelease) (id : String) : candidateId r = some id ↔ IsCandidate r id := by
  have hdistro : (lowerAscii (trim r.distro)).isEmpty = isBlankText r.distro := by
    rw [Bool.eq_iff_iff, String.isEmpty_iff, Text.lowerAscii_eq_empty_iff, Text.trim_eq_empty_iff]
  have hmajor : (trim r.majorVersion).isEmpty = isBlankText r.majorVersion := by
    rw [Bool.eq_iff_iff, String.isEmpty_iff, Text.trim_eq_empty_iff]
  unfold candidateId
  simp only [hdistro, hmajor, candidate_eq]
  constructor
  · intro h
    split at h
    next => cases h
    next hblank =>
      rw [Bool.or_eq_true, not_or, Bool.not_eq_true, Bool.not_eq_true] at hblank
      exact ⟨hblank.1, hblank.2, (Option.some.inj h).symm⟩
  · rintro ⟨hd, hm, rfl⟩
    simp [hd, hm]

/-! ## 2. In the table -/

/-- **The table has this entry for the identifier.** -/
structure Supports (id : String) (e : Entry) : Prop where
  mem : e ∈ registry
  id_eq : e.id = id

/-- No two entries share an identifier. -/
theorem registry_injective : ∀ e ∈ registry, ∀ f ∈ registry, e.id = f.id → e = f := by decide +kernel

theorem lookup_eq_some_iff (id : String) (e : Entry) : lookup id = some e ↔ Supports id e := by
  constructor
  · intro h
    exact ⟨List.mem_of_find?_eq_some h, by simpa using List.find?_some h⟩
  · rintro ⟨hmem, rfl⟩
    cases hf : lookup e.id with
    | none =>
      have := List.find?_eq_none.mp hf e hmem
      simp at this
    | some f =>
      have hid : f.id = e.id := by simpa using List.find?_some hf
      rw [registry_injective f (List.mem_of_find?_eq_some hf) e hmem hid]

theorem lookup_eq_none_iff (id : String) : lookup id = none ↔ ∀ e, ¬ Supports id e := by
  rw [Option.eq_none_iff_forall_ne_some]
  exact forall_congr' fun e => not_congr (lookup_eq_some_iff id e)

/-! ## 3. Bring your own license -/

/-- **The bring-your-own-license variant**: `-byol` is put at the end, unless it is there already. -/
inductive IsByol (id : String) : String → Prop
  | already {stem : String} (h : id = stem ++ byolSuffix) : IsByol id id
  | appended (h : ∀ stem, id ≠ stem ++ byolSuffix) : IsByol id (id ++ byolSuffix)

theorem byolVariant_eq_iff (id variant : String) : byolVariant id = variant ↔ IsByol id variant := by
  unfold byolVariant
  split
  next h =>
    obtain ⟨stem, hstem⟩ := (Text.endsWith_iff _ _).mp h
    refine ⟨fun heq => heq ▸ .already hstem, fun hb => ?_⟩
    cases hb with
    | already => rfl
    | appended hnot => exact absurd hstem (hnot stem)
  next h =>
    have hnot : ∀ stem, id ≠ stem ++ byolSuffix := fun stem hstem => h ((Text.endsWith_iff _ _).mpr ⟨stem, hstem⟩)
    refine ⟨fun heq => heq ▸ .appended hnot, fun hb => ?_⟩
    cases hb with
    | already hstem => exact absurd hstem (hnot _)
    | appended => rfl

end ImageImport.Os
