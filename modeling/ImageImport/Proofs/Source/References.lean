/-
# References to images

A reference is the name of an image, and before the name may stand where the image is.  What an image and a project may
be called is said here twice, by lengths and ends (`ImageName`, `ProjectId`) and by a pattern (`namePattern`,
`projectPattern`), and the two are one (`mem_namePattern`, `mem_projectPattern`).  The full form of a reference is a
relation of two texts (`FullForm`) that says nothing of how a reference is read; a slash, which no name has, is what
keeps its three cases apart.

Main statement: `reference_forms`, over all texts and all arguments.
-/
import ImageImport.Proofs.Preflight.Acceptance
import ImageImport.Proofs.Text.Parts
import ImageImport.Proofs.Text.Patterns
import ImageImport.Source.Resolve

namespace ImageImport.Source

open Text
open scoped Computability

variable {c : Char} {cs full name project : List Char}

/-! ## 1. Names -/

theorem isLowerOrDigit_iff : isLowerOrDigit c = true ↔ isLower c = true ∨ isDigit c = true := by
  rw [isLowerOrDigit, Bool.or_eq_true]

theorem isNameChar_iff : isNameChar c = true ↔ isLower c = true ∨ isDigit c = true ∨ c = '-' := by
  rw [isNameChar, Bool.or_eq_true, isLowerOrDigit_iff, decide_eq_true_iff, or_assoc]

theorem isProjectChar_iff : isProjectChar c = true ↔
    isLower c = true ∨ isDigit c = true ∨ c = '-' ∨ c = '.' ∨ c = ':' := by
  simp only [isProjectChar, Bool.or_eq_true, isNameChar_iff, decide_eq_true_iff, or_assoc]

/-- **What an image may be named.** -/
structure ImageName (name : List Char) : Prop where
  length : 1 ≤ name.length ∧ name.length ≤ 63
  chars : ∀ c ∈ name, isLower c = true ∨ isDigit c = true ∨ c = '-'
  first : ∀ c ∈ name.head?, isLower c = true
  last : ∀ c ∈ name.getLast?, c ≠ '-'

/-- **What a project may be called.** -/
structure ProjectId (project : List Char) : Prop where
  length : 2 ≤ project.length
  chars : ∀ c ∈ project, isLower c = true ∨ isDigit c = true ∨ c = '-' ∨ c = '.' ∨ c = ':'
  first : ∀ c ∈ project.head?, isLower c = true
  last : ∀ c ∈ project.getLast?, isLower c = true ∨ isDigit c = true

theorem ImageName.slash_notMem (h : ImageName name) : '/' ∉ name :=
  fun hmem => absurd (h.chars _ hmem) (by decide)

theorem ProjectId.slash_notMem (h : ProjectId project) : '/' ∉ project :=
  fun hmem => absurd (h.chars _ hmem) (by decide)

theorem isLowerOrDigit_iff_isNameChar : isLowerOrDigit c = true ↔ isNameChar c = true ∧ c ≠ '-' := by
  rw [isNameChar, Bool.or_eq_true, decide_eq_true_iff]
  constructor
  · refine fun h => ⟨.inl h, ?_⟩
    rintro rfl
    exact absurd h (by decide)
  · rintro ⟨h, hne⟩
    exact h.resolve_right hne

theorem isImageName_iff : isImageName name = true ↔ ImageName name := by
  cases name with
  | nil => exact ⟨fun h => Bool.noConfusion h, fun h => absurd h.length.1 (by simp)⟩
  | cons c rest =>
    -- a single letter is no hyphen
    have hlast (hfirst : isLower c = true) :
        rest.getLast? ≠ some '-' ↔ ∀ d ∈ (c :: rest).getLast?, d ≠ '-' := by
      rw [List.getLast?_cons]
      cases rest.getLast? with
      | none => simp [(isLowerOrDigit_iff_isNameChar.mp (isLowerOrDigit_iff.mpr (.inl hfirst))).2]
      | some d => simp
    simp only [isImageName, Bool.and_eq_true, List.all_eq_true, isNameChar_iff, bne_iff_ne, decide_eq_true_iff]
    constructor
    · rintro ⟨⟨⟨hfirst, hchars⟩, hend⟩, hlen⟩
      exact ⟨⟨Nat.succ_pos _, Nat.succ_le_succ hlen⟩, List.forall_mem_cons.mpr ⟨.inl hfirst, hchars⟩,
        by simpa using hfirst, (hlast hfirst).mp hend⟩
    · intro h
      have hfirst : isLower c = true := h.first c rfl
      have hchars := (List.forall_mem_cons.mp h.chars).2
      exact ⟨⟨⟨hfirst, hchars⟩, (hlast hfirst).mpr h.last⟩, Nat.le_of_succ_le_succ h.length.2⟩

theorem isProject_iff : isProject project = true ↔ ProjectId project := by
  cases project with
  | nil => exact ⟨fun h => Bool.noConfusion h, fun h => absurd h.length (by simp)⟩
  | cons c rest =>
    simp only [isProject, Bool.and_eq_true, List.all_eq_true, isProjectChar_iff, Option.any_eq_true, isLowerOrDigit_iff]
    constructor
    · rintro ⟨⟨hfirst, hchars⟩, d, hd, hend⟩
      have hlen : 0 < rest.length := List.length_pos_iff.mpr (by rintro rfl; cases hd)
      refine ⟨Nat.succ_le_succ hlen, List.forall_mem_cons.mpr ⟨.inl hfirst, hchars⟩, by simpa using hfirst, ?_⟩
      rw [List.getLast?_cons, hd]
      simpa using hend
    · intro h
      have hrest : rest ≠ [] := by
        rintro rfl
        exact absurd h.length (by simp)
      have hend := List.getLast?_eq_some_getLast hrest
      refine ⟨⟨h.first c rfl, (List.forall_mem_cons.mp h.chars).2⟩, _, hend, h.last _ ?_⟩
      rw [List.getLast?_cons, hend]
      rfl

/-! ## 2. Patterns -/

/-- A letter, and up to 62 more characters of which the last is no hyphen. -/
def namePattern : Language Char :=
  oneOf isLower * (1 + (1 + oneOf isNameChar) ^ 61 * oneOf isLowerOrDigit)

/-- A letter, and behind it any characters of a project, of which the last is a letter or a digit. -/
def projectPattern : Language Char := oneOf isLower * ((oneOf isProjectChar)∗ * oneOf isLowerOrDigit)

/-- A name, by itself or behind its place. -/
def referencePattern : Language Char :=
  (1 + (exactly "projects/".toList * (projectPattern * exactly "/global/images/".toList) +
    exactly "global/images/".toList)) * namePattern

section Ends

variable {P : Char → Prop} {init : List Char} {d : Char}

theorem forall_mem_ends : (∀ x ∈ c :: (init ++ [d]), P x) ↔ P c ∧ (∀ x ∈ init, P x) ∧ P d := by
  rw [List.forall_mem_cons, List.forall_mem_append, List.forall_mem_singleton]

theorem forall_getLast?_ends : (∀ x ∈ (c :: (init ++ [d])).getLast?, P x) ↔ P d := by
  rw [← List.cons_append, List.getLast?_concat]
  simp

end Ends

theorem mem_namePattern : cs ∈ namePattern ↔ ImageName cs := by
  rw [namePattern, mem_oneOf_mul]
  constructor
  · rintro ⟨c, rest, hfirst, hrest, rfl⟩
    rcases (Language.mem_add _ _ _).mp hrest with hnil | hmore
    · cases (Language.mem_one _).mp hnil
      exact isImageName_iff.mp (by simp [isImageName, hfirst])
    · obtain ⟨init, d, hinit, hd, rfl⟩ := mem_mul_oneOf.mp hmore
      obtain ⟨hlen, hchars⟩ := mem_upTo.mp hinit
      obtain ⟨hchar, hhyphen⟩ := isLowerOrDigit_iff_isNameChar.mp hd
      refine ⟨by simp; omega, forall_mem_ends.mpr ⟨.inl hfirst, fun x hx => isNameChar_iff.mp (hchars x hx), ?_⟩,
        by simpa using hfirst, forall_getLast?_ends.mpr hhyphen⟩
      exact isNameChar_iff.mp hchar
  · intro h
    match cs with
    | [] => exact absurd h.length.1 (by simp)
    | c :: rest =>
      refine ⟨c, rest, h.first c rfl, (Language.mem_add _ _ _).mpr ?_, rfl⟩
      rcases rest.eq_nil_or_concat' with rfl | ⟨init, d, rfl⟩
      · exact .inl rfl
      · obtain ⟨-, hinit, hd⟩ := forall_mem_ends.mp h.chars
        have hlast : d ≠ '-' := (forall_getLast?_ends (P := (· ≠ '-'))).mp h.last
        have hlen := h.length.2
        rw [List.length_cons, List.length_append, List.length_singleton] at hlen
        refine .inr (mem_mul_oneOf.mpr ⟨init, d, mem_upTo.mpr ⟨by omega, ?_⟩, ?_, rfl⟩)
        · exact fun x hx => isNameChar_iff.mpr (hinit x hx)
        · exact isLowerOrDigit_iff_isNameChar.mpr ⟨isNameChar_iff.mpr hd, hlast⟩

theorem mem_projectPattern : cs ∈ projectPattern ↔ ProjectId cs := by
  rw [projectPattern, mem_oneOf_mul]
  constructor
  · rintro ⟨c, rest, hfirst, hrest, rfl⟩
    obtain ⟨init, d, hinit, hd, rfl⟩ := mem_mul_oneOf.mp hrest
    have hchars := mem_oneOf_kstar.mp hinit
    have hend := isLowerOrDigit_iff.mp hd
    refine ⟨by simp, forall_mem_ends.mpr ⟨.inl hfirst, fun x hx => isProjectChar_iff.mp (hchars x hx), ?_⟩,
      by simpa using hfirst, forall_getLast?_ends.mpr hend⟩
    exact hend.imp_right .inl
  · intro h
    match cs with
    | [] => exact absurd h.length (by simp)
    | c :: rest =>
      refine ⟨c, rest, h.first c rfl, ?_, rfl⟩
      rcases rest.eq_nil_or_concat' with rfl | ⟨init, d, rfl⟩
      · exact absurd h.length (by simp)
      · obtain ⟨-, hinit, -⟩ := forall_mem_ends.mp h.chars
        refine mem_mul_oneOf.mpr ⟨init, d, mem_oneOf_kstar.mpr ?_, ?_, rfl⟩
        · exact fun x hx => isProjectChar_iff.mpr (hinit x hx)
        · exact isLowerOrDigit_iff.mpr (forall_getLast?_ends.mp h.last)

/-! ## 3. Full forms -/

open ImageReference

/-- **The full form of a reference**: the place comes before the name, and stays as it is where it is given. -/
inductive FullForm : List Char → List Char → Prop where
  | name {name : List Char} (named : ImageName name) : FullForm name ("global/images/".toList ++ name)
  | placed {name : List Char} (named : ImageName name) :
      FullForm ("global/images/".toList ++ name) ("global/images/".toList ++ name)
  | inProject {project name : List Char} (called : ProjectId project) (named : ImageName name) :
      FullForm ("projects/".toList ++ (project ++ ("/global/images/".toList ++ name)))
        ("projects/".toList ++ (project ++ ("/global/images/".toList ++ name)))

/-- **The full form of a full form** is itself. -/
theorem FullForm.again (h : FullForm cs full) : FullForm full full := by
  cases h with
  | name named => exact .placed named
  | placed named => exact .placed named
  | inProject called named => exact .inProject called named

theorem inProject?_eq_some_iff {r : ImageReference} : inProject? cs = some r ↔ ∃ project name,
    ProjectId project ∧ ImageName name ∧ r = ⟨some project, name⟩ ∧
      cs = projects ++ (project ++ '/' :: (globalImages ++ name)) := by
  simp only [inProject?, Option.bind_eq_bind, Option.bind_eq_some_iff, after?_eq_some_iff,
    Option.ite_none_right_eq_some, Bool.and_eq_true, isProject_iff, isImageName_iff]
  constructor
  · rintro ⟨rest, rfl, name, hrest, ⟨hproject, hname⟩, hr⟩
    cases hr
    refine ⟨_, name, hproject, hname, rfl, ?_⟩
    rw [← List.cons_append, ← hrest, List.takeWhile_append_dropWhile]
  · rintro ⟨project, name, hproject, hname, rfl, rfl⟩
    refine ⟨_, rfl, name, dropWhile_ne_append hproject.slash_notMem _, ?_⟩
    rw [takeWhile_ne_append hproject.slash_notMem]
    exact ⟨⟨hproject, hname⟩, rfl⟩

/-- A text with a slash is no name. -/
theorem not_isImageName_of_slash (h : '/' ∈ cs) : ¬ isImageName cs = true :=
  fun hname => (isImageName_iff.mp hname).slash_notMem h

theorem parse?_name (h : ImageName name) : parse? name = some ⟨none, name⟩ := by
  rw [parse?, if_pos (isImageName_iff.mpr h)]

theorem parse?_placed (h : ImageName name) : parse? (globalImages ++ name) = some ⟨none, name⟩ := by
  have hslash : '/' ∈ globalImages ++ name := List.mem_append_left _ (by decide)
  rw [parse?, if_neg (not_isImageName_of_slash hslash), after?_append]
  exact if_pos (isImageName_iff.mpr h)

theorem parse?_inProject (hproject : ProjectId project) (hname : ImageName name) :
    parse? (projects ++ (project ++ '/' :: (globalImages ++ name))) = some ⟨some project, name⟩ := by
  have hslash : '/' ∈ projects ++ (project ++ '/' :: (globalImages ++ name)) := List.mem_append_left _ (by decide)
  have hplace : after? globalImages (projects ++ (project ++ '/' :: (globalImages ++ name))) = none := rfl
  rw [parse?, if_neg (not_isImageName_of_slash hslash), hplace]
  exact inProject?_eq_some_iff.mpr ⟨project, name, hproject, hname, rfl, rfl⟩

/-- **A reference is read just where it has a full form**, and that is how it is printed. -/
theorem print_parse?_iff : (parse? cs).map print = some full ↔ FullForm cs full := by
  have hprint : ∀ project name : List Char, print ⟨some project, name⟩ =
      projects ++ (project ++ '/' :: (globalImages ++ name)) := by
    intro project name
    simp only [print, List.append_assoc]
  constructor
  · intro h
    obtain ⟨r, hr, rfl⟩ := Option.map_eq_some_iff.mp h
    by_cases hbare : isImageName cs = true
    · rw [parse?_name (isImageName_iff.mp hbare)] at hr
      cases hr
      exact .name (isImageName_iff.mp hbare)
    · rw [parse?, if_neg hbare] at hr
      split at hr
      next name hplace =>
        obtain ⟨hname, hr⟩ := Option.ite_none_right_eq_some.mp hr
        cases hr
        rw [after?_eq_some_iff.mp hplace]
        exact .placed (isImageName_iff.mp hname)
      next =>
        obtain ⟨project, name, hproject, hname, rfl, rfl⟩ := inProject?_eq_some_iff.mp hr
        rw [hprint]
        exact .inProject hproject hname
  · intro h
    cases h with
    | name named => exact congrArg (Option.map print) (parse?_name named)
    | placed named => exact congrArg (Option.map print) (parse?_placed named)
    | inProject called named =>
      refine (congrArg (Option.map print) (parse?_inProject called named)).trans ?_
      rw [Option.map_some, hprint]
      rfl

theorem canonicalImage?_eq_some_iff {reference full : String} :
    canonicalImage? reference = some full ↔ FullForm reference.toList full.toList := by
  rw [← print_parse?_iff, canonicalImage?]
  cases ImageReference.parse? reference.toList with
  | none => simp
  | some r =>
    rw [Option.map_some, Option.map_some, Option.some_inj, Option.some_inj]
    constructor
    · rintro rfl
      exact String.toList_ofList.symm
    · intro h
      rw [h, String.ofList_toList]

theorem isSome_canonicalImage?_iff {reference : String} :
    (canonicalImage? reference).isSome = true ↔ ∃ full, FullForm reference.toList full := by
  rw [canonicalImage?, Option.isSome_map, ← Option.isSome_map, Option.isSome_iff_exists]
  exact exists_congr fun full => print_parse?_iff

theorem mem_referencePattern : cs ∈ referencePattern ↔ ∃ full, FullForm cs full := by
  rw [referencePattern, add_mul, add_mul, one_mul, mul_assoc, mul_assoc, Language.mem_add, Language.mem_add,
    mem_exactly_mul, mem_exactly_mul, mem_namePattern]
  constructor
  · rintro (hname | ⟨_, hrest, rfl⟩ | ⟨name, hname, rfl⟩)
    · exact ⟨_, .name hname⟩
    · obtain ⟨project, hproject, _, hplace, rfl⟩ := Language.mem_mul.mp hrest
      obtain ⟨name, hname, rfl⟩ := mem_exactly_mul.mp hplace
      exact ⟨_, .inProject (mem_projectPattern.mp hproject) (mem_namePattern.mp hname)⟩
    · exact ⟨_, .placed (mem_namePattern.mp hname)⟩
  · rintro ⟨full, h⟩
    cases h with
    | name named => exact .inl named
    | @inProject project name called named =>
      have hplace : "/global/images/".toList ++ name ∈ exactly "/global/images/".toList * namePattern :=
        mem_exactly_mul.mpr ⟨name, mem_namePattern.mpr named, rfl⟩
      exact .inr (.inl ⟨_, Language.append_mem_mul (mem_projectPattern.mpr called) hplace, rfl⟩)
    | placed named => exact .inr (.inr ⟨_, mem_namePattern.mpr named, rfl⟩)

/-! ## 4. The rule of the name -/

/-- **The rule passes what an image may be named.** -/
theorem nameSyntax_passes_iff (a : Arguments) :
    (∃ message, Preflight.nameSyntax a = .pass message) ↔ ImageName a.imageName.toList := by
  constructor
  · rintro ⟨message, h⟩
    exact isImageName_iff.mp (Preflight.nameSyntax_of_pass h).2
  · intro h
    have hsome : ¬ a.imageName.isEmpty = true := by
      intro hnone
      have hname := h.length.1
      simp [String.isEmpty_iff.mp hnone] at hname
    exact ⟨_, by rw [Preflight.nameSyntax, if_neg hsome, if_pos (isImageName_iff.mpr h)]⟩

/-- A text without a slash has a full form just when it is a name. -/
theorem imageName_iff_fullForm : ImageName cs ↔ '/' ∉ cs ∧ ∃ full, FullForm cs full := by
  constructor
  · exact fun h => ⟨h.slash_notMem, _, .name h⟩
  · rintro ⟨hslash, full, h⟩
    cases h with
    | name named => exact named
    | placed => exact absurd (List.mem_append_left _ (by decide)) hslash
    | inProject => exact absurd (List.mem_append_left _ (by decide)) hslash

/-- **References and their full forms.**  A reference has a full form just when it is written in one of the three ways
(`FullForm`), which is what the pattern of references says; the full form is its own.  The rule of the name passes what
the pattern of names says, and that are the references without a slash. -/
theorem reference_forms :
    (∀ reference full, canonicalImage? reference = some full ↔ FullForm reference.toList full.toList) ∧
      (∀ reference, (canonicalImage? reference).isSome = true ↔ reference.toList ∈ referencePattern) ∧
      (∀ reference, (canonicalImage? reference).bind canonicalImage? = canonicalImage? reference) ∧
      ∀ a : Arguments, ((∃ message, Preflight.nameSyntax a = .pass message) ↔ a.imageName.toList ∈ namePattern) ∧
        ((∃ message, Preflight.nameSyntax a = .pass message) ↔
          '/' ∉ a.imageName.toList ∧ (canonicalImage? a.imageName).isSome = true) := by
  refine ⟨fun reference full => canonicalImage?_eq_some_iff, fun reference => ?_, fun reference => ?_,
    fun a => ⟨?_, ?_⟩⟩
  · rw [isSome_canonicalImage?_iff, mem_referencePattern]
  · cases hfull : canonicalImage? reference with
    | none => rfl
    | some full => exact canonicalImage?_eq_some_iff.mpr (canonicalImage?_eq_some_iff.mp hfull).again
  · rw [nameSyntax_passes_iff, mem_namePattern]
  · rw [nameSyntax_passes_iff, imageName_iff_fullForm, isSome_canonicalImage?_iff]

end ImageImport.Source
