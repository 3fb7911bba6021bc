/-
# The planning decision

What becomes of an inflated disk is decided by the arguments and by what the inspector reports of it.  `Decides` says
how, without a word about how it is found out: who names the operating system (`Names`), which entry of the table is
chosen for it (`Chooses`), which features the disk needs (`Needs`), and the chain of processors that follows.

Main statement: `decides_iff`, for all arguments and every report.  The planner decides so, and nothing else is decided.
-/
import ImageImport.Processing.Chain
import ImageImport.Proofs.Os.Identifiers

namespace ImageImport

variable {σ : Type}

namespace Planner

/-! ## 1. The decision -/

/-- **Who names the operating system**: the user, or else the report on the disk, if it has found exactly one, with
a release that has an identifier. -/
inductive Names (a : Arguments) (found : Option Inspection) : String → Prop where
  | byUser (h : a.os ≠ "") : Names a found a.os
  | byReport {report : Inspection} {release : OsRelease} {os : String} (h : a.os = "") (hfound : found = some report)
      (one : report.osCount = 1) (hrelease : report.osRelease = some release) (hos : Os.IsCandidate release os) :
      Names a found os

/-- **The entry that is chosen for it**: its own, or with a license of the user's own that of its variant.  It must
have one itself in any case. -/
inductive Chooses (a : Arguments) (os : String) : Os.Entry → Prop where
  | own {e : Os.Entry} (h : a.byol = false) (he : Os.Supports os e) : Chooses a os e
  | byol {own e : Os.Entry} {variant : String} (h : a.byol = true) (hown : Os.Supports os own)
      (hvariant : Os.IsByol os variant) (he : Os.Supports variant e) : Chooses a os e

/-- **The features a disk needs**, in this order: for UEFI if the user says so or the report has found that it boots
only so, and for Windows if the entry is one of those. -/
structure Needs (a : Arguments) (found : Option Inspection) (e : Os.Entry) (features : List GuestOsFeature) : Prop where
  order : features.Sublist [.uefiCompatible, .windows]
  uefi : .uefiCompatible ∈ features ↔ a.uefiCompatible = true ∨
    ∃ report, found = some report ∧ report.uefiBootable = true ∧ report.biosBootable = false
  windows : .windows ∈ features ↔ ∃ rest, e.id = "windows" ++ rest

/-- The links of a chain, each with what it is given. -/
inductive Link where
  | image
  | tag (licenses : List String) (features : List GuestOsFeature)
  | translate (path : String)

/-- The processor of a link. -/
def Link.processor (p : Platform σ) (a : Arguments) (translation : Cell σ TranslationState) : Link → Processor σ
  | image => dataDiskProcessor p a
  | tag licenses features => metadataProcessor p a { requiredLicenses := licenses, requiredFeatures := features }
  | translate path => ({ args := a, path, platform := p, cell := translation } : Translation σ).processor

/-- The disk is to be planned for. -/
structure Plans (a : Arguments) : Prop where
  dataDisk : a.dataDisk = false
  customWorkflow : a.customWorkflow = ""

/-- **What is decided of a disk**, when `found` is the report on it, if there is one. -/
inductive Decides (a : Arguments) (found : Option Inspection) : Except ImportError (List Link) → Prop where
  | dataDisk (h : a.dataDisk = true) : Decides a found (.ok [.image])
  | custom (h : a.dataDisk = false) (hcustom : a.customWorkflow ≠ "") :
      Decides a found (.ok [.translate a.customWorkflow])
  | nameless (h : Plans a) (hnames : ∀ os, ¬ Names a found os) : Decides a found (.error undetected)
  | unsupported {os : String} (h : Plans a) (hnames : Names a found os) (hnone : ∀ e, ¬ Os.Supports os e) :
      Decides a found (.error (invalidOs os))
  | unlicensed {os variant : String} {own : Os.Entry} (h : Plans a) (hnames : Names a found os)
      (hown : Os.Supports os own) (hbyol : a.byol = true) (hvariant : Os.IsByol os variant)
      (hnone : ∀ e, ¬ Os.Supports variant e) : Decides a found (.error (invalidOs variant))
  | planned {os : String} {e : Os.Entry} {features : List GuestOsFeature} (h : Plans a) (hnames : Names a found os)
      (hchosen : Chooses a os e) (hneeds : Needs a found e features) :
      Decides a found (.ok [.tag [e.license] features, .translate e.workflow])

/-! ## 2. How it is found out -/

section Found

variable {a : Arguments} {found : Option Inspection} {os : String}

theorem detectedOs_eq_some_iff :
    detectedOs found = some os ↔ ∃ report release, found = some report ∧ report.osCount = 1 ∧
      report.osRelease = some release ∧ Os.IsCandidate release os := by
  unfold detectedOs
  cases found with
  | none => simp
  | some report =>
    by_cases hone : report.osCount = 1
    · simp [hone, Option.bind_eq_some_iff, Os.candidateId_eq_some_iff]
    · simp [hone]

/-- **A name is found** if there is one. -/
theorem resolveOs_eq_ok_iff : resolveOs a found = .ok os ↔ Names a found os := by
  unfold resolveOs
  by_cases hos : a.os = ""
  · have hempty : a.os.isEmpty = true := String.isEmpty_iff.mpr hos
    have hnames : Names a found os ↔ detectedOs found = some os := by
      rw [detectedOs_eq_some_iff]
      constructor
      · rintro (h | ⟨-, h1, h2, h3, h4⟩)
        · exact absurd hos h
        · exact ⟨_, _, h1, h2, h3, h4⟩
      · rintro ⟨report, release, h1, h2, h3, h4⟩
        exact .byReport hos h1 h2 h3 h4
    rw [hnames, hempty]
    cases detectedOs found <;> simp
  · have hempty : a.os.isEmpty = false := by simpa using hos
    rw [hempty]
    constructor
    · intro h
      cases h
      exact .byUser hos
    · rintro (h | ⟨h, -⟩)
      · rfl
      · exact absurd h hos

/-- ... and else it is an error of one kind. -/
theorem resolveOs_error {e : ImportError} (h : resolveOs a found = .error e) :
    e = undetected ∧ ∀ os, ¬ Names a found os := by
  refine ⟨?_, fun os hnames => ?_⟩
  · unfold resolveOs at h
    split at h
    · cases h
    · split at h
      · cases h
      · cases h
        rfl
  · rw [resolveOs_eq_ok_iff.mpr hnames] at h
    cases h

theorem entryOf_eq_ok_iff {e : Os.Entry} : entryOf os = .ok e ↔ Os.Supports os e := by
  rw [← Os.lookup_eq_some_iff, entryOf]
  cases Os.lookup os <;> simp

theorem entryOf_error {x : ImportError} (h : entryOf os = .error x) :
    x = invalidOs os ∧ ∀ e, ¬ Os.Supports os e := by
  refine ⟨?_, fun e he => ?_⟩
  · unfold entryOf at h
    split at h
    · cases h
    · cases h
      rfl
  · rw [entryOf_eq_ok_iff.mpr he] at h
    cases h

theorem entryOf_of_none (h : ∀ e, ¬ Os.Supports os e) : entryOf os = .error (invalidOs os) := by
  rw [entryOf, (Os.lookup_eq_none_iff os).mpr h]

/-- **The entry is chosen** if there is one to choose. -/
theorem chosenEntry_eq_ok_iff {e : Os.Entry} : chosenEntry a os = .ok e ↔ Chooses a os e := by
  unfold chosenEntry
  constructor
  · intro h
    cases hown : entryOf os with
    | error x =>
      rw [hown] at h
      cases h
    | ok own =>
      rw [hown] at h
      cases hb : a.byol with
      | false =>
        simp only [hb, Bool.false_eq_true, if_false, Except.ok.injEq] at h
        exact .own hb (entryOf_eq_ok_iff.mp (h ▸ hown))
      | true =>
        simp only [hb, if_true] at h
        exact .byol hb (entryOf_eq_ok_iff.mp hown) ((Os.byolVariant_eq_iff _ _).mp rfl) (entryOf_eq_ok_iff.mp h)
  · rintro (⟨hb, he⟩ | ⟨hb, hown, hvariant, he⟩)
    · simp [entryOf_eq_ok_iff.mpr he, hb]
    · rw [← (Os.byolVariant_eq_iff _ _).mpr hvariant] at he
      simp [entryOf_eq_ok_iff.mpr hown, hb, entryOf_eq_ok_iff.mpr he]

/-- ... and else the error names what is missing. -/
theorem chosenEntry_error {x : ImportError} (h : chosenEntry a os = .error x) :
    (x = invalidOs os ∧ ∀ e, ¬ Os.Supports os e) ∨ ∃ variant own, x = invalidOs variant ∧ a.byol = true ∧
      Os.Supports os own ∧ Os.IsByol os variant ∧ ∀ e, ¬ Os.Supports variant e := by
  unfold chosenEntry at h
  cases hown : entryOf os with
  | error y =>
    rw [hown] at h
    cases h
    exact .inl (entryOf_error hown)
  | ok own =>
    rw [hown] at h
    cases hb : a.byol with
    | false =>
      simp [hb] at h
    | true =>
      simp only [hb, if_true] at h
      obtain ⟨hx, hnone⟩ := entryOf_error h
      exact .inr ⟨_, own, hx, rfl, entryOf_eq_ok_iff.mp hown, (Os.byolVariant_eq_iff _ _).mp rfl, hnone⟩

theorem uefiDetected_eq_true_iff : uefiDetected found = true ↔
    ∃ report, found = some report ∧ report.uefiBootable = true ∧ report.biosBootable = false := by
  cases found <;> simp [uefiDetected, Inspection.needsUefi]

/-- **The features are those that are needed**, and no list but this one has them so. -/
theorem needs_iff {e : Os.Entry} {features : List GuestOsFeature} :
    Needs a found e features ↔ features = requiredFeatures a found e := by
  have hwindows : Os.isWindows e.id = true ↔ ∃ rest, e.id = "windows" ++ rest := Text.startsWith_iff _ _
  have huefi : (a.uefiCompatible || uefiDetected found) = true ↔ a.uefiCompatible = true ∨
      ∃ report, found = some report ∧ report.uefiBootable = true ∧ report.biosBootable = false := by
    rw [Bool.or_eq_true, uefiDetected_eq_true_iff]
  have hne : GuestOsFeature.uefiCompatible ≠ .windows := by decide
  have hsub : features.Sublist [.uefiCompatible, .windows] ↔
      features = [] ∨ features = [.windows] ∨ features = [.uefiCompatible] ∨ features = [.uefiCompatible, .windows] := by
    simp only [List.sublist_cons_iff, List.sublist_nil]
    grind
  have hiff : Needs a found e features ↔ features.Sublist [.uefiCompatible, .windows] ∧
      (.uefiCompatible ∈ features ↔ (a.uefiCompatible || uefiDetected found) = true) ∧
      (.windows ∈ features ↔ Os.isWindows e.id = true) := by
    rw [huefi, hwindows]
    exact ⟨fun h => ⟨h.order, h.uefi, h.windows⟩, fun h => ⟨h.1, h.2.1, h.2.2⟩⟩
  rw [hiff, hsub, requiredFeatures]
  cases a.uefiCompatible || uefiDetected found <;> cases Os.isWindows e.id
  all_goals
    constructor
    · rintro ⟨rfl | rfl | rfl | rfl, h⟩ <;> simp_all
    · rintro rfl
      simp [hne, hne.symm]

/-- The plan with what was found, or why there is none. -/
def planned (a : Arguments) (found : Option Inspection) : Except ImportError ProcessingPlan :=
  match resolveOs a found with
  | .error e => .error e
  | .ok os => (chosenEntry a os).map (planFor a found)

/-- The links of a plan. -/
def links (plan : ProcessingPlan) : List Link :=
  [.tag plan.requiredLicenses plan.requiredFeatures, .translate plan.translationWorkflowPath]

/-- The decision as it is made. -/
def decision (a : Arguments) (found : Option Inspection) : Except ImportError (List Link) :=
  if a.dataDisk then .ok [.image]
  else if a.customWorkflow.isEmpty then (planned a found).map links
  else .ok [.translate a.customWorkflow]

theorem decision_of_plans (h : Plans a) : decision a found = (planned a found).map links := by
  simp [decision, h.dataDisk, h.customWorkflow]

theorem planned_of_error {os : String} {x : ImportError} (hnames : Names a found os)
    (hx : chosenEntry a os = .error x) : planned a found = .error x := by
  simp [planned, resolveOs_eq_ok_iff.mpr hnames, hx, Except.map]

/-- **The decision is made as it is to be**, and nothing else is decided. -/
theorem decides_iff {d : Except ImportError (List Link)} : Decides a found d ↔ d = decision a found := by
  constructor
  · intro h
    cases h with
    | dataDisk h => simp [decision, h]
    | custom h hcustom => simp [decision, h, hcustom]
    | nameless h hnames =>
      rw [decision_of_plans h, planned]
      cases hos : resolveOs a found with
      | ok os => exact absurd (resolveOs_eq_ok_iff.mp hos) (hnames os)
      | error e =>
        rw [(resolveOs_error hos).1]
        rfl
    | @unsupported os h hnames hnone =>
      have hx : chosenEntry a os = .error (invalidOs os) := by
        simp [chosenEntry, entryOf_of_none hnone]
      rw [decision_of_plans h, planned_of_error hnames hx]
      rfl
    | @unlicensed os variant own h hnames hown hbyol hvariant hnone =>
      have hx : chosenEntry a os = .error (invalidOs variant) := by
        simp [chosenEntry, entryOf_eq_ok_iff.mpr hown, hbyol, (Os.byolVariant_eq_iff _ _).mpr hvariant,
          entryOf_of_none hnone]
      rw [decision_of_plans h, planned_of_error hnames hx]
      rfl
    | planned h hnames hchosen hneeds =>
      rw [decision_of_plans h, planned, resolveOs_eq_ok_iff.mpr hnames, needs_iff.mp hneeds]
      simp [chosenEntry_eq_ok_iff.mpr hchosen, Except.map, links, planFor]
  · rintro rfl
    unfold decision
    split
    next h => exact .dataDisk h
    next h =>
      have hdisk : a.dataDisk = false := by simpa using h
      split
      next hcustom =>
        have hplans : Plans a := ⟨hdisk, String.isEmpty_iff.mp hcustom⟩
        unfold planned
        cases hos : resolveOs a found with
        | error e =>
          obtain ⟨rfl, hnames⟩ := resolveOs_error hos
          exact .nameless hplans hnames
        | ok os =>
          have hnames := resolveOs_eq_ok_iff.mp hos
          show Decides a found (((chosenEntry a os).map (planFor a found)).map links)
          cases he : chosenEntry a os with
          | ok e => exact .planned hplans hnames (chosenEntry_eq_ok_iff.mp he) (needs_iff.mpr rfl)
          | error x =>
            rcases chosenEntry_error he with ⟨rfl, hnone⟩ | ⟨variant, own, rfl, hbyol, hown, hvariant, hnone⟩
            · exact .unsupported hplans hnames hnone
            · exact .unlicensed hplans hnames hown hbyol hvariant hnone
      next hcustom => exact .custom hdisk (by simpa using hcustom)

/-! ## 3. The chain -/

/-- Every entry has a workflow. -/
theorem registry_workflow : ∀ e ∈ Os.registry, e.workflow.isEmpty = false := by decide +kernel

theorem Chooses.workflow {e : Os.Entry} (h : Chooses a os e) : e.workflow.isEmpty = false := by
  cases h with
  | own _ he => exact registry_workflow e he.mem
  | byol _ _ _ he => exact registry_workflow e he.mem

/-- **The processors of a plan** are those of its links. -/
theorem processorsOf_planned {p : Platform σ} {translation : Cell σ TranslationState} {plan : ProcessingPlan}
    (h : planned a found = .ok plan) :
    processorsOf p a translation plan = (links plan).map (Link.processor p a translation) := by
  unfold planned at h
  cases hos : resolveOs a found with
  | error e =>
    rw [hos] at h
    cases h
  | ok os =>
    rw [hos] at h
    cases he : chosenEntry a os with
    | error x => simp [he, Except.map] at h
    | ok e =>
      have hplan : planFor a found e = plan := by simpa [he, Except.map] using h
      have hworkflow := (chosenEntry_eq_ok_iff.mp he).workflow
      subst hplan
      simp [processorsOf, ProcessingPlan.needsMetadata, ProcessingPlan.needsTranslation, planFor, hworkflow, links,
        Link.processor]
      rfl

end Found

end Planner

end ImageImport
