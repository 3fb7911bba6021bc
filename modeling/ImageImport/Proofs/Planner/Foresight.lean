/-
# What is accepted can be planned

A named operating system is looked up twice: by a rule, before anything is created, and by the planner, when the disk
has been inflated.  The two agree but for one thing: the rule does not look up the variant for a license of the
user's own.

Main statement: `accepted_is_planned`, over every platform and every run of both.  Of an accepted import whose system
is named the planner fails if and only if that variant is missing, and the error names it.  The inspector has no say in
this.
-/
import ImageImport.Proofs.Planner.Provision
import ImageImport.Proofs.Preflight.Acceptance
import ImageImport.Rehearsal.Scene

namespace ImageImport

open Activity

variable {σ υ : Type}

namespace Planner

/-! ## 1. What can be foreseen -/

/-- The user has a license of its own for a system that has no such variant. -/
def LacksVariant (a : Arguments) : Prop :=
  a.byol = true ∧ ∀ variant, Os.IsByol a.os variant → ∀ e, ¬ Os.Supports variant e

/-- **What can be foreseen of the plan**, from the arguments and for any report on the disk. -/
structure Foreseen (a : Arguments) (found : Option Inspection) (answer : Except ImportError ProcessingPlan) : Prop where
  /-- It fails if and only if the variant is missing. -/
  fails : (∃ e, answer = .error e) ↔ LacksVariant a
  /-- The error names the variant. -/
  error : ∀ e, answer = .error e → ∃ variant, Os.IsByol a.os variant ∧ e = invalidOs variant
  /-- A plan is for the system that the user has named. -/
  plan : ∀ plan, answer = .ok plan → ∃ e, Chooses a a.os e ∧ plan.requiredLicenses = [e.license] ∧
    Needs a found e plan.requiredFeatures ∧ plan.translationWorkflowPath = e.workflow

theorem LacksVariant.not_chooses {a : Arguments} (h : LacksVariant a) (e : Os.Entry) : ¬ Chooses a a.os e := by
  rintro (⟨hbyol, -⟩ | ⟨-, -, hvariant, he⟩)
  · simp [h.1] at hbyol
  · exact h.2 _ hvariant e he

/-- **The choice for a supported system** fails for want of a variant only. -/
theorem chosenEntry_error_iff {a : Arguments} (hsupported : ∃ e, Os.Supports a.os e) :
    (∃ x, chosenEntry a a.os = .error x) ↔ LacksVariant a := by
  constructor
  · rintro ⟨x, hx⟩
    rcases chosenEntry_error hx with ⟨-, hnone⟩ | ⟨variant, own, -, hbyol, -, hvariant, hnone⟩
    · exact absurd hsupported (not_exists.mpr hnone)
    · refine ⟨hbyol, fun variant' hvariant' => ?_⟩
      rw [← (Os.byolVariant_eq_iff _ _).mpr hvariant', (Os.byolVariant_eq_iff _ _).mpr hvariant]
      exact hnone
  · intro h
    cases hx : chosenEntry a a.os with
    | error x => exact ⟨x, rfl⟩
    | ok e => exact absurd (chosenEntry_eq_ok_iff.mp hx) (h.not_chooses e)

theorem planned_of_named {a : Arguments} (hos : a.os ≠ "") (found : Option Inspection) :
    planned a found = (chosenEntry a a.os).map (planFor a found) := by
  rw [planned, resolveOs_eq_ok_iff.mpr (.byUser hos)]

/-- **A supported system that is named is planned for as foreseen**, whatever has been found on the disk. -/
theorem foreseen {a : Arguments} (hos : a.os ≠ "") (hsupported : ∃ e, Os.Supports a.os e) (found : Option Inspection) :
    Foreseen a found (planned a found) := by
  rw [planned_of_named hos]
  refine ⟨?_, fun e h => ?_, fun plan h => ?_⟩
  · rw [← chosenEntry_error_iff hsupported]
    cases chosenEntry a a.os <;> simp [Except.map]
  · cases hx : chosenEntry a a.os with
    | ok entry => simp [hx, Except.map] at h
    | error x =>
      have hxe : x = e := by simpa [hx, Except.map] using h
      rcases chosenEntry_error hx with ⟨-, hnone⟩ | ⟨variant, own, hvalid, -, -, hvariant, -⟩
      · exact absurd hsupported (not_exists.mpr hnone)
      · exact ⟨variant, hvariant, hxe ▸ hvalid⟩
  · cases hx : chosenEntry a a.os with
    | error x => simp [hx, Except.map] at h
    | ok entry =>
      have hplan : planFor a found entry = plan := by simpa [hx, Except.map] using h
      subst hplan
      exact ⟨entry, chosenEntry_eq_ok_iff.mp hx, rfl, needs_iff.mpr rfl, rfl⟩

/-! ## 2. Every run -/

/-- **What a run of the planner comes to**: what was foreseen, unless the inspector blows up or does not come back. -/
def PlanOutcome (a : Arguments) (uri : String) :
    Ending (Watched υ InspectorNote) (Outcome ProcessingPlan) → Prop
  | .returned (_, answer) last => ∃ found, Heard a uri last.state.seen found ∧ Foreseen a found answer
  | .crashed why last => Asks a ∧ ∃ t t', last.state.seen = [(t, .asked uri), (t', .answered (.error why))]
  | .stalled last => Asks a ∧ ∃ t, last.state.seen = [(t, .asked uri)]

/-- **An import that is accepted with a named system can be planned**, with one exception that can be foreseen: the
variant for a license of the user's own may be missing.  It is no data disk.  The check and the plan may run on
different platforms and at different times, and whether the inspector is asked and what it finds decides about the
features only.  The notes of the inspector change nothing: without them the run is the same. -/
theorem accepted_is_planned (p : Platform σ) {a : Arguments} (hos : a.os ≠ "") (hcustom : a.customWorkflow = "")
    {checked accepted : Moment σ}
    (haccepted : (Preflight.validate p (Preflight.defaultRules p) a).attended.run checked = .returned (.ok ()) accepted)
    (q : Platform υ) (disk : PersistentDisk) (metrics : Metrics) (m : Moment υ) :
    a.dataDisk = false ∧
      let watched := (plan (inspecting q.watched) a disk metrics).attended.run ⟨m.now, ⟨m.state, []⟩⟩
      PlanOutcome a disk.uri watched ∧
        Ending.Alike Watched.state Eq watched ((plan q a disk metrics).attended.run m) := by
  have hknown := Preflight.accepted_of_validate haccepted
  have hdisk : a.dataDisk = false := by
    by_contra hdisk
    exact hos (hknown.alone (by simpa using hdisk)).1
  have hplans : Plans a := ⟨hdisk, hcustom⟩
  have hsupported := hknown.supported hos hcustom
  refine ⟨hdisk, ?_, Mirrors.run_attended (plan_mirrors (inspecting_mirrors q) a disk metrics) _⟩
  let start : Moment (Watched υ InspectorNote) := ⟨m.now, ⟨m.state, []⟩⟩
  have hmeets : (plan (inspecting q.watched) a disk metrics).Meets terms _ _ start := plan_meets hplans metrics rfl
  have hsat := Meets.run_attended (Terms.whole_closed _ _) hmeets
  show PlanOutcome a disk.uri (Activity.run _ start)
  cases hrun : Activity.run _ start with
  | returned r last =>
    rw [hrun] at hsat
    obtain ⟨found, hheard, hanswer⟩ := hsat
    obtain ⟨metrics', answer⟩ := r
    have hanswer : answer = planned a found := hanswer
    exact ⟨found, hheard, hanswer ▸ foreseen hos hsupported found⟩
  | crashed why last =>
    rw [hrun] at hsat
    exact hsat
  | stalled last =>
    rw [hrun] at hsat
    obtain ⟨_, hwaits, -⟩ := hsat
    exact hwaits

/-! An import that is accepted and cannot be planned: there is no variant of Ubuntu for a license of the user's own. -/

section Rehearsed

open Rehearsal

def ubuntuImport : Arguments :=
  { executionId := "e", project := "p", zone := "z", imageName := "imported", os := "ubuntu-2204", byol := true }

theorem accepted_is_planned_ubuntu :
    ubuntuImport.os ≠ "" ∧ ubuntuImport.customWorkflow = "" ∧ LacksVariant ubuntuImport ∧
      ∃ accepted, (Preflight.validate (Scene.platform .none) (Preflight.defaultRules (Scene.platform .none))
          ubuntuImport).attended.run (Scene.opening {}) = .returned (.ok ()) accepted ∧
        ubuntuImport.dataDisk = false ∧
          let watched := (plan (inspecting (Scene.platform .none).watched) ubuntuImport .unknown .empty).attended.run
            ⟨accepted.now, ⟨accepted.state, []⟩⟩
          PlanOutcome ubuntuImport "" watched ∧ Ending.Alike Watched.state Eq watched
            ((plan (Scene.platform .none) ubuntuImport .unknown .empty).attended.run accepted) := by
  have hos : ubuntuImport.os ≠ "" := by decide
  obtain ⟨accepted, haccepted⟩ : ∃ accepted, (Preflight.validate (Scene.platform .none)
      (Preflight.defaultRules (Scene.platform .none)) ubuntuImport).attended.run (Scene.opening {}) =
        .returned (.ok ()) accepted := by
    exact ⟨_, rfl⟩
  refine ⟨hos, rfl, ⟨rfl, fun variant hvariant => ?_⟩, accepted, haccepted,
    accepted_is_planned (Scene.platform .none) hos rfl haccepted (Scene.platform .none) .unknown .empty accepted⟩
  rw [← (Os.byolVariant_eq_iff _ _).mpr hvariant]
  exact (Os.lookup_eq_none_iff _).mp (by decide +kernel)

end Rehearsed

end Planner

end ImageImport
