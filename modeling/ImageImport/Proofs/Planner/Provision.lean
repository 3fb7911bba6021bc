/-
# The processors that are provided

Main statement: `provide_decides`, over every platform, all arguments and every run.  The inspector is asked once and
of the disk, if the disk is to be planned for and inspection is not switched off, and else it is not asked at all
(`Heard`).  What is provided is what is decided with its report, if there is one (`Decides`), and one processor for
each link of the decision.
-/
import ImageImport.Proofs.Import.Simulation
import ImageImport.Proofs.Planner.Decision

namespace ImageImport

open Activity

variable {υ σ : Type}

namespace Planner

/-! ## 1. What the inspector is asked -/

/-- What is noted of an inspector. -/
inductive InspectorNote where
  | asked (reference : String)
  | answered (r : Except Crash (Except ImportError Inspection))

/-- What has been noted of it, each note with its instant. -/
abbrev InspectorHistory := List (Nat × InspectorNote)

/-- **The platform with notes of its inspector.** -/
def inspecting (p : Platform (Watched υ InspectorNote)) : Platform (Watched υ InspectorNote) :=
  { p with inspect := fun reference => .watching (.asked reference) .answered (p.inspect reference) }

/-- The inspector is to be asked. -/
structure Asks (a : Arguments) : Prop extends Plans a where
  inspect : a.inspect = true

/-- **What is heard of the inspector**, and the report on the disk, if there is one: it is asked once, or not at
all. -/
inductive Heard (a : Arguments) (uri : String) : InspectorHistory → Option Inspection → Prop where
  | nothing (h : ¬ Asks a) : Heard a uri [] none
  | report {t t' : Nat} {report : Inspection} (h : Asks a) :
      Heard a uri [(t, .asked uri), (t', .answered (.ok (.ok report)))] (some report)
  | fault {t t' : Nat} {e : ImportError} (h : Asks a) :
      Heard a uri [(t, .asked uri), (t', .answered (.ok (.error e)))] none

/-- **What a run of the provider comes to.** -/
def ProvisionOutcome (p : Platform (Watched υ InspectorNote)) (a : Arguments)
    (translation : Cell (Watched υ InspectorNote) TranslationState) (uri : String) :
    Ending (Watched υ InspectorNote) (Outcome (List (Processor (Watched υ InspectorNote)))) → Prop
  | .returned (_, provided) last => ∃ found, Heard a uri last.state.seen found ∧
      ∃ decided, (∀ d, Decides a found d ↔ d = decided) ∧
        provided = decided.map (List.map (Link.processor p a translation))
  | .crashed why last => Asks a ∧ ∃ t t', last.state.seen = [(t, .asked uri), (t', .answered (.error why))]
  | .stalled last => Asks a ∧ ∃ t, last.state.seen = [(t, .asked uri)]

/-! ## 2. The run -/

section Run

variable {p : Platform υ} {a : Arguments} {disk : PersistentDisk}

/-- The terms: nobody else notes anything. -/
abbrev terms : Terms (Watched υ InspectorNote) := .whole fun _ => ()

/-- The inspector has not come back. -/
def Awaits (a : Arguments) (uri : String) (_ : Wake (Watched υ InspectorNote)) (m : Moment (Watched υ InspectorNote)) :
    Prop := Asks a ∧ ∃ t, m.state.seen = [(t, .asked uri)]

/-- It ends with a crash of the inspector, or as `Q` says. -/
def EndsHaving {α : Type} (a : Arguments) (uri : String) (Q : α → InspectorHistory → Prop) :
    Except Crash α → Moment (Watched υ InspectorNote) → Prop
  | .ok v, m => Q v m.state.seen
  | .error why, m => Asks a ∧ ∃ t t', m.state.seen = [(t, .asked uri), (t', .answered (.error why))]

/-- What is heard of an inspector that is not to be asked. -/
theorem Heard.of_done {uri : String} (h : ¬ Asks a) {m : Moment (Watched υ InspectorNote)} (hm : m.state.seen = []) :
    Heard a uri m.state.seen none := hm ▸ .nothing h

/-- **The inspector**, between its two notes. -/
theorem inspect_meets (h : Asks a) {m : Moment (Watched υ InspectorNote)} (hm : m.state.seen = []) :
    ((inspecting p.watched).inspect disk.uri).Meets terms (Awaits a disk.uri)
      (fun r m' => ∃ t t', m'.state.seen = [(t, .asked disk.uri), (t', .answered r)]) m := by
  refine Meets.weaken (fun {w m'} hs => ?_) (fun {r m'} hs => ?_) (Meets.watching_call (p.inspect disk.uri))
  · rw [hm] at hs
    exact ⟨h, m.now, hs⟩
  · rw [hm] at hs
    exact ⟨m.now, m'.now, hs⟩

/-- **The inspection**, with what is heard of the inspector. -/
theorem inspectDisk_meets (hplans : Plans a) {m : Moment (Watched υ InspectorNote)} (hm : m.state.seen = []) :
    (inspectDisk (inspecting p.watched) a disk).Meets terms (Awaits a disk.uri)
      (EndsHaving a disk.uri fun found h => Heard a disk.uri h found) m := by
  unfold inspectDisk
  cases hinspect : a.inspect with
  | false => exact Heard.of_done (fun h => by simp [h.inspect] at hinspect) hm
  | true =>
    have hasks : Asks a := { hplans with inspect := hinspect }
    refine Meets.bind (Meets.weaken id (fun {r m'} h => ?_) (inspect_meets hasks hm))
    obtain ⟨t, t', hs⟩ := h
    match r, hs with
    | .ok (.ok report), hs => exact (hs ▸ .report hasks : Heard a disk.uri m'.state.seen (some report))
    | .ok (.error e), hs => exact ⟨trivial, (hs ▸ .fault hasks : Heard a disk.uri m'.state.seen none)⟩
    | .error why, hs => exact ⟨hasks, t, t', hs⟩

/-- Planning with what was found comes to the plan; it notes nothing, and does not wait. -/
theorem planWith_meets {W : Wake (Watched υ InspectorNote) → Moment (Watched υ InspectorNote) → Prop}
    (found : Option Inspection) (metrics : Metrics) (m : Moment (Watched υ InspectorNote)) :
    (planWith (inspecting p.watched) a found metrics).Meets terms W
      (fun r m' => m'.state.seen = m.state.seen ∧ ∃ metrics', r = .ok (metrics', planned a found)) m := by
  unfold planWith
  cases hos : resolveOs a found with
  | error e => exact ⟨rfl, metrics, by rw [planned, hos]⟩
  | ok os =>
    have hplanned : planned a found = (chosenEntry a os).map (planFor a found) := by rw [planned, hos]
    have hwarn : (warnUnsupported (inspecting p.watched) a os).Meets terms W
        (fun r m' => r = .ok () ∧ m'.state.seen = m.state.seen) m := by
      unfold warnUnsupported
      split
      · exact ⟨trivial, rfl, rfl⟩
      · exact ⟨rfl, rfl⟩
    refine Meets.bind (Meets.weaken id (fun {r m'} h => ?_) hwarn)
    obtain ⟨rfl, hs⟩ := h
    cases he : chosenEntry a os with
    | error e => exact ⟨hs, metrics, by rw [hplanned, he]; rfl⟩
    | ok entry => exact ⟨hs, metrics.setUefi a.uefiCompatible (uefiDetected found), by rw [hplanned, he]; rfl⟩

/-- **The plan**, with what is heard of the inspector. -/
theorem plan_meets (hplans : Plans a) (metrics : Metrics) {m : Moment (Watched υ InspectorNote)}
    (hm : m.state.seen = []) :
    (plan (inspecting p.watched) a disk metrics).Meets terms (Awaits a disk.uri)
      (EndsHaving a disk.uri fun r h => ∃ found, Heard a disk.uri h found ∧ r.2 = planned a found) m := by
  have hcustom : (!a.customWorkflow.isEmpty) = false := by simp [hplans.customWorkflow]
  unfold plan
  rw [hcustom]
  refine Meets.bind (Meets.weaken id (fun {r m'} h => ?_) (inspectDisk_meets hplans hm))
  match r, h with
  | .error why, h => exact h
  | .ok found, hheard =>
    refine Meets.weaken id (fun {r m''} h => ?_) (planWith_meets found _ m')
    obtain ⟨hs, metrics', rfl⟩ := h
    exact ⟨found, hs ▸ hheard, rfl⟩

/-- **What is provided is what is decided.** -/
theorem provide_meets (translation : Cell υ TranslationState) (metrics : Metrics)
    {m : Moment (Watched υ InspectorNote)} (hm : m.state.seen = []) :
    (provide (inspecting p.watched) a (Watched.part translation) disk metrics).Meets terms (Awaits a disk.uri)
      (EndsHaving a disk.uri fun r h => ∃ found, Heard a disk.uri h found ∧
        r.2 = (decision a found).map (List.map (Link.processor (inspecting p.watched) a (Watched.part translation)))) m := by
  unfold provide provideWith
  cases hdisk : a.dataDisk with
  | true => exact ⟨none, .of_done (fun h => by simp [h.dataDisk] at hdisk) hm, by simp [decision, hdisk]; rfl⟩
  | false =>
    by_cases hcustom : a.customWorkflow = ""
    · have hplans : Plans a := ⟨hdisk, hcustom⟩
      refine Meets.bind (Meets.weaken id (fun {r m'} h => ?_) (plan_meets hplans metrics hm))
      cases r with
      | error why => exact h
      | ok r =>
        obtain ⟨found, hheard, hanswer⟩ := h
        obtain ⟨metrics', answer⟩ := r
        have hanswer' : planned a found = answer := hanswer.symm
        have hdecision : decision a found = answer.map links := by rw [decision_of_plans hplans, hanswer']
        cases answer with
        | error e => exact ⟨found, hheard, by rw [hdecision]; rfl⟩
        | ok plan =>
          refine Meets.update_bind trivial (Meets.pure ⟨found, hheard, ?_⟩)
          rw [hdecision, processorsOf_planned hanswer']
          rfl
    · have hsome : (!a.customWorkflow.isEmpty) = true := by simpa using hcustom
      unfold plan
      rw [hsome]
      refine Meets.update_bind trivial (Meets.pure ⟨none, .of_done (fun h => hcustom h.customWorkflow) hm, ?_⟩)
      simp [decision, hdisk, hcustom, processorsOf, ProcessingPlan.needsMetadata, ProcessingPlan.needsTranslation, Except.map,
        Link.processor]

end Run

/-! ## 3. Every run -/

theorem inspecting_mirrors (p : Platform υ) : (inspecting p.watched).Mirrors Watched.state p :=
  { p.watched_mirrors with inspect := fun _ => .watching (p.watched_mirrors.inspect _) }

/-- **What is provided for a disk is what is decided of it**, whatever the inspector says and however long it takes:
`Decides` has one decision for what is heard of it, and the processors are those of its links.  The notes of the
inspector change nothing: without them the run is the same. -/
theorem provide_decides (p : Platform υ) (a : Arguments) (translation : Cell υ TranslationState) (disk : PersistentDisk)
    (metrics : Metrics) (m : Moment υ) :
    let watched := (provide (inspecting p.watched) a (Watched.part translation) disk metrics).attended.run
      ⟨m.now, ⟨m.state, []⟩⟩
    ProvisionOutcome (inspecting p.watched) a (Watched.part translation) disk.uri watched ∧
      Ending.Alike Watched.state (AlikeChoices Watched.state) watched
        ((provide p a translation disk metrics).attended.run m) := by
  let start : Moment (Watched υ InspectorNote) := ⟨m.now, ⟨m.state, []⟩⟩
  have hmeets : (provide (inspecting p.watched) a (Watched.part translation) disk metrics).Meets terms _ _ start :=
    provide_meets translation metrics rfl
  have hsat := Meets.run_attended (Terms.whole_closed _ _) hmeets
  have htranslation : Cell.Mirrors Watched.state (Watched.part translation : Cell (Watched υ InspectorNote) _) translation :=
    ⟨fun _ => rfl, fun _ _ => rfl⟩
  have hsame := provide_mirrors (inspecting_mirrors p) a htranslation disk metrics
  refine ⟨?_, Mirrors.run_attended hsame start⟩
  show ProvisionOutcome _ _ _ _ (Activity.run _ start)
  cases hrun : Activity.run _ start with
  | returned r last =>
    rw [hrun] at hsat
    obtain ⟨found, hheard, hprovided⟩ := hsat
    exact ⟨found, hheard, decision a found, fun d => decides_iff, hprovided⟩
  | crashed why last =>
    rw [hrun] at hsat
    exact hsat
  | stalled last =>
    rw [hrun] at hsat
    obtain ⟨_, hwaits, -⟩ := hsat
    exact hwaits

end Planner

end ImageImport
