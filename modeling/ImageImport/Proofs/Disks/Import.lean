/-
# An import leaves no disk behind

The inflation refers to the disk that its workflow keeps, and notes so where the import finds it whatever
becomes of the outcome; the processors hand that disk on; and what is known last is deleted.  So the disk is
deleted once the workflow has come back, whichever stage is the last.  The disk of the shadow is the shadow's
own business (`Proofs/Disks/Inflation.lean`), and when it is over the rest of the import creates nothing.

Main statement: `perform_meets`, over every import.  What is proved of the shadow is exactly this:
it has deleted what it created, or it was abandoned within a call, two grace periods after the inflation
workflow.
-/
import ImageImport.Proofs.Disks.Chain
import ImageImport.Proofs.Disks.Kept
import ImageImport.Proofs.Import.Simulation

namespace ImageImport

open Activity DiskHistory

variable {υ κ ρ : Type}

/-! ## 1. The cells -/

/-- The cells beside notes. -/
def Importer.Cells.watched (cells : Importer.Cells υ) : Importer.Cells (Watched υ κ) where
  inflation :=
    { worker := Watched.part cells.inflation.worker
      direct := Watched.part cells.inflation.direct
      mainFinished := Watched.part cells.inflation.mainFinished }
  translation := Watched.part cells.translation
  left := Watched.part cells.left

/-- **The cells are apart**: none of the others is where the import finds what the inflation has left. -/
structure Importer.Cells.Apart (cells : Importer.Cells υ) : Prop where
  worker : ∀ t s, cells.left.get (cells.inflation.worker.set t s) = cells.left.get s
  direct : ∀ t s, cells.left.get (cells.inflation.direct.set t s) = cells.left.get s
  mainFinished : ∀ t s, cells.left.get (cells.inflation.mainFinished.set t s) = cells.left.get s
  translation : ∀ t s, cells.left.get (cells.translation.set t s) = cells.left.get s

theorem Importer.Cells.Apart.inflation {cells : Importer.Cells υ} (h : cells.Apart) :
    (cells.watched : Importer.Cells (Watched υ DiskNote)).inflation.Apart cells.left.get where
  worker t s := ⟨rfl, h.worker t s.state⟩
  direct t s := ⟨rfl, h.direct t s.state⟩
  mainFinished t s := ⟨rfl, h.mainFinished t s.state⟩

/-! ## 2. The stages -/

section Stages

variable {args : Arguments} {p : Platform (Watched υ DiskNote)} {cells : Importer.Cells υ}
  (hp : p.Answers (Unnoted cells.left.get)) (hcells : cells.Apart) {source : Source} {inspection : Option Inspection}
  {m m' : Moment (Watched υ DiskNote)}

/-- The importer of a source. -/
abbrev importerOf (p : Platform (Watched υ DiskNote)) (cells : Importer.Cells υ) (args : Arguments) (source : Source)
    (inspection : Option Inspection) : Importer (Watched υ DiskNote) :=
  .ofInflater p.noting cells.watched args (cells.watched.inflation.inflaterFor p.noting args source inspection)

/-- How the inflation has ended, and that the import can find it. -/
def Found (args : Arguments) (cells : Importer.Cells υ) (o : Except InflationFailure Inflation)
    (m : Moment (Watched υ DiskNote)) : Prop :=
  (cells.left.get m.state.state).inflation = Inflation.left o ∧ Inflated args (Inflation.left o).disk.uri m

theorem found_stable (args : Arguments) (cells : Importer.Cells υ) (o : Except InflationFailure Inflation) :
    Stable (Unnoted cells.left.get) (Found args cells o) := fun hx hu hle =>
  ⟨(congrArg Recorded.inflation hu.2).trans hx.1, hx.2.of_unnoted hu hle⟩

/-- Where nothing has been noted, nothing is left behind. -/
theorem Inflated.of_nil (hm : m.state.seen = []) : Inflated args "" m := by
  have hmain : mainNotes m = [] := by rw [mainNotes, hm]; rfl
  have hshadow : shadowNotes args m = [] := by rw [shadowNotes, hm]; rfl
  refine ⟨.nothing hmain rfl, .inl ?_⟩
  rw [hshadow]
  exact paid_nil

include hp hcells

theorem notedInflation_meets (hid : args.PlainId) (hm : m.state.seen = []) :
    (importerOf p cells args source inspection).notedInflation.Meets (.whole cells.left.get) (fun _ _ => True)
      (fun r m' => ∃ o, r = .ok o ∧ Found args cells o m') m := by
  refine Meets.bind (Meets.weaken id (fun {r m'} h => ?_) (inflaterFor_leaves hp hcells.inflation hid hm))
  obtain ⟨result, rfl, h⟩ := h
  refine Meets.update_bind trivial ⟨result, rfl, congrArg Recorded.inflation (cells.left.get_set _ _), ?_⟩
  exact h.recorded (fun _ _ => rfl) _

theorem runChain_meets (ctx : RunContext) {progress : Progress} (h : Inflated args progress.disk.uri m) :
    ((importerOf p cells args source inspection).runChain ctx progress).Meets (.whole cells.left.get) (fun _ _ => True)
      (StagesLeave args) m := by
  have hstays : Stable (Unnoted cells.left.get) (Inflated (υ := υ) args progress.disk.uri) := inflated_stable args _ _
  have hprovide : (provide p.noting args (cells.watched : Importer.Cells (Watched υ DiskNote)).translation
      progress.disk progress.metrics).Quiet (Unnoted cells.left.get) (Provided cells.left.get args) :=
    provide_handsOn hp (fun t s => ⟨rfl, hcells.translation t s.state⟩) _ _
  refine Meets.bind (Quiet.meets_unnoted Terms.allows_whole hstays hstays (fun _ => trivial) (fun {r m'} hx hr => ?_)
    hprovide h)
  obtain ⟨metrics, answer, rfl, hands⟩ := hr
  cases answer with
  | error e => exact ⟨_, rfl, hx⟩
  | ok processors => exact runProcessors_meets (fun _ _ => rfl) (hands _ rfl) { progress with metrics } hx

/-- **What is known when the stages are over.** -/
theorem runStages_meets (hid : args.PlainId) (ctx : RunContext) (hm : m.state.seen = []) :
    ((importerOf p cells args source inspection).runStages ctx).Meets (.whole cells.left.get) (fun _ _ => True)
      (StagesLeave args) m := by
  let m₀ : Moment (Watched υ DiskNote) := ⟨m.now, (importerOf p cells args source inspection).left.set {} m.state⟩
  have hempty : cells.left.get m₀.state.state = {} := cells.left.get_set _ _
  refine Meets.update_bind trivial ?_
  refine Meets.bind (Meets.weaken id (fun {r m'} h => ?_) (runStep_calm (m := m₀)
    Terms.allows_whole (inflaterFor_cancel hp hcells.inflation) (Found args cells)
    (fun o => ⟨found_stable args cells o, found_stable args cells o⟩)
    (fun hr _ => ⟨congrArg Recorded.inflation (hr.2.trans hempty), .of_nil (hr.1.trans hm)⟩)
    (fun hr _ => notedInflation_meets hp hcells hid (hr.1.trans hm))))
  obtain ⟨o, logs, rfl, ended, ⟨hleft, hknown⟩, hends⟩ := h
  refine Meets.read_bind ?_
  have hread : ((importerOf p cells args source inspection).left.get m'.state).inflation = Inflation.left ended :=
    hleft
  rw [hread]
  cases o with
  | error failure => exact ⟨_, rfl, hknown⟩
  | ok inflation =>
    rcases hends with rfl | ⟨e, heq⟩
    · exact runChain_meets hp hcells ctx hknown
    · cases heq

end Stages

/-! ## 3. What is lawful -/

section Law

variable {args : Arguments} {uri : String} {m : Moment (Watched υ DiskNote)}

/-- **What nothing is noted of** has not been left behind. -/
theorem DisksLaw.of_nil {last : Nat} : DisksLaw args [] last where
  inflated _ _ _ _ _ _ := removed_of_not_mem fun _ _ _ => List.not_mem_nil
  shadow := .inl paid_nil

theorem DisksLaw.later {h : DiskHistory} {last last' : Nat} (hlaw : DisksLaw args h last) (hle : last ≤ last') :
    DisksLaw args h last' where
  inflated := hlaw.inflated
  shadow := hlaw.shadow.imp id fun h => ⟨h.owes, fun t w hn hw => Nat.le_trans (h.late t w hn hw) hle⟩

/-- An inflation workflow is noted among the calls of the main inflation. -/
theorem mem_mainNotes {w : Workflow} (hw : w.IsInflation) {t : Nat} {n : DiskNote} (hn : n.call = .run w)
    (hmem : (t, n) ∈ m.state.seen) : (t, n) ∈ mainNotes m := by
  refine List.mem_filter.mpr ⟨hmem, ?_⟩
  rcases hw with hname | hname <;> simp [hn, DiskCall.byMain, hname]

/-- **The shadow's disk**, when all is over. -/
theorem Inflated.shadow_lawful (h : Inflated args uri m) :
    DiskHistory.Paid m.state.seen ∨ DiskHistory.Abandoned args.diskUri m.state.seen m.now :=
  h.shadow.imp paid_of_ofShadow fun hs => ⟨hs.1, fun t w hn hw => hs.2 t (.run w) (mem_mainNotes hw rfl hn)⟩

/-- Without a reference there was no workflow. -/
theorem MainDone.none_run (h : MainDone args "" m) : mainNotes m = [] := by
  cases h with
  | nothing notes none => exact notes
  | ran i args_eq workflow notes le kept => simp [Arguments.diskUri, Resource.zonalDiskUri] at kept

/-- **The inflated disk is deleted**, if `l` at the end of the history deletes it. -/
theorem MainDone.removed (hid : args.PlainId)
    (h : MainDone args uri m) {before l : DiskHistory} (hseen : m.state.seen = before ++ l)
    (hl : ∀ t w, (t, .answered (.run w)) ∉ l) {t : Nat}
    (hdelete : (t, .called (.delete args.project args.zone args.diskUri)) ∈ l) {w : Workflow}
    {project zone name : String} (hw : w.IsInflation) (hkeeps : w.Keeps project zone name) :
    DiskHistory.Removed m.state.seen (.run w) project zone name := by
  cases h with
  | nothing notes none =>
    refine removed_of_not_mem fun u n hn hmem => ?_
    have hmain := mem_mainNotes hw hn hmem
    rw [notes] at hmain
    cases hmain
  | @ran σ i w₀ t₀ t₁ args_eq workflow notes le kept =>
    by_cases hsame : w = w₀
    · subst hsame
      subst args_eq
      obtain ⟨rfl, rfl, rfl⟩ := i.keeps_inflated hid workflow hkeeps
      refine fun _ _ _ _ => ⟨i.args.diskUri, i.args.name_diskUri_iff.mpr hid.unslashed,
        .of_about (f := DiskCall.byMain) ?_ ?_, ?_⟩
      · rcases hw with hname | hname <;> simp [DiskNote.call, DiskCall.byMain, hname]
      · show DiskHistory.Follows (mainNotes m) _ _
        rw [notes]
        exact follows_of_split [] (fun _ => List.not_mem_nil) (fun u hn => by simp at hn)
          (List.mem_singleton.mpr rfl)
      · rw [hseen]
        exact follows_of_append (fun u => hl u w) hdelete
    · -- of another workflow nothing has been noted
      refine removed_of_not_mem fun u n hn hmem => ?_
      have hmain := mem_mainNotes hw hn hmem
      rw [notes] at hmain
      simp only [List.mem_cons, Prod.mk.injEq, List.not_mem_nil, or_false] at hmain
      rcases hmain with ⟨-, rfl⟩ | ⟨-, rfl⟩ <;> exact hsame (DiskCall.run.inj hn).symm

end Law

/-! ## 4. From the deletion to the end -/

section Whole

variable {args : Arguments} {p : Platform (Watched υ DiskNote)} {cells : Importer.Cells υ}
  (hp : p.Answers (Unnoted cells.left.get)) (hcells : cells.Apart) {source : Source} {inspection : Option Inspection}
  (hid : args.PlainId) {m : Moment (Watched υ DiskNote)}

/-- It returns, and no disk has been left behind. -/
def Lawful {α : Type} (args : Arguments) (r : Except Crash α) (m : Moment (Watched υ DiskNote)) : Prop :=
  Returns r ∧ DisksLaw args m.state.seen m.now

/-- What writes no notes comes after the law. -/
theorem lawful_of_calm {α : Type} {slot : υ → ρ} {a : Activity (Watched υ DiskNote) α} (ha : a.Calm slot)
    (h : DisksLaw args m.state.seen m.now) : a.Meets (.whole slot) (fun _ _ => True) (Lawful args) m := by
  have hstays : Stable (Unnoted slot) fun m' : Moment (Watched υ DiskNote) => DisksLaw args m'.state.seen m'.now :=
    fun {m₁ m₂} hx hu hle => by
      show DisksLaw args m₂.state.seen m₂.now
      rw [hu.1]
      exact hx.later hle
  exact Quiet.meets_unnoted Terms.allows_whole hstays hstays (fun _ => trivial) (fun hx hr => ⟨hr, hx⟩) ha h

include hp hid

/-- **The deletion of the disk that is known last.** -/
theorem cleanupDisk_meets {disk : PersistentDisk} (h : Inflated args disk.uri m) :
    (cleanupDisk p.noting args disk).Meets (.whole cells.left.get) (fun _ _ => True) (Lawful args) m := by
  unfold cleanupDisk
  cases hd : disk.isAllocated with
  | false =>
    have huri : disk.uri = "" := by simpa [PersistentDisk.isAllocated] using hd
    rw [huri] at h
    refine ⟨returns_ok _, fun w project zone name hw _ => removed_of_not_mem fun u n hn hmem => ?_, h.shadow_lawful⟩
    have hmain := mem_mainNotes hw hn hmem
    rw [h.main.none_run] at hmain
    cases hmain
  | true =>
    have huri : disk.uri ≠ "" := by simpa [PersistentDisk.isAllocated] using hd
    have hkept : disk.uri = args.diskUri := by
      cases h.main with
      | nothing notes none => exact absurd none huri
      | ran i args_eq workflow notes le kept => exact kept
    refine Meets.bind (Meets.weaken id (fun {r m'} hcall => ?_)
      (noting_whole (c := .delete args.project args.zone disk.uri) (hp.deleteDisk ..)))
    obtain ⟨⟨answer, rfl⟩, hle, t, hseen⟩ := hcall
    rw [hkept] at h hseen
    have h' : Inflated args args.diskUri m' := h.of_call rfl (by simp [DiskCall.byShadow]) hseen hle
    have hlaw : DisksLaw args m'.state.seen m'.now :=
      { inflated := fun w project zone name =>
          h'.main.removed hid hseen (fun u w' hn => by simp at hn) (List.mem_cons_self ..)
        shadow := h'.shadow_lawful }
    cases answer with
    | ok u => exact ⟨returns_ok _, hlaw⟩
    | error e =>
      have hreport : (p.noting.reportError ("Failed to remove temporary disk " ++ disk.uri ++ ": " ++ e.text)).Calm
          cells.left.get := .update (hp.log _ _)
      show Meets _ _ _ (if (!e.isNotFound) = true then _ else _) m'
      split
      · exact lawful_of_calm (Calm.bind hreport fun _ => .done _) hlaw
      · exact ⟨returns_ok _, hlaw⟩

include hcells

theorem runValidated_meets (ctx : RunContext) (hm : m.state.seen = []) :
    ((importerOf p cells args source inspection).runValidated ctx).Meets (.whole cells.left.get) (fun _ _ => True)
      (Lawful args) m := by
  refine Meets.bind (Meets.weaken id (fun {r m'} h => ?_) (runStages_meets hp hcells hid ctx hm))
  obtain ⟨⟨progress, result⟩, rfl, hknown⟩ := h
  refine Meets.bind (Meets.weaken id (fun {r m''} h => ?_) (cleanupDisk_meets hp hid hknown))
  obtain ⟨⟨outcome, rfl⟩, hlaw⟩ := h
  have hreport : ((importerOf p cells args source inspection).reportOutcome result).Calm cells.left.get := by
    cases result with
    | ok u => exact .done _
    | error e => exact .update (hp.log _ _)
  exact lawful_of_calm (Calm.bind hreport fun _ => fun _ => ⟨⟨rfl, rfl⟩, returns_ok _⟩) hlaw

omit hid hcells in
/-- The check of the arguments asks for nothing but an image. -/
theorem validate_calm :
    (Preflight.validate p.noting (Preflight.defaultRules p.noting) args).Calm cells.left.get := by
  have hrules : ∀ (rules : List (Preflight.Rule (Watched υ DiskNote))) (report : Preflight.Report),
      (∀ rule ∈ rules, (rule.check args).Calm cells.left.get) →
        (Preflight.reportOnto args rules report).Calm cells.left.get := by
    intro rules
    induction rules with
    | nil => exact fun report _ => .done report
    | cons rule rest ih =>
      intro report h
      obtain ⟨hfirst, hrest⟩ := List.forall_mem_cons.mp h
      exact Calm.bind hfirst fun _ => ih _ hrest
  refine Calm.bind (hrules _ _ fun rule hmem => ?_) fun report => ?_
  · simp only [Preflight.defaultRules, List.mem_cons, List.not_mem_nil, or_false] at hmem
    rcases hmem with rfl | rfl | rfl | rfl
    · exact .done _
    · show (Preflight.checkAvailable p.noting args).Calm _
      unfold Preflight.checkAvailable
      split
      · exact .done _
      · exact Calm.bind (hp.getImage ..) fun _ => .done _
    · exact .done _
    · exact .done _
  · show (if report.canProceed = true then _ else _ : Activity _ _).Calm _
    split
    · exact .done _
    · exact Calm.bind (.update (hp.log _ _)) fun _ => .done _

/-- **A run of an import.** -/
theorem run_meets (cancelledAt : Option Nat) (deadlineFirst : Nat → Bool) (hm : m.state.seen = []) :
    ((importerOf p cells args source inspection).run cancelledAt deadlineFirst).Meets (.whole cells.left.get)
      (fun _ _ => True) (Lawful args) m := by
  have hstays : Stable (Unnoted cells.left.get) fun m' : Moment (Watched υ DiskNote) => m'.state.seen = [] :=
    fun hx hu _ => hu.1.trans hx
  refine Meets.clock_bind (Meets.bind (Quiet.meets_unnoted Terms.allows_whole hstays hstays (fun _ => trivial)
    (fun {r m'} hx hr => ?_) (validate_calm hp) hm))
  obtain ⟨verdict, rfl⟩ := hr
  cases verdict with
  | error e =>
    refine ⟨returns_ok _, ?_⟩
    rw [show m'.state.seen = [] from hx]
    exact .of_nil
  | ok u => exact runValidated_meets hp hcells hid _ hx

omit hid hcells in
/-- The source is resolved and looked at, and nothing is changed. -/
theorem choose_calm (source : Source) :
    (cells.watched.inflation.choose p.noting args source).Quiet (Unnoted cells.left.get) fun r =>
      ∃ inspection, r = .ok (cells.watched.inflation.inflaterFor p.noting args source inspection) := by
  have hinspect : (InflationCells.inspectSource p.noting source).Calm cells.left.get := by
    cases source with
    | image reference => exact .done _
    | file path =>
      refine Calm.bind (hp.inspect path) fun report => ?_
      cases report with
      | ok inspection => exact .done _
      | error e => exact Calm.bind (.update (hp.log _ _)) fun _ => .done _
  exact Always.bind hinspect (fun {inspection} _ => ⟨inspection, rfl⟩) fun h => absurd h not_returns

-- whether an activity is calm is found out by unfolding it, and here that would take too long
seal Source.resolve

omit hid hcells in
theorem resolve_calm (sourceFile sourceImage : String) :
    (Source.resolve p.noting sourceFile sourceImage).Calm cells.left.get := by
  have hfile : ∀ path, (Source.ofFile p.noting path).Calm cells.left.get := by
    intro path
    unfold Source.ofFile
    cases Source.parseStoragePath path with
    | error e => exact .done _
    | ok place => exact Calm.andThen (Calm.mapFault (hp.openReader _ _)) fun _ => .done _
  unfold Source.resolve
  generalize Text.trim sourceFile = path
  generalize Text.trim sourceImage = reference
  dsimp only
  split
  · exact .done _
  · split
    · exact .done _
    · split
      · exact hfile _
      · exact .done _

/-- **An import from its arguments to its metrics.** -/
theorem perform_meets (cancelledAt : Option Nat) (deadlineFirst : Nat → Bool) (hm : m.state.seen = []) :
    (Importer.perform p.noting cells.watched args cancelledAt deadlineFirst).Meets (.whole cells.left.get)
      (fun _ _ => True) (Lawful args) m := by
  have hstays : Stable (Unnoted cells.left.get) fun m' : Moment (Watched υ DiskNote) => m'.state.seen = [] :=
    fun hx hu _ => hu.1.trans hx
  have hassembled : (Importer.assemble p.noting cells.watched args).Quiet (Unnoted cells.left.get) fun r =>
      ∃ answer, r = .ok answer ∧ ∀ i, answer = .ok i → ∃ source inspection,
        i = importerOf p cells args source inspection := by
    unfold Importer.assemble Activity.andThen
    refine Always.bind (resolve_calm hp args.sourceFile args.sourceImage) (fun {answer} _ => ?_) fun h => absurd h not_returns
    cases answer with
    | error e => exact ⟨_, rfl, fun _ h => nomatch h⟩
    | ok source =>
      refine Always.bind (choose_calm hp source) (fun h => ?_) fun ⟨_, h⟩ => nomatch h
      obtain ⟨inspection, heq⟩ := h
      cases heq
      exact ⟨_, rfl, fun _ h => by cases h; exact ⟨source, inspection, rfl⟩⟩
  refine Meets.bind (Quiet.meets_unnoted Terms.allows_whole hstays hstays (fun _ => trivial) (fun {r m'} hx hr => ?_)
    hassembled hm)
  obtain ⟨answer, rfl, hi⟩ := hr
  cases answer with
  | error e =>
    refine ⟨returns_ok _, ?_⟩
    rw [show m'.state.seen = [] from hx]
    exact .of_nil
  | ok i =>
    obtain ⟨source, inspection, rfl⟩ := hi i rfl
    refine Meets.bind (Meets.weaken id (fun {r m''} h => ?_) (run_meets hp hcells hid cancelledAt deadlineFirst hx))
    obtain ⟨⟨report, rfl⟩, hlaw⟩ := h
    exact ⟨returns_ok _, hlaw⟩

end Whole

end ImageImport
