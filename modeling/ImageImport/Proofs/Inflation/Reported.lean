/-
# What an inflation by a worker hands back

The worker says on its serial console how large the disk has become, and what the file was.  It may say so never, or
several times, or say something that is no size; `Reports`, `Sized` and `Worded` are what is made of that.

Main statement: `inflate_hands_back`, over all arguments, sources and inspections, and over every run.  There is always
a workflow, and the engine is called with it once (`HandsBack`).  If the workflow fails, the disk is handed back by its
reference and with the error; if not, the disk is what the console describes (`Described`), and nothing else is
(`described_iff`).
-/
import ImageImport.Proofs.Inflation.Soundness
import ImageImport.Proofs.Processing.Translation
import ImageImport.Proofs.Serial
import ImageImport.Proofs.Text.Digits

namespace ImageImport

open Activity

/-! ## 1. What is reported -/

namespace SerialConsole

variable {console : SerialConsole} {key text : String} {gib fallback : Int64}

/-- **A size is reported last** under a key: its digits, with or without a sign, and blanks around them or none. -/
def ReportsSize (console : SerialConsole) (key : String) (gib : Int64) : Prop :=
  ∃ text, console.Reports key text ∧ Text.Spells (Text.trimChars text.toList) gib.toInt

/-- **A size as it is reported**, or another one where what is reported last is no size. -/
inductive Sized (console : SerialConsole) (key : String) (fallback : Int64) : Int64 → Prop where
  | reported {gib : Int64} (size : console.ReportsSize key gib) : Sized console key fallback gib
  | unreported (none : ∀ gib, ¬ console.ReportsSize key gib) : Sized console key fallback fallback

/-- **A text as it is reported**, or the empty one. -/
inductive Worded (console : SerialConsole) (key : String) : String → Prop where
  | reported {text : String} (words : console.Reports key text) : Worded console key text
  | unreported (none : ∀ text, ¬ console.Reports key text) : Worded console key ""

theorem reportsSize_iff : console.ReportsSize key gib ↔ WorkerInflation.reportedGib console key = some gib := by
  simp only [ReportsSize, WorkerInflation.reportedGib, Option.bind_eq_some_iff, value?_eq_some_iff,
    Text.int64?_eq_some_iff]

/-- **There is one such size.** -/
theorem sized_iff :
    console.Sized key fallback gib ↔ gib = (WorkerInflation.reportedGib console key).getD fallback := by
  constructor
  · intro h
    cases h with
    | reported size => rw [reportsSize_iff.mp size, Option.getD_some]
    | unreported none =>
      have hnone : WorkerInflation.reportedGib console key = .none :=
        Option.eq_none_iff_forall_ne_some.mpr fun gib h => none gib (reportsSize_iff.mpr h)
      rw [hnone, Option.getD_none]
  · rintro rfl
    cases hreported : WorkerInflation.reportedGib console key with
    | some gib => exact .reported (reportsSize_iff.mpr hreported)
    | none =>
      refine .unreported fun gib h => ?_
      rw [reportsSize_iff, hreported] at h
      cases h

/-- **There is one such text.** -/
theorem worded_iff : console.Worded key text ↔ text = (console.value? key).getD "" := by
  constructor
  · intro h
    cases h with
    | reported words => rw [value?_eq_some_iff.mpr words, Option.getD_some]
    | unreported none =>
      have hnone : console.value? key = .none :=
        Option.eq_none_iff_forall_ne_some.mpr fun text h => none text (value?_eq_some_iff.mp h)
      rw [hnone, Option.getD_none]
  · rintro rfl
    cases hvalue : console.value? key with
    | some text => exact .reported (value?_eq_some_iff.mp hvalue)
    | none =>
      refine .unreported fun text h => ?_
      rw [← value?_eq_some_iff, hvalue] at h
      cases h

end SerialConsole

/-! ## 2. What is handed back -/

namespace WorkerInflation

/-- The size of a disk of which nothing is reported. -/
def sizeUnreported : Option Inspection → Int64
  | none => 10
  | some inspection => max inspection.virtualSizeGb 10

/-- Where the disk is. -/
def place (a : Arguments) : String := "zones/" ++ a.zone ++ "/disks/disk-" ++ a.executionId

/-- **The disk as the console describes it.**  Of an image nothing but the size is asked. -/
inductive Described (a : Arguments) (inspection : Option Inspection) (console : SerialConsole) :
    Source → PersistentDisk → Prop where
  | file {path sourceType : String} {sizeGb sourceGb : Int64}
      (size : console.Sized "target-size-gb" (sizeUnreported inspection) sizeGb)
      (sourceSize : console.Sized "source-size-gb" 0 sourceGb)
      (format : console.Worded "import-file-format" sourceType) :
      Described a inspection console (.file path) { uri := place a, sizeGb, sourceGb, sourceType }
  | image {reference : String} {sizeGb : Int64}
      (size : console.Sized "target-size-gb" (sizeUnreported inspection) sizeGb) :
      Described a inspection console (.image reference) { uri := place a, sizeGb, sourceGb := 0, sourceType := "image" }

section Describing

variable {σ : Type} {i : WorkerInflation σ} {console : SerialConsole} {disk : PersistentDisk}

theorem place_eq (a : Arguments) : place a = a.diskUri := by
  have hname : "/disks/disk-" = "/disks/" ++ "disk-" := by decide
  rw [place, Arguments.diskUri, Arguments.diskName, Resource.zonalDiskUri, hname]
  simp only [String.append_assoc]

theorem sizeUnreported_eq (inspection : Option Inspection) :
    sizeUnreported inspection = DiskSize.inflated inspection := by
  cases inspection with
  | none => decide
  | some inspection => rfl

/-- **The console describes one disk.** -/
theorem described_iff : Described i.args i.inspection console i.source disk ↔ disk = i.describedDisk console := by
  constructor
  · intro h
    unfold describedDisk
    rw [← place_eq, ← sizeUnreported_eq]
    generalize i.source = source at h
    cases h with
    | file size sourceSize format =>
      rw [SerialConsole.sized_iff] at size sourceSize
      rw [SerialConsole.worded_iff] at format
      rw [size, sourceSize, format]
    | image size =>
      rw [SerialConsole.sized_iff] at size
      rw [size]
  · rintro rfl
    unfold describedDisk
    rw [← place_eq, ← sizeUnreported_eq]
    cases i.source with
    | file path =>
      exact .file (SerialConsole.sized_iff.mpr rfl) (SerialConsole.sized_iff.mpr rfl)
        (SerialConsole.worded_iff.mpr rfl)
    | image reference => exact .image (SerialConsole.sized_iff.mpr rfl)

end Describing

/-- **An inflation that has come to an end**, by its workflow: what is heard of the engine, and how it ends. -/
inductive HandsBack (a : Arguments) (source : Source) (inspection : Option Inspection) (start : Nat) (w : Workflow)
    (console : SerialConsole) : Translation.RunHistory → Except Crash (Except InflationFailure Inflation) → Prop where
  | failed {e : WorkflowError} {t : Nat} :
      HandsBack a source inspection start w console [(start, .called w), (t, .answered (.ok (.error e)))]
        (.ok (.error {
          disk := { uri := place a }
          fields := { inflationType := "qemu", inflationTime := .ofMillis (t - start), checksum := "" }
          error := .workflow e }))
  | inflated {disk : PersistentDisk} {checksum : String} {t : Nat}
      (described : Described a inspection console source disk) (summed : console.Worded "disk-checksum" checksum) :
      HandsBack a source inspection start w console [(start, .called w), (t, .answered (.ok (.ok ())))]
        (.ok (.ok { disk, fields := { inflationType := "qemu", inflationTime := .ofMillis (t - start), checksum } }))
  | crashed {why : Crash} {t : Nat} :
      HandsBack a source inspection start w console [(start, .called w), (t, .answered (.error why))] (.error why)

/-- What has become of the workflow says what is handed back. -/
theorem handsBack_outcome {σ : Type} (i : WorkerInflation σ) (start t : Nat) (w : Workflow) (console : SerialConsole)
    (ran : Except WorkflowError Unit) :
    HandsBack i.args i.source i.inspection start w console [(start, .called w), (t, .answered (.ok ran))]
      (.ok (i.outcome ran (.ofMillis (t - start)) console)) := by
  cases ran with
  | error e =>
    rw [outcome, ← place_eq]
    exact .failed
  | ok ended => exact .inflated (described_iff.mpr rfl) (SerialConsole.worded_iff.mpr rfl)

/-! ## 3. The run -/

section Running

variable {υ : Type}

/-- **What a run comes to**, with the console as it is at the end. -/
def HandedBack (a : Arguments) (source : Source) (inspection : Option Inspection) (cell : Cell υ WorkerState)
    (start : Nat) (w : Workflow) :
    Ending (Watched υ Translation.RunNote) (Except InflationFailure Inflation) → Prop
  | .returned r last =>
    HandsBack a source inspection start w (cell.get last.state.state).console last.state.seen (.ok r)
  | .crashed why last =>
    HandsBack a source inspection start w (cell.get last.state.state).console last.state.seen (.error why)
  | .stalled last => Translation.Awaits start (.ok w) last

/-- **The inflation**: what its workflow has come to is what it hands back. -/
theorem inflateWith_meets (p : Platform υ) (args : Arguments) (source : Source) (inspection : Option Inspection)
    (cell : Cell υ WorkerState) (w : Workflow) {m : Moment (Watched υ Translation.RunNote)} (hm : m.state.seen = []) :
    (inflateWith { args, source, inspection, platform := Translation.running p.watched, cell := Watched.part cell }
      w).Meets Translation.terms (fun _ => Translation.Awaits m.now (.ok w))
      (fun r m' => HandsBack args source inspection m.now w (cell.get m'.state.state).console m'.state.seen r) m := by
  let i : WorkerInflation (Watched υ Translation.RunNote) :=
    { args, source, inspection, platform := Translation.running p.watched, cell := Watched.part cell }
  refine Meets.clock_bind (Meets.bind (Meets.weaken id (fun {r m'} hseen => ?_)
    (Translation.runWorkflow_meets p w (fun s => (i.cell.get s).isCancelled) i.record hm)))
  cases r with
  | error why => exact hseen ▸ .crashed
  | ok ran =>
    refine Meets.update_bind trivial (Meets.clock_bind (Meets.read_bind (Meets.pure ?_)))
    -- that it is over is neither on the console nor noted
    have hends := handsBack_outcome i m.now m'.now w
      (i.cell.get (i.cell.modify (fun s => { s with finished := true }) m'.state)).console ran
    rw [← hseen] at hends
    exact hends

/-- **An inflation by a worker hands back what the worker reports.**  Whatever the arguments and the source, there is a
workflow, the engine is called with it once, and what comes of it is handed back; a checksum has its workflow as well.
The notes of the engine change nothing. -/
theorem inflate_hands_back (p : Platform υ) (args : Arguments) (source : Source) (inspection : Option Inspection)
    (cell : Cell υ WorkerState) (m : Moment υ) :
    let i : WorkerInflation (Watched υ Translation.RunNote) :=
      { args, source, inspection, platform := Translation.running p.watched, cell := Watched.part cell }
    let watched := i.inflate.attended.run ⟨m.now, ⟨m.state, []⟩⟩
    (∃ w, i.workflow = .ok w ∧ HandedBack args source inspection cell m.now w watched) ∧
      Ending.Alike Watched.state Eq watched
        ((inflate { args, source, inspection, platform := p, cell }).attended.run m) ∧
      ∀ d : DirectInflation υ, ∃ w, d.checksumWorkflow = .ok w := by
  intro i watched
  let start : Moment (Watched υ Translation.RunNote) := ⟨m.now, ⟨m.state, []⟩⟩
  obtain ⟨w, hw⟩ := i.exists_workflow
  have hinflate : i.inflate = i.inflateWith w := by rw [inflate, hw]
  have hmeets := inflateWith_meets p args source inspection cell w (m := start) rfl
  rw [← hinflate] at hmeets
  have hsat : watched.Sat _ _ := Meets.run_attended (Terms.whole_closed _ _) hmeets
  have hcell : Cell.Mirrors Watched.state (Watched.part cell : Cell (Watched υ Translation.RunNote) _) cell :=
    ⟨fun _ => rfl, fun _ _ => rfl⟩
  have hsame := workerInflate_mirrors (Translation.running_mirrors p) args source inspection hcell
  refine ⟨⟨w, hw, ?_⟩, Mirrors.run_attended hsame start, fun d => d.exists_checksumWorkflow⟩
  cases hrun : watched with
  | returned r last =>
    rw [hrun] at hsat
    exact hsat
  | crashed why last =>
    rw [hrun] at hsat
    exact hsat
  | stalled last =>
    rw [hrun] at hsat
    obtain ⟨_, hwaits, -⟩ := hsat
    exact hwaits

end Running

end WorkerInflation

end ImageImport
