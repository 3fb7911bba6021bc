/-
# An import

One import (`Importer::run`) is a pre-flight check, an inflation, and a chain of processors that depends on
the inflated disk (`run_stages`).  Inflation and processors run as guarded steps under one context; the first
failure ends the chain.  Whatever happened, the disk that is known last is deleted at the end (`cleanup_disk`),
and the metrics say what was collected on the way.

The tasks of the steps also note what they leave in the shared state, because a cancel may discard an outcome:
the disk of an inflation must still be known, and so must what a processor has reported.
-/
import ImageImport.Inflation.Choice
import ImageImport.Preflight.Rules
import ImageImport.Processing.Chain

namespace ImageImport

/-! ## 1. Deleting the disk -/

/-- What became of the disk in the end. -/
inductive CleanupOutcome where
  | skipped
  | deleted
  | alreadyGone
  | failed
  deriving DecidableEq

variable {σ : Type}

/-- What the answer to a deletion means. -/
def CleanupOutcome.ofAnswer : Except ApiError Unit → CleanupOutcome
  | .ok () => deleted
  | .error e => if e.isNotFound then alreadyGone else failed

/-- **Delete the disk**, if there is one. -/
def cleanupDisk (p : Platform σ) (args : Arguments) (disk : PersistentDisk) :
    Activity σ CleanupOutcome :=
  if !disk.isAllocated then .done .skipped
  else do
    let answer ← p.deleteDisk args.project args.zone disk.uri
    match answer with
    | .error e =>
      if !e.isNotFound then
        p.reportError ("Failed to remove temporary disk " ++ disk.uri ++ ": " ++ e.text)
    | .ok () => pure ()
    return .ofAnswer answer

/-! ## 2. The stages -/

/-- **What the task of a stage has recorded**: what an inflation leaves, or the metrics a processor gives back. -/
structure Recorded where
  inflation : Inflation := {}
  metrics : Metrics := .empty

/-- **Everything one import is put together from.**  The cell holds what the task of a stage has
recorded. -/
structure Importer (σ : Type) where
  args : Arguments
  platform : Platform σ
  inflater : Inflater σ
  provider : ProcessorProvider σ
  validator : Preflight.Validator σ
  left : Cell σ Recorded

/-- What has been collected so far: the metrics, the disk that is known last, and the diagnostic lines. -/
structure Progress where
  metrics : Metrics := .empty
  disk : PersistentDisk := .unknown
  traceLogs : List String := []

namespace Progress

/-- More diagnostic lines. -/
def addLogs (p : Progress) (logs : List String) : Progress :=
  { p with traceLogs := p.traceLogs ++ logs }

/-- What inflation left: its disk, and its fields when they say anything. -/
def addInflation (p : Progress) (left : Inflation) : Progress :=
  { p with
    disk := left.disk
    metrics := if left.fields.inflationType.isEmpty then p.metrics
      else p.metrics.setInflation left.fields }

/-- The metrics in the end. -/
def finish (p : Progress) : Metrics := (p.metrics.setDisk p.disk).setTraceLogs p.traceLogs

end Progress

namespace Importer

/-- How far the stages came, and whether they all succeeded. -/
abbrev Stages := Progress × Except ImportError Unit

/-- The inflation, noting what it leaves. -/
def notedInflation (i : Importer σ) : Activity σ (Except InflationFailure Inflation) := do
  let result ← i.inflater.inflate
  .update (i.left.set { inflation := .left result })
  return result

/-- The work of a processor, noting the metrics it gives back. -/
def notedProcess (left : Cell σ Recorded) (processor : Processor σ) (disk : PersistentDisk) (m : Metrics) :
    Activity σ (Except ImportError PersistentDisk) := do
  let (metrics, result) ← processor.process disk m
  .update (left.set { metrics })
  return result

/-- **One processor** under the context: its outcome, its diagnostic lines, and the metrics it leaves, which are
those it was handed if its work does not come back. -/
def runProcessor (left : Cell σ Recorded) (ctx : RunContext) (processor : Processor σ) (disk : PersistentDisk)
    (m : Metrics) : Activity σ ((Except ImportError PersistentDisk × List String) × Metrics) := do
  .update (left.set { metrics := m })
  let ended ← runStep ctx processor.toStep id (notedProcess left processor disk m)
  return (ended, (← Activity.read left.get).metrics)

/-- **The processors in order**, each on the disk and the metrics the one before it handed on. -/
def runProcessors (left : Cell σ Recorded) (ctx : RunContext) :
    List (Processor σ) → Progress → Activity σ Stages
  | [], p => .done (p, .ok ())
  | processor :: rest, p => do
    let ((outcome, logs), metrics) ← runProcessor left ctx processor p.disk p.metrics
    match outcome with
    | .error e => return ({ p.addLogs logs with metrics }, .error e)
    | .ok disk => runProcessors left ctx rest { p.addLogs logs with metrics, disk }

/-- The chain for an inflated disk. -/
def runChain (i : Importer σ) (ctx : RunContext) (p : Progress) : Activity σ Stages := do
  match ← i.provider p.disk p.metrics with
  | (metrics, .error e) => return ({ p with metrics }, .error e)
  | (metrics, .ok processors) => runProcessors i.left ctx processors { p with metrics }

/-- **Inflation and then the chain.** -/
def runStages (i : Importer σ) (ctx : RunContext) : Activity σ Stages := do
  .update (i.left.set {})
  let (outcome, logs) ← runStep ctx i.inflater.toStep .ofError i.notedInflation
  let left ← Activity.read i.left.get
  let p := (Progress.addLogs {} logs).addInflation left.inflation
  match outcome with
  | .error failure => return (p, .error failure.error)
  | .ok inflation => i.runChain ctx { p with disk := inflation.disk }

/-! ## 3. The whole -/

/-- The log says when an import has failed. -/
def reportOutcome (i : Importer σ) : Except ImportError Unit → Activity σ Unit
  | .ok () => .done ()
  | .error e =>
    i.platform.reportError ("❌ Import " ++ i.args.executionId ++ " failed: " ++ e.message)

/-- The stages, the deletion of the disk, and the metrics. -/
def runValidated (i : Importer σ) (ctx : RunContext) :
    Activity σ (Metrics × Except ImportError Unit) := do
  let (progress, result) ← i.runStages ctx
  let _ ← cleanupDisk i.platform i.args progress.disk
  i.reportOutcome result
  return (progress.finish.build (.ofMillis (← Activity.clock)), result)

/-- **Run the import.**  The caller may cancel at an instant; what a wait notices where the deadline is past as
well is picked by `deadlineFirst`.  Arguments that are refused leave nothing behind. -/
def run (i : Importer σ) (cancelledAt : Option Nat) (deadlineFirst : Nat → Bool := fun _ => false) :
    Activity σ (Metrics × Except ImportError Unit) := do
  let ctx := RunContext.starting (← Activity.clock) i.args.timeout cancelledAt deadlineFirst
  match ← i.validator i.args with
  | .error e => return (.empty, .error e)
  | .ok () => i.runValidated ctx

/-! ## 4. Putting it together -/

/-- Where an import keeps its state. -/
structure Cells (σ : Type) where
  inflation : InflationCells σ
  translation : Cell σ TranslationState
  left : Cell σ Recorded

/-- The importer of a resolved source. -/
def ofInflater (p : Platform σ) (cells : Cells σ) (args : Arguments) (inflater : Inflater σ) :
    Importer σ where
  args
  platform := p
  inflater
  provider := provide p args cells.translation
  validator := Preflight.validate p (Preflight.defaultRules p)
  left := cells.left

/-- **Resolve the source and put the import together.** -/
def assemble (p : Platform σ) (cells : Cells σ) (args : Arguments) :
    Activity σ (Except ImportError (Importer σ)) :=
  (Source.resolve p args.sourceFile args.sourceImage).andThen fun source => do
    return .ok (ofInflater p cells args (← cells.inflation.choose p args source))

end Importer

end ImageImport
