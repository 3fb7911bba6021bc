/-
# Which way to inflate

Every source is inflated by a worker (`new_inflater`).  A file is inspected first (`inspect_file`), so that
the worker's disks get the right size; when the inspection fails, the disks get the smallest one.  When the
format of the file is one that the compute service reads itself, the compute service inflates it too, as a
shadow.
-/
import ImageImport.Inflation.Direct
import ImageImport.Inflation.Shadowed

namespace ImageImport

/-- Where the inflations of an import keep their state. -/
structure InflationCells (σ : Type) where
  worker : Cell σ WorkerState
  direct : Cell σ DirectState
  mainFinished : Cell σ Bool

namespace InflationCells

variable {σ : Type}

/-- The format that the compute service reads itself. -/
def directFormat : String := "vmdk"

/-- Inspect a file; without a report the import goes on. -/
def inspectFile (p : Platform σ) (path : String) : Activity σ (Option Inspection) := do
  match ← p.inspect path with
  | .ok inspection => return some inspection
  | .error e =>
    p.warn ("⚠️ File inspection failed for " ++ path ++ ", using default disk sizes: " ++ e.message)
    return none

/-- What is known of the source before inflation. -/
def inspectSource (p : Platform σ) : Source → Activity σ (Option Inspection)
  | .file path => inspectFile p path
  | .image _ => return none

/-- The worker's inflation. -/
def byWorker (cells : InflationCells σ) (p : Platform σ) (args : Arguments) (source : Source)
    (inspection : Option Inspection) : WorkerInflation σ :=
  { args, source, inspection, platform := p, cell := cells.worker }

/-- The compute service's inflation. -/
def byService (cells : InflationCells σ) (p : Platform σ) (args : Arguments) (sourceFile : String) :
    DirectInflation σ :=
  { args, sourceFile, platform := p, cell := cells.direct }

/-- Both together, as long as they may take. -/
def shadowed (cells : InflationCells σ) (p : Platform σ) (args : Arguments) (source : Source)
    (inspection : Option Inspection) : ShadowedInflation σ where
  main := (cells.byWorker p args source inspection).inflater
  shadow := (cells.byService p args source.path).inflater
  platform := p
  mainFinished := cells.mainFinished

/-- A shadow can run. -/
def allowsShadow (source : Source) (inspection : Option Inspection) : Bool :=
  source.isFile && inspection.any fun i => i.fileFormat == directFormat

/-- The inflater for what is known. -/
def inflaterFor (cells : InflationCells σ) (p : Platform σ) (args : Arguments) (source : Source)
    (inspection : Option Inspection) : Inflater σ :=
  if allowsShadow source inspection then (cells.shadowed p args source inspection).inflater
  else (cells.byWorker p args source inspection).inflater

/-- **The inflater for a source.** -/
def choose (cells : InflationCells σ) (p : Platform σ) (args : Arguments) (source : Source) :
    Activity σ (Inflater σ) := do
  let inspection ← inspectSource p source
  return cells.inflaterFor p args source inspection

end InflationCells

end ImageImport
