/-
# Translation of the guest

The plan names a workflow that prepares the guest and creates the image (`BootableDiskProcessor`).  It is read
from its file and bound to the import (`prepare_workflow`): to its project, zone and timeout, to the disk, and
to those arguments for which it declares a variable.  All else stays as the file has it.
-/
import ImageImport.Arguments
import ImageImport.Cell
import ImageImport.Platform.Services
import ImageImport.Serial
import ImageImport.Step
import ImageImport.Workflow.Document
import ImageImport.Workflow.Soundness

namespace ImageImport

/-! ## 1. Binding the workflow -/

/-- The name every translation runs under. -/
def translationName : String := "image-import"

namespace Arguments

/-- The arguments a workflow may declare variables for. -/
def optionalVars (a : Arguments) : List (String × String) := [
  ("image_name", a.imageName),
  ("install_gce_packages", if a.noGuestEnvironment then "false" else "true"),
  ("sysprep", if a.sysprepWindows then "true" else "false"),
  ("family", a.family),
  ("description", a.description),
  ("import_network", a.network),
  ("import_subnet", a.subnet),
  ("compute_service_account", a.computeServiceAccount)]

end Arguments

namespace Workflow

/-- Set a variable if it is declared. -/
def setDeclared (w : Workflow) (name value : String) : Workflow :=
  if w.vars.contains name then w.addVar name value else w

/-- The workflow in the place of the import. -/
def placed (w : Workflow) (a : Arguments) : Workflow :=
  { w with
    name := translationName
    project := some a.project
    zone := some a.zone
    defaultTimeout := (a.timeout.map Duration.format).or w.defaultTimeout
    labels := w.labels.extend a.labels
    storageLocation := (Arguments.nonEmpty a.storageLocation).or w.storageLocation }

/-- **The workflow bound to an import and its disk.** -/
def bound (w : Workflow) (a : Arguments) (disk : PersistentDisk) : Workflow :=
  a.optionalVars.foldl (fun w v => w.setDeclared v.1 v.2) ((w.placed a).addVar "source_disk" disk.uri)

end Workflow

/-- **The workflow of a file, bound and sound.** -/
def prepareTranslation (files : Files) (a : Arguments) (path : String) (disk : PersistentDisk) :
    Except WorkflowError Workflow :=
  match Workflow.load files (Path.join a.workflowDir path) with
  | .error e => .error e
  | .ok w =>
    let bound := w.bound a disk
    match bound.validate with
    | .error e => .error e
    | .ok () => (bound.checkIncludes files).map fun () => bound

/-! ## 2. The step -/

/-- What one translation keeps: whether it was cancelled and what its workers printed. -/
structure TranslationState where
  isCancelled : Bool := false
  console : SerialConsole := .empty
  deriving DecidableEq

/-- A translation by the workflow of a path. -/
structure Translation (σ : Type) where
  args : Arguments
  path : String
  platform : Platform σ
  cell : Cell σ TranslationState

namespace Translation

variable {σ : Type}

/-- Record a line of a worker. -/
def record (t : Translation σ) (inst line : String) : σ → σ :=
  t.cell.modify fun s => { s with console := s.console.record inst line }

/-- **Translate a disk.**  It is handed on as it came. -/
def process (t : Translation σ) (disk : PersistentDisk) :
    Activity σ (Except ImportError PersistentDisk) :=
  match prepareTranslation t.platform.files t.args t.path disk with
  | .error e => .done (.error (.workflow e))
  | .ok workflow =>
    ((t.platform.runWorkflow workflow (fun s => (t.cell.get s).isCancelled) t.record).mapFault
      .workflow).andThen fun () => .done (.ok disk)

theorem process_of_error {t : Translation σ} {disk : PersistentDisk} {e : WorkflowError}
    (h : prepareTranslation t.platform.files t.args t.path disk = .error e) :
    t.process disk = .done (.error (.workflow e)) := by rw [process, h]

theorem process_of_ok {t : Translation σ} {disk : PersistentDisk} {w : Workflow}
    (h : prepareTranslation t.platform.files t.args t.path disk = .ok w) :
    t.process disk = ((t.platform.runWorkflow w (fun s => (t.cell.get s).isCancelled) t.record).mapFault
      .workflow).andThen fun () => .done (.ok disk) := by rw [process, h]

/-- A cancel reaches the workflow. -/
def cancel (t : Translation σ) : Activity σ Bool :=
  .exchange fun s => (true, t.cell.modify (fun s => { s with isCancelled := true }) s)

/-- The step.  It has nothing to report. -/
def processor (t : Translation σ) : Processor σ where
  kind := .bootableDisk
  cancel _ := t.cancel
  traceLogs s := (t.cell.get s).console.logs
  process disk m := unreported m (t.process disk)

end Translation

end ImageImport
