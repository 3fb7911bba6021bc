/-
# A platform that follows a script

An import can be rehearsed on a platform that exists only as data: the disks and images it holds, the
objects that can be read, what an inspector will say, what each workflow will do, how long calls take
and which of them fail.  The world keeps every call in the order in which it came, so that a rehearsal
shows what an import would ask for.

A call is noted first; then it takes its time; then it fails if its script says so; and only then does it
have an effect.
-/
import ImageImport.Cell
import ImageImport.Platform.Services
import ImageImport.Resource

namespace ImageImport.Rehearsal

/-! ## 1. Calls -/

/-- The calls that can be delayed and made to fail. -/
inductive Method where
  | createDisk
  | getDisk
  | deleteDisk
  | updateDiskMetadata
  | createImage
  | getImage
  | openReader
  | objectAttrs
  | inspect
  deriving DecidableEq

/-- The name of a method. -/
def Method.name : Method → String
  | createDisk => "create_disk"
  | getDisk => "get_disk"
  | deleteDisk => "delete_disk"
  | updateDiskMetadata => "update_disk_metadata"
  | createImage => "create_image"
  | getImage => "get_image"
  | openReader => "open_reader"
  | objectAttrs => "object_attrs"
  | inspect => "inspect"

/-- A call of the compute service as it was made. -/
inductive ComputeCall where
  | createDisk (project zone : String) (disk : Disk)
  | getDisk (project zone name : String)
  | deleteDisk (project zone disk : String)
  | updateDiskMetadata (project zone name : String) (update : DiskMetadataUpdate)
  | createImage (project : String) (image : Image)
  | getImage (project name : String)
  deriving DecidableEq

/-- A call of object storage as it was made. -/
structure StorageCall where
  method : Method
  bucket : String
  object : String
  deriving DecidableEq

/-! ## 2. The world -/

/-- An object in storage. -/
structure StoredObject where
  chunks : List Chunk := []
  size : UInt64 := 0

/-- **What a workflow will do**: print lines, take its time, print more lines, and fail or not.  One that is
not `cancellable` does not notice a cancel. -/
structure WorkflowScript where
  lines : List (String × String) := []
  delay : Nat := 0
  lateLines : List (String × String) := []
  cancellable : Bool := true
  error : Option WorkflowError := none

/-- **The platform as data.** -/
structure World where
  disks : Dict Disk := .empty
  images : Dict Image := .empty
  objects : Dict StoredObject := .empty
  inspections : Dict (Except ImportError Inspection) := .empty
  delays : Method → Nat := fun _ => 0
  faults : Method → List (Option ApiError) := fun _ => []
  scripts : Dict WorkflowScript := .empty
  compute : List ComputeCall := []
  storage : List StorageCall := []
  inspected : List String := []
  runs : List Workflow := []
  log : List (Severity × String) := []

namespace World

def noteCompute (c : ComputeCall) (w : World) : World := { w with compute := w.compute ++ [c] }

def noteStorage (c : StorageCall) (w : World) : World := { w with storage := w.storage ++ [c] }

def noteInspection (reference : String) (w : World) : World :=
  { w with inspected := w.inspected ++ [reference] }

def noteRun (workflow : Workflow) (w : World) : World := { w with runs := w.runs ++ [workflow] }

/-- The fault of the next call of a method. -/
def takeFault (m : Method) (w : World) : Option ApiError × World :=
  match w.faults m with
  | [] => (none, w)
  | fault :: rest => (fault, { w with faults := fun m' => if m' = m then rest else w.faults m' })

/-! ## 3. Effects -/

/-- Store a disk under its name. -/
def putDisk (disk : Disk) (w : World) : World := { w with disks := w.disks.insert disk.name disk }

/-- Store an image under its name. -/
def putImage (image : Image) (w : World) : World :=
  { w with images := w.images.insert image.name image }

/-- There is no such disk. -/
def noDisk (name : String) : ApiError := .notFound ("disk " ++ name ++ " not found")

/-- Look up what stands after the last slash. -/
def findDisk (reference : String) (w : World) : Except ApiError Disk × World :=
  match w.disks.find? (Resource.name reference) with
  | some disk => (.ok disk, w)
  | none => (.error (noDisk reference), w)

/-- Remove what stands after the last slash. -/
def removeDisk (reference : String) (w : World) : Except ApiError Unit × World :=
  let name := Resource.name reference
  if w.disks.contains name then (.ok (), { w with disks := w.disks.erase name })
  else (.error (noDisk reference), w)

/-- Replace the licenses and features of a disk. -/
def retagDisk (name : String) (update : DiskMetadataUpdate) (w : World) :
    Except ApiError Unit × World :=
  match w.disks.find? name with
  | some disk =>
    let tagged := { disk with licenses := update.licenses, guestOsFeatures := update.guestOsFeatures }
    (.ok (), { w with disks := w.disks.insert name tagged })
  | none => (.error (noDisk name), w)

/-- Look an image up. -/
def findImage (name : String) (w : World) : Except ApiError Image × World :=
  match w.images.find? name with
  | some image => (.ok image, w)
  | none => (.error (.notFound ("image " ++ name ++ " not found")), w)

/-- Look an object up. -/
def findObject (bucket object : String) (w : World) : Except ApiError StoredObject × World :=
  match w.objects.find? ("gs://" ++ bucket ++ "/" ++ object) with
  | some o => (.ok o, w)
  | none => (.error (.notFound "object not found"), w)

/-- What the inspector says. -/
def inspection (reference : String) (w : World) : Except ImportError Inspection :=
  (w.inspections.find? reference).getD
    (.error (.internal ("inspection of " ++ reference ++ " failed")))

/-- The disks of a step that outlive their workflow. -/
def keptDisks : WorkflowStep → List Disk
  | .createDisks ds => (ds.filter (·.noCleanup)).map (·.disk)
  | _ => []

/-- A workflow starts: its kept disks come to be. -/
def startWorkflow (workflow : Workflow) (w : World) : World :=
  (workflow.steps.entries.flatMap fun e => keptDisks e.2).foldl (fun w d => w.putDisk d)
    (w.noteRun workflow)

/-- A line of the log. -/
def writeLog (severity : Severity) (line : String) (w : World) : World :=
  { w with log := w.log ++ [(severity, line)] }

/-! ## 4. The calls as activities -/

variable {σ α : Type}

/-- **One call**: noted, delayed, failed or done. -/
def call (cell : Cell σ World) (m : Method) (note : World → World)
    (act : World → Except ApiError α × World) : Activity σ (Except ApiError α) := do
  let (fault, delay) ← Activity.exchange fun s =>
    let (fault, w) := (note (cell.get s)).takeFault m
    ((fault, w.delays m), cell.set w s)
  Activity.sleep delay
  match fault with
  | some e => return .error e
  | none => Activity.exchange fun s => ((act (cell.get s)).1, cell.set (act (cell.get s)).2 s)

/-- An inspection. -/
def inspectCall (cell : Cell σ World) (reference : String) :
    Activity σ (Except ImportError Inspection) :=
  ((call cell .inspect (noteInspection reference) fun w => (.ok (w.inspection reference), w)).mapFault
    .api).andThen fun said => .done said

/-- Lines of the instances of a workflow. -/
def printLines (record : String → String → σ → σ) (lines : List (String × String)) :
    Activity σ Unit :=
  .update fun s => lines.foldl (fun s l => record l.1 l.2 s) s

/-- A workflow was interrupted. -/
def interrupted (name : String) : Except WorkflowError Unit := .error (.cancelled (name ++ " interrupted"))

/-- **Follow the script of a workflow.** -/
def follow (script : WorkflowScript) (name : String) (isCancelled : σ → Bool)
    (record : String → String → σ → σ) : Activity σ (Except WorkflowError Unit) := do
  let noticed := fun s => script.cancellable && isCancelled s
  printLines record script.lines
  if ← Activity.read noticed then return interrupted name
  let due := (← Activity.clock) + script.delay
  Activity.sleepUnless noticed script.delay
  if (← Activity.read noticed) && decide ((← Activity.clock) < due) then return interrupted name
  printLines record script.lateLines
  match script.error with
  | some e => return .error e
  | none => return .ok ()

/-- Run a workflow. -/
def workflowRun (cell : Cell σ World) (workflow : Workflow) (isCancelled : σ → Bool)
    (record : String → String → σ → σ) : Activity σ (Except WorkflowError Unit) := do
  let script ← Activity.exchange fun s =>
    (((cell.get s).scripts.find? workflow.name).getD {}, cell.modify (startWorkflow workflow) s)
  follow script workflow.name isCancelled record

/-- **The platform of a world.** -/
def platform (cell : Cell σ World) (files : Files) : Platform σ where
  createDisk project zone disk :=
    call cell .createDisk (noteCompute (.createDisk project zone disk)) fun w => (.ok (), w.putDisk disk)
  getDisk project zone name :=
    call cell .getDisk (noteCompute (.getDisk project zone name)) (findDisk name)
  deleteDisk project zone disk :=
    call cell .deleteDisk (noteCompute (.deleteDisk project zone disk)) (removeDisk disk)
  updateDiskMetadata project zone name update :=
    call cell .updateDiskMetadata (noteCompute (.updateDiskMetadata project zone name update))
      (retagDisk name update)
  createImage project image :=
    call cell .createImage (noteCompute (.createImage project image)) fun w => (.ok (), w.putImage image)
  getImage project name :=
    call cell .getImage (noteCompute (.getImage project name)) (findImage name)
  openReader bucket object :=
    call cell .openReader (noteStorage ⟨.openReader, bucket, object⟩) fun w =>
      ((findObject bucket object w).1.map fun o => ⟨o.chunks⟩, w)
  objectSize bucket object :=
    call cell .objectAttrs (noteStorage ⟨.objectAttrs, bucket, object⟩) fun w =>
      ((findObject bucket object w).1.map (·.size), w)
  inspect := inspectCall cell
  runWorkflow := workflowRun cell
  log severity line := cell.modify (writeLog severity line)
  files := files

end World

end ImageImport.Rehearsal
