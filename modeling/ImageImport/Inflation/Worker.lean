/-
# Inflation by a worker

An image becomes a disk in one step (`WorkflowInflater`, `build_workflow`).  A file is converted by a worker
(`file_workflow`): it boots with a scratch disk for the file and writes the contents into the inflated disk,
which alone outlives the workflow.  What the worker reports on its serial console says how large the disk has
become and what the file was.

The workflow may be cancelled while it runs; once it has ended, with whatever outcome, a cancel is refused.
-/
import ImageImport.Arguments
import ImageImport.Cell
import ImageImport.Inflation.Sizes
import ImageImport.Resource
import ImageImport.Serial
import ImageImport.Source.Resolve
import ImageImport.Step
import ImageImport.Text.Number
import ImageImport.Workflow.Builder

namespace ImageImport

/-! ## 1. Names -/

namespace Arguments

/-- The name of the inflated disk. -/
def diskName (a : Arguments) : String := "disk-" ++ a.executionId

/-- The reference of the inflated disk. -/
def diskUri (a : Arguments) : String := Resource.zonalDiskUri a.zone a.diskName

end Arguments

/-- The image workers boot from. -/
def workerImage : String := "projects/compute-image-tools/global/images/family/debian-11-worker"

/-- The type of every disk an import creates. -/
def solidState : String := "pd-ssd"

/-! ## 2. State -/

/-- **What one inflation by a worker keeps**: whether it was cancelled, what the worker printed, and
whether it is over. -/
structure WorkerState where
  isCancelled : Bool := false
  console : SerialConsole := .empty
  finished : Bool := false
  deriving DecidableEq

/-- An inflation by a worker. -/
structure WorkerInflation (σ : Type) where
  args : Arguments
  source : Source
  inspection : Option Inspection
  platform : Platform σ
  cell : Cell σ WorkerState

namespace WorkerInflation

variable {σ : Type}

/-! ## 3. The workflow -/

/-- The features the guest is known to have. -/
def guestOsFeatures (w : WorkerInflation σ) : List GuestOsFeature :=
  (if w.args.uefiCompatible then [.uefiCompatible] else []) ++
    if Text.occursIn "windows".toList w.args.os.toList then [.windows] else []

/-- What both workflows have in common. -/
def frame (w : WorkerInflation σ) (name : String) : Workflow :=
  let base := (((Workflow.named name).withProject w.args.project).withZone w.args.zone).withLabels
    w.args.labels
  match w.args.timeout with
  | some timeout => base.withDefaultTimeout timeout
  | none => base

/-- The disk that is kept: inflated, and of a plain type where there is no room for a fast one. -/
def inflatedDisk (w : WorkerInflation σ) (disk : Disk) : WorkflowDisk where
  disk := { disk with
    name := w.args.diskName
    diskType := some solidState
    guestOsFeatures := w.guestOsFeatures }
  noCleanup := true
  fallbackToPdStandard := true

/-- The workflow for an image. -/
def imageWorkflow (w : WorkerInflation σ) (image : String) : Workflow :=
  (w.frame "inflate-image").withStep "create-disk"
    (.createDisks [w.inflatedDisk { name := "", sourceImage := some image }])

/-- The worker's boot disk. -/
def bootDiskName (w : WorkerInflation σ) : String := "disk-importer-" ++ w.args.executionId

/-- The worker's scratch disk. -/
def scratchDiskName (w : WorkerInflation σ) : String := "disk-importer-scratch-" ++ w.args.executionId

/-- The worker. -/
def instanceName (w : WorkerInflation σ) : String := "inst-importer-" ++ w.args.executionId

/-- What the worker is told. -/
def metadata (w : WorkerInflation σ) : Dict String :=
  let base := Dict.ofList [("source_disk_file", "$\x7bsource_disk_file\x7d"),
    ("disk_name", "$\x7bdisk_name\x7d"), ("scratch_disk_name", w.scratchDiskName)]
  if w.args.scratchBucketPath.isEmpty then base
  else base.insert "scratch_bucket_gcs_path" w.args.scratchBucketPath

/-- The disk the worker boots from. -/
def bootDisk (w : WorkerInflation σ) : Disk where
  name := w.bootDiskName
  sourceImage := some workerImage
  diskType := some solidState

/-- The disk the worker keeps the file on. -/
def scratchDisk (w : WorkerInflation σ) : Disk where
  name := w.scratchDiskName
  sizeGb := some (DiskSize.scratch w.inspection)
  diskType := some solidState

/-- The disks of the worker: to boot from, to keep the file on, and to inflate. -/
def workerDisks (w : WorkerInflation σ) : List WorkflowDisk :=
  [{ disk := w.bootDisk }, { disk := w.scratchDisk },
    w.inflatedDisk { name := "", sizeGb := some (DiskSize.inflated w.inspection) }]

/-- The worker with its disks. -/
def worker (w : WorkerInflation σ) : WorkflowInstance where
  name := w.instanceName
  disks := [.readWrite w.bootDiskName, .readWrite w.scratchDiskName, .readWrite w.args.diskName]
  machineType := some "n1-standard-4"
  metadata := w.metadata
  startupScript := some "import_image.sh"
  network := Arguments.nonEmpty w.args.network
  subnetwork := Arguments.nonEmpty w.args.subnet

/-- What the worker says when it is done. -/
def workerSignal (w : WorkerInflation σ) : InstanceSignal where
  name := w.instanceName
  serialOutput :=
    { port := 1
      successMatch := some "ImportSuccess:"
      failureMatch := some "ImportFailed:"
      statusMatch := some "Import:" }

/-- The workflow for a file. -/
def fileWorkflow (w : WorkerInflation σ) (file : String) : Workflow :=
  ((w.frame "inflate-file").addVar "source_disk_file" file).addVar "disk_name" w.args.diskName
    |>.withForcedCleanup true
    |>.withStep "setup-disks" (.createDisks w.workerDisks)
    |>.withStep "inflate-instance" (.createInstances [w.worker])
    |>.withStep "wait-for-signal" (.waitForInstancesSignal [w.workerSignal])
    |>.withStep "cleanup" (.deleteResources { instances := [w.instanceName] })
    |>.withDependency "inflate-instance" ["setup-disks"]
    |>.withDependency "wait-for-signal" ["inflate-instance"]
    |>.withDependency "cleanup" ["wait-for-signal"]

/-- **The workflow that produces the inflated disk.** -/
def workflow (w : WorkerInflation σ) : Except WorkflowError Workflow :=
  match w.source with
  | .image reference => (w.imageWorkflow reference).build
  | .file path => (w.fileWorkflow path).build

/-! ## 4. What the worker reported -/

/-- A reported size. -/
def reportedGib (console : SerialConsole) (key : String) : Option Int64 :=
  (console.value? key).bind Text.int64?

/-- **The disk as the worker describes it.**  An image has no worker and no file. -/
def describedDisk (w : WorkerInflation σ) (console : SerialConsole) : PersistentDisk :=
  let sizeGb := (reportedGib console "target-size-gb").getD (DiskSize.inflated w.inspection)
  match w.source with
  | .image _ => { uri := w.args.diskUri, sizeGb, sourceGb := 0, sourceType := "image" }
  | .file _ =>
    { uri := w.args.diskUri
      sizeGb
      sourceGb := (reportedGib console "source-size-gb").getD 0
      sourceType := (console.value? "import-file-format").getD "" }

/-- The outcome of a workflow that has ended. -/
def outcome (w : WorkerInflation σ) (ran : Except WorkflowError Unit) (time : Duration)
    (console : SerialConsole) : Except InflationFailure Inflation :=
  match ran with
  | .error cause =>
    .error {
      disk := { uri := w.args.diskUri }
      fields := { inflationType := inflationTypeWorker, inflationTime := time }
      error := .workflow cause }
  | .ok () =>
    .ok {
      disk := w.describedDisk console
      fields :=
        { inflationType := inflationTypeWorker
          inflationTime := time
          checksum := (console.value? "disk-checksum").getD "" } }

/-! ## 5. The step -/

/-- Record a line of the worker. -/
def record (w : WorkerInflation σ) (inst line : String) : σ → σ :=
  w.cell.modify fun s => { s with console := s.console.record inst line }

/-- Run a sound workflow. -/
def inflateWith (w : WorkerInflation σ) (workflow : Workflow) :
    Activity σ (Except InflationFailure Inflation) := do
  let started ← Activity.clock
  let ran ← w.platform.runWorkflow workflow (fun s => (w.cell.get s).isCancelled) w.record
  .update (w.cell.modify fun s => { s with finished := true })
  let ended ← Activity.clock
  let console ← Activity.read fun s => (w.cell.get s).console
  return w.outcome ran (.ofMillis (ended - started)) console

/-- **The inflation.** -/
def inflate (w : WorkerInflation σ) : Activity σ (Except InflationFailure Inflation) :=
  match w.workflow with
  | .error cause => .done (.error (.ofError (.workflow cause)))
  | .ok workflow => w.inflateWith workflow

/-- **A cancel counts as long as the workflow has not ended.** -/
def cancel (w : WorkerInflation σ) : Activity σ Bool :=
  .exchange fun s =>
    if (w.cell.get s).finished then (false, s)
    else (true, w.cell.modify (fun t => { t with isCancelled := true }) s)

/-- The step. -/
def inflater (w : WorkerInflation σ) : Inflater σ where
  cancel _ := w.cancel
  traceLogs s := (w.cell.get s).console.logs
  inflate := w.inflate

end WorkerInflation

end ImageImport
