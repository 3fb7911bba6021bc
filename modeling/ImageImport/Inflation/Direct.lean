/-
# Inflation by the compute service

The compute service can create a disk from a storage object in one call (`ApiInflater`).  A small worker then
checksums four windows of the disk (`checksum_workflow`), so that the result can be compared with that of the
other way.  The disk serves for nothing else: it is deleted before the inflation ends, whatever happened
before (`create_and_checksum`, `delete_shadow_disk`).

A lock is held for all of that.  A cancel leaves its reason, interrupts the checksum, and then waits for the
lock, so that what it finds is what the inflation left: the disk is gone exactly when the cleanup worked.
-/
import ImageImport.Concurrency.Lock
import ImageImport.Inflation.Worker

namespace ImageImport

/-- **What one inflation by the compute service keeps.**  Of the reasons of cancels at most one is
pending. -/
structure DirectState where
  pending : Option String := none
  isCancelled : Bool := false
  lock : Lock := .free
  console : SerialConsole := .empty
  trace : List String := []
  deriving DecidableEq

namespace DirectState

/-- A cancel leaves its reason, unless one is pending already. -/
def requestCancel (reason : String) (s : DirectState) : DirectState :=
  { s with pending := some (s.pending.getD reason), isCancelled := true }

/-- One more diagnostic line. -/
def push (line : String) (s : DirectState) : DirectState := { s with trace := s.trace ++ [line] }

/-- Every diagnostic line, those of the console last. -/
def logs (s : DirectState) : List String := s.trace ++ s.console.logs

end DirectState

/-- An inflation by the compute service, of a storage path. -/
structure DirectInflation (σ : Type) where
  args : Arguments
  sourceFile : String
  platform : Platform σ
  cell : Cell σ DirectState

namespace DirectInflation

variable {σ : Type}

/-! ## 1. The checksum workflow -/

/-- The name of the disk. -/
def diskName (d : DirectInflation σ) : String := "shadow-disk-" ++ d.args.executionId

/-- Its name as a workflow. -/
def checksumName : String := "shadow-disk-checksum"

/-- How long it may take. -/
def checksumTimeout : Duration := .ofSecs 1200

/-- What the worker runs: it reports the digests of four windows of its second disk, each of a hundred
mebibytes. -/
def checksumScript : String :=
  "#!/bin/bash\n" ++
  "exec > /dev/ttyS0 2>&1\n" ++
  "DEVICE=/dev/sdb\n" ++
  "SIZE_MB=$(( $(blockdev --getsize64 \"$DEVICE\") / 1048576 ))\n" ++
  "window() \x7b\n" ++
  "  local skip=$(( $1 < 0 ? 0 : $1 ))\n" ++
  "  dd if=\"$DEVICE\" bs=1M skip=\"$skip\" count=100 2>/dev/null | md5sum" ++
  " | awk '\x7bprint $1\x7d' | tr -d '[:space:]'\n" ++
  "\x7d\n" ++
  "H1=$(window 0)\n" ++
  "H2=$(window $(( SIZE_MB / 2 - 50 )))\n" ++
  "H3=$(window $(( SIZE_MB - 1024 )))\n" ++
  "H4=$(window $(( SIZE_MB - 100 )))\n" ++
  "echo \"Checksum: <serial-output key:'disk-checksum' value:'$H1-$H2-$H3-$H4'>\"\n" ++
  "echo \"Checksum calculated.\"\n"

/-- The disk the worker boots from. -/
def bootDiskName (d : DirectInflation σ) : String := "disk-shadow-checker-" ++ d.args.executionId

/-- The worker. -/
def instanceName (d : DirectInflation σ) : String := "inst-shadow-checker-" ++ d.args.executionId

/-- The disk the worker boots from. -/
def bootDisk (d : DirectInflation σ) : Disk where
  name := d.bootDiskName
  sourceImage := some workerImage
  diskType := some solidState

/-- The worker, which only reads the disk it checks. -/
def checker (d : DirectInflation σ) : WorkflowInstance where
  name := d.instanceName
  disks := [.readWrite d.bootDiskName, .readOnly d.diskName]
  machineType := some "n1-standard-2"
  metadata := Dict.ofList [("startup-script", checksumScript)]
  network := Arguments.nonEmpty d.args.network
  subnetwork := Arguments.nonEmpty d.args.subnet

/-- What the worker says when it is done. -/
def checkerSignal (d : DirectInflation σ) : InstanceSignal where
  name := d.instanceName
  serialOutput :=
    { port := 1
      successMatch := some "Checksum calculated."
      statusMatch := some "Checksum:" }

/-- **The workflow that checksums the disk.** -/
def checksumWorkflow (d : DirectInflation σ) : Except WorkflowError Workflow :=
  Workflow.named checksumName
    |>.withProject d.args.project
    |>.withZone d.args.zone
    |>.withDefaultTimeout checksumTimeout
    |>.withLabels d.args.labels
    |>.withForcedCleanup true
    |>.withStep "create-checker-disk" (.createDisks [{ disk := d.bootDisk }])
    |>.withStep "create-checker" (.createInstances [d.checker])
    |>.withStep "wait-for-checksum" (.waitForInstancesSignal [d.checkerSignal])
    |>.withDependency "create-checker" ["create-checker-disk"]
    |>.withDependency "wait-for-checksum" ["create-checker"]
    |>.build

/-! ## 2. The inflation -/

/-- The disk to create. -/
def request (d : DirectInflation σ) : Disk where
  name := d.diskName
  sourceStorageObject := some d.sourceFile
  diskType := some solidState

/-- The disk of an object of so many bytes. -/
def createdDisk (d : DirectInflation σ) (bytes : UInt64) : PersistentDisk where
  uri := Resource.zonalDiskUri d.args.zone d.diskName
  sizeGb := Resource.gibCeil bytes
  sourceGb := Resource.gibCeil bytes
  sourceType := "vmdk"

/-- Take the pending reason, if there is one. -/
def takePending (d : DirectInflation σ) : Activity σ (Option String) :=
  .exchange fun s =>
    ((d.cell.get s).pending, d.cell.modify (fun t => { t with pending := none }) s)

/-- Record a line of the worker. -/
def record (d : DirectInflation σ) (inst line : String) : σ → σ :=
  d.cell.modify fun s => { s with console := s.console.record inst line }

/-- The error of a checksum that took too long. -/
def overdue : ImportError :=
  .inflation ("checksum workflow did not finish within " ++ checksumTimeout.exact)

/-- The outcome of the checksum: of a workflow that ended, or of one that did not in time. -/
def outcome (disk : PersistentDisk) (ran : Option (Except WorkflowError Unit)) (time : Duration)
    (console : SerialConsole) : Except InflationFailure Inflation :=
  let fields := { inflationType := inflationTypeApi, inflationTime := time }
  match ran with
  | some (.ok ()) =>
    .ok { disk, fields := { fields with checksum := (console.value? "disk-checksum").getD "" } }
  | some (.error cause) => .error { disk, fields, error := .workflow cause }
  | none => .error { disk, fields, error := overdue }

/-- Checksum a disk. -/
def checksum (d : DirectInflation σ) (started : Nat) (disk : PersistentDisk) :
    Activity σ (Except InflationFailure Inflation) :=
  match d.checksumWorkflow with
  | .error cause => .done (.error (.ofError (.workflow cause)))
  | .ok workflow => do
    let ran ← Activity.within checksumTimeout.millisCeil
      (d.platform.runWorkflow workflow (fun s => (d.cell.get s).isCancelled) d.record)
    let ended ← Activity.clock
    let console ← Activity.read fun s => (d.cell.get s).console
    return outcome disk ran (.ofMillis (ended - started)) console

/-- Measure the object of the source and checksum the disk. -/
def measure (d : DirectInflation σ) (started : Nat) :
    Activity σ (Except InflationFailure Inflation) :=
  match Source.parseStoragePath d.sourceFile with
  | .error e => .done (.error (.ofError e))
  | .ok (bucket, object) =>
    ((d.platform.objectSize bucket object).mapFault fun e => .ofError (.api e)).andThen fun bytes =>
      d.checksum started (d.createdDisk bytes)

/-- **Create the disk and checksum it.**  A cancel that came before the checksum leaves nothing to be
done, and that is no failure. -/
def createAndChecksum (d : DirectInflation σ) : Activity σ (Except InflationFailure Inflation) := do
  let started ← Activity.clock
  ((d.platform.createDisk d.args.project d.args.zone d.request).mapFault fun e =>
      .ofError (.api e)).andThen fun () => do
    match ← d.takePending with
    | some _ => return .ok {}
    | none => d.measure started

/-- Delete the disk.  That it is gone already is no fault. -/
def deleteDisk (d : DirectInflation σ) : Activity σ Unit := do
  match ← d.platform.deleteDisk d.args.project d.args.zone d.diskName with
  | .ok () => return
  | .error e =>
    if e.isNotFound then return
    else d.platform.warn ("⚠️ Failed to delete shadow disk " ++ d.diskName ++ ": " ++ e.text)

/-- The lock of the inflation. -/
def lock (d : DirectInflation σ) : Cell σ Lock where
  get s := (d.cell.get s).lock
  set l s := d.cell.modify (fun t => { t with lock := l }) s
  get_set := by intros; simp only [d.cell.get_modify]
  set_set := by intros; simp only [Cell.modify, d.cell.get_set, d.cell.set_set]
  set_get := by intros; simp only [Cell.modify, d.cell.set_get]

/-- **The inflation**: whatever came of it, the disk is deleted. -/
def inflate (d : DirectInflation σ) : Activity σ (Except InflationFailure Inflation) :=
  .holding d.lock do
    let result ← d.createAndChecksum
    d.deleteDisk
    return result

/-! ## 3. The cancel -/

/-- What a look for the disk says about the cleanup: whether it worked, and a line for the diagnosis. -/
def verdict (reason : String) : Except ApiError Disk → Bool × String
  | .ok _ => (false, "apiInflater.inflate is canceled, cleanup is failed: " ++ reason)
  | .error e =>
    if e.isNotFound then (true, "apiInflater.inflate is canceled: " ++ reason)
    else (false, "apiInflater.inflate is canceled, cleanup failed to verify: " ++ reason)

/-- **A cancel answers once the inflation has ended**: whether the disk is gone. -/
def cancel (d : DirectInflation σ) (reason : String) : Activity σ Bool := do
  .update (d.cell.modify (DirectState.requestCancel reason))
  .holding d.lock do
    let found ← d.platform.getDisk d.args.project d.args.zone d.diskName
    .update (d.cell.modify (DirectState.push (verdict reason found).2))
    return (verdict reason found).1

/-- The step. -/
def inflater (d : DirectInflation σ) : Inflater σ where
  cancel := d.cancel
  traceLogs s := (d.cell.get s).logs
  inflate := d.inflate

end DirectInflation

end ImageImport
