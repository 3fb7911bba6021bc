/-
# The services an import talks to

An import creates and deletes disks and images, reads source files, has disks inspected, and has workflows
run.  All of that is done by others (`ComputeClient`, `StorageClient`, `Inspector`, `WorkflowRunner`); a
`Platform` says what can be asked of them.  Every call is an `Activity`: it may take time and it may fail.

What is recorded in the log is a change of the shared state like any other.
-/
import ImageImport.Concurrency.Activity
import ImageImport.Error
import ImageImport.Files.Tree
import ImageImport.Platform.Inspection
import ImageImport.Workflow.Basic

namespace ImageImport

/-! ## 1. Reading an object in pieces -/

/-- What one read of a storage object brings. -/
inductive Chunk where
  | bytes (content : List UInt8)
  | fault (why : ReadFault)
  deriving DecidableEq

/-- **An open object**: what its reads will bring, in order.  A read of no bytes is the end. -/
structure Reader where
  chunks : List Chunk
  deriving DecidableEq

namespace Reader

/-- One read of at most `room` bytes.  What does not fit is left for the next read. -/
def read (r : Reader) (room : Nat) : Except ReadFault (List UInt8) × Reader :=
  match r.chunks with
  | [] => (.ok [], r)
  | .fault why :: rest => (.error why, ⟨rest⟩)
  | .bytes content :: rest =>
    if content.length ≤ room then (.ok content, ⟨rest⟩)
    else (.ok (content.take room), ⟨.bytes (content.drop room) :: rest⟩)

/-- **The first bytes of an object**: read until `room` bytes are there or the object ends. -/
def header (r : Reader) (room : Nat) : Except ReadFault (List UInt8) :=
  if room = 0 then .ok []
  else match r.read room with
    | (.error why, _) => .error why
    | (.ok content, r') =>
      if h : content = [] then .ok []
      else
        have : 0 < content.length := List.length_pos_iff.mpr h
        (header r' (room - content.length)).map (content ++ ·)
termination_by room

end Reader

/-! ## 2. The calls -/

/-- A call of the platform. -/
abbrev Call (σ α : Type) := Activity σ (Except ApiError α)

/-- How serious a line of the log is. -/
inductive Severity where
  | warn
  | error
  deriving DecidableEq

/-- The name of a severity. -/
def Severity.name : Severity → String
  | warn => "WARN"
  | error => "ERROR"

/-- **Everything an import can ask of others.** -/
structure Platform (σ : Type) where
  /-- Create a disk in a zone of a project. -/
  createDisk : (project zone : String) → Disk → Call σ Unit
  /-- Look a disk up. -/
  getDisk : (project zone name : String) → Call σ Disk
  /-- Delete a disk, given by name or by reference. -/
  deleteDisk : (project zone disk : String) → Call σ Unit
  /-- Set the licenses and features of a disk. -/
  updateDiskMetadata : (project zone name : String) → DiskMetadataUpdate → Call σ Unit
  /-- Create an image. -/
  createImage : (project : String) → Image → Call σ Unit
  /-- Look an image up. -/
  getImage : (project name : String) → Call σ Image
  /-- Open a storage object for reading. -/
  openReader : (bucket object : String) → Call σ Reader
  /-- The size of a storage object in bytes. -/
  objectSize : (bucket object : String) → Call σ UInt64
  /-- Inspect a disk or a source file. -/
  inspect : (reference : String) → Activity σ (Except ImportError Inspection)
  /-- Run a workflow.  It may be interrupted once `isCancelled` holds of the shared state, and what its
  instances print goes through `record`, first the instance and then the line. -/
  runWorkflow : Workflow → (isCancelled : σ → Bool) → (record : String → String → σ → σ) →
    Activity σ (Except WorkflowError Unit)
  /-- Write a line to the log. -/
  log : Severity → String → σ → σ
  /-- The files workflows are read from. -/
  files : Files

namespace Platform

variable {σ : Type}

/-- Warn. -/
def warn (p : Platform σ) (line : String) : Activity σ Unit := .update (p.log .warn line)

/-- Report an error. -/
def reportError (p : Platform σ) (line : String) : Activity σ Unit := .update (p.log .error line)

end Platform

/-! ## 3. Going on after a call -/

namespace Activity

variable {σ ε ε' α β : Type}

/-- **Go on with the value, stop at a fault.** -/
def andThen (a : Activity σ (Except ε α)) (f : α → Activity σ (Except ε β)) :
    Activity σ (Except ε β) :=
  a.bind fun
    | .ok value => f value
    | .error fault => done (.error fault)

/-- The same with another kind of fault. -/
def mapFault (f : ε → ε') (a : Activity σ (Except ε α)) : Activity σ (Except ε' α) :=
  a.bind fun r => done (r.mapError f)

end Activity

end ImageImport
