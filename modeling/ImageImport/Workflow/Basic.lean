/-
# Workflows

A workflow (`Workflow`) is a document for an external engine: named steps that create disks and worker
instances, wait for signals on their serial consoles, create images and delete resources, and the order
between them.  This module has the document's types and the operations on variables and paths; reading and
writing it is in `Workflow/Document.lean`, references in `Workflow/Substitution.lean`, the order in
`Workflow/Order.lean`, the checks in `Workflow/Soundness.lean`.
-/
import ImageImport.Duration
import ImageImport.Files.Path
import ImageImport.Platform.Disk

namespace ImageImport

/-! ## 1. Variables -/

/-- A variable: a bare value, or a declaration that may require one. -/
inductive VarSpec where
  | value (text : String)
  | declared (text : String) (required : Bool) (description : String)
  deriving DecidableEq

namespace VarSpec

/-- The value, declared or bare. -/
def text : VarSpec → String
  | value t => t
  | declared t _ _ => t

/-- The workflow cannot run without a value. -/
def isRequired : VarSpec → Bool
  | value _ => false
  | declared _ required _ => required

/-- Another value; a declaration stays one. -/
def withText (t : String) : VarSpec → VarSpec
  | value _ => value t
  | declared _ required description => declared t required description

end VarSpec

/-! ## 2. Steps -/

/-- A disk to create; it is removed with the workflow unless `noCleanup` is set. -/
structure WorkflowDisk where
  disk : Disk
  noCleanup : Bool := false
  fallbackToPdStandard : Bool := false
  deriving DecidableEq

/-- A disk attached to an instance. -/
structure AttachedDisk where
  source : String
  mode : Option String := none
  deriving DecidableEq

/-- A disk attached for reading and writing. -/
def AttachedDisk.readWrite (source : String) : AttachedDisk := { source }

/-- A disk attached for reading only. -/
def AttachedDisk.readOnly (source : String) : AttachedDisk := { source, mode := some "READ_ONLY" }

/-- A worker instance to create. -/
structure WorkflowInstance where
  name : String
  disks : List AttachedDisk := []
  machineType : Option String := none
  metadata : Dict String := .empty
  startupScript : Option String := none
  network : Option String := none
  subnetwork : Option String := none
  noCleanup : Bool := false
  deriving DecidableEq

/-- What to look for on a serial port. -/
structure SerialOutputSignal where
  port : UInt8
  successMatch : Option String := none
  failureMatch : Option String := none
  statusMatch : Option String := none
  deriving DecidableEq

/-- The instance to watch. -/
structure InstanceSignal where
  name : String
  serialOutput : SerialOutputSignal
  deriving DecidableEq

/-- An image to create. -/
structure WorkflowImage where
  image : Image
  noCleanup : Bool := false
  deriving DecidableEq

/-- Resources to delete. -/
structure DeleteResources where
  disks : List String := []
  instances : List String := []
  images : List String := []
  deriving DecidableEq

/-- Another workflow to run in place of the step. -/
structure IncludeWorkflow where
  path : String
  vars : Dict String := .empty
  deriving DecidableEq

/-- One step. -/
inductive WorkflowStep where
  | createDisks (disks : List WorkflowDisk)
  | createInstances (instances : List WorkflowInstance)
  | waitForInstancesSignal (signals : List InstanceSignal)
  | createImages (images : List WorkflowImage)
  | deleteResources (resources : DeleteResources)
  | includeWorkflow (workflow : IncludeWorkflow)
  deriving DecidableEq

/-- The kind of a step, by its name in the document. -/
def WorkflowStep.kind : WorkflowStep → String
  | createDisks _ => "CreateDisks"
  | createInstances _ => "CreateInstances"
  | waitForInstancesSignal _ => "WaitForInstancesSignal"
  | createImages _ => "CreateImages"
  | deleteResources _ => "DeleteResources"
  | includeWorkflow _ => "IncludeWorkflow"

/-! ## 3. The document -/

/-- **A workflow**, with the file it was read from when it was. -/
structure Workflow where
  name : String
  project : Option String := none
  zone : Option String := none
  defaultTimeout : Option String := none
  vars : Dict VarSpec := .empty
  steps : Dict WorkflowStep := .empty
  dependencies : Dict (List String) := .empty
  labels : Dict String := .empty
  storageLocation : Option String := none
  forceCleanupOnError : Bool := false
  sourcePath : Option String := none
  deriving DecidableEq

namespace Workflow

/-- **Set a variable**, adding it when it is new and keeping its declaration when it has one. -/
def addVar (w : Workflow) (name value : String) : Workflow :=
  let spec := match w.vars.find? name with
    | some spec => spec.withText value
    | none => .value value
  { w with vars := w.vars.insert name spec }

/-- The value of a variable. -/
def var? (w : Workflow) (name : String) : Option String := (w.vars.find? name).map VarSpec.text

/-- The timeout, when there is one that can be read. -/
def timeout? (w : Workflow) : Option Duration := w.defaultTimeout.bind Duration.parse?

/-- A path seen from the directory the workflow was read from. -/
def resolvePath (w : Workflow) (path : String) : String :=
  match w.sourcePath.bind Path.parent? with
  | some dir => Path.join dir path
  | none => path

end Workflow

end ImageImport
