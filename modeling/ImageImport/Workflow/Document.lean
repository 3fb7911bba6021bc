/-
# Workflows as documents

How a workflow is written and read (`from_path`).  Parts that are absent, empty or not set are left out on
writing and may be left out on reading.

Variables and the disks and images of steps are read as a whole first: everything in them must be sound and
not too deeply nested, also what is then skipped, and they are never written as lists.
-/
import ImageImport.Error
import ImageImport.Files.Tree
import ImageImport.Json.Parser
import ImageImport.Platform.Document
import ImageImport.Workflow.Basic

namespace ImageImport

open Json

/-- How deeply lists and objects may be nested where a document is read as a whole. -/
def documentRoom : Nat := 127

/-! ## 1. Variables -/

namespace VarSpec

def toJson : VarSpec → Json
  | value t => str t
  | declared t required description =>
    record (member "Value" (str t) ++ member "Required" (bool required) ++
      if description.isEmpty then [] else member "Description" (str description))

/-- A declaration out of the fields found. -/
def ofFields? (f : Fields) : Option VarSpec := do
  return declared (← f.defaulted "Value" "" toText?) (← f.defaulted "Required" false toBool?)
    (← f.defaulted "Description" "" toText?)

/-- A bare value or a declaration, within the given depth. -/
def ofJson? (room : Nat) (j : Json) : Option VarSpec :=
  match j with
  | .text t => t.map value
  | j =>
    if j.isSound room then (objectFields? ["Value", "Required", "Description"] j).bind ofFields?
    else none

end VarSpec

/-! ## 2. Parts of steps -/

namespace WorkflowDisk

def toJson (d : WorkflowDisk) : Json :=
  record (d.disk.members ++ memberOfFlag "NoCleanup" d.noCleanup ++
    memberOfFlag "FallbackToPdStandard" d.fallbackToPdStandard)

/-- A disk with its flags, within the given depth. -/
def ofJson? (room : Nat) (j : Json) : Option WorkflowDisk := do
  if !j.isSound room then none
  let f ← objectFields? ("NoCleanup" :: "FallbackToPdStandard" :: Disk.fieldNames) j
  return {
    disk := ← Disk.ofFields? f
    noCleanup := ← f.defaulted "NoCleanup" false toBool?
    fallbackToPdStandard := ← f.defaulted "FallbackToPdStandard" false toBool? }

end WorkflowDisk

namespace WorkflowImage

def toJson (i : WorkflowImage) : Json :=
  record (i.image.members ++ memberOfFlag "NoCleanup" i.noCleanup)

/-- An image with its flag, within the given depth. -/
def ofJson? (room : Nat) (j : Json) : Option WorkflowImage := do
  if !j.isSound room then none
  let f ← objectFields? ("NoCleanup" :: Image.fieldNames) j
  return {
    image := ← Image.ofFields? f
    noCleanup := ← f.defaulted "NoCleanup" false toBool? }

end WorkflowImage

def AttachedDisk.toJson (d : AttachedDisk) : Json :=
  record (member "source" (str d.source) ++ memberOf "mode" str d.mode)

def AttachedDisk.ofJson? (j : Json) : Option AttachedDisk := do
  let f ← fields? ["source", "mode"] j
  return { source := ← f.required "source" toText?, mode := ← f.optional "mode" toText? }

namespace WorkflowInstance

def toJson (i : WorkflowInstance) : Json :=
  record (member "name" (str i.name) ++ member "disks" (list AttachedDisk.toJson i.disks) ++
    memberOf "machineType" str i.machineType ++ memberOfDict "metadata" str i.metadata ++
    memberOf "StartupScript" str i.startupScript ++ memberOf "network" str i.network ++
    memberOf "subnetwork" str i.subnetwork ++ memberOfFlag "NoCleanup" i.noCleanup)

def ofJson? (j : Json) : Option WorkflowInstance := do
  let f ← fields? ["name", "disks", "machineType", "metadata", "StartupScript", "network",
    "subnetwork", "NoCleanup"] j
  return {
    name := ← f.required "name" toText?
    disks := ← f.defaulted "disks" [] (toList? AttachedDisk.ofJson?)
    machineType := ← f.optional "machineType" toText?
    metadata := ← f.defaulted "metadata" .empty (toDict? toText?)
    startupScript := ← f.optional "StartupScript" toText?
    network := ← f.optional "network" toText?
    subnetwork := ← f.optional "subnetwork" toText?
    noCleanup := ← f.defaulted "NoCleanup" false toBool? }

end WorkflowInstance

namespace SerialOutputSignal

def toJson (s : SerialOutputSignal) : Json :=
  record (member "Port" (int s.port.toNat) ++ memberOf "SuccessMatch" str s.successMatch ++
    memberOf "FailureMatch" str s.failureMatch ++ memberOf "StatusMatch" str s.statusMatch)

def ofJson? (j : Json) : Option SerialOutputSignal := do
  let f ← fields? ["Port", "SuccessMatch", "FailureMatch", "StatusMatch"] j
  return {
    port := ← f.required "Port" toUInt8?
    successMatch := ← f.optional "SuccessMatch" toText?
    failureMatch := ← f.optional "FailureMatch" toText?
    statusMatch := ← f.optional "StatusMatch" toText? }

end SerialOutputSignal

def InstanceSignal.toJson (s : InstanceSignal) : Json :=
  record (member "Name" (str s.name) ++ member "SerialOutput" s.serialOutput.toJson)

def InstanceSignal.ofJson? (j : Json) : Option InstanceSignal := do
  let f ← fields? ["Name", "SerialOutput"] j
  return {
    name := ← f.required "Name" toText?
    serialOutput := ← f.required "SerialOutput" SerialOutputSignal.ofJson? }

def DeleteResources.toJson (r : DeleteResources) : Json :=
  record (memberOfList "Disks" str r.disks ++ memberOfList "Instances" str r.instances ++
    memberOfList "Images" str r.images)

def DeleteResources.ofJson? (j : Json) : Option DeleteResources := do
  let f ← fields? ["Disks", "Instances", "Images"] j
  return {
    disks := ← f.defaulted "Disks" [] (toList? toText?)
    instances := ← f.defaulted "Instances" [] (toList? toText?)
    images := ← f.defaulted "Images" [] (toList? toText?) }

def IncludeWorkflow.toJson (i : IncludeWorkflow) : Json :=
  record (member "Path" (str i.path) ++ memberOfDict "Vars" str i.vars)

def IncludeWorkflow.ofJson? (j : Json) : Option IncludeWorkflow := do
  let f ← fields? ["Path", "Vars"] j
  return {
    path := ← f.required "Path" toText?
    vars := ← f.defaulted "Vars" .empty (toDict? toText?) }

/-! ## 3. Steps

A step is an object with one member, whose name is the kind of the step. -/

namespace WorkflowStep

/-- What stands under the kind. -/
def content : WorkflowStep → Json
  | createDisks ds => list WorkflowDisk.toJson ds
  | createInstances is => list WorkflowInstance.toJson is
  | waitForInstancesSignal ss => list InstanceSignal.toJson ss
  | createImages is => list WorkflowImage.toJson is
  | deleteResources r => r.toJson
  | includeWorkflow i => i.toJson

def toJson (s : WorkflowStep) : Json := record (member s.kind s.content)

/-- A step, within the given depth. -/
def ofJson? (room : Nat) : Json → Option WorkflowStep
  | .object [(some "CreateDisks", j)] => (toList? (WorkflowDisk.ofJson? (room - 2)) j).map createDisks
  | .object [(some "CreateInstances", j)] => (toList? WorkflowInstance.ofJson? j).map createInstances
  | .object [(some "WaitForInstancesSignal", j)] =>
    (toList? InstanceSignal.ofJson? j).map waitForInstancesSignal
  | .object [(some "CreateImages", j)] =>
    (toList? (WorkflowImage.ofJson? (room - 2)) j).map createImages
  | .object [(some "DeleteResources", j)] => (DeleteResources.ofJson? j).map deleteResources
  | .object [(some "IncludeWorkflow", j)] => (IncludeWorkflow.ofJson? j).map includeWorkflow
  | _ => none

end WorkflowStep

/-! ## 4. Workflows -/

namespace Workflow

def toJson (w : Workflow) : Json :=
  record (member "Name" (str w.name) ++ memberOf "Project" str w.project ++
    memberOf "Zone" str w.zone ++ memberOf "DefaultTimeout" str w.defaultTimeout ++
    memberOfDict "Vars" VarSpec.toJson w.vars ++ member "Steps" (dict WorkflowStep.toJson w.steps) ++
    memberOfDict "Dependencies" (list str) w.dependencies ++ memberOfDict "Labels" str w.labels ++
    memberOf "StorageLocation" str w.storageLocation ++
    memberOfFlag "ForceCleanupOnError" w.forceCleanupOnError)

def ofJson? (j : Json) : Option Workflow := do
  let f ← fields? ["Name", "Project", "Zone", "DefaultTimeout", "Vars", "Steps", "Dependencies",
    "Labels", "StorageLocation", "ForceCleanupOnError"] j
  return {
    name := ← f.required "Name" toText?
    project := ← f.optional "Project" toText?
    zone := ← f.optional "Zone" toText?
    defaultTimeout := ← f.optional "DefaultTimeout" toText?
    vars := ← f.defaulted "Vars" .empty (toDict? (VarSpec.ofJson? (documentRoom - 2)))
    steps := ← f.defaulted "Steps" .empty (toDict? (WorkflowStep.ofJson? (documentRoom - 2)))
    dependencies := ← f.defaulted "Dependencies" .empty (toDict? (toList? toText?))
    labels := ← f.defaulted "Labels" .empty (toDict? toText?)
    storageLocation := ← f.optional "StorageLocation" toText?
    forceCleanupOnError := ← f.defaulted "ForceCleanupOnError" false toBool? }

/-- The workflow a text holds. -/
def parse (contents : String) : Except WorkflowError Workflow :=
  match (Json.parse? contents).bind ofJson? with
  | some w => .ok w
  | none => .error .notADocument

/-- **The workflow of a file**; it remembers the path. -/
def load (files : Files) (path : String) : Except WorkflowError Workflow :=
  match files.readText path with
  | .error fault => .error (.unreadable fault)
  | .ok contents => (parse contents).map fun w => { w with sourcePath := some path }

end Workflow

end ImageImport
