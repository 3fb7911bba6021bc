/-
# References to variables

A step may refer to variables as `${name}`.  Substitution (`substitute_str`) replaces the references whose
name is known and keeps the others for the engine.  It is one pass from left to right: what has been put in is
not looked at again, and an opening that is never closed stays as it is.

Every text of every step is substituted -- names, optional texts, list items, and the values of metadata,
labels and variables -- and nothing else: keys, numbers, flags and absent parts stay.
-/
import ImageImport.Workflow.Basic

namespace ImageImport

/-! ## 1. In a text -/

namespace Reference

/-- What begins a reference. -/
def opening : List Char := ['$', '\x7b']

/-- What ends a reference. -/
def closing : Char := '\x7d'

/-- A reference to a name. -/
def print (name : List Char) : List Char := opening ++ name ++ [closing]

/-- **One pass from left to right.** -/
def substitute (value? : List Char → Option (List Char)) (cs : List Char) : List Char :=
  match cs with
  | [] => []
  | c :: rest =>
    match hin : Text.after? opening (c :: rest) with
    | none => c :: substitute value? rest
    | some inside =>
      match h : inside.dropWhile (· != closing) with
      | [] => c :: rest
      | _ :: behind =>
        have : behind.length < (c :: rest).length := by
          have h1 := Text.length_after?_lt (by decide) hin
          have h2 := Text.length_dropWhile_le (· != closing) inside
          rw [h, List.length_cons] at h2
          omega
        let name := inside.takeWhile (· != closing)
        (value? name).getD (print name) ++ substitute value? behind
termination_by cs.length
decreasing_by
  · exact Nat.lt_succ_self _
  · assumption

end Reference

/-- The text with the references that have a value replaced. -/
def substituteText (values : Dict String) (s : String) : String :=
  String.ofList <| Reference.substitute
    (fun name => (values.find? (String.ofList name)).map String.toList) s.toList

/-! ## 2. In the parts of a step -/

variable (f : String → String)

def GuestOsFeature.mapText (g : GuestOsFeature) : GuestOsFeature := ⟨f g.kind⟩

def Disk.mapText (d : Disk) : Disk where
  name := f d.name
  sizeGb := d.sizeGb
  sourceImage := d.sourceImage.map f
  sourceStorageObject := d.sourceStorageObject.map f
  sourceDisk := d.sourceDisk.map f
  diskType := d.diskType.map f
  guestOsFeatures := d.guestOsFeatures.map (·.mapText f)
  licenses := d.licenses.map f

def Image.mapText (i : Image) : Image where
  name := f i.name
  sourceDisk := i.sourceDisk.map f
  family := i.family.map f
  description := i.description.map f
  labels := i.labels.map f
  licenses := i.licenses.map f
  guestOsFeatures := i.guestOsFeatures.map (·.mapText f)
  storageLocations := i.storageLocations.map f

def WorkflowDisk.mapText (d : WorkflowDisk) : WorkflowDisk := { d with disk := d.disk.mapText f }

def WorkflowImage.mapText (i : WorkflowImage) : WorkflowImage := { i with image := i.image.mapText f }

def AttachedDisk.mapText (d : AttachedDisk) : AttachedDisk := ⟨f d.source, d.mode.map f⟩

def WorkflowInstance.mapText (i : WorkflowInstance) : WorkflowInstance where
  name := f i.name
  disks := i.disks.map (·.mapText f)
  machineType := i.machineType.map f
  metadata := i.metadata.map f
  startupScript := i.startupScript.map f
  network := i.network.map f
  subnetwork := i.subnetwork.map f
  noCleanup := i.noCleanup

def SerialOutputSignal.mapText (s : SerialOutputSignal) : SerialOutputSignal where
  port := s.port
  successMatch := s.successMatch.map f
  failureMatch := s.failureMatch.map f
  statusMatch := s.statusMatch.map f

def InstanceSignal.mapText (s : InstanceSignal) : InstanceSignal :=
  ⟨f s.name, s.serialOutput.mapText f⟩

def DeleteResources.mapText (r : DeleteResources) : DeleteResources :=
  ⟨r.disks.map f, r.instances.map f, r.images.map f⟩

def IncludeWorkflow.mapText (i : IncludeWorkflow) : IncludeWorkflow := ⟨f i.path, i.vars.map f⟩

/-- **Apply `f` to every text of a step.** -/
def WorkflowStep.mapText : WorkflowStep → WorkflowStep
  | createDisks ds => createDisks (ds.map (·.mapText f))
  | createInstances is => createInstances (is.map (·.mapText f))
  | waitForInstancesSignal ss => waitForInstancesSignal (ss.map (·.mapText f))
  | createImages is => createImages (is.map (·.mapText f))
  | deleteResources r => deleteResources (r.mapText f)
  | includeWorkflow i => includeWorkflow (i.mapText f)

/-! ## 3. In a workflow -/

namespace Workflow

/-- **What references resolve to**: the variables, over which the workflow's own name, project and
zone count as `NAME`, `PROJECT` and `ZONE`. -/
def bindings (w : Workflow) : Dict String :=
  let d := (w.vars.map VarSpec.text).insert "NAME" w.name
  let d := match w.project with
    | some project => d.insert "PROJECT" project
    | none => d
  match w.zone with
  | some zone => d.insert "ZONE" zone
  | none => d

/-- The workflow with the references in its steps replaced. -/
def substitute (w : Workflow) : Workflow :=
  { w with steps := w.steps.map (·.mapText (substituteText w.bindings)) }

end Workflow

end ImageImport
