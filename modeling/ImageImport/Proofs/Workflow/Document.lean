/-
# Workflows are read back

For each part of a workflow what it writes, and that it is read as it was written; then the same of a whole workflow,
which forgets the file it was read from (`Workflow.ofJson?_toJson`).

Variables and the disks and images of steps are read as a whole first, and only if they are not too deeply nested: what is
written never is, with as much room as the reader gives them (`Plain.isSound_of_le`).
-/
import ImageImport.Proofs.Platform.Document
import ImageImport.Workflow.Document

namespace ImageImport

open Json

variable (room : Nat)

/-! ## 1. Variables -/

namespace VarSpec

/-- A description that is left out if it is empty, as a value that may be absent. -/
theorem description_eq (text : String) : (if text.isEmpty then [] else member "Description" (str text)) =
    memberOf "Description" str (if text = "" then none else some text) := by
  by_cases h : text = "" <;> simp [h, member, memberOf]

theorem writes (text : String) (required : Bool) (description : String) :
    Writes room ["Value", "Required", "Description"] (member "Value" (str text) ++ member "Required" (bool required) ++
      if description.isEmpty then [] else member "Description" (str description)) := by
  rw [description_eq]
  exact (Writes.member .str).append (.member .bool) |>.append (.memberOf fun _ => .str)

theorem plain (v : VarSpec) : Plain (room + 1) v.toJson := by
  cases v with
  | value text => exact .str
  | declared text required description => exact (writes room text required description).record

theorem ofJson?_toJson {room : Nat} (hroom : 1 ≤ room) (v : VarSpec) : ofJson? room v.toJson = some v := by
  cases v with
  | value text => rfl
  | declared text required description =>
    have hsound : (declared text required description).toJson.isSound room = true := (plain 0 _).isSound_of_le hroom
    have hgetD : (if description = "" then none else some description).getD "" = description := by
      by_cases h : description = "" <;> simp [h]
    have hfields := objectFields?_record (writes 0 text required description) (by decide) fun _ => id
    show (if (declared text required description).toJson.isSound room = true then _ else _) = _
    rw [if_pos hsound, toJson, hfields, description_eq]
    simp [ofFields?, Fields.defaulted_eq, hgetD]

end VarSpec

/-! ## 2. Parts of steps -/

namespace WorkflowDisk

theorem writes (d : WorkflowDisk) : Writes (room + 2) (Disk.fieldNames ++ ["NoCleanup"] ++ ["FallbackToPdStandard"])
    (d.disk.members ++ memberOfFlag "NoCleanup" d.noCleanup ++
      memberOfFlag "FallbackToPdStandard" d.fallbackToPdStandard) :=
  (Disk.writes _ _).append .memberOfFlag |>.append .memberOfFlag

theorem plain (d : WorkflowDisk) : Plain (room + 3) d.toJson := (writes room d).record

theorem ofJson?_toJson {room : Nat} (hroom : 3 ≤ room) (d : WorkflowDisk) : ofJson? room d.toJson = some d := by
  have hsound : d.toJson.isSound room = true := (plain 0 d).isSound_of_le hroom
  have hfields := objectFields?_record (writes 0 d) (by decide)
    (show _ ⊆ "NoCleanup" :: "FallbackToPdStandard" :: Disk.fieldNames by decide)
  have hother : ∀ name ∉ Disk.fieldNames, Fields.find? ⟨false, d.disk.members⟩ name = none := fun _ h =>
    Fields.find?_eq_none (Disk.writes 0 d.disk) h
  have hdisk : Disk.ofFields? ⟨false, d.disk.members ++ (memberOfFlag "NoCleanup" d.noCleanup ++
      memberOfFlag "FallbackToPdStandard" d.fallbackToPdStandard)⟩ = some d.disk :=
    Disk.ofFields?_of_find? (by simp [Disk.fieldNames])
  rw [ofJson?, hsound, toJson, hfields]
  simp [hdisk, Fields.defaulted_eq, hother "NoCleanup" (by decide), hother "FallbackToPdStandard" (by decide)]

end WorkflowDisk

namespace WorkflowImage

theorem writes (i : WorkflowImage) : Writes (room + 2) (Image.fieldNames ++ ["NoCleanup"])
    (i.image.members ++ memberOfFlag "NoCleanup" i.noCleanup) :=
  (Image.writes _ _).append .memberOfFlag

theorem plain (i : WorkflowImage) : Plain (room + 3) i.toJson := (writes room i).record

theorem ofJson?_toJson {room : Nat} (hroom : 3 ≤ room) (i : WorkflowImage) : ofJson? room i.toJson = some i := by
  have hsound : i.toJson.isSound room = true := (plain 0 i).isSound_of_le hroom
  have hfields := objectFields?_record (writes 0 i) (by decide)
    (show _ ⊆ "NoCleanup" :: Image.fieldNames by decide)
  have hother : Fields.find? ⟨false, i.image.members⟩ "NoCleanup" = none :=
    Fields.find?_eq_none (Image.writes 0 i.image) (by decide)
  have himage : Image.ofFields? ⟨false, i.image.members ++ memberOfFlag "NoCleanup" i.noCleanup⟩ = some i.image :=
    Image.ofFields?_of_find? (by simp [Image.fieldNames])
  rw [ofJson?, hsound, toJson, hfields]
  simp [himage, Fields.defaulted_eq, hother]

end WorkflowImage

namespace AttachedDisk

theorem writes (d : AttachedDisk) :
    Writes room ["source", "mode"] (member "source" (str d.source) ++ memberOf "mode" str d.mode) :=
  (Writes.member .str).append (.memberOf fun _ => .str)

theorem plain (d : AttachedDisk) : Plain (room + 1) d.toJson := (writes room d).record

@[simp] theorem ofJson?_toJson (d : AttachedDisk) : ofJson? d.toJson = some d := by
  rw [ofJson?, toJson, fields?_record (writes 0 d) (by decide)]
  simp [Fields.required, Fields.optional, Fields.defaulted_eq]

end AttachedDisk

namespace WorkflowInstance

theorem writes (i : WorkflowInstance) : Writes (room + 2) ["name", "disks", "machineType", "metadata", "StartupScript",
      "network", "subnetwork", "NoCleanup"]
    (member "name" (str i.name) ++ member "disks" (list AttachedDisk.toJson i.disks) ++
      memberOf "machineType" str i.machineType ++ memberOfDict "metadata" str i.metadata ++
      memberOf "StartupScript" str i.startupScript ++ memberOf "network" str i.network ++
      memberOf "subnetwork" str i.subnetwork ++ memberOfFlag "NoCleanup" i.noCleanup) :=
  (Writes.member .str).append (.member (.list (AttachedDisk.plain _) _))
    |>.append (.memberOf fun _ => .str)
    |>.append (.memberOfDict fun _ => .str)
    |>.append (.memberOf fun _ => .str)
    |>.append (.memberOf fun _ => .str)
    |>.append (.memberOf fun _ => .str)
    |>.append .memberOfFlag

theorem plain (i : WorkflowInstance) : Plain (room + 3) i.toJson := (writes room i).record

@[simp] theorem ofJson?_toJson (i : WorkflowInstance) : ofJson? i.toJson = some i := by
  rw [ofJson?, toJson, fields?_record (writes 0 i) (by decide)]
  simp [Fields.required, Fields.optional, Fields.defaulted_eq]

end WorkflowInstance

namespace SerialOutputSignal

theorem writes (s : SerialOutputSignal) : Writes room ["Port", "SuccessMatch", "FailureMatch", "StatusMatch"]
    (member "Port" (int s.port.toNat) ++ memberOf "SuccessMatch" str s.successMatch ++
      memberOf "FailureMatch" str s.failureMatch ++ memberOf "StatusMatch" str s.statusMatch) :=
  (Writes.member (.nat (Nat.lt_of_lt_of_le s.port.toNat_lt (by decide)))).append (.memberOf fun _ => .str)
    |>.append (.memberOf fun _ => .str)
    |>.append (.memberOf fun _ => .str)

theorem plain (s : SerialOutputSignal) : Plain (room + 1) s.toJson := (writes room s).record

@[simp] theorem ofJson?_toJson (s : SerialOutputSignal) : ofJson? s.toJson = some s := by
  rw [ofJson?, toJson, fields?_record (writes 0 s) (by decide)]
  simp [Fields.required, Fields.optional, Fields.defaulted_eq]

end SerialOutputSignal

namespace InstanceSignal

theorem writes (s : InstanceSignal) : Writes (room + 1) ["Name", "SerialOutput"]
    (member "Name" (str s.name) ++ member "SerialOutput" s.serialOutput.toJson) :=
  (Writes.member .str).append (.member (SerialOutputSignal.plain _ _))

theorem plain (s : InstanceSignal) : Plain (room + 2) s.toJson := (writes room s).record

@[simp] theorem ofJson?_toJson (s : InstanceSignal) : ofJson? s.toJson = some s := by
  rw [ofJson?, toJson, fields?_record (writes 0 s) (by decide)]
  simp [Fields.required]

end InstanceSignal

namespace DeleteResources

theorem writes (r : DeleteResources) : Writes (room + 1) ["Disks", "Instances", "Images"]
    (memberOfList "Disks" str r.disks ++ memberOfList "Instances" str r.instances ++ memberOfList "Images" str r.images) :=
  (Writes.memberOfList fun _ => .str).append (.memberOfList fun _ => .str) |>.append (.memberOfList fun _ => .str)

theorem plain (r : DeleteResources) : Plain (room + 2) r.toJson := (writes room r).record

theorem ofJson?_toJson (r : DeleteResources) : ofJson? r.toJson = some r := by
  rw [ofJson?, toJson, fields?_record (writes 0 r) (by decide)]
  simp [Fields.defaulted_eq]

end DeleteResources

namespace IncludeWorkflow

theorem writes (i : IncludeWorkflow) : Writes (room + 1) ["Path", "Vars"]
    (member "Path" (str i.path) ++ memberOfDict "Vars" str i.vars) :=
  (Writes.member .str).append (.memberOfDict fun _ => .str)

theorem plain (i : IncludeWorkflow) : Plain (room + 2) i.toJson := (writes room i).record

theorem ofJson?_toJson (i : IncludeWorkflow) : ofJson? i.toJson = some i := by
  rw [ofJson?, toJson, fields?_record (writes 0 i) (by decide)]
  simp [Fields.required, Fields.defaulted_eq]

end IncludeWorkflow

/-! ## 3. Steps -/

namespace WorkflowStep

theorem content_plain (s : WorkflowStep) : Plain (room + 4) s.content := by
  cases s with
  | createDisks disks => exact .list (WorkflowDisk.plain _) disks
  | createInstances instances => exact .list (WorkflowInstance.plain _) instances
  | waitForInstancesSignal signals => exact .list (InstanceSignal.plain _) signals
  | createImages images => exact .list (WorkflowImage.plain _) images
  | deleteResources resources => exact DeleteResources.plain _ resources
  | includeWorkflow workflow => exact IncludeWorkflow.plain _ workflow

theorem plain (s : WorkflowStep) : Plain (room + 5) s.toJson := (Writes.member (content_plain room s)).record

/-- **A step is read by its kind.** -/
theorem ofJson?_toJson {room : Nat} (hroom : 5 ≤ room) (s : WorkflowStep) : ofJson? room s.toJson = some s := by
  have hdisk : ∀ d, WorkflowDisk.ofJson? (room - 2) d.toJson = some d := WorkflowDisk.ofJson?_toJson (by omega)
  have himage : ∀ i, WorkflowImage.ofJson? (room - 2) i.toJson = some i := WorkflowImage.ofJson?_toJson (by omega)
  cases s with
  | createDisks disks => exact congrArg (Option.map createDisks) (toList?_list hdisk disks)
  | createInstances instances =>
    exact congrArg (Option.map createInstances) (toList?_list WorkflowInstance.ofJson?_toJson instances)
  | waitForInstancesSignal signals =>
    exact congrArg (Option.map waitForInstancesSignal) (toList?_list InstanceSignal.ofJson?_toJson signals)
  | createImages images => exact congrArg (Option.map createImages) (toList?_list himage images)
  | deleteResources resources => exact congrArg (Option.map deleteResources) (DeleteResources.ofJson?_toJson resources)
  | includeWorkflow workflow => exact congrArg (Option.map includeWorkflow) (IncludeWorkflow.ofJson?_toJson workflow)

end WorkflowStep

/-! ## 4. Workflows -/

namespace Workflow

theorem writes (w : Workflow) : Writes (room + 6) ["Name", "Project", "Zone", "DefaultTimeout", "Vars", "Steps",
      "Dependencies", "Labels", "StorageLocation", "ForceCleanupOnError"]
    (member "Name" (str w.name) ++ memberOf "Project" str w.project ++ memberOf "Zone" str w.zone ++
      memberOf "DefaultTimeout" str w.defaultTimeout ++ memberOfDict "Vars" VarSpec.toJson w.vars ++
      member "Steps" (dict WorkflowStep.toJson w.steps) ++ memberOfDict "Dependencies" (list str) w.dependencies ++
      memberOfDict "Labels" str w.labels ++ memberOf "StorageLocation" str w.storageLocation ++
      memberOfFlag "ForceCleanupOnError" w.forceCleanupOnError) :=
  (Writes.member .str).append (.memberOf fun _ => .str)
    |>.append (.memberOf fun _ => .str)
    |>.append (.memberOf fun _ => .str)
    |>.append (.memberOfDict (VarSpec.plain _))
    |>.append (.member (.dict (WorkflowStep.plain _) _))
    |>.append (.memberOfDict (Plain.list fun _ => .str))
    |>.append (.memberOfDict fun _ => .str)
    |>.append (.memberOf fun _ => .str)
    |>.append .memberOfFlag

theorem plain (w : Workflow) : Plain (room + 7) w.toJson := (writes room w).record

/-- **A workflow is read as it was written**, but for the file it was read from. -/
theorem ofJson?_toJson (w : Workflow) : ofJson? w.toJson = some { w with sourcePath := none } := by
  have hvar : ∀ v, VarSpec.ofJson? (documentRoom - 2) v.toJson = some v := VarSpec.ofJson?_toJson (by decide)
  have hstep : ∀ s, WorkflowStep.ofJson? (documentRoom - 2) s.toJson = some s := WorkflowStep.ofJson?_toJson (by decide)
  have hnames : ∀ xs, toList? toText? (list str xs) = some xs := toList?_list toText?_str
  rw [ofJson?, toJson, fields?_record (writes 0 w) (by decide)]
  simp [Fields.required, Fields.optional, Fields.defaulted_eq, hvar, hstep, hnames]

/-- What is read remembers no file. -/
theorem sourcePath_of_ofJson? {j : Json} {w : Workflow} (h : ofJson? j = some w) : w.sourcePath = none := by
  have hforgets : (ofJson? j).map sourcePath = (ofJson? j).map fun _ => none := by
    simp only [ofJson?, Option.bind_eq_bind, Option.pure_def, Option.map_bind, Function.comp_def, Option.map_some]
  rw [h] at hforgets
  exact Option.some.inj hforgets

end Workflow

end ImageImport
