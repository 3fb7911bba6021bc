/-
# The disk that an inflation workflow keeps

The workflow of a worker's inflation keeps one disk, the one the import refers to afterwards
(`WorkerInflation.keeps_inflated`).  Its name is substituted with everything else in the workflow and the
reference of the import is not, so that holds when the execution's identifier contains no reference
(`substituteText_plain`).  And a text refers to what stands after its last slash, so the identifier must have none
(`Resource.name_zonalDiskUri`).  `Arguments.PlainId` asks for both.
-/
import ImageImport.Inflation.Choice
import ImageImport.Proofs.Disks.History
import ImageImport.Proofs.Text.Parts
import ImageImport.Proofs.Workflow.Substitution

namespace ImageImport

/-! ## 1. Names at the end of references -/

namespace Resource

/-- **The last segment has no slash.** -/
theorem slash_notMem_name (uri : String) : '/' ∉ (name uri).toList := by
  rw [name, String.toList_ofList, List.mem_reverse]
  exact Text.notMem_takeWhile_ne _ _

/-- **A disk is the last segment of its reference**, if there is no slash in its name. -/
theorem name_zonalDiskUri {zone disk : String} (h : '/' ∉ disk.toList) : name (zonalDiskUri zone disk) = disk := by
  have hdisk : '/' ∉ disk.toList.reverse := by rwa [List.mem_reverse]
  have hfront : (zonalDiskUri zone disk).toList.reverse =
      disk.toList.reverse ++ '/' :: ("/disks".toList.reverse ++ ("zones/" ++ zone).toList.reverse) := by
    simp [zonalDiskUri]
  rw [name, hfront, Text.takeWhile_ne_append hdisk, List.reverse_reverse, String.ofList_toList]

/-- A text without a slash is its own last segment. -/
theorem name_of_slash_notMem {text : String} (h : '/' ∉ text.toList) : name text = text := by
  have hall : ∀ c ∈ text.toList.reverse, (c != '/') = true :=
    Text.forall_mem_bne_iff.mpr (by rwa [List.mem_reverse])
  rw [name, List.takeWhile_eq_self_iff.mpr hall, List.reverse_reverse, String.ofList_toList]

end Resource

/-- The inflated disk is the last segment of its reference exactly if there is no slash in the identifier. -/
theorem Arguments.name_diskUri_iff (a : Arguments) :
    Resource.name a.diskUri = a.diskName ↔ '/' ∉ a.executionId.toList := by
  have hname : '/' ∉ a.diskName.toList ↔ '/' ∉ a.executionId.toList := by simp [diskName]
  rw [← hname]
  constructor
  · intro h
    rw [← h]
    exact Resource.slash_notMem_name _
  · exact Resource.name_zonalDiskUri

/-- **The identifier stands for itself** in all names: it contains no reference, and no slash. -/
structure Arguments.PlainId (args : Arguments) : Prop where
  unreferring : Text.occursIn Reference.opening args.executionId.toList = false
  unslashed : '/' ∉ args.executionId.toList

namespace Arguments.PlainId

variable {args : Arguments} (h : args.PlainId)

include h

/-- The name of the inflated disk contains no reference. -/
theorem diskName_plain : Text.occursIn Reference.opening args.diskName.toList = false := by
  rw [diskName, String.toList_append]
  exact Text.occursIn_append rfl (by decide) h.unreferring

/-- The shadow's disk is what its own name refers to. -/
theorem name_shadowDisk : Resource.name ("shadow-disk-" ++ args.executionId) = "shadow-disk-" ++ args.executionId :=
  Resource.name_of_slash_notMem (by simpa using h.unslashed)

end Arguments.PlainId

/-! ## 2. Built workflows -/

namespace Workflow

variable {w w' : Workflow} {project zone name : String}

theorem eq_substitute_of_build (h : w.build = .ok w') : w' = w.substitute := by
  rw [build_eq] at h
  cases hv : w.substitute.validate with
  | error e =>
    rw [hv] at h
    cases h
  | ok u =>
    rw [hv] at h
    exact (Except.ok.inj h).symm

theorem mem_withStep {step : String} {s : WorkflowStep} {e : String × WorkflowStep}
    (h : e ∈ (w.withStep step s).steps.entries) : e = (step, s) ∨ e ∈ w.steps.entries := Dict.mem_insertEntry h

/-- What a substituted workflow keeps, the workflow keeps under a name that is substituted. -/
theorem Keeps.of_substitute (h : w.substitute.Keeps project zone name) :
    w.project = some project ∧ w.zone = some zone ∧ ∃ step disks d,
      (step, WorkflowStep.createDisks disks) ∈ w.steps.entries ∧ d ∈ disks ∧ d.noCleanup = true ∧
        name = substituteText w.bindings d.disk.name := by
  obtain ⟨hproject, hzone, step, disks, d, hstep, hd, hkept, rfl⟩ := h
  refine ⟨hproject, hzone, ?_⟩
  obtain ⟨⟨step', s⟩, hs, heq⟩ := List.mem_map.mp hstep
  obtain ⟨rfl, hmap⟩ := Prod.mk.inj heq
  cases s with
  | createDisks ds =>
    obtain rfl := WorkflowStep.createDisks.inj hmap
    obtain ⟨d₀, hd₀, rfl⟩ := List.mem_map.mp hd
    exact ⟨_, ds, d₀, hs, hd₀, hkept, rfl⟩
  | _ => cases hmap

end Workflow

/-! ## 3. The workflows of a worker -/

namespace WorkerInflation

variable {σ : Type} {i : WorkerInflation σ} {w : Workflow}

/-- The place of an inflation's workflow. -/
def InPlace (i : WorkerInflation σ) (w : Workflow) : Prop :=
  w.IsInflation ∧ w.project = some i.args.project ∧ w.zone = some i.args.zone

theorem frame_place (i : WorkerInflation σ) (name : String) :
    (i.frame name).name = name ∧ (i.frame name).project = some i.args.project ∧
      (i.frame name).zone = some i.args.zone ∧ (i.frame name).steps.entries = [] := by
  unfold frame
  cases i.args.timeout <;> exact ⟨rfl, rfl, rfl, rfl⟩

theorem imageWorkflow_inPlace (i : WorkerInflation σ) (image : String) : i.InPlace (i.imageWorkflow image) := by
  obtain ⟨hname, hproject, hzone, -⟩ := i.frame_place "inflate-image"
  exact ⟨.inl hname, hproject, hzone⟩

theorem fileWorkflow_inPlace (i : WorkerInflation σ) (file : String) : i.InPlace (i.fileWorkflow file) := by
  obtain ⟨hname, hproject, hzone, -⟩ := i.frame_place "inflate-file"
  simp only [InPlace, Workflow.IsInflation, fileWorkflow, Workflow.withDependency, Workflow.withStep,
    Workflow.withForcedCleanup, Workflow.addVar]
  exact ⟨.inr hname, hproject, hzone⟩

/-- The workflows, before they are built, keep the inflated disk and no other. -/
theorem mem_imageWorkflow {image step : String} {disks : List WorkflowDisk} {d : WorkflowDisk}
    (h : (step, WorkflowStep.createDisks disks) ∈ (i.imageWorkflow image).steps.entries) (hd : d ∈ disks) :
    d.disk.name = i.args.diskName := by
  rcases Workflow.mem_withStep h with h | h
  · cases h
    cases List.mem_singleton.mp hd
    rfl
  · rw [(i.frame_place _).2.2.2] at h
    cases h

theorem mem_fileWorkflow {file step : String} {disks : List WorkflowDisk} {d : WorkflowDisk}
    (h : (step, WorkflowStep.createDisks disks) ∈ (i.fileWorkflow file).steps.entries) (hd : d ∈ disks)
    (hkept : d.noCleanup = true) : d.disk.name = i.args.diskName := by
  rcases Workflow.mem_withStep h with h | h
  · cases h
  rcases Workflow.mem_withStep h with h | h
  · cases h
  rcases Workflow.mem_withStep h with h | h
  · cases h
  rcases Workflow.mem_withStep h with h | h
  · cases h
    simp only [workerDisks, List.mem_cons, List.not_mem_nil, or_false] at hd
    rcases hd with rfl | rfl | rfl
    · cases hkept
    · cases hkept
    · rfl
  · have hnone : (step, WorkflowStep.createDisks disks) ∈ (i.frame "inflate-file").steps.entries := h
    rw [(i.frame_place _).2.2.2] at hnone
    cases hnone

/-- The workflow that is run is one of the two, substituted. -/
theorem workflow_cases (h : i.workflow = .ok w) : ∃ base, w = base.substitute ∧ i.InPlace base ∧
    ∀ {step disks d}, (step, WorkflowStep.createDisks disks) ∈ base.steps.entries → d ∈ disks →
      d.noCleanup = true → d.disk.name = i.args.diskName := by
  unfold workflow at h
  cases hs : i.source with
  | image image =>
    rw [hs] at h
    exact ⟨_, Workflow.eq_substitute_of_build h, i.imageWorkflow_inPlace image,
      fun hstep hd _ => mem_imageWorkflow hstep hd⟩
  | file file =>
    rw [hs] at h
    exact ⟨_, Workflow.eq_substitute_of_build h, i.fileWorkflow_inPlace file,
      fun hstep hd hkept => mem_fileWorkflow hstep hd hkept⟩

/-- **The workflow of an inflation** has one of two names. -/
theorem isInflation_of_workflow (h : i.workflow = .ok w) : w.IsInflation := by
  obtain ⟨base, rfl, ⟨hname, -, -⟩, -⟩ := workflow_cases h
  exact hname

/-- **What the workflow keeps is the inflated disk.** -/
theorem keeps_inflated (hid : i.args.PlainId)
    (h : i.workflow = .ok w) {project zone name : String} (hkeeps : w.Keeps project zone name) :
    project = i.args.project ∧ zone = i.args.zone ∧ name = i.args.diskName := by
  obtain ⟨base, rfl, ⟨-, hproject, hzone⟩, hkept⟩ := workflow_cases h
  obtain ⟨hproject', hzone', step, disks, d, hstep, hd, hno, rfl⟩ := hkeeps.of_substitute
  refine ⟨Option.some.inj (hproject'.symm.trans hproject), Option.some.inj (hzone'.symm.trans hzone), ?_⟩
  rw [hkept hstep hd hno, substituteText_plain _ hid.diskName_plain]

end WorkerInflation

end ImageImport
