/-
# The workflows of an inflation are sound

Whatever the arguments and the source, the workflow that inflates it is sound: it is named, its timeout can be
read, no variable of it lacks a value, and its steps can be put in order.  So an inflation by a worker always
comes to its workflow (`WorkerInflation.exists_workflow`).  The workflow that checksums the disk of an inflation by the
compute service is sound as well (`DirectInflation.exists_checksumWorkflow`).

The order depends on the names of the steps alone, and those are the same for all arguments.
-/
import ImageImport.Proofs.Disks.Kept
import ImageImport.Proofs.Workflow.Soundness

namespace ImageImport

/-! ## 1. The two workflows -/

namespace WorkerInflation

variable {σ : Type} (i : WorkerInflation σ)

/-- The timeout that an inflation sets can be read. -/
theorem frame_timeout (name : String) {t : String} (h : (i.frame name).defaultTimeout = some t) :
    (Duration.parse? t).isSome = true := by
  unfold frame at h
  cases ht : i.args.timeout with
  | none =>
    rw [ht] at h
    cases h
  | some d =>
    rw [ht] at h
    cases h
    rw [Duration.parse?_format]
    rfl

/-- The steps of the workflow for a file, without what they do. -/
def fileSteps : Workflow :=
  (Workflow.named "")
    |>.withStep "setup-disks" (.createDisks [])
    |>.withStep "inflate-instance" (.createInstances [])
    |>.withStep "wait-for-signal" (.waitForInstancesSignal [])
    |>.withStep "cleanup" (.deleteResources {})
    |>.withDependency "inflate-instance" ["setup-disks"]
    |>.withDependency "wait-for-signal" ["inflate-instance"]
    |>.withDependency "cleanup" ["wait-for-signal"]

/-- The step of the workflow for an image, without what it does. -/
def imageSteps : Workflow := (Workflow.named "").withStep "create-disk" (.createDisks [])

theorem fileSteps_ordered : fileSteps.executionOrder.isOk = true := by decide +kernel

theorem imageSteps_ordered : imageSteps.executionOrder.isOk = true := by decide +kernel

theorem fileSteps_nonempty : fileSteps.steps.isEmpty = false := by decide +kernel

theorem imageSteps_nonempty : imageSteps.steps.isEmpty = false := by decide +kernel

/-- Nothing but a place, a timeout and labels. -/
theorem frame_bare (name : String) : (i.frame name).SameOrder (Workflow.named "") ∧ (i.frame name).vars = .empty := by
  unfold frame
  cases i.args.timeout <;> exact ⟨⟨rfl, rfl⟩, rfl⟩

theorem fileWorkflow_order (file : String) : (i.fileWorkflow file).substitute.SameOrder fileSteps :=
  ((((((i.frame_bare "inflate-file").1.addVar _ _).addVar _ _).withForcedCleanup true).withStep _ _ _
    |>.withStep _ _ _ |>.withStep _ _ _ |>.withStep _ _ _ |>.withDependency _ _ |>.withDependency _ _
    |>.withDependency _ _)).substitute

theorem imageWorkflow_order (image : String) : (i.imageWorkflow image).substitute.SameOrder imageSteps :=
  ((i.frame_bare "inflate-image").1.withStep _ _ _).substitute

/-- The workflow for an image is sound. -/
theorem validate_imageWorkflow (image : String) : (i.imageWorkflow image).substitute.validate = .ok () := by
  have horder := i.imageWorkflow_order image
  refine Workflow.validate_eq_ok ?_ (horder.isEmpty_eq.trans imageSteps_nonempty) (fun t ht => i.frame_timeout _ ht)
    (fun e he => ?_) (horder.executionOrder_eq ▸ imageSteps_ordered)
  · show Text.isBlankText (i.frame "inflate-image").name = false
    rw [(i.frame_place _).1]
    decide
  · have hnone : e ∈ (i.frame "inflate-image").vars.entries := he
    rw [(i.frame_bare _).2] at hnone
    cases hnone

/-- What the steps of the workflow for a file leave as it is. -/
theorem fileWorkflow_frame (file : String) :
    (i.fileWorkflow file).substitute.name = (i.frame "inflate-file").name ∧
      (i.fileWorkflow file).substitute.defaultTimeout = (i.frame "inflate-file").defaultTimeout ∧
      (i.fileWorkflow file).substitute.vars = (((i.frame "inflate-file").addVar "source_disk_file" file).addVar
        "disk_name" i.args.diskName).vars := by
  simp only [fileWorkflow, Workflow.substitute, Workflow.withDependency, Workflow.withStep, Workflow.withForcedCleanup,
    Workflow.addVar, and_self]

/-- The workflow for a file is sound. -/
theorem validate_fileWorkflow (file : String) : (i.fileWorkflow file).substitute.validate = .ok () := by
  obtain ⟨hname, htimeout, hvars⟩ := i.fileWorkflow_frame file
  have horder := i.fileWorkflow_order file
  have hframe : ∀ e ∈ (i.frame "inflate-file").vars.entries, e.2.isRequired = false := by
    intro e he
    rw [(i.frame_bare _).2] at he
    cases he
  refine Workflow.validate_eq_ok ?_ (horder.isEmpty_eq.trans fileSteps_nonempty) (fun t ht => ?_) ?_
    (horder.executionOrder_eq ▸ fileSteps_ordered)
  · rw [hname, (i.frame_place _).1]
    decide
  · rw [htimeout] at ht
    exact i.frame_timeout _ ht
  · rw [hvars]
    exact Workflow.optional_addVar (Workflow.optional_addVar hframe)

/-- **The workflow of an inflation**, before its references are replaced. -/
def draft : Workflow :=
  match i.source with
  | .image reference => i.imageWorkflow reference
  | .file path => i.fileWorkflow path

/-- It is built, whatever the source. -/
theorem workflow_eq : i.workflow = .ok i.draft.substitute := by
  unfold workflow draft
  cases i.source with
  | image image => exact Workflow.isOk_build (i.validate_imageWorkflow image)
  | file file => exact Workflow.isOk_build (i.validate_fileWorkflow file)

/-- **An inflation by a worker always comes to its workflow.** -/
theorem exists_workflow : ∃ w, i.workflow = .ok w := ⟨_, i.workflow_eq⟩

end WorkerInflation

/-! ## 2. The workflow that checksums a disk -/

namespace DirectInflation

variable {σ : Type} (d : DirectInflation σ)

/-- **The workflow that checksums the disk**, before its references are replaced. -/
def checkerWorkflow : Workflow :=
  Workflow.named checksumName
    |>.withProject d.args.project
    |>.withZone d.args.zone
    |>.withDefaultTimeout checksumTimeout
    |>.withLabels d.args.labels
    |>.withForcedCleanup true
    |>.withStep "create-checker-disk" (.createDisks [{ disk := d.bootDisk }])
    |>.withStep "create-checker" (.createInstances [d.checker])
    |>.withStep "wait-for-checksum" (.waitForInstancesSignal [d.checkerSignal])
    |>.withDependency "create-checker" ["create-checker-disk"]
    |>.withDependency "wait-for-checksum" ["create-checker"]

/-- Its steps, without what they do. -/
def checkerSteps : Workflow :=
  (Workflow.named "")
    |>.withStep "create-checker-disk" (.createDisks [])
    |>.withStep "create-checker" (.createInstances [])
    |>.withStep "wait-for-checksum" (.waitForInstancesSignal [])
    |>.withDependency "create-checker" ["create-checker-disk"]
    |>.withDependency "wait-for-checksum" ["create-checker"]

theorem checkerSteps_ordered : checkerSteps.executionOrder.isOk = true := by decide +kernel

theorem checkerSteps_nonempty : checkerSteps.steps.isEmpty = false := by decide +kernel

theorem checkerWorkflow_order : d.checkerWorkflow.substitute.SameOrder checkerSteps := by
  have hframe : Workflow.SameOrder ((((((Workflow.named checksumName).withProject d.args.project).withZone
      d.args.zone).withDefaultTimeout checksumTimeout).withLabels d.args.labels).withForcedCleanup true)
      (Workflow.named "") := ⟨rfl, rfl⟩
  exact ((((hframe.withStep _ _ _).withStep _ _ _).withStep _ _ _).withDependency _ _).withDependency _ _ |>.substitute

/-- The workflow that checksums the disk is sound. -/
theorem validate_checkerWorkflow : d.checkerWorkflow.substitute.validate = .ok () := by
  have horder := d.checkerWorkflow_order
  have hname : Text.isBlankText checksumName = false := by decide
  refine Workflow.validate_eq_ok hname (horder.isEmpty_eq.trans checkerSteps_nonempty) (fun t ht => ?_)
    (fun e he => ?_) (horder.executionOrder_eq ▸ checkerSteps_ordered)
  · cases ht
    rw [Duration.parse?_format]
    rfl
  · cases he

theorem checksumWorkflow_eq : d.checksumWorkflow = .ok d.checkerWorkflow.substitute :=
  Workflow.isOk_build d.validate_checkerWorkflow

/-- **A checksum always comes to its workflow.** -/
theorem exists_checksumWorkflow : ∃ w, d.checksumWorkflow = .ok w := ⟨_, d.checksumWorkflow_eq⟩

end DirectInflation

end ImageImport
