/-
# The name of an inflated disk

One disk outlives the workflow of a worker's inflation, and it is named several times: in the step that creates it,
where it is attached to the worker, in what the worker is told, and in the reference that the import goes by
afterwards.  The compute service's inflation names its disk where it creates and deletes it, and where the disk is
attached to be read.

All that stands in a step goes through the replacement of references, and nothing else does.  So the names are the same
where that leaves the identifier of the execution as it is.  The reference is read from its last slash on, so the
identifier must have none.

Main statement: `inflated_disk_named`, for all arguments and sources.  It says what each of the names is, and exactly
when they are the same (`WorkerInflation.Named`, `DirectInflation.Named`).  They need not be (`names_apart`).
-/
import ImageImport.Proofs.Disks.Inflation
import ImageImport.Proofs.Inflation.Deletion
import ImageImport.Proofs.Inflation.Soundness
import ImageImport.Proofs.Processing.Translation
import ImageImport.Proofs.Workflow.References
import ImageImport.Rehearsal.Scene

namespace ImageImport

/-! ## 1. What is replaced in a text -/

namespace Reference

variable {value? : List Char → Option (List Char)} {cs : List Char}

/-- **A character stays** that neither references nor names that stand for something are made of. -/
theorem mem_substitute {c : Char} (hopening : c ∉ opening) (hclosing : c ≠ closing)
    (hnames : ∀ name value, value? name = some value → c ∉ name) (h : c ∈ cs) : c ∈ substitute value? cs := by
  fun_induction substitute value? cs with
  | case1 => exact h
  | case2 x rest hin ih =>
    rcases List.mem_cons.mp h with rfl | h
    · exact List.mem_cons_self
    · exact List.mem_cons_of_mem _ (ih h)
  | case3 x rest inside hin hdrop => exact h
  | case4 x rest inside hin y behind hdrop hlen name ih =>
    rw [eq_print_of_closed hin hdrop, print, List.mem_append, List.mem_append, List.mem_append] at h
    rw [List.mem_append]
    rcases h with ((h | h) | h) | h
    · exact absurd h hopening
    · have hname : c ∈ name := h
      refine .inl ?_
      cases hvalue : value? name with
      | some value => exact absurd hname (hnames name value hvalue)
      | none => simp [print, hname]
    · exact absurd (List.mem_singleton.mp h) hclosing
    · exact .inr (ih h)

end Reference

section Substituting

variable {values : Dict String}

theorem substituteText_append {p : String} (h : '$' ∉ p.toList) (s : String) :
    substituteText values (p ++ s) = p ++ substituteText values s := by
  rw [substituteText, String.toList_append, Reference.substitute_append h, String.ofList_append, String.ofList_toList]
  rfl

/-- A text that is one reference. -/
theorem substituteText_reference {name value text : String} (h : Reference.closing ∉ name.toList)
    (hvalue : values.find? name = some value) (htext : text.toList = Reference.print name.toList) :
    substituteText values text = value := by
  refine String.toList_injective ?_
  rw [toList_substituteText, htext, ← List.append_nil (Reference.print _), Reference.substitute_print_append h]
  simp [Dict.chars?, Reference.substitute, hvalue]

/-- **A slash stays**, where no name has one. -/
theorem slash_substituteText (hnames : ∀ name value, values.find? name = some value → '/' ∉ name.toList) {s : String}
    (h : '/' ∈ s.toList) : '/' ∈ (substituteText values s).toList := by
  rw [substituteText, String.toList_ofList]
  refine Reference.mem_substitute (by decide) (by decide) (fun name value hvalue => ?_) h
  obtain ⟨text, htext, -⟩ := Option.map_eq_some_iff.mp hvalue
  have hname := hnames _ text htext
  rwa [String.toList_ofList] at hname

end Substituting

/-! ## 2. The disks and the instances of a workflow -/

/-- The disks that a step creates. -/
def WorkflowStep.createdDisks : WorkflowStep → List WorkflowDisk
  | createDisks disks => disks
  | _ => []

/-- The instances that a step creates. -/
def WorkflowStep.createdInstances : WorkflowStep → List WorkflowInstance
  | createInstances instances => instances
  | _ => []

namespace Workflow

/-- **All disks that a workflow creates**, step by step. -/
def createdDisks (w : Workflow) : List WorkflowDisk := w.steps.entries.flatMap fun e => e.2.createdDisks

/-- **All instances that a workflow creates**, step by step. -/
def createdInstances (w : Workflow) : List WorkflowInstance := w.steps.entries.flatMap fun e => e.2.createdInstances

/-- **The names of the disks that outlive a workflow.** -/
def keptNames (w : Workflow) : List String := (w.createdDisks.filter (·.noCleanup)).map (·.disk.name)

/-- **The names of the disks that a workflow only reads.** -/
def readNames (w : Workflow) : List String :=
  ((w.createdInstances.flatMap (·.disks)).filter fun d => d.mode = some "READ_ONLY").map (·.source)

theorem vars_substitute (w : Workflow) : w.substitute.vars = w.vars := rfl

theorem createdDisks_substitute (w : Workflow) :
    w.substitute.createdDisks = w.createdDisks.map (·.mapText (substituteText w.bindings)) := by
  simp only [createdDisks, substitute, Dict.map, List.flatMap_map, List.map_flatMap]
  refine List.flatMap_congr fun e _ => ?_
  cases e.2 <;> rfl

theorem createdInstances_substitute (w : Workflow) :
    w.substitute.createdInstances = w.createdInstances.map (·.mapText (substituteText w.bindings)) := by
  simp only [createdInstances, substitute, Dict.map, List.flatMap_map, List.map_flatMap]
  refine List.flatMap_congr fun e _ => ?_
  cases e.2 <;> rfl

theorem keptNames_substitute (w : Workflow) :
    w.substitute.keptNames = w.keptNames.map (substituteText w.bindings) := by
  simp only [keptNames, createdDisks_substitute, List.filter_map, List.map_map]
  rfl

end Workflow

/-! ## 3. The disk of a worker's inflation -/

/-- What a workflow keeps is the last segment of the reference of the inflated disk exactly if there is no slash in the
identifier and the replacement leaves it as it is. -/
theorem Arguments.substituted_eq_name_iff (a : Arguments) {values : Dict String}
    (hnames : ∀ name value, values.find? name = some value → '/' ∉ name.toList) :
    "disk-" ++ substituteText values a.executionId = Resource.name a.diskUri ↔
      '/' ∉ a.executionId.toList ∧ substituteText values a.executionId = a.executionId := by
  constructor
  · intro h
    have hslash : '/' ∉ a.executionId.toList := by
      intro hid
      apply Resource.slash_notMem_name a.diskUri
      rw [← h, String.toList_append]
      exact List.mem_append_right _ (slash_substituteText hnames hid)
    refine ⟨hslash, ?_⟩
    rw [a.name_diskUri_iff.mpr hslash, Arguments.diskName] at h
    exact (String.append_right_inj _).mp h
  · rintro ⟨hslash, hsame⟩
    rw [hsame, a.name_diskUri_iff.mpr hslash]
    rfl

namespace WorkerInflation

variable {σ : Type} (i : WorkerInflation σ)

/-- The steps of the workflow for an image. -/
theorem imageWorkflow_entries (image : String) : (i.imageWorkflow image).steps.entries =
    [("create-disk", .createDisks [i.inflatedDisk { name := "", sourceImage := some image }])] := by
  simp [imageWorkflow, Workflow.withStep, Dict.insert, Dict.insertEntry, (i.frame_place "inflate-image").2.2.2]

/-- The steps of the workflow for a file. -/
theorem fileWorkflow_entries (file : String) : (i.fileWorkflow file).steps.entries =
    [("cleanup", .deleteResources { instances := [i.instanceName] }),
      ("inflate-instance", .createInstances [i.worker]), ("setup-disks", .createDisks i.workerDisks),
      ("wait-for-signal", .waitForInstancesSignal [i.workerSignal])] := by
  simp only [fileWorkflow, Workflow.withStep, Workflow.withDependency, Workflow.addVar, Workflow.withForcedCleanup,
    (i.frame_place "inflate-file").2.2.2, Dict.insert, Dict.insertEntry, String.reduceLT, ↓reduceIte]

/-- One disk is kept, whatever the source. -/
theorem keptNames_draft : i.draft.keptNames = [i.args.diskName] := by
  unfold draft
  cases i.source with
  | image reference =>
    simp [Workflow.keptNames, Workflow.createdDisks, imageWorkflow_entries, WorkflowStep.createdDisks, inflatedDisk]
  | file path =>
    simp [Workflow.keptNames, Workflow.createdDisks, fileWorkflow_entries, WorkflowStep.createdDisks, workerDisks,
      inflatedDisk]

/-- A worker is created for a file. -/
theorem createdInstances_draft {path : String} (h : i.source = .file path) : i.draft.createdInstances = [i.worker] := by
  simp [draft, h, Workflow.createdInstances, fileWorkflow_entries, WorkflowStep.createdInstances]

/-- The variables of the workflow for a file. -/
theorem find?_fileWorkflow_vars (file name : String) : (i.fileWorkflow file).vars.find? name =
    if name = "disk_name" then some (.value i.args.diskName)
    else if name = "source_disk_file" then some (.value file)
    else none := by
  have hvars := (i.fileWorkflow_frame file).2.2
  rw [Workflow.vars_substitute] at hvars
  rw [hvars, Workflow.find?_addVar, Workflow.find?_addVar, Workflow.find?_addVar, (i.frame_bare _).2]
  rfl

/-- **No name that stands for something has a slash.** -/
theorem slash_notMem_of_resolves {name value : String} (h : i.draft.Resolves name value) : '/' ∉ name.toList := by
  rcases h with _ | _ | _ | h
  · decide
  · decide
  · decide
  · unfold draft at h
    cases hs : i.source with
    | image reference =>
      have hnone : (i.imageWorkflow reference).vars = .empty := (i.frame_bare "inflate-image").2
      simp only [hs, hnone] at h
      cases h
    | file path =>
      simp only [hs, find?_fileWorkflow_vars] at h
      split at h
      next hname =>
        rw [hname]
        decide
      next =>
        split at h
        next hname =>
          rw [hname]
          decide
        next => cases h

/-- The variable of the disk stands for its name. -/
theorem resolves_diskName {path : String} (h : i.source = .file path) :
    i.draft.Resolves "disk_name" i.args.diskName := by
  have hfound : i.draft.vars.find? "disk_name" = some (.value i.args.diskName) := by
    rw [draft, h]
    exact i.find?_fileWorkflow_vars path "disk_name"
  exact .variable hfound (by decide) (fun hn => absurd hn (by decide)) fun hn => absurd hn (by decide)

/-- The worker is told the name of the disk by its variable. -/
theorem find?_metadata : i.metadata.find? "disk_name" = some "$\x7bdisk_name\x7d" := by
  unfold metadata
  split <;> simp [Dict.ofList, Dict.find?_insert]

/-- **The names of the inflated disk** in the workflow that is run, where references stand for these values. -/
structure Named (w : Workflow) (values : Dict String) : Prop where
  /-- References stand for what the workflow says. -/
  resolves : ∀ name value, values.find? name = some value ↔ w.Resolves name value
  /-- One disk is kept, and the references in its name are replaced. -/
  kept : w.keptNames = ["disk-" ++ substituteText values i.args.executionId]
  /-- A worker has this disk last, and is told its name with the references. -/
  attached : ∀ path, i.source = .file path → ∃ worker, w.createdInstances = [worker] ∧
    worker.disks.getLast?.map (·.source) = some ("disk-" ++ substituteText values i.args.executionId) ∧
    worker.metadata.find? "disk_name" = some ("disk-" ++ i.args.executionId)
  /-- What the import goes by afterwards is one reference, whatever came of the workflow. -/
  referred : ∀ ran time console, (Inflation.left (i.outcome ran time console)).disk.uri = i.args.diskUri
  /-- The kept disk is the last segment of that reference in this case only. -/
  agrees : "disk-" ++ substituteText values i.args.executionId = Resource.name i.args.diskUri ↔
    '/' ∉ i.args.executionId.toList ∧ substituteText values i.args.executionId = i.args.executionId
  /-- The name that a worker is told is, in this case only. -/
  told : "disk-" ++ i.args.executionId = Resource.name i.args.diskUri ↔ '/' ∉ i.args.executionId.toList
  /-- An identifier in which no reference begins stays as it is. -/
  plain : ¬ Reference.opening <:+: i.args.executionId.toList →
    substituteText values i.args.executionId = i.args.executionId

theorem named : i.Named i.draft.substitute i.draft.bindings where
  resolves := i.draft.substitute.find?_bindings_iff
  kept := by
    rw [Workflow.keptNames_substitute, keptNames_draft, List.map_singleton, Arguments.diskName,
      substituteText_append (by decide)]
  attached path hpath := by
    refine ⟨i.worker.mapText (substituteText i.draft.bindings), ?_, ?_, ?_⟩
    · rw [Workflow.createdInstances_substitute, i.createdInstances_draft hpath, List.map_singleton]
    · rw [← substituteText_append (by decide)]
      rfl
    · have hvalue := (i.draft.find?_bindings_iff _ _).mpr (i.resolves_diskName hpath)
      show (i.metadata.map (substituteText i.draft.bindings)).find? "disk_name" = some i.args.diskName
      rw [Dict.find?_map, find?_metadata, Option.map_some, substituteText_reference (by decide) hvalue (by decide)]
  referred := left_outcome i
  agrees := i.args.substituted_eq_name_iff fun name value h =>
    i.slash_notMem_of_resolves ((i.draft.find?_bindings_iff name value).mp h)
  told := by
    rw [← i.args.name_diskUri_iff, eq_comm]
    rfl
  plain := substituteText_unopened _

end WorkerInflation

/-! ## 4. The disk of the compute service's inflation -/

/-- The disk that a call is about, by its name. -/
def Rehearsal.ComputeCall.diskName? : Rehearsal.ComputeCall → Option String
  | createDisk _ _ disk => some disk.name
  | getDisk _ _ name => some name
  | deleteDisk _ _ disk => some disk
  | updateDiskMetadata _ _ name _ => some name
  | createImage .. => none
  | getImage .. => none

/-- The call that is noted. -/
def ComputeNote.call : ComputeNote → Rehearsal.ComputeCall
  | called call => call
  | answered call => call

namespace DirectInflation

variable {σ : Type} (d : DirectInflation σ)

/-- The steps of the workflow that checksums the disk. -/
theorem checkerWorkflow_entries : d.checkerWorkflow.steps.entries =
    [("create-checker", .createInstances [d.checker]), ("create-checker-disk", .createDisks [{ disk := d.bootDisk }]),
      ("wait-for-checksum", .waitForInstancesSignal [d.checkerSignal])] := by
  simp only [checkerWorkflow, Workflow.withStep, Workflow.withDependency, Workflow.withForcedCleanup,
    Workflow.withLabels, Workflow.withDefaultTimeout, Workflow.withZone, Workflow.withProject, Workflow.named,
    Dict.empty, Dict.insert, Dict.insertEntry, String.reduceLT, ↓reduceIte]

/-- One instance is created, the worker that reads the disk. -/
theorem createdInstances_checkerWorkflow : d.checkerWorkflow.createdInstances = [d.checker] := by
  simp [Workflow.createdInstances, checkerWorkflow_entries, WorkflowStep.createdInstances]

/-- It reads one disk. -/
theorem readNames_checker : d.checkerWorkflow.substitute.readNames =
    [substituteText d.checkerWorkflow.bindings d.diskName] := by
  have hmode : substituteText d.checkerWorkflow.bindings "READ_ONLY" = "READ_ONLY" :=
    substituteText_plain _ (by decide)
  rw [Workflow.readNames, Workflow.createdInstances_substitute, createdInstances_checkerWorkflow]
  simp [WorkflowInstance.mapText, AttachedDisk.mapText, checker, AttachedDisk.readWrite, AttachedDisk.readOnly, hmode]

/-- **Whoever calls, it is about the same disk.** -/
theorem diskName?_of_mem_script {ι κ : Type} {who : Caller ι κ} {note : ComputeNote} (h : note ∈ d.script who) :
    note.call.diskName? = some d.diskName := by
  cases who with
  | inflates i =>
    simp only [script, List.mem_cons, List.not_mem_nil, or_false] at h
    rcases h with rfl | rfl | rfl | rfl <;> rfl
  | cancels k =>
    simp only [script, List.mem_cons, List.not_mem_nil, or_false] at h
    rcases h with rfl | rfl <;> rfl

/-- **The names of the disk** in the workflow that checksums it, where references stand for these values, and in the
calls of the compute service. -/
structure Named (w : Workflow) (values : Dict String) : Prop where
  /-- References stand for what the workflow says. -/
  resolves : ∀ name value, values.find? name = some value ↔ w.Resolves name value
  /-- One disk is attached to be read, and the references in its name are replaced. -/
  read : w.readNames = ["shadow-disk-" ++ substituteText values d.args.executionId]
  /-- Inflations and cancels call for nothing but the disk of this name, however many are under way. -/
  called : ∀ {ι κ : Type} [DecidableEq ι] [DecidableEq κ] (deletions : ι → Deletion σ) (reason : κ → String)
    (start : Moment σ) (c : Crew (Noted σ ι κ) (Caller.Answer : Caller ι κ → Type)),
    Crew.Reaches (d.notedCallers deletions reason start) c →
      ∀ who, ∀ note ∈ c.moment.state.own who, note.call.diskName? = some ("shadow-disk-" ++ d.args.executionId)
  /-- An inflation that has returned has called for its creation and for its deletion. -/
  returned : ∀ {ι κ : Type} [DecidableEq ι] [DecidableEq κ] (deletions : ι → Deletion σ) (reason : κ → String)
    (start : Moment σ) (c : Crew (Noted σ ι κ) (Caller.Answer : Caller ι κ → Type)),
    Crew.Reaches (d.notedCallers deletions reason start) c → ∀ i result, c.rest (.inflates i) = .done result →
      c.moment.state.own (.inflates i) = d.script (.inflates i : Caller ι κ)
  /-- The disk that is read is the one that is called for in this case only. -/
  agrees : "shadow-disk-" ++ substituteText values d.args.executionId = d.request.name ↔
    substituteText values d.args.executionId = d.args.executionId
  /-- An identifier in which no reference begins stays as it is. -/
  plain : ¬ Reference.opening <:+: d.args.executionId.toList →
    substituteText values d.args.executionId = d.args.executionId

theorem named : d.Named d.checkerWorkflow.substitute d.checkerWorkflow.bindings where
  resolves := d.checkerWorkflow.substitute.find?_bindings_iff
  read := by rw [readNames_checker, diskName, substituteText_append (by decide)]
  called _ _ _ _ hrun who _ hnote := d.diskName?_of_mem_script (((keeping_of_reaches hrun).2 who).subset hnote)
  returned _ _ _ _ hrun _ _ hend := script_of_returned hrun hend
  agrees := String.append_right_inj _
  plain := substituteText_unopened _

end DirectInflation

/-! ## 5. All the names -/

/-- **An inflated disk is named the same everywhere**, where the replacement of references leaves the identifier of the
execution as it is, and the identifier has no slash.  What the names are, and whether they are the same, is said for
every inflation by a worker and for every one by the compute service; each has its workflow. -/
theorem inflated_disk_named {σ : Type} (i : WorkerInflation σ) (d : DirectInflation σ) :
    (∃ w values, i.workflow = .ok w ∧ i.Named w values) ∧ ∃ w values, d.checksumWorkflow = .ok w ∧ d.Named w values :=
  ⟨⟨_, _, i.workflow_eq, i.named⟩, _, _, d.checksumWorkflow_eq, d.named⟩

/-! The names need not be the same. -/

namespace Rehearsal.Scene

/-- An inflation of an image, of an execution with this identifier. -/
def imaging (id : String) : WorkerInflation Scene where
  args := { executionId := id }
  source := .image "image"
  inspection := none
  platform := platform .none
  cell := workerCell

/-- An inflation by the compute service, of an execution with this identifier. -/
def creating (id : String) : DirectInflation Scene where
  args := { executionId := id }
  sourceFile := "gs://bucket/object"
  platform := platform .none
  cell := directCell

end Rehearsal.Scene

open Rehearsal.Scene in
/-- **The names of a disk can differ**: by a reference in the identifier, and by a slash in it. -/
theorem names_apart :
    (∃ w, (imaging "$\x7bNAME\x7d").workflow = .ok w ∧ w.keptNames = ["disk-inflate-image"] ∧
      Resource.name (imaging "$\x7bNAME\x7d").args.diskUri ≠ "disk-inflate-image") ∧
    (∃ w, (imaging "a/b").workflow = .ok w ∧ w.keptNames = ["disk-a/b"] ∧
      Resource.name (imaging "a/b").args.diskUri ≠ "disk-a/b") ∧
    ∃ w, (creating "$\x7bNAME\x7d").checksumWorkflow = .ok w ∧ w.readNames = ["shadow-disk-shadow-disk-checksum"] ∧
      (creating "$\x7bNAME\x7d").request.name ≠ "shadow-disk-shadow-disk-checksum" := by
  refine ⟨⟨_, WorkerInflation.workflow_eq _, ?_, ?_⟩, ⟨_, WorkerInflation.workflow_eq _, ?_, ?_⟩,
    _, DirectInflation.checksumWorkflow_eq _, ?_, ?_⟩
  all_goals decide +kernel

end ImageImport
