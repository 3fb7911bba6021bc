/-
# Bound translations

A translation hands a workflow to the engine.  It is the workflow of its file, and what the import has to say about
it is put over that: some fields, the labels, and those variables that the file declares.

Main statement: `process_translates`, over every file, all arguments, every disk and every run.  `Prepared` says field
by field and variable by variable what is handed over, or why nothing is; there is one such answer
(`prepared_iff`), so nothing besides is touched.  The engine is called once with it, or not at all (`Translated`).

The checks come after the changes, so they are of the workflow that is handed over and not of that of the file.
-/
import ImageImport.Processing.Translation
import ImageImport.Proofs.Import.Simulation
import ImageImport.Proofs.Workflow.Substitution

namespace ImageImport

open Activity

/-! ## 1. Dictionaries by what is found in them -/

namespace Dict

variable {α : Type}

/-- **Two dictionaries in which the same is found are the same.** -/
theorem eq_of_find?_eq {d e : Dict α} (h : ∀ key, d.find? key = e.find? key) : d = e := by
  have hmem : ∀ entry, entry ∈ d.entries ↔ entry ∈ e.entries := by
    rintro ⟨key, value⟩
    rw [← find?_eq_some_iff, ← find?_eq_some_iff, h]
  have hnodup : ∀ d : Dict α, d.entries.Nodup := by
    intro d
    refine d.sorted.imp ?_
    rintro x _ hlt rfl
    exact String.lt_irrefl _ hlt
  have hperm : d.entries.Perm e.entries := (List.perm_ext_iff_of_nodup (hnodup d) (hnodup e)).mpr hmem
  have hentries : d.entries = e.entries := by
    refine hperm.eq_of_pairwise ?_ d.sorted e.sorted
    intro x y _ _ hxy hyx
    exact absurd (String.lt_trans hxy hyx) (String.lt_irrefl _)
  obtain ⟨entries, sorted⟩ := d
  subst hentries
  rfl

/-- What is found after entries have been put in one by one, where no two are under one key. -/
theorem find?_foldl_insert {es : List (String × α)} (hnodup : (es.map (·.1)).Nodup) (d : Dict α) (key : String) :
    (es.foldl (fun d e => d.insert e.1 e.2) d).find? key =
      ((es.find? fun e => e.1 == key).map (·.2)).or (d.find? key) := by
  induction es generalizing d with
  | nil => rfl
  | cons e es ih =>
    obtain ⟨k, value⟩ := e
    obtain ⟨hk, hes⟩ := List.nodup_cons.mp hnodup
    rw [List.foldl_cons, ih hes, find?_insert]
    by_cases heq : key = k
    · subst heq
      -- the key does not come again
      have hnone : (es.find? fun e => e.1 == key) = none := find?_entry_eq_none_iff.mpr hk
      simp [hnone]
    · simp [heq, Ne.symm heq]

/-- **What is put over the others is found first.** -/
theorem find?_extend (d e : Dict α) (key : String) : (d.extend e).find? key = (e.find? key).or (d.find? key) :=
  find?_foldl_insert e.keys_nodup d key

end Dict

/-! ## 2. What a bound workflow is -/

/-- **What an import offers** to a workflow that declares a variable of that name. -/
inductive Arguments.Offers (a : Arguments) : String → String → Prop where
  | imageName : Offers a "image_name" a.imageName
  | guestEnvironment (h : a.noGuestEnvironment = false) : Offers a "install_gce_packages" "true"
  | noGuestEnvironment (h : a.noGuestEnvironment = true) : Offers a "install_gce_packages" "false"
  | sysprep (h : a.sysprepWindows = true) : Offers a "sysprep" "true"
  | noSysprep (h : a.sysprepWindows = false) : Offers a "sysprep" "false"
  | family : Offers a "family" a.family
  | description : Offers a "description" a.description
  | network : Offers a "import_network" a.network
  | subnet : Offers a "import_subnet" a.subnet
  | serviceAccount : Offers a "compute_service_account" a.computeServiceAccount

/-- **The same variable with another value**: still bare, or still declared as it was. -/
inductive VarSpec.Reworded (text : String) : VarSpec → VarSpec → Prop where
  | value {old : String} : Reworded text (value old) (value text)
  | declared {old description : String} {required : Bool} :
      Reworded text (declared old required description) (declared text required description)

namespace Workflow

/-- **A variable of a bound workflow**, by what the file has under its name. -/
inductive BoundVar (a : Arguments) (uri name : String) : Option VarSpec → Option VarSpec → Prop where
  | disk {old new : VarSpec} (isDisk : name = "source_disk") (reworded : old.Reworded uri new) :
      BoundVar a uri name (some old) (some new)
  | added (isDisk : name = "source_disk") : BoundVar a uri name none (some (.value uri))
  | offered {old new : VarSpec} {text : String} (offered : a.Offers name text) (reworded : old.Reworded text new) :
      BoundVar a uri name (some old) (some new)
  | kept {old : VarSpec} (notDisk : name ≠ "source_disk") (notOffered : ∀ text, ¬ a.Offers name text) :
      BoundVar a uri name (some old) (some old)
  | undeclared (notDisk : name ≠ "source_disk") : BoundVar a uri name none none

/-- **The workflow of a file, bound to an import and its disk.** -/
structure Bound (a : Arguments) (uri : String) (file bound : Workflow) : Prop where
  name : bound.name = "image-import"
  project : bound.project = some a.project
  zone : bound.zone = some a.zone
  timeout : ∀ d, a.timeout = some d → bound.defaultTimeout = some d.format
  noTimeout : a.timeout = none → bound.defaultTimeout = file.defaultTimeout
  labels : ∀ key, bound.labels.find? key = (a.labels.find? key).or (file.labels.find? key)
  storage : a.storageLocation ≠ "" → bound.storageLocation = some a.storageLocation
  noStorage : a.storageLocation = "" → bound.storageLocation = file.storageLocation
  vars : ∀ name, BoundVar a uri name (file.vars.find? name) (bound.vars.find? name)
  steps : bound.steps = file.steps
  dependencies : bound.dependencies = file.dependencies
  cleanup : bound.forceCleanupOnError = file.forceCleanupOnError
  sourcePath : bound.sourcePath = file.sourcePath

end Workflow

/-! ## 3. The workflow that is bound -/

section Binding

variable {a : Arguments} {uri name text : String} {file bound : Workflow}

theorem Arguments.mem_optionalVars_iff : (name, text) ∈ a.optionalVars ↔ a.Offers name text := by
  constructor
  · intro h
    simp only [Arguments.optionalVars, List.mem_cons, Prod.mk.injEq, List.not_mem_nil, or_false] at h
    rcases h with ⟨rfl, rfl⟩ | ⟨rfl, rfl⟩ | ⟨rfl, rfl⟩ | ⟨rfl, rfl⟩ | ⟨rfl, rfl⟩ | ⟨rfl, rfl⟩ | ⟨rfl, rfl⟩ |
      ⟨rfl, rfl⟩
    · exact .imageName
    · cases hguest : a.noGuestEnvironment with
      | false => exact .guestEnvironment hguest
      | true => exact .noGuestEnvironment hguest
    · cases hsysprep : a.sysprepWindows with
      | false => exact .noSysprep hsysprep
      | true => exact .sysprep hsysprep
    · exact .family
    · exact .description
    · exact .network
    · exact .subnet
    · exact .serviceAccount
  · intro h
    cases h <;> simp [Arguments.optionalVars, *]

theorem Arguments.optionalVars_nodup (a : Arguments) : (a.optionalVars.map (·.1)).Nodup := by
  simp [Arguments.optionalVars]

/-- Nothing is offered for the disk. -/
theorem Arguments.Offers.ne_disk (h : a.Offers name text) : name ≠ "source_disk" := by
  cases h <;> decide

theorem Arguments.Offers.unique {text' : String} (h : a.Offers name text) (h' : a.Offers name text') :
    text = text' := by
  have hmem := Arguments.mem_optionalVars_iff.mpr h
  have hmem' := Arguments.mem_optionalVars_iff.mpr h'
  have hfound := (Dict.find?_entry_eq_some_iff a.optionalVars_nodup).mpr hmem
  rw [(Dict.find?_entry_eq_some_iff a.optionalVars_nodup).mpr hmem'] at hfound
  exact (Option.some.inj hfound).symm

theorem VarSpec.reworded_iff {old new : VarSpec} : old.Reworded text new ↔ new = old.withText text := by
  constructor
  · intro h
    cases h <;> rfl
  · rintro rfl
    cases old with
    | value => exact .value
    | declared => exact .declared

namespace Workflow

theorem find?_addVar (w : Workflow) (name text other : String) :
    (w.addVar name text).vars.find? other =
      if other = name then some (((w.vars.find? name).map (·.withText text)).getD (.value text))
      else w.vars.find? other := by
  rw [addVar, Dict.find?_insert]
  cases w.vars.find? name <;> rfl

/-- **One offer**: a variable that is declared is set, and no other is looked at. -/
theorem find?_setDeclared (w : Workflow) (name text other : String) :
    (w.setDeclared name text).vars.find? other =
      if other = name then (w.vars.find? name).map (·.withText text) else w.vars.find? other := by
  unfold setDeclared
  cases hfound : w.vars.find? name with
  | none =>
    have hundeclared : ¬ w.vars.contains name = true := by
      rw [Dict.contains_iff]
      exact Dict.find?_eq_none_iff.mp hfound
    rw [if_neg hundeclared]
    split
    next h => rw [h, hfound]; rfl
    next => rfl
  | some spec =>
    have hdeclared : w.vars.contains name = true := by
      by_contra hnot
      rw [Dict.contains_iff] at hnot
      rw [Dict.find?_eq_none_iff.mpr hnot] at hfound
      cases hfound
    rw [if_pos hdeclared, find?_addVar, hfound]
    rfl

/-- An offer changes nothing but the variables. -/
theorem setDeclared_frame (w : Workflow) (name text : String) :
    w.setDeclared name text = { w with vars := (w.setDeclared name text).vars } := by
  unfold setDeclared
  split <;> rfl

/-- **All offers, one after the other.** -/
theorem find?_offered {offers : List (String × String)} (hnodup : (offers.map (·.1)).Nodup) (w : Workflow)
    (name : String) :
    (offers.foldl (fun w v => w.setDeclared v.1 v.2) w).vars.find? name =
      match (offers.find? fun v => v.1 == name).map (·.2) with
      | some text => (w.vars.find? name).map (·.withText text)
      | none => w.vars.find? name := by
  induction offers generalizing w with
  | nil => rfl
  | cons offer offers ih =>
    obtain ⟨first, text⟩ := offer
    obtain ⟨hfirst, hrest⟩ := List.nodup_cons.mp hnodup
    rw [List.foldl_cons, ih hrest, find?_setDeclared]
    by_cases heq : name = first
    · subst heq
      have hnone : (offers.find? fun v => v.1 == name) = none := Dict.find?_entry_eq_none_iff.mpr hfirst
      simp [hnone]
    · simp [heq, Ne.symm heq]

theorem offered_frame (offers : List (String × String)) (w : Workflow) :
    ∃ vars, offers.foldl (fun w v => w.setDeclared v.1 v.2) w = { w with vars } := by
  induction offers generalizing w with
  | nil => exact ⟨w.vars, rfl⟩
  | cons offer offers ih =>
    obtain ⟨vars, hrest⟩ := ih (w.setDeclared offer.1 offer.2)
    refine ⟨vars, ?_⟩
    rw [List.foldl_cons, hrest, setDeclared_frame]

/-- **The variables of a bound workflow**: the disk is set first, and then what is offered. -/
theorem boundVar_bound (w : Workflow) (a : Arguments) (disk : PersistentDisk) (name : String) :
    BoundVar a disk.uri name (w.vars.find? name) ((w.bound a disk).vars.find? name) := by
  have hfound := find?_offered a.optionalVars_nodup ((w.placed a).addVar "source_disk" disk.uri) name
  have hplaced : (w.placed a).vars = w.vars := rfl
  rw [find?_addVar, hplaced] at hfound
  rw [bound, hfound]
  cases hoffer : (a.optionalVars.find? fun v => v.1 == name).map (·.2) with
  | some text =>
    have hoffers : a.Offers name text :=
      Arguments.mem_optionalVars_iff.mp ((Dict.find?_entry_eq_some_iff a.optionalVars_nodup).mp hoffer)
    simp only [if_neg hoffers.ne_disk]
    cases w.vars.find? name with
    | none => exact .undeclared hoffers.ne_disk
    | some old => exact .offered hoffers (VarSpec.reworded_iff.mpr rfl)
  | none =>
    have hnone : ∀ text, ¬ a.Offers name text := by
      intro text hoffers
      have hmem := Arguments.mem_optionalVars_iff.mpr hoffers
      rw [(Dict.find?_entry_eq_some_iff a.optionalVars_nodup).mpr hmem] at hoffer
      cases hoffer
    by_cases hdisk : name = "source_disk"
    · subst hdisk
      simp only [if_pos]
      cases w.vars.find? "source_disk" with
      | none => exact .added rfl
      | some old => exact .disk rfl (VarSpec.reworded_iff.mpr rfl)
    · simp only [if_neg hdisk]
      cases w.vars.find? name with
      | none => exact .undeclared hdisk
      | some old => exact .kept hdisk hnone

theorem bound_bound (w : Workflow) (a : Arguments) (disk : PersistentDisk) : Bound a disk.uri w (w.bound a disk) := by
  have hvars := boundVar_bound w a disk
  obtain ⟨vars, hframe⟩ := offered_frame a.optionalVars ((w.placed a).addVar "source_disk" disk.uri)
  have hbound : w.bound a disk = { w.placed a with vars } := hframe
  rw [hbound] at hvars ⊢
  refine ⟨rfl, rfl, rfl, ?_, ?_, w.labels.find?_extend a.labels, ?_, ?_, hvars, rfl, rfl, rfl, rfl⟩
  · intro d h
    simp [placed, h]
  · intro h
    simp [placed, h]
  · intro h
    simp [placed, Arguments.nonEmpty, h]
  · intro h
    simp [placed, Arguments.nonEmpty, h]

end Workflow

/-- What is found under a name in the file says what is found in the bound workflow. -/
theorem Workflow.BoundVar.unique {found new new' : Option VarSpec} (h : BoundVar a uri name found new)
    (h' : BoundVar a uri name found new') : new = new' := by
  cases h with
  | disk isDisk reworded =>
    cases h' with
    | disk _ reworded' => rw [VarSpec.reworded_iff.mp reworded, VarSpec.reworded_iff.mp reworded']
    | offered offered => exact absurd isDisk offered.ne_disk
    | kept notDisk => exact absurd isDisk notDisk
  | added isDisk =>
    cases h' with
    | added => rfl
    | undeclared notDisk => exact absurd isDisk notDisk
  | offered offered reworded =>
    cases h' with
    | disk isDisk => exact absurd isDisk offered.ne_disk
    | offered offered' reworded' =>
      obtain rfl := offered.unique offered'
      rw [VarSpec.reworded_iff.mp reworded, VarSpec.reworded_iff.mp reworded']
    | kept _ notOffered => exact absurd offered (notOffered _)
  | kept notDisk notOffered =>
    cases h' with
    | disk isDisk => exact absurd isDisk notDisk
    | offered offered => exact absurd offered (notOffered _)
    | kept => rfl
  | undeclared notDisk =>
    cases h' with
    | added isDisk => exact absurd isDisk notDisk
    | undeclared => rfl

/-- **There is one bound workflow**: `Bound` leaves nothing of it open. -/
theorem Workflow.Bound.unique {bound' : Workflow} (h : Bound a uri file bound) (h' : Bound a uri file bound') :
    bound = bound' := by
  have htimeout : bound.defaultTimeout = bound'.defaultTimeout := by
    cases ht : a.timeout with
    | none => rw [h.noTimeout ht, h'.noTimeout ht]
    | some d => rw [h.timeout d ht, h'.timeout d ht]
  have hstorage : bound.storageLocation = bound'.storageLocation := by
    by_cases hnone : a.storageLocation = ""
    · rw [h.noStorage hnone, h'.noStorage hnone]
    · rw [h.storage hnone, h'.storage hnone]
  have hlabels : bound.labels = bound'.labels :=
    Dict.eq_of_find?_eq fun key => by rw [h.labels, h'.labels]
  have hvars : bound.vars = bound'.vars :=
    Dict.eq_of_find?_eq fun name => (h.vars name).unique (h'.vars name)
  have hname := h.name.trans h'.name.symm
  have hproject := h.project.trans h'.project.symm
  have hzone := h.zone.trans h'.zone.symm
  have hsteps := h.steps.trans h'.steps.symm
  have hdependencies := h.dependencies.trans h'.dependencies.symm
  have hcleanup := h.cleanup.trans h'.cleanup.symm
  have hsource := h.sourcePath.trans h'.sourcePath.symm
  cases bound
  cases bound'
  rw [Workflow.mk.injEq]
  exact ⟨hname, hproject, hzone, htimeout, hvars, hsteps, hdependencies, hlabels, hstorage,
    hcleanup, hsource⟩

theorem Workflow.bound_iff {disk : PersistentDisk} : Bound a disk.uri file bound ↔ bound = file.bound a disk := by
  constructor
  · intro h
    exact h.unique (bound_bound file a disk)
  · intro h
    rw [h]
    exact bound_bound file a disk

end Binding

/-! ## 4. What is handed over -/

namespace Workflow

/-- Every workflow that one of these steps includes exists. -/
def Included (files : Files) (w : Workflow) (steps : List (String × WorkflowStep)) : Prop :=
  ∀ name i, (name, .includeWorkflow i) ∈ steps → files.isFile (w.resolvePath i.path) = true

/-- The first of these steps that includes a workflow that does not exist is the step `name`; the workflow is
missing at `path`. -/
def FirstMissing (files : Files) (w : Workflow) (steps : List (String × WorkflowStep)) (name path : String) : Prop :=
  ∃ before i after, steps = before ++ (name, .includeWorkflow i) :: after ∧ w.Included files before ∧
    path = w.resolvePath i.path ∧ files.isFile path = false

section Includes

variable {files : Files} {w : Workflow} {steps before : List (String × WorkflowStep)}

/-- **What is in order is passed over.** -/
theorem checkIncludesOf_append (h : w.Included files before) (after : List (String × WorkflowStep)) :
    checkIncludesOf files w (before ++ after) = checkIncludesOf files w after := by
  induction before with
  | nil => rfl
  | cons step before ih =>
    obtain ⟨name, kind⟩ := step
    have hrest := ih fun name i hi => h name i (List.mem_cons_of_mem _ hi)
    cases kind with
    | includeWorkflow i => simp [checkIncludesOf, h name i List.mem_cons_self, hrest]
    | createDisks => simp [checkIncludesOf, hrest]
    | createInstances => simp [checkIncludesOf, hrest]
    | waitForInstancesSignal => simp [checkIncludesOf, hrest]
    | createImages => simp [checkIncludesOf, hrest]
    | deleteResources => simp [checkIncludesOf, hrest]

theorem Included.accepted (h : w.Included files steps) : checkIncludesOf files w steps = .ok () := by
  have hends := checkIncludesOf_append h []
  rwa [List.append_nil] at hends

theorem FirstMissing.reported {name path : String} (h : w.FirstMissing files steps name path) :
    checkIncludesOf files w steps =
      .error (.invalidDefinition ("step '" ++ name ++ "' includes missing workflow " ++ path)) := by
  obtain ⟨before, i, after, rfl, hbefore, rfl, hmissing⟩ := h
  rw [checkIncludesOf_append hbefore]
  simp [checkIncludesOf, hmissing]

/-- All is there, or something is the first that is missing. -/
theorem included_or_missing (files : Files) (w : Workflow) (steps : List (String × WorkflowStep)) :
    w.Included files steps ∨ ∃ name path, w.FirstMissing files steps name path := by
  induction steps with
  | nil => exact .inl fun _ _ h => absurd h List.not_mem_nil
  | cons step steps ih =>
    by_cases hstep : w.Included files [step]
    · have hcons : ∀ {rest}, w.Included files rest → w.Included files (step :: rest) := by
        intro rest hrest name i hi
        rcases List.mem_cons.mp hi with heq | hi
        · exact hstep name i (List.mem_singleton.mpr heq)
        · exact hrest name i hi
      rcases ih with hall | ⟨name, path, before, i, after, hsteps, hbefore, hmissing⟩
      · exact .inl (hcons hall)
      · refine .inr ⟨name, path, step :: before, i, after, ?_, hcons hbefore, hmissing⟩
        rw [hsteps, List.cons_append]
    · -- the step itself includes what is not there
      simp only [Included, List.mem_singleton, not_forall, Bool.not_eq_true] at hstep
      obtain ⟨name, i, rfl, hmissing⟩ := hstep
      exact .inr ⟨name, _, [], i, steps, rfl, fun _ _ h => absurd h List.not_mem_nil, rfl, hmissing⟩

end Includes

/-- **The workflow of a file.**  It remembers where it is from. -/
inductive OfFile (files : Files) (path : String) : Workflow → Prop where
  | read {contents : String} {w : Workflow} (text : files.readText path = .ok contents) (parses : parse contents = .ok w) :
      OfFile files path { w with sourcePath := some path }

theorem ofFile_iff {files : Files} {path : String} {w : Workflow} :
    OfFile files path w ↔ load files path = .ok w := by
  constructor
  · rintro ⟨text, parses⟩
    rw [load, text]
    simp only [parses]
    rfl
  · intro h
    rw [load] at h
    cases htext : files.readText path with
    | error fault => simp [htext] at h
    | ok contents =>
      cases hparses : parse contents with
      | error e => simp [htext, hparses, Except.map] at h
      | ok file =>
        simp only [htext, hparses, Except.map, Except.ok.injEq] at h
        exact h ▸ .read htext hparses

end Workflow

/-- **What is prepared for a disk**: the workflow that is handed over, or why none is. -/
inductive Prepared (files : Files) (a : Arguments) (path : String) (disk : PersistentDisk) :
    Except WorkflowError Workflow → Prop where
  | unread {fault : ReadFault} (text : files.readText (Path.join a.workflowDir path) = .error fault) :
      Prepared files a path disk (.error (.unreadable fault))
  | unparsed {contents : String} {e : WorkflowError}
      (text : files.readText (Path.join a.workflowDir path) = .ok contents) (parses : Workflow.parse contents = .error e) :
      Prepared files a path disk (.error e)
  | unsound {file bound : Workflow} {e : WorkflowError} (ofFile : file.OfFile files (Path.join a.workflowDir path))
      (binds : Workflow.Bound a disk.uri file bound) (sound : bound.validate = .error e) :
      Prepared files a path disk (.error e)
  | missing {file bound : Workflow} {name missing : String} (ofFile : file.OfFile files (Path.join a.workflowDir path))
      (binds : Workflow.Bound a disk.uri file bound) (sound : bound.validate = .ok ())
      (first : bound.FirstMissing files bound.steps.entries name missing) : Prepared files a path disk
        (.error (.invalidDefinition ("step '" ++ name ++ "' includes missing workflow " ++ missing)))
  | ready {file bound : Workflow} (ofFile : file.OfFile files (Path.join a.workflowDir path))
      (binds : Workflow.Bound a disk.uri file bound) (sound : bound.validate = .ok ())
      (included : bound.Included files bound.steps.entries) : Prepared files a path disk (.ok bound)

section Preparing

variable {files : Files} {a : Arguments} {path : String} {disk : PersistentDisk}

theorem prepared_prepareTranslation : Prepared files a path disk (prepareTranslation files a path disk) := by
  unfold prepareTranslation
  cases hload : Workflow.load files (Path.join a.workflowDir path) with
  | error e =>
    rw [Workflow.load] at hload
    cases htext : files.readText (Path.join a.workflowDir path) with
    | error fault =>
      simp only [htext, Except.error.injEq] at hload
      exact hload ▸ .unread htext
    | ok contents =>
      cases hparses : Workflow.parse contents with
      | error e' =>
        simp only [htext, hparses, Except.map, Except.error.injEq] at hload
        exact hload ▸ .unparsed htext hparses
      | ok w => simp [htext, hparses, Except.map] at hload
  | ok file =>
    have hfile := Workflow.ofFile_iff.mpr hload
    obtain ⟨bound, hbinds, hbound⟩ : ∃ bound, Workflow.Bound a disk.uri file bound ∧ file.bound a disk = bound :=
      ⟨_, file.bound_bound a disk, rfl⟩
    simp only [hbound]
    cases hsound : bound.validate with
    | error e => exact .unsound hfile hbinds hsound
    | ok sound =>
      simp only [Workflow.checkIncludes]
      rcases Workflow.included_or_missing files bound bound.steps.entries with hall | ⟨name, missing, hfirst⟩
      · rw [hall.accepted]
        exact .ready hfile hbinds hsound hall
      · rw [hfirst.reported]
        exact .missing hfile hbinds hsound hfirst

/-- **There is one answer**, and it is the one that is prepared. -/
theorem prepared_iff {prepared : Except WorkflowError Workflow} :
    Prepared files a path disk prepared ↔ prepared = prepareTranslation files a path disk := by
  constructor
  · intro h
    unfold prepareTranslation
    cases h with
    | unread text => simp [Workflow.load, text]
    | unparsed text parses => simp [Workflow.load, text, parses, Except.map]
    | unsound ofFile binds sound =>
      simp only [Workflow.ofFile_iff.mp ofFile, ← Workflow.bound_iff.mp binds, sound]
    | missing ofFile binds sound first =>
      simp only [Workflow.ofFile_iff.mp ofFile, ← Workflow.bound_iff.mp binds, sound, Workflow.checkIncludes,
        first.reported]
      rfl
    | ready ofFile binds sound included =>
      simp only [Workflow.ofFile_iff.mp ofFile, ← Workflow.bound_iff.mp binds, sound, Workflow.checkIncludes,
        included.accepted]
      rfl
  · intro h
    rw [h]
    exact prepared_prepareTranslation

end Preparing

/-! ## 5. The run -/

namespace Translation

variable {υ : Type}

/-- What is noted of the engine. -/
inductive RunNote where
  | called (workflow : Workflow)
  | answered (r : Except Crash (Except WorkflowError Unit))

/-- What has been noted of it, each note with its instant. -/
abbrev RunHistory := List (Nat × RunNote)

/-- **The platform with notes of its engine.** -/
def running (p : Platform (Watched υ RunNote)) : Platform (Watched υ RunNote) :=
  { p with runWorkflow := fun w isCancelled record =>
      .watching (.called w) .answered (p.runWorkflow w isCancelled record) }

/-- **A translation that has come to an end**, by what is prepared for it: what is heard of the engine, and how it
ends. -/
inductive Translated (disk : PersistentDisk) (start : Nat) :
    Except WorkflowError Workflow → RunHistory → Except Crash (Except ImportError PersistentDisk) → Prop where
  | refused {e : WorkflowError} : Translated disk start (.error e) [] (.ok (.error (.workflow e)))
  | failed {w : Workflow} {e : WorkflowError} {t : Nat} :
      Translated disk start (.ok w) [(start, .called w), (t, .answered (.ok (.error e)))] (.ok (.error (.workflow e)))
  | translated {w : Workflow} {t : Nat} :
      Translated disk start (.ok w) [(start, .called w), (t, .answered (.ok (.ok ())))] (.ok (.ok disk))
  | crashed {w : Workflow} {why : Crash} {t : Nat} :
      Translated disk start (.ok w) [(start, .called w), (t, .answered (.error why))] (.error why)

/-- The engine has been called with what is prepared, and has not answered. -/
def Awaits (start : Nat) (prepared : Except WorkflowError Workflow) (m : Moment (Watched υ RunNote)) : Prop :=
  ∃ w, prepared = .ok w ∧ m.state.seen = [(start, .called w)]

/-- **What a run comes to**; the metrics come back as they were given. -/
def RunOutcome (disk : PersistentDisk) (given : Metrics) (start : Nat) (prepared : Except WorkflowError Workflow) :
    Ending (Watched υ RunNote) (Metrics × Except ImportError PersistentDisk) → Prop
  | .returned (metrics, r) last => metrics = given ∧ Translated disk start prepared last.state.seen (.ok r)
  | .crashed why last => Translated disk start prepared last.state.seen (.error why)
  | .stalled last => Awaits start prepared last

/-- The terms: nobody else notes anything. -/
abbrev terms : Terms (Watched υ RunNote) := .whole fun _ => ()

/-- **The engine**, between its two notes. -/
theorem runWorkflow_meets (p : Platform υ) (w : Workflow) (isCancelled : Watched υ RunNote → Bool)
    (record : String → String → Watched υ RunNote → Watched υ RunNote) {m : Moment (Watched υ RunNote)}
    (hm : m.state.seen = []) :
    ((running p.watched).runWorkflow w isCancelled record).Meets terms (fun _ => Awaits m.now (.ok w))
      (fun r m' => m'.state.seen = [(m.now, .called w), (m'.now, .answered r)]) m := by
  refine Meets.weaken (fun {_ m'} hs => ?_) (fun {r m'} hs => ?_) (Meets.watching_call (p.runWorkflow w _ _))
  · rw [hm] at hs
    exact ⟨w, rfl, hs⟩
  · rw [hm] at hs
    exact hs

/-- **The translation**: what is prepared is handed over, and its end is that of the translation. -/
theorem process_meets (p : Platform υ) (args : Arguments) (path : String) (cell : Cell υ TranslationState)
    (disk : PersistentDisk) {m : Moment (Watched υ RunNote)} (hm : m.state.seen = []) :
    (process { args, path, platform := running p.watched, cell := Watched.part cell } disk).Meets terms
      (fun _ => Awaits m.now (prepareTranslation p.files args path disk))
      (fun r m' => Translated disk m.now (prepareTranslation p.files args path disk) m'.state.seen r) m := by
  let t : Translation (Watched υ RunNote) := { args, path, platform := running p.watched, cell := Watched.part cell }
  obtain ⟨prepared, hprepared⟩ : ∃ prepared, prepareTranslation p.files args path disk = prepared := ⟨_, rfl⟩
  rw [hprepared]
  cases prepared with
  | error e =>
    have hprocess : t.process disk = .done (.error (.workflow e)) := process_of_error hprepared
    have hends : Translated disk m.now (.error e) m.state.seen (.ok (.error (.workflow e))) := hm ▸ .refused
    rw [hprocess]
    exact hends
  | ok w =>
    have hprocess := process_of_ok (t := t) hprepared
    rw [hprocess]
    refine Meets.bind (Meets.bind (Meets.weaken id (fun {r m'} hseen => ?_) (runWorkflow_meets p w _ _ hm)))
    match r, hseen with
    | .ok (.ok ()), hseen =>
      exact (hseen ▸ .translated : Translated disk m.now (.ok w) m'.state.seen (.ok (.ok disk)))
    | .ok (.error e), hseen =>
      exact (hseen ▸ .failed : Translated disk m.now (.ok w) m'.state.seen (.ok (.error (.workflow e))))
    | .error why, hseen => exact (hseen ▸ .crashed : Translated disk m.now (.ok w) m'.state.seen (.error why))

theorem running_mirrors (p : Platform υ) : (running p.watched).Mirrors Watched.state p := by
  refine { p.watched_mirrors with runWorkflow := ?_ }
  intro w _ _ _ _ hcancelled hrecord
  exact .watching (p.watched_mirrors.runWorkflow w hcancelled hrecord)

/-- **A workflow is handed to the engine as it is prepared**, whatever the file holds, once, and the disk comes back
as it went in; where none is prepared, the engine is not called.  The notes of the engine change nothing: without
them the run is the same. -/
theorem process_translates (p : Platform υ) (args : Arguments) (path : String) (cell : Cell υ TranslationState)
    (disk : PersistentDisk) (given : Metrics) (m : Moment υ) :
    let watched := ((processor { args, path, platform := running p.watched, cell := Watched.part cell }).process
      disk given).attended.run ⟨m.now, ⟨m.state, []⟩⟩
    ∃ prepared, (∀ x, Prepared p.files args path disk x ↔ x = prepared) ∧
      RunOutcome disk given m.now prepared watched ∧
      Ending.Alike Watched.state Eq watched
        (((processor { args, path, platform := p, cell }).process disk given).attended.run m) := by
  let start : Moment (Watched υ RunNote) := ⟨m.now, ⟨m.state, []⟩⟩
  have hmeets : ((processor { args, path, platform := running p.watched, cell := Watched.part cell }).process disk
      given).Meets terms _ _ start := unreported_meets (process_meets p args path cell disk rfl)
  have hsat := Meets.run_attended (Terms.whole_closed _ _) hmeets
  have hcell : Cell.Mirrors Watched.state (Watched.part cell : Cell (Watched υ RunNote) _) cell :=
    ⟨fun _ => rfl, fun _ _ => rfl⟩
  have hsame := (translation_mirrors (running_mirrors p) args hcell path).process disk given
  refine ⟨_, fun x => prepared_iff, ?_, Mirrors.run_attended hsame start⟩
  cases hrun : Activity.run _ start with
  | returned answer last =>
    rw [hrun] at hsat
    exact ⟨hsat.2 answer rfl, hsat.1⟩
  | crashed why last =>
    rw [hrun] at hsat
    exact hsat.1
  | stalled last =>
    rw [hrun] at hsat
    obtain ⟨_, hwaits, -⟩ := hsat
    exact hwaits

end Translation

end ImageImport
