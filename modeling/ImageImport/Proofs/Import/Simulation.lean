/-
# Imports on platforms that look the same

Platforms may differ in what they keep for themselves, notes of what they are asked for instance, and look the
same otherwise: seen through `view`, every call of the one is a call of the other.  Then an import on the one is
an import on the other, seen through `view` (`perform_mirrors`).  The proof follows the text of the import, one
lemma for each function that uses the platform or a cell.
-/
import ImageImport.Import
import ImageImport.Proofs.Disks.History
import ImageImport.Proofs.Shadow.Outcome
import Mathlib.Data.List.Forall2

namespace ImageImport

open Activity

variable {σ σ' τ ε ε' α β : Type} {view : σ' → σ} {C : Prop}

/-! ## 1. What looks the same -/

/-- The same part, seen through `view`. -/
structure Cell.Mirrors (view : σ' → σ) (c' : Cell σ' τ) (c : Cell σ τ) : Prop where
  get : ∀ s, c'.get s = c.get (view s)
  set : ∀ t s, view (c'.set t s) = c.set t (view s)

theorem Cell.Mirrors.modify {c' : Cell σ' τ} {c : Cell σ τ} (h : Cell.Mirrors view c' c) (f : τ → τ) (s : σ') :
    view (c'.modify f s) = c.modify f (view s) := by
  rw [Cell.modify, h.set, h.get, Cell.modify]

/-- The same activity, seen through `view`. -/
abbrev Activity.SameAs (view : σ' → σ) (a' : Activity σ' α) (a : Activity σ α) : Prop :=
  Activity.Mirrors view True Eq a' a

/-- **The same platform**, seen through `view`. -/
structure Platform.Mirrors (view : σ' → σ) (p' : Platform σ') (p : Platform σ) : Prop where
  createDisk : ∀ project zone disk, SameAs view (p'.createDisk project zone disk) (p.createDisk project zone disk)
  getDisk : ∀ project zone name, SameAs view (p'.getDisk project zone name) (p.getDisk project zone name)
  deleteDisk : ∀ project zone disk, SameAs view (p'.deleteDisk project zone disk) (p.deleteDisk project zone disk)
  updateDiskMetadata : ∀ project zone name update, SameAs view (p'.updateDiskMetadata project zone name update)
    (p.updateDiskMetadata project zone name update)
  createImage : ∀ project image, SameAs view (p'.createImage project image) (p.createImage project image)
  getImage : ∀ project name, SameAs view (p'.getImage project name) (p.getImage project name)
  openReader : ∀ bucket object, SameAs view (p'.openReader bucket object) (p.openReader bucket object)
  objectSize : ∀ bucket object, SameAs view (p'.objectSize bucket object) (p.objectSize bucket object)
  inspect : ∀ reference, SameAs view (p'.inspect reference) (p.inspect reference)
  runWorkflow : ∀ workflow {isCancelled' isCancelled record' record}, (∀ s, isCancelled' s = isCancelled (view s)) →
    (∀ inst line s, view (record' inst line s) = record inst line (view s)) →
    SameAs view (p'.runWorkflow workflow isCancelled' record') (p.runWorkflow workflow isCancelled record)
  log : ∀ severity line s, view (p'.log severity line s) = p.log severity line (view s)
  files : p'.files = p.files

/-- **The platform beside notes** looks the same without them. -/
theorem Platform.watched_mirrors {υ κ : Type} (p : Platform υ) :
    (p.watched : Platform (Watched υ κ)).Mirrors Watched.state p where
  createDisk _ _ _ := mirrors_inside _
  getDisk _ _ _ := mirrors_inside _
  deleteDisk _ _ _ := mirrors_inside _
  updateDiskMetadata _ _ _ _ := mirrors_inside _
  createImage _ _ := mirrors_inside _
  getImage _ _ := mirrors_inside _
  openReader _ _ := mirrors_inside _
  objectSize _ _ := mirrors_inside _
  inspect _ := mirrors_inside _
  runWorkflow w isCancelled' isCancelled record' record hcancelled hrecord := by
    have hsame : isCancelled = fun s => isCancelled' ⟨s, []⟩ := funext fun s => (hcancelled ⟨s, []⟩).symm
    have hsame' : record = fun inst line s => (record' inst line ⟨s, []⟩).state :=
      funext fun inst => funext fun line => funext fun s => (hrecord inst line ⟨s, []⟩).symm
    rw [hsame, hsame']
    exact mirrors_inside _
  log _ _ _ := rfl
  files := rfl

/-- The same cells. -/
structure Importer.Cells.Mirrors (view : σ' → σ) (cells' : Importer.Cells σ') (cells : Importer.Cells σ) : Prop where
  worker : Cell.Mirrors view cells'.inflation.worker cells.inflation.worker
  direct : Cell.Mirrors view cells'.inflation.direct cells.inflation.direct
  mainFinished : Cell.Mirrors view cells'.inflation.mainFinished cells.inflation.mainFinished
  translation : Cell.Mirrors view cells'.translation cells.translation
  left : Cell.Mirrors view cells'.left cells.left

namespace Activity

theorem Mirrors.holding {R : α → β → Prop} {lock' : Cell σ' Lock} {lock : Cell σ Lock}
    (hlock : Cell.Mirrors view lock' lock) {a' : Activity σ' α} {a : Activity σ β} (h : Mirrors view C R a' a) :
    Mirrors view C R (holding lock' a') (holding lock a) := by
  have hjoin : Mirrors view C Eq (Activity.exchange fun s => ((lock'.get s).join.1, lock'.set (lock'.get s).join.2 s))
      (Activity.exchange fun s => ((lock.get s).join.1, lock.set (lock.get s).join.2 s)) :=
    .exchange (fun s => by rw [hlock.get]) fun s => by rw [hlock.set, hlock.get]
  refine Mirrors.bind hjoin ?_
  rintro ticket _ rfl
  refine Mirrors.releasing (hlock.modify _) (Mirrors.bind (R := Eq) ?_ fun _ => h)
  have hready : (⟨fun s => (lock'.get s).isHeldBy ticket, none⟩ : Wake σ') =
      Wake.through view ⟨fun s => (lock.get s).isHeldBy ticket, none⟩ := by
    simp only [Wake.through, hlock.get]
  rw [until_, until_, hready]
  exact .waitOr _

theorem Mirrors.andThen {a' : Activity σ' (Except ε α)} {a : Activity σ (Except ε α)}
    {f' : α → Activity σ' (Except ε β)} {f : α → Activity σ (Except ε β)} (ha : Mirrors view C Eq a' a)
    (hf : ∀ v, Mirrors view C Eq (f' v) (f v)) : Mirrors view C Eq (a'.andThen f') (a.andThen f) := by
  refine Mirrors.bind ha ?_
  rintro r _ rfl
  cases r with
  | ok v => exact hf v
  | error e => exact .done rfl

theorem Mirrors.mapFault {g : ε → ε'} {a' : Activity σ' (Except ε α)} {a : Activity σ (Except ε α)}
    (ha : Mirrors view C Eq a' a) : Mirrors view C Eq (a'.mapFault g) (a.mapFault g) := by
  refine Mirrors.bind ha ?_
  rintro r _ rfl
  exact .done rfl

end Activity

section Parts

variable {p' : Platform σ'} {p : Platform σ} (hp : p'.Mirrors view p) {cells' : Importer.Cells σ'}
  {cells : Importer.Cells σ} (hcells : cells'.Mirrors view cells) (args : Arguments)

include hp

theorem warn_mirrors (line : String) : SameAs view (p'.warn line) (p.warn line) := .update (hp.log _ _)

/-! ## 2. The source -/

theorem resolve_mirrors (sourceFile sourceImage : String) :
    SameAs view (Source.resolve p' sourceFile sourceImage) (Source.resolve p sourceFile sourceImage) := by
  have hfile : ∀ path, SameAs view (Source.ofFile p' path) (Source.ofFile p path) := by
    intro path
    unfold Source.ofFile
    cases Source.parseStoragePath path with
    | error e => exact .done rfl
    | ok place => exact Mirrors.andThen (.mapFault (hp.openReader _ _)) fun _ => .done rfl
  unfold Source.resolve
  generalize Text.trim sourceFile = path
  generalize Text.trim sourceImage = reference
  dsimp only
  split
  · exact .done rfl
  · split
    · exact .done rfl
    · split
      · exact hfile _
      · exact .done rfl

theorem inspectSource_mirrors (source : Source) :
    SameAs view (InflationCells.inspectSource p' source) (InflationCells.inspectSource p source) := by
  cases source with
  | image reference => exact .done rfl
  | file path =>
    refine Mirrors.bind (hp.inspect path) ?_
    rintro report _ rfl
    cases report with
    | ok inspection => exact .done rfl
    | error e => exact Mirrors.bind (warn_mirrors hp _) fun _ => .done rfl

/-! ## 3. The inflations -/

include hcells

variable (source : Source) (inspection : Option Inspection)

omit hp in
theorem workerCancel_mirrors :
    SameAs view (cells'.inflation.byWorker p' args source inspection).cancel
      (cells.inflation.byWorker p args source inspection).cancel := by
  have hc := hcells.worker
  unfold WorkerInflation.cancel
  refine Mirrors.exchange (fun s => ?_) fun s => ?_
  · by_cases hfinished : (cells.inflation.worker.get (view s)).finished = true <;>
      simp [InflationCells.byWorker, hc.get, hfinished]
  · by_cases hfinished : (cells.inflation.worker.get (view s)).finished = true <;>
      simp [InflationCells.byWorker, hc.get, hc.modify, hfinished]

omit hcells in
/-- An inflation by a worker, wherever it keeps its state. -/
theorem workerInflate_mirrors {cell' : Cell σ' WorkerState} {cell : Cell σ WorkerState} (hc : cell'.Mirrors view cell) :
    SameAs view (WorkerInflation.inflate ⟨args, source, inspection, p', cell'⟩)
      (WorkerInflation.inflate ⟨args, source, inspection, p, cell⟩) := by
  let i' : WorkerInflation σ' := ⟨args, source, inspection, p', cell'⟩
  let i : WorkerInflation σ := ⟨args, source, inspection, p, cell⟩
  have hsame : i'.workflow = i.workflow := rfl
  show SameAs view i'.inflate i.inflate
  unfold WorkerInflation.inflate
  rw [hsame]
  cases i.workflow with
  | error cause => exact .done rfl
  | ok workflow =>
    refine Mirrors.bind Mirrors.clock ?_
    rintro started _ rfl
    refine Mirrors.bind (hp.runWorkflow workflow (fun s => by rw [hc.get]) fun inst line s => hc.modify _ s) ?_
    rintro ran _ rfl
    refine Mirrors.bind (Mirrors.update (hc.modify _)) fun _ => ?_
    refine Mirrors.bind Mirrors.clock ?_
    rintro ended _ rfl
    refine Mirrors.bind (R := Eq) (Mirrors.read fun s => by rw [hc.get]) ?_
    rintro console _ rfl
    exact .done rfl

section Direct

variable {cell' : Cell σ' DirectState} {cell : Cell σ DirectState} (hc : cell'.Mirrors view cell)

include hc

omit hp hcells in
theorem lock_mirrors (file : String) :
    Cell.Mirrors view (DirectInflation.lock ⟨args, file, p', cell'⟩) (DirectInflation.lock ⟨args, file, p, cell⟩) where
  get s := congrArg DirectState.lock (hc.get s)
  set l s := hc.modify (fun t => { t with lock := l }) s

omit hcells in
theorem directCancel_mirrors (file reason : String) :
    SameAs view (DirectInflation.cancel ⟨args, file, p', cell'⟩ reason)
      (DirectInflation.cancel ⟨args, file, p, cell⟩ reason) := by
  refine Mirrors.bind (Mirrors.update (hc.modify _)) fun _ => Mirrors.holding (lock_mirrors args hc file) ?_
  refine Mirrors.bind (hp.getDisk ..) ?_
  rintro found _ rfl
  exact Mirrors.bind (Mirrors.update (hc.modify _)) fun _ => .done rfl

omit hcells in
theorem checksum_mirrors (file : String) (started : Nat) (disk : PersistentDisk) :
    SameAs view (DirectInflation.checksum ⟨args, file, p', cell'⟩ started disk)
      (DirectInflation.checksum ⟨args, file, p, cell⟩ started disk) := by
  let i' : DirectInflation σ' := ⟨args, file, p', cell'⟩
  let i : DirectInflation σ := ⟨args, file, p, cell⟩
  have hsame : i'.checksumWorkflow = i.checksumWorkflow := rfl
  show SameAs view (i'.checksum started disk) (i.checksum started disk)
  unfold DirectInflation.checksum
  rw [hsame]
  cases i.checksumWorkflow with
  | error cause => exact .done rfl
  | ok workflow =>
    have hrun : SameAs view (p'.runWorkflow workflow (fun s => (i'.cell.get s).isCancelled) i'.record)
        (p.runWorkflow workflow (fun s => (i.cell.get s).isCancelled) i.record) :=
      hp.runWorkflow workflow (fun s => congrArg DirectState.isCancelled (hc.get s)) fun inst line s => hc.modify _ s
    refine Mirrors.bind ((Mirrors.within _ hrun).mono id eq_of_alikeOptions) ?_
    rintro ran _ rfl
    refine Mirrors.bind Mirrors.clock ?_
    rintro ended _ rfl
    refine Mirrors.bind (R := Eq) (Mirrors.read fun s => by rw [hc.get]) ?_
    rintro console _ rfl
    exact .done rfl

omit hcells in
/-- An inflation by the compute service, wherever it keeps its state. -/
theorem directInflate_mirrors (file : String) :
    SameAs view (DirectInflation.inflate ⟨args, file, p', cell'⟩) (DirectInflation.inflate ⟨args, file, p, cell⟩) := by
  let i' : DirectInflation σ' := ⟨args, file, p', cell'⟩
  let i : DirectInflation σ := ⟨args, file, p, cell⟩
  have hmeasure : ∀ started, SameAs view (i'.measure started) (i.measure started) := by
    intro started
    have hfile : i'.sourceFile = i.sourceFile := rfl
    unfold DirectInflation.measure
    rw [hfile]
    cases Source.parseStoragePath i.sourceFile with
    | error e => exact .done rfl
    | ok place => exact Mirrors.andThen (.mapFault (hp.objectSize _ _)) fun _ => checksum_mirrors hp args hc ..
  have hcreate : SameAs view i'.createAndChecksum i.createAndChecksum := by
    refine Mirrors.bind Mirrors.clock ?_
    rintro started _ rfl
    refine Mirrors.andThen (.mapFault (hp.createDisk ..)) fun _ => ?_
    have htake : SameAs view i'.takePending i.takePending :=
      .exchange (fun s => congrArg DirectState.pending (hc.get s)) (hc.modify fun t => { t with pending := none })
    refine Mirrors.bind htake ?_
    rintro reason _ rfl
    cases reason with
    | some reason => exact .done rfl
    | none => exact hmeasure started
  have hdelete : SameAs view i'.deleteDisk i.deleteDisk := by
    refine Mirrors.bind (hp.deleteDisk ..) ?_
    rintro answer _ rfl
    cases answer with
    | ok u => exact .done rfl
    | error e =>
      show SameAs view (if e.isNotFound = true then _ else _) (if e.isNotFound = true then _ else _)
      split
      · exact .done rfl
      · exact warn_mirrors hp _
  refine Mirrors.holding (lock_mirrors args hc file) (Mirrors.bind hcreate ?_)
  rintro result _ rfl
  exact Mirrors.bind hdelete fun _ => .done rfl

end Direct

theorem shadowed_mirrors :
    (cells'.inflation.shadowed p' args source inspection).Mirrors view
      (cells.inflation.shadowed p args source inspection) where
  main := ⟨fun _ => workerCancel_mirrors hcells args source inspection, fun s => by
    show (cells'.inflation.worker.get s).console.logs = _
    rw [hcells.worker.get]
    rfl⟩
  mainInflate := workerInflate_mirrors hp args source inspection hcells.worker
  shadow := ⟨directCancel_mirrors hp args hcells.direct source.path, fun s => by
    show (cells'.inflation.direct.get s).logs = _
    rw [hcells.direct.get]
    rfl⟩
  shadowInflate := directInflate_mirrors hp args hcells.direct source.path
  grace := rfl
  log := hp.log
  get := hcells.mainFinished.get
  set := hcells.mainFinished.set

/-- **The inflater**, as a step and as work. -/
theorem inflaterFor_mirrors :
    Step.Mirrors view (cells'.inflation.inflaterFor p' args source inspection).toStep
        (cells.inflation.inflaterFor p args source inspection).toStep ∧
      SameAs view (cells'.inflation.inflaterFor p' args source inspection).inflate
        (cells.inflation.inflaterFor p args source inspection).inflate := by
  have h := shadowed_mirrors hp hcells args source inspection
  unfold InflationCells.inflaterFor
  split
  · exact ⟨inflater_mirrors h, inflate_mirrors h⟩
  · exact ⟨h.main, h.mainInflate⟩

/-! ## 4. The processors -/

omit hcells

variable {translation' : Cell σ' TranslationState} {translation : Cell σ TranslationState}
  (ht : translation'.Mirrors view translation)

omit hp in
/-- A processor, seen through `view`. -/
structure Processor.Mirrors (view : σ' → σ) (q' : Processor σ') (q : Processor σ) : Prop where
  step : Step.Mirrors view q'.toStep q.toStep
  process : ∀ disk m, SameAs view (q'.process disk m) (q.process disk m)

theorem dataDiskProcessor_mirrors : (dataDiskProcessor p' args).Mirrors view (dataDiskProcessor p args) where
  step := ⟨fun _ => .done rfl, fun _ => rfl⟩
  process _ _ := unreported_mirrors (Mirrors.andThen (.mapFault (hp.createImage ..)) fun _ => .done rfl)

theorem metadataProcessor_mirrors (plan : ProcessingPlan) :
    (metadataProcessor p' args plan).Mirrors view (metadataProcessor p args plan) where
  step := ⟨fun _ => .done rfl, fun _ => rfl⟩
  process _ _ := unreported_mirrors <| Mirrors.mapFault <| Mirrors.andThen (hp.getDisk ..) fun _ =>
    Mirrors.andThen (hp.updateDiskMetadata ..) fun _ => .done rfl

include ht in
theorem translation_mirrors (path : String) :
    ({ args, path, platform := p', cell := translation' } : Translation σ').processor.Mirrors view
      ({ args, path, platform := p, cell := translation } : Translation σ).processor := by
  let t' : Translation σ' := { args, path, platform := p', cell := translation' }
  let t : Translation σ := { args, path, platform := p, cell := translation }
  have hc : Cell.Mirrors view t'.cell t.cell := ht
  have hcancel : SameAs view t'.cancel t.cancel :=
    .exchange (fun _ => rfl) (hc.modify fun s => { s with isCancelled := true })
  refine ⟨⟨fun _ => hcancel, fun s => ?_⟩, fun disk _ => unreported_mirrors ?_⟩
  · show (t'.cell.get s).console.logs = (t.cell.get (view s)).console.logs
    rw [hc.get]
  · have hsame : prepareTranslation t'.platform.files args path disk = prepareTranslation t.platform.files args path disk :=
      congrArg (prepareTranslation · args path disk) hp.files
    show SameAs view (t'.process disk) (t.process disk)
    cases hw : prepareTranslation t.platform.files args path disk with
    | error e =>
      rw [Translation.process_of_error (hsame.trans hw), Translation.process_of_error hw]
      exact .done rfl
    | ok workflow =>
      rw [Translation.process_of_ok (hsame.trans hw), Translation.process_of_ok hw]
      refine Mirrors.andThen (.mapFault (hp.runWorkflow workflow
        (fun s => congrArg TranslationState.isCancelled (hc.get s)) fun inst line s => hc.modify _ s)) fun _ => .done rfl

include ht in
theorem processorsOf_mirrors (plan : ProcessingPlan) :
    List.Forall₂ (Processor.Mirrors view) (processorsOf p' args translation' plan)
      (processorsOf p args translation plan) := by
  unfold processorsOf
  refine List.rel_append ?_ ?_
  · split
    · exact .cons (metadataProcessor_mirrors hp args plan) .nil
    · exact .nil
  · split
    · exact .cons (translation_mirrors hp args ht _) .nil
    · exact .nil

theorem plan_mirrors (disk : PersistentDisk) (metrics : Metrics) :
    SameAs view (Planner.plan p' args disk metrics) (Planner.plan p args disk metrics) := by
  unfold Planner.plan
  split
  · exact .done rfl
  refine Mirrors.bind (R := Eq) ?_ ?_
  · unfold Planner.inspectDisk
    split
    · exact .done rfl
    refine Mirrors.bind (hp.inspect _) ?_
    rintro report _ rfl
    cases report with
    | ok inspection => exact .done rfl
    | error e => exact Mirrors.bind (warn_mirrors hp _) fun _ => .done rfl
  · rintro inspection _ rfl
    unfold Planner.planWith
    cases Planner.resolveOs args inspection with
    | error e => exact .done rfl
    | ok os =>
      refine Mirrors.bind (R := Eq) ?_ fun _ => ?_
      · unfold Planner.warnUnsupported
        split
        · exact warn_mirrors hp _
        · exact .done rfl
      · cases Planner.chosenEntry args os with
        | error e => exact .done rfl
        | ok entry => exact .done rfl

omit hp in
/-- The same choice. -/
def AlikeChoices (view : σ' → σ) :
    Planner.Outcome (List (Processor σ')) → Planner.Outcome (List (Processor σ)) → Prop
  | (metrics', .ok processors'), (metrics, .ok processors) =>
    metrics' = metrics ∧ List.Forall₂ (Processor.Mirrors view) processors' processors
  | (metrics', .error e'), (metrics, .error e) => metrics' = metrics ∧ e' = e
  | _, _ => False

include ht in
theorem provide_mirrors (disk : PersistentDisk) (metrics : Metrics) :
    Mirrors view True (AlikeChoices view) (provide p' args translation' disk metrics)
      (provide p args translation disk metrics) := by
  unfold provide provideWith
  split
  · exact .done ⟨rfl, .cons (dataDiskProcessor_mirrors hp args) .nil⟩
  refine Mirrors.bind (plan_mirrors hp args disk metrics) ?_
  rintro ⟨metrics, answer⟩ _ rfl
  cases answer with
  | error e => exact .done ⟨rfl, rfl⟩
  | ok plan =>
    exact Mirrors.bind (Mirrors.update (ht.set {})) fun _ => .done ⟨rfl, processorsOf_mirrors hp args ht plan⟩

section Chain

omit hp

variable {left' : Cell σ' Recorded} {left : Cell σ Recorded} (hl : left'.Mirrors view left) {ctx : RunContext}

include hl

theorem runProcessor_mirrors {q' : Processor σ'} {q : Processor σ} (h : q'.Mirrors view q) (disk : PersistentDisk)
    (m : Metrics) :
    SameAs view (Importer.runProcessor left' ctx q' disk m) (Importer.runProcessor left ctx q disk m) := by
  have hnoted : SameAs view (Importer.notedProcess left' q' disk m) (Importer.notedProcess left q disk m) := by
    refine Mirrors.bind (h.process disk m) ?_
    rintro ⟨metrics, result⟩ _ rfl
    exact Mirrors.bind (Mirrors.update (hl.set _)) fun _ => .done rfl
  refine Mirrors.bind (Mirrors.update (hl.set _)) fun _ => ?_
  refine Mirrors.bind (runStep_mirrors h.step hnoted) ?_
  rintro ended _ rfl
  refine Mirrors.bind (Mirrors.read hl.get) ?_
  rintro recorded _ rfl
  exact .done rfl

/-- **One processor after the other.** -/
theorem chain_mirrors {processors' : List (Processor σ')} {processors : List (Processor σ)}
    (h : List.Forall₂ (Processor.Mirrors view) processors' processors) (progress : Progress) :
    SameAs view (Importer.runProcessors left' ctx processors' progress)
      (Importer.runProcessors left ctx processors progress) := by
  induction h generalizing progress with
  | nil => exact .done rfl
  | cons hfirst _ ih =>
    refine Mirrors.bind (runProcessor_mirrors hl hfirst progress.disk progress.metrics) ?_
    rintro ⟨⟨outcome, logs⟩, metrics⟩ _ rfl
    cases outcome with
    | error e => exact .done rfl
    | ok disk => exact ih _

end Chain

/-! ## 5. The import -/

omit hp in
/-- **The same importer**, seen through `view`. -/
structure Importer.Mirrors (view : σ' → σ) (i' : Importer σ') (i : Importer σ) : Prop where
  args : i'.args = i.args
  platform : i'.platform.Mirrors view i.platform
  step : Step.Mirrors view i'.inflater.toStep i.inflater.toStep
  inflate : SameAs view i'.inflater.inflate i.inflater.inflate
  provider : ∀ disk metrics, Activity.Mirrors view True (AlikeChoices view) (i'.provider disk metrics)
    (i.provider disk metrics)
  validator : ∀ args, SameAs view (i'.validator args) (i.validator args)
  left : Cell.Mirrors view i'.left i.left

section Run

omit hp

variable {i' : Importer σ'} {i : Importer σ} (h : i'.Mirrors view i) (ctx : RunContext)

include h

theorem runStages_mirrors : SameAs view (i'.runStages ctx) (i.runStages ctx) := by
  have hnoted : SameAs view i'.notedInflation i.notedInflation := by
    refine Mirrors.bind h.inflate ?_
    rintro result _ rfl
    exact Mirrors.bind (Mirrors.update (h.left.set _)) fun _ => .done rfl
  refine Mirrors.bind (Mirrors.update (h.left.set {})) fun _ => ?_
  refine Mirrors.bind (runStep_mirrors h.step hnoted) ?_
  rintro ⟨outcome, logs⟩ _ rfl
  refine Mirrors.bind (Mirrors.read h.left.get) ?_
  rintro left _ rfl
  cases outcome with
  | error failure => exact .done rfl
  | ok inflation =>
    refine Mirrors.bind (h.provider _ _) fun {x' x} hx => ?_
    match x', x, hx with
    | (metrics', .error e'), (metrics, .error e), ⟨hm, he⟩ =>
      subst hm he
      exact .done rfl
    | (metrics', .ok processors'), (metrics, .ok processors), ⟨hm, hprocessors⟩ =>
      subst hm
      exact chain_mirrors h.left hprocessors _

theorem runValidated_mirrors : SameAs view (i'.runValidated ctx) (i.runValidated ctx) := by
  have hcleanup : ∀ disk, SameAs view (cleanupDisk i'.platform i'.args disk) (cleanupDisk i.platform i.args disk) := by
    intro disk
    rw [h.args]
    unfold cleanupDisk
    split
    · exact .done rfl
    refine Mirrors.bind (h.platform.deleteDisk ..) ?_
    rintro answer _ rfl
    cases answer with
    | ok u => exact .done rfl
    | error e =>
      show SameAs view (if (!e.isNotFound) = true then _ else _) (if (!e.isNotFound) = true then _ else _)
      split
      · exact Mirrors.bind (R := Eq) (Mirrors.update (h.platform.log _ _)) fun _ => .done rfl
      · exact .done rfl
  have hreport : ∀ result, SameAs view (i'.reportOutcome result) (i.reportOutcome result) := by
    intro result
    unfold Importer.reportOutcome
    rw [h.args]
    cases result with
    | ok u => exact .done rfl
    | error e => exact Mirrors.update (h.platform.log _ _)
  refine Mirrors.bind (runStages_mirrors h ctx) ?_
  rintro ⟨progress, result⟩ _ rfl
  refine Mirrors.bind (hcleanup _) fun _ => Mirrors.bind (hreport _) fun _ => ?_
  refine Mirrors.bind Mirrors.clock ?_
  rintro now _ rfl
  exact .done rfl

omit ctx in
/-- **A run of the same importer.** -/
theorem run_mirrors (cancelledAt : Option Nat) (deadlineFirst : Nat → Bool) :
    SameAs view (i'.run cancelledAt deadlineFirst) (i.run cancelledAt deadlineFirst) := by
  refine Mirrors.bind Mirrors.clock ?_
  rintro now _ rfl
  rw [h.args]
  refine Mirrors.bind (h.validator _) ?_
  rintro verdict _ rfl
  cases verdict with
  | error e => exact .done rfl
  | ok u => exact runValidated_mirrors h _

end Run

theorem validate_mirrors :
    SameAs view (Preflight.validate p' (Preflight.defaultRules p') args)
      (Preflight.validate p (Preflight.defaultRules p) args) := by
  have havailable : SameAs view (Preflight.checkAvailable p' args) (Preflight.checkAvailable p args) := by
    unfold Preflight.checkAvailable
    split
    · exact .done rfl
    refine Mirrors.bind (hp.getImage ..) ?_
    rintro answer _ rfl
    exact .done rfl
  have hreport : SameAs view (Preflight.report (Preflight.defaultRules p') args)
      (Preflight.report (Preflight.defaultRules p) args) := by
    show SameAs view ((Preflight.checkAvailable p' args).bind _) ((Preflight.checkAvailable p args).bind _)
    refine Mirrors.bind havailable ?_
    rintro verdict _ rfl
    exact .done rfl
  refine Mirrors.bind hreport ?_
  rintro report _ rfl
  show SameAs view (ite _ _ _) (ite _ _ _)
  split
  · exact .done rfl
  · exact Mirrors.bind (warn_mirrors hp _) fun _ => .done rfl

include hcells in
theorem ofInflater_mirrors (source : Source) (inspection : Option Inspection) :
    (Importer.ofInflater p' cells' args (cells'.inflation.inflaterFor p' args source inspection)).Mirrors view
      (Importer.ofInflater p cells args (cells.inflation.inflaterFor p args source inspection)) where
  args := rfl
  platform := hp
  step := (inflaterFor_mirrors hp hcells args source inspection).1
  inflate := (inflaterFor_mirrors hp hcells args source inspection).2
  provider := provide_mirrors hp args hcells.translation
  validator := validate_mirrors hp
  left := hcells.left

omit hp in
/-- The same importer, or the same error. -/
def AlikeImporters (view : σ' → σ) : Except ImportError (Importer σ') → Except ImportError (Importer σ) → Prop
  | .ok i', .ok i => i'.Mirrors view i
  | .error e', .error e => e' = e
  | _, _ => False

include hcells in
theorem assemble_mirrors : Mirrors view True (AlikeImporters view) (Importer.assemble p' cells' args)
    (Importer.assemble p cells args) := by
  unfold Importer.assemble Activity.andThen
  refine Mirrors.bind (resolve_mirrors hp args.sourceFile args.sourceImage) ?_
  rintro answer _ rfl
  cases answer with
  | error e => exact .done rfl
  | ok source =>
    have hchoose : Mirrors view True (fun x' x => ∃ inspection,
          x' = cells'.inflation.inflaterFor p' args source inspection ∧
            x = cells.inflation.inflaterFor p args source inspection)
        (cells'.inflation.choose p' args source) (cells.inflation.choose p args source) := by
      refine Mirrors.bind (inspectSource_mirrors hp source) ?_
      rintro inspection _ rfl
      exact .done ⟨inspection, rfl, rfl⟩
    refine Mirrors.bind hchoose ?_
    rintro _ _ ⟨inspection, rfl, rfl⟩
    exact .done (ofInflater_mirrors hp hcells args source inspection)

end Parts

/-! ## 6. From the arguments to the metrics -/

/-- **One import**, from its arguments to its metrics. -/
def Importer.perform (p : Platform σ) (cells : Importer.Cells σ) (args : Arguments) (cancelledAt : Option Nat)
    (deadlineFirst : Nat → Bool) : Activity σ (Except ImportError (Metrics × Except ImportError Unit)) :=
  (Importer.assemble p cells args).andThen fun i => do return .ok (← i.run cancelledAt deadlineFirst)

/-- **An import on a platform that looks the same** is the same import. -/
theorem perform_mirrors {p' : Platform σ'} {p : Platform σ} (hp : p'.Mirrors view p) {cells' : Importer.Cells σ'}
    {cells : Importer.Cells σ} (hcells : cells'.Mirrors view cells) (args : Arguments) (cancelledAt : Option Nat)
    (deadlineFirst : Nat → Bool) :
    SameAs view (Importer.perform p' cells' args cancelledAt deadlineFirst)
      (Importer.perform p cells args cancelledAt deadlineFirst) := by
  refine Mirrors.bind (assemble_mirrors hp hcells args) fun {x' x} hx => ?_
  cases x' with
  | error e' =>
    cases x with
    | error e =>
      obtain rfl : e' = e := hx
      exact .done rfl
    | ok i => exact False.elim hx
  | ok i' =>
    cases x with
    | error e => exact False.elim hx
    | ok i =>
      refine Mirrors.bind (run_mirrors hx cancelledAt deadlineFirst) ?_
      rintro report _ rfl
      exact .done rfl

end ImageImport
