/-
# Cancels that come too late

A step that has already ended is to refuse a cancel, so that its own outcome stands.  Main statement:
`late_cancels`, over every history of calls.  The inflations refuse a late cancel, for they keep whether their
work has ended; so do the processors that cannot be cancelled at all.  The translation keeps no such thing and
obeys every cancel, and `translation_obeys_late` is a run in which one is obeyed that came too late.
-/
import ImageImport.Processing.Chain
import ImageImport.Proofs.Inflation.Quiet
import ImageImport.Proofs.Inflation.Soundness
import ImageImport.Proofs.Rehearsal.World
import ImageImport.Proofs.Step.Clients
import ImageImport.Rehearsal.Scene

namespace ImageImport

open Activity

variable {σ ι ω α β : Type}

/-! ## 1. Steps that cannot be cancelled, and steps that always are -/

/-- The change keeps what holds. -/
abbrev Lasts (past : σ → Prop) (s t : σ) : Prop := past s → past t

/-- A quiet one keeps what lasts, and what lasts already. -/
theorem Activity.Quiet.meets_lasting {past : σ → Prop} {p : Except Crash α → Prop} {a : Activity σ α} {m : Moment σ}
    (ha : a.Quiet (Lasts past) p) (hm : past m.state) :
    a.Meets (.lasting past) Wake.anywhere (fun r m' => past m'.state ∧ p r) m :=
  Quiet.meets_sharing (fun h => h) (fun hx hr _ => hr hx) (fun hx hr => ⟨hx, hr⟩) ha hm

theorem Activity.Quiet.meets_any {past : σ → Prop} {p : Except Crash α → Prop} {a : Activity σ α} {m : Moment σ}
    (ha : a.Quiet (Lasts past) p) : a.Meets (.lasting past) Wake.anywhere (fun r _ => p r) m :=
  Quiet.meets_sharing (X := fun _ => True) (fun h => h) (fun _ _ _ => trivial) (fun _ hr => hr) ha trivial

/-- A step whose cancel has one answer, and does nothing that matters. -/
theorem Step.Lasting.constant {step : Step σ} (work : ι → Activity σ ω) {answer : Bool}
    (hcancel : ∀ reason, (step.cancel reason).Quiet (Lasts fun _ => True) fun r => r = .ok answer) :
    step.Lasting (fun _ => True) (fun _ a => a = answer) work where
  work input m := by
    have hwork : (work input).Quiet (Lasts fun _ => True) fun _ => True :=
      (quiet_any _).mono (fun _ _ _ _ => trivial) (fun task _ => task.keeps_any.mono fun _ _ => trivial) fun h => h
    exact Meets.weaken id (fun {_ _} _ _ _ => trivial) hwork.meets_any
  cancel reason _ _ _ := Meets.weaken id (fun {_ _} hr a ha => by cases hr.symm.trans ha; rfl) (hcancel reason).meets_any

/-! ## 2. Inflation by a worker -/

namespace WorkerInflation

variable (i : WorkerInflation σ)

/-- The workflow of the inflation has ended. -/
def Ended (s : σ) : Prop := (i.cell.get s).finished = true

theorem ended_modify (f : WorkerState → WorkerState) (hf : ∀ t, (f t).finished = t.finished) (s : σ) :
    Lasts i.Ended s (i.cell.modify f s) := by
  intro hs
  show (i.cell.get (i.cell.modify f s)).finished = true
  rw [i.cell.get_modify, hf]
  exact hs

/-- **The end of the workflow lasts.** -/
theorem lasting (hp : i.platform.Does (Lasts i.Ended) fun _ => True) :
    i.inflater.toStep.Lasting i.Ended (fun late answer => late = true → answer = false)
      fun _ : Unit => i.inflater.inflate where
  work _ m := by
    obtain ⟨w, hw⟩ := i.exists_workflow
    have hrun := hp.runWorkflow w (fun s => (i.cell.get s).isCancelled) i.record
      fun inst line s => i.ended_modify (fun t => { t with console := t.console.record inst line }) (fun _ => rfl) s
    show i.inflate.Meets _ _ _ m
    rw [inflate, hw]
    refine Meets.clock_bind (Meets.bind (Meets.weaken id (fun {r m'} _ => ?_) hrun.meets_any))
    cases r with
    | error why =>
      intro v hv
      cases hv
    | ok ran =>
      -- the end is noted at once
      have hended : i.Ended (i.cell.modify (fun s => { s with finished := true }) m'.state) := by
        show (i.cell.get (i.cell.modify _ _)).finished = true
        rw [i.cell.get_modify]
      refine Meets.update_bind (fun _ => hended) (Meets.clock_bind (Meets.read_bind (Meets.pure ?_)))
      exact fun _ _ => hended
  cancel _ late m hlate := by
    refine ⟨?_, fun answer hanswer hl => ?_⟩
    · show Lasts i.Ended m.state (ite _ _ _ : Bool × σ).2
      split
      · exact id
      · exact i.ended_modify (fun t => { t with isCancelled := true }) (fun _ => rfl) _
    · have hended : (i.cell.get m.state).finished = true := hlate hl
      obtain rfl := Except.ok.inj hanswer
      show (ite _ _ _ : Bool × σ).1 = false
      rw [if_pos hended]

end WorkerInflation

/-! ## 3. Inflation with a shadow -/

namespace ShadowedInflation

variable {i : ShadowedInflation σ}

/-- The main inflation has ended. -/
def Ended (i : ShadowedInflation σ) (s : σ) : Prop := i.mainFinished.get s = true

/-- **What an inflation with a shadow is put together from leaves it alone** whether the main one has ended. -/
structure Leaves (i : ShadowedInflation σ) : Prop where
  mainInflate : i.main.inflate.Quiet (Lasts i.Ended) fun _ => True
  mainCancel : ∀ reason, (i.main.cancel reason).Quiet (Lasts i.Ended) fun _ => True
  shadowInflate : i.shadow.inflate.Quiet (Lasts i.Ended) fun _ => True
  shadowCancel : ∀ reason, (i.shadow.cancel reason).Quiet (Lasts i.Ended) fun _ => True
  log : ∀ severity line s, Lasts i.Ended s (i.platform.log severity line s)

theorem lasts_refl (i : ShadowedInflation σ) (s : σ) : Lasts i.Ended s s := id

theorem lasts_trans (i : ShadowedInflation σ) (s t u : σ) (h : Lasts i.Ended s t) (h' : Lasts i.Ended t u) :
    Lasts i.Ended s u := h' ∘ h

/-- Whoever returns, returns when the main inflation has ended. -/
abbrev AtEnd (i : ShadowedInflation σ) (r : Except Crash α) (m : Moment σ) : Prop := ∀ v, r = .ok v → i.Ended m.state

theorem runMain_lasting (h : i.Leaves) (m : Moment σ) :
    i.runMain.Meets (.lasting i.Ended) Wake.anywhere i.AtEnd m := by
  refine Meets.bind (Meets.weaken id (fun {r m'} _ => ?_) h.mainInflate.meets_any)
  cases r with
  | error why =>
    intro v hv
    cases hv
  | ok result =>
    have hended : i.Ended (i.mainFinished.set true m'.state) := i.mainFinished.get_set true _
    refine Meets.update_bind (fun _ => hended) ?_
    show Meets _ _ _ (if result.isOk = true then _ else _) _
    split
    · exact fun _ _ => hended
    · refine Meets.bind (Meets.weaken id (fun {r m''} hr => ?_) ((h.shadowCancel _).meets_lasting hended))
      cases r with
      | ok _ => exact fun _ _ => hr.1
      | error why =>
        intro v hv
        cases hv

/-- A task on its way that leaves it alone whether the main inflation has ended. -/
abbrev Harmless (i : ShadowedInflation σ) (task : ShadowTask σ) : Prop := task.Quiet (Lasts i.Ended) fun _ => True

theorem leading_lasting (h : i.Leaves) (m : Moment σ) :
    (leading i.runMain.caught (spawned i.shadow.inflate).caught).Meets (.lasting i.Ended) Wake.anywhere
      (fun r m' => ∀ task ended, r = .ok (task, ended) → i.Harmless task ∧ i.AtEnd ended m') m := by
  have hshadow : i.Harmless (spawned i.shadow.inflate).caught :=
    Always.caught (Always.spawned i.lasts_refl (h.shadowInflate.mono (fun _ _ h => h) (fun _ h => h) fun _ => trivial))
  have hmain : i.runMain.caught.Meets (.lasting i.Ended) Wake.anywhere
      (fun r m' => ∀ ended, r = .ok ended → i.AtEnd ended m') m := by
    refine Meets.caught (Meets.weaken id (fun {r m'} hr ended hended => ?_) (runMain_lasting h m))
    cases hended
    exact hr
  have hready : (spawned i.shadow.inflate).caught.Ready (.lasting i.Ended) Wake.anywhere (fun _ _ => True) m :=
    ⟨hshadow.abandon i.lasts_refl, fun _ _ _ _ => hshadow.meets_any⟩
  have hrace := Meets.race (Y := fun _ => True) sharing_split (fun _ _ => trivial) (fun _ => trivial) id hmain trivial
    hready
  refine Meets.bind (Meets.weaken (fun _ => trivial) (fun {r m'} hr => ?_)
    (hrace.and_always (Always.race_right i.lasts_refl _ hshadow)))
  match r, hr with
  | .ok (.left ended rest), ⟨⟨hended, _⟩, _, hrest⟩ =>
    intro task ended' heq
    cases heq
    exact ⟨hrest, hended _ rfl⟩
  | .ok (.right rest value), ⟨⟨_, _, hrest⟩, _⟩ =>
    refine Meets.bind (Meets.weaken id (fun {r m''} hr => ?_) (hrest.meets trivial))
    cases r with
    | error why =>
      intro task ended heq
      cases heq
    | ok ended =>
      intro task ended' heq
      cases heq
      exact ⟨trivial, hr _ rfl⟩
  | .error why, _ =>
    intro task ended heq
    cases heq

/-- **The end of the main inflation lasts.** -/
theorem lasting (h : i.Leaves) :
    i.inflater.toStep.Lasting i.Ended (fun late answer => late = true → answer = false)
      fun _ : Unit => i.inflater.inflate where
  work _ m := by
    refine Meets.bind (Meets.weaken id (fun {r m'} hr => ?_) (leading_lasting h m))
    match r, hr with
    | .ok (task, .ok result), hr =>
      obtain ⟨htask, hended⟩ := hr _ _ rfl
      have hconclude := conclude_quiet uniform_any i.lasts_refl i.lasts_trans h.shadowCancel h.log htask result
      exact Meets.weaken id (fun hq _ _ => hq.1) (hconclude.meets_lasting (hended _ rfl))
    | .ok (task, .error why), hr =>
      obtain ⟨htask, -⟩ := hr _ _ rfl
      refine Meets.bind (Quiet.settle_meets (X := fun _ => True) (fun h => h) (fun h => h) (fun _ _ => trivial)
        (fun {rest n} _ hrest => ?_) htask trivial)
      refine ⟨Quiet.background i.lasts_refl hrest, fun v hv => ?_⟩
      cases hv
    | .error why, _ =>
      intro v hv
      cases hv
  cancel reason late m hlate := by
    refine Meets.read_bind ?_
    by_cases hm : i.mainFinished.get m.state = true
    · rw [hm]
      refine Meets.bind (Meets.weaken id (fun {r m'} _ => ?_) (h.shadowCancel reason).meets_any)
      cases r with
      | ok _ =>
        intro answer hanswer _
        exact (Except.ok.inj hanswer).symm
      | error why =>
        intro answer hanswer
        cases hanswer
    · have hearly : late ≠ true := fun hl => hm (hlate hl)
      rw [Bool.not_eq_true] at hm
      rw [hm]
      have hboth := uniform_any.both i.lasts_refl i.lasts_trans (h.mainCancel reason) (h.shadowCancel reason)
      refine Meets.bind (Meets.weaken id (fun {r m'} _ => ?_) hboth.meets_any)
      cases r with
      | ok _ => exact fun _ _ hl => absurd hl hearly
      | error why => exact fun _ _ hl => absurd hl hearly

end ShadowedInflation

/-! ## 4. The steps of an import -/

/-- **A flag stands by itself**: keeping the state of the inflations leaves it alone whether the main one has
ended. -/
structure InflationCells.FlagApart (cells : InflationCells σ) : Prop where
  worker : ∀ t s, cells.mainFinished.get (cells.worker.set t s) = cells.mainFinished.get s
  direct : ∀ t s, cells.mainFinished.get (cells.direct.set t s) = cells.mainFinished.get s

/-- **The calls leave it alone** whether an inflation has ended. -/
structure Platform.LeavesEnds (p : Platform σ) (cells : InflationCells σ) : Prop where
  worker : p.Does (Lasts fun s => (cells.worker.get s).finished = true) fun _ => True
  main : p.Does (Lasts fun s => cells.mainFinished.get s = true) fun _ => True

/-- The work of a processor, on a disk and the metrics it is handed with it. -/
def Processor.work (processor : Processor σ) (input : PersistentDisk × Metrics) :
    Activity σ (Metrics × Except ImportError PersistentDisk) := processor.process input.1 input.2

section Import

variable {p : Platform σ} {cells : InflationCells σ} {translation : Cell σ TranslationState}

theorem shadowed_leavesEnd (hp : p.LeavesEnds cells) (hcells : cells.FlagApart) (args : Arguments) (source : Source)
    (inspection : Option Inspection) : (cells.shadowed p args source inspection).Leaves := by
  have hrefl := (cells.shadowed p args source inspection).lasts_refl
  have htrans := (cells.shadowed p args source inspection).lasts_trans
  have hworker : ∀ t s, Lasts (cells.shadowed p args source inspection).Ended s (cells.worker.set t s) :=
    fun t s hs => (hcells.worker t s).trans hs
  have hdirect : ∀ t s, Lasts (cells.shadowed p args source inspection).Ended s (cells.direct.set t s) :=
    fun t s hs => (hcells.direct t s).trans hs
  exact
    { mainInflate := WorkerInflation.inflate_quiet uniform_any hrefl hp.main hworker
      mainCancel := fun _ => WorkerInflation.cancel_quiet uniform_any hrefl hworker
      shadowInflate := DirectInflation.inflate_quiet uniform_any hrefl htrans hp.main hdirect
      shadowCancel := DirectInflation.cancel_quiet uniform_any hrefl htrans hdirect hp.main.getDisk
      log := hp.main.log }

/-- **Late cancels.**  In every history of calls of the steps of an import: the inflation of a source, by a worker
alone or with a shadow, refuses every cancel that is called after it has returned, and so do the processors that
tag and image a disk.  A translation obeys every cancel, also those. -/
theorem late_cancels (hp : p.LeavesEnds cells) (hcells : cells.FlagApart) (args : Arguments) :
    (∀ source inspection, (cells.inflaterFor p args source inspection).toStep.RefusesLate
      fun _ : Unit => (cells.inflaterFor p args source inspection).inflate) ∧
    (∀ plan, (metadataProcessor p args plan).toStep.RefusesLate (metadataProcessor p args plan).work) ∧
    (dataDiskProcessor p args).toStep.RefusesLate (dataDiskProcessor p args).work ∧
    ∀ path, (Translation.mk args path p translation).processor.toStep.ObeysAlways
      (Translation.mk args path p translation).processor.work := by
  have hrefuses : ∀ {ι ω : Type} {step : Step σ} (work : ι → Activity σ ω),
      (∀ reason, step.cancel reason = .done false) → step.RefusesLate work := by
    intro ι ω step work hcancel c m t late answer hmem _
    exact (Step.Lasting.constant work fun reason => hcancel reason ▸ rfl).cancels c m t late answer hmem
  refine ⟨fun source inspection => ?_, fun plan => hrefuses _ fun _ => rfl, hrefuses _ fun _ => rfl, fun path => ?_⟩
  · show Step.Cancels _ _ _
    unfold InflationCells.inflaterFor
    split
    · exact (ShadowedInflation.lasting (shadowed_leavesEnd hp hcells args source inspection)).cancels
    · exact ((cells.byWorker p args source inspection).lasting hp.worker).cancels
  · have hcancel : ∀ reason, ((Translation.mk args path p translation).processor.cancel reason).Quiet
        (Lasts fun _ => True) fun r => r = .ok true := fun _ _ => ⟨id, rfl⟩
    intro c m t late answer hmem
    exact (Step.Lasting.constant _ hcancel).cancels c m t late answer hmem

end Import

section Rehearsed

open Rehearsal

theorem scene_leavesEnds (files : Files) : (Scene.platform files).LeavesEnds Scene.inflationCells where
  worker := World.platform_does (N := Lasts fun s => (Scene.inflationCells.worker.get s).finished = true)
    uniform_any (fun _ h => h) (fun _ _ _ h h' => h' ∘ h) (fun _ _ h => h) files
  main := World.platform_does (N := Lasts fun s => Scene.inflationCells.mainFinished.get s = true)
    uniform_any (fun _ h => h) (fun _ _ _ h h' => h' ∘ h) (fun _ _ h => h) files

/-- A file with a translation that does nothing. -/
def translationFiles : Files :=
  .ofList [("wf/t.wf.json", .file ("\x7b\"Name\":\"t\",\"Vars\":\x7b\"source_disk\":\"\"\x7d,".toUTF8.toList ++
    "\"Steps\":\x7b\"clean\":\x7b\"DeleteResources\":\x7b\x7d\x7d\x7d\x7d".toUTF8.toList))]

/-- The translation of that file. -/
def rehearsedTranslation : Translation Scene :=
  { args := { executionId := "e", project := "p", zone := "z", workflowDir := "wf" }
    path := "t.wf.json"
    platform := Scene.platform translationFiles
    cell := Scene.translationCell }

/-- One that cancels when the work has succeeded. -/
def lateClient : Client (PersistentDisk × Metrics) (Metrics × Except ImportError PersistentDisk) :=
  .work ({ uri := "d" }, .empty) fun
    | (_, .ok _) => .cancel "late" fun _ => .stop
    | (_, .error _) => .stop

theorem late_cancels_rehearsed :
    (∀ source inspection,
      (Scene.inflationCells.inflaterFor (Scene.platform .none) { executionId := "e" } source inspection).toStep.RefusesLate
        fun _ : Unit =>
          (Scene.inflationCells.inflaterFor (Scene.platform .none) { executionId := "e" } source inspection).inflate) ∧
    (∀ plan, (metadataProcessor (Scene.platform .none) { executionId := "e" } plan).toStep.RefusesLate
      (metadataProcessor (Scene.platform .none) { executionId := "e" } plan).work) ∧
    (dataDiskProcessor (Scene.platform .none) { executionId := "e" }).toStep.RefusesLate
      (dataDiskProcessor (Scene.platform .none) { executionId := "e" }).work ∧
    ∀ path,
      (Translation.mk { executionId := "e" } path (Scene.platform .none)
        Scene.translationCell).processor.toStep.ObeysAlways
        (Translation.mk { executionId := "e" } path (Scene.platform .none) Scene.translationCell).processor.work :=
  late_cancels (scene_leavesEnds .none) ⟨fun _ _ => rfl, fun _ _ => rfl⟩ { executionId := "e" }

/-- **A translation obeys a cancel that comes too late.**  It has succeeded, and a cancel after that still answers
that it was interrupted. -/
theorem translation_obeys_late :
    lateClient.history rehearsedTranslation.processor.toStep rehearsedTranslation.processor.work
        (Scene.opening {}) = [(0, .returned), (0, .cancelled true true)] ∧
      ¬ rehearsedTranslation.processor.toStep.RefusesLate rehearsedTranslation.processor.work := by
  have hhistory : lateClient.history rehearsedTranslation.processor.toStep rehearsedTranslation.processor.work
      (Scene.opening {}) = [(0, .returned), (0, .cancelled true true)] := by decide +kernel
  refine ⟨hhistory, fun hrefuses => ?_⟩
  have hfalse := hrefuses lateClient (Scene.opening {}) 0 true true (by rw [hhistory]; simp) rfl
  cases hfalse

end Rehearsed

end ImageImport
