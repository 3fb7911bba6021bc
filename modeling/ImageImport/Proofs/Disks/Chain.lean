/-
# The disk through the chain

What an inflation leaves behind (`Inflated`) stays known while the processors work: they note nothing but
translations, and hand on the disk they are given, unless they fail (`Processor.HandsOn`).  So the disk that is
known last is the one the inflation refers to (`runProcessors_meets`).

A step whose cancel touches no disk ends as its work does, or with the error of its context (`runStep_calm`);
that is all that is used of guarded steps.
-/
import ImageImport.Proofs.Disks.Inflation
import ImageImport.Proofs.Step.Guard

namespace ImageImport

open Activity DiskHistory

variable {υ κ ρ τ ε α : Type}

/-! ## 1. Steps with calm cancels -/

/-- How a step ends: as its work does, or with the error of its context. -/
def EndsLike (ofError : ImportError → ε) (QA : Except ε α → Moment (Watched υ κ) → Prop)
    (o : Except ε α) (m : Moment (Watched υ κ)) : Prop :=
  ∃ ended, QA ended m ∧ (o = ended ∨ ∃ e, o = .error (ofError e))

/-- **A step whose cancel is calm.** -/
theorem runStep_calm {slot : υ → ρ} {T : Terms (Watched υ κ)} (hT : T.Allows slot)
    {ctx : RunContext} {step : Step (Watched υ κ)} (hcancel : ∀ reason, (step.cancel reason).Calm slot)
    {ofError : ImportError → ε} {work : Activity (Watched υ κ) (Except ε α)}
    (QA : Except ε α → Moment (Watched υ κ) → Prop)
    (hstays : ∀ o, Stable (Unnoted slot) (QA o) ∧ Stable T.rely (QA o)) {m : Moment (Watched υ κ)}
    (hlate : ∀ {e m'}, T.rely m.state m'.state → m'.now = m.now → QA (.error (ofError e)) m')
    (hwork : ∀ {m'}, T.rely m.state m'.state → m'.now = m.now →
      work.Meets T (fun _ _ => True) (fun r n => ∃ o, r = .ok o ∧ QA o n) m') :
    (runStep ctx step ofError work).Meets T (fun _ _ => True)
      (fun r m' => ∃ o logs, r = .ok (o, logs) ∧ EndsLike ofError QA o m') m := by
  have hguarded : Guarded ctx step.cancel m.now T T (.aside slot) (fun _ _ => True) (fun _ _ => True)
      (fun _ _ _ _ => True) (fun _ => True)
      (fun (r : Except Crash (Except Crash (Except ε α))) n => ∃ o, r = .ok (.ok o) ∧ QA o n)
      (fun _ _ r _ => Returns r)
      (Judged ofError fun r n => ∃ o, r = .ok o ∧ EndsLike ofError QA o n) :=
    { split := hT.split_right
      caught := fun ⟨_, h, _⟩ => nomatch h
      work_keeps := fun _ => id
      others_keep := fun _ => id
      waits_work := fun _ => ⟨trivial, fun _ => trivial⟩
      waits_cancel := fun _ => trivial
      work_stays := fun {r} => ⟨fun ⟨o, hr, h⟩ hu hle => ⟨o, hr, (hstays o).1 h hu hle⟩,
        fun ⟨o, hr, h⟩ hu hle => ⟨o, hr, (hstays o).2 h hu hle⟩⟩
      cancel_stays := ⟨fun h _ _ => h, fun h _ _ => h⟩
      inv_work := fun _ => hT.inv _
      inv_cancel := fun _ => hT.inv _
      turn_cancel := fun _ _ => trivial
      asked := fun _ _ _ _ => (hcancel _).meets_unnoted (X := fun _ => True) Terms.allows_aside
        (fun _ _ _ => trivial) (fun _ _ _ => trivial) (fun _ => trivial) (fun _ h => h) trivial
      own := fun ⟨o, hr, h⟩ _ _ => ⟨_, rfl, o, h, .inl (by cases hr; rfl)⟩
      stopped := fun {m₁ e u r i n} _ _ _ ⟨o, hr, h⟩ _ => by
        cases hr
        cases i with
        | true => exact ⟨_, rfl, o, h, .inr ⟨e, rfl⟩⟩
        | false => exact ⟨_, rfl, o, h, .inl rfl⟩
      blown := fun h => absurd h not_returns }
  have hstep := runStep_meets (hguarded.endStep (hT.inv m) trivial rfl (fun _ _ _ => trivial)
    (fun {e m'} _ hr _ hn => ⟨_, rfl, hlate hr hn⟩)
    fun {m'} _ hr _ hn _ => Meets.weaken id (fun ⟨o, hr, h⟩ => ⟨o, congrArg _ hr, h⟩) (hwork hr hn))
  refine Meets.weaken id (fun {r m'} h => ?_) hstep
  match r, h with
  | .ok (o, logs), ⟨⟨_, heq, h⟩, _⟩ =>
    cases heq
    exact ⟨_, _, rfl, h⟩
  | .error why, ⟨_, heq, _⟩ => cases heq

/-! ## 2. The processors -/

/-- **A call of an import that nothing is beside**, with its two notes. -/
theorem noting_whole {slot : υ → ρ} {c : DiskCall} {a : Activity (Watched υ DiskNote) α} (ha : a.Calm slot)
    {m : Moment (Watched υ DiskNote)} :
    (a.noting c).Meets (.whole slot) (fun _ _ => True) (fun r m' => Returns r ∧ m.now ≤ m'.now ∧
      ∃ t, m'.state.seen = m.state.seen ++ [(m.now, .called c), (t, .answered c)]) m := by
  let X : Moment (Watched υ DiskNote) → Prop := fun n =>
    m.now ≤ n.now ∧ n.state.seen = m.state.seen ++ [(m.now, .called c)]
  have hstays : Stable (Unnoted slot) X := fun hx hu hle => ⟨Nat.le_trans hx.1 hle, hu.1.trans hx.2⟩
  refine Meets.watching trivial (Quiet.meets_unnoted Terms.allows_whole (X := X) hstays hstays (fun _ => trivial)
    (fun {r n} hx hr => ⟨trivial, hr, hx.1, n.now, ?_⟩) ha ⟨Nat.le_refl _, rfl⟩)
  show n.state.seen ++ [(n.now, DiskNote.answered c)] = _
  rw [hx.2, List.append_assoc]
  rfl

/-- **A call that neither inflation makes** changes nothing that is known of them. -/
theorem Inflated.of_call {args : Arguments} {uri : String} {c : DiskCall} (hmain : c.byMain = false)
    (hshadow : c.byShadow args.diskUri = false) {m m' : Moment (Watched υ DiskNote)} (h : Inflated args uri m)
    {t t' : Nat} (hseen : m'.state.seen = m.state.seen ++ [(t, .called c), (t', .answered c)])
    (hle : m.now ≤ m'.now) : Inflated args uri m' := by
  have hother : ∀ {f : DiskCall → Bool}, f c = false → about f m'.state.seen = about f m.state.seen := by
    intro f hf
    have hnone : about f [(t, .called c), (t', .answered c)] = [] := by
      simp [about, DiskNote.call, hf]
    rw [hseen, about_append, hnone, List.append_nil]
  have hmain' : mainNotes m' = mainNotes m := hother hmain
  have hshadow' : shadowNotes args m' = shadowNotes args m := hother hshadow
  refine ⟨h.main.of_notes hmain' hle, ?_⟩
  rw [hmain', hshadow']
  exact h.shadow.imp id fun hs => ⟨hs.1, fun t c hn => Nat.le_trans (hs.2 t c hn) hle⟩

theorem inflated_stable (args : Arguments) (uri : String) (slot : υ → ρ) :
    Stable (Unnoted slot) (Inflated (υ := υ) args uri) := fun hx hu hle => hx.of_unnoted hu hle

/-- The end of a processor that hands on the disk it was given, unless it fails. -/
def Handing (disk : PersistentDisk) (r : Except Crash (Except ε PersistentDisk)) : Prop :=
  ∃ o, r = .ok o ∧ ∀ disk', o = .ok disk' → disk' = disk

theorem handing_ok (disk : PersistentDisk) : Handing disk (.ok (.ok disk) : Except Crash (Except ε PersistentDisk)) :=
  ⟨_, rfl, fun _ h => (Except.ok.inj h).symm⟩

theorem handing_error (disk : PersistentDisk) (e : ε) : Handing disk (.ok (.error e)) := ⟨_, rfl, fun _ h => nomatch h⟩

theorem quiet_andThen {slot : υ → ρ} {disk : PersistentDisk} {a : Activity (Watched υ κ) (Except ε α)}
    {f : α → Activity (Watched υ κ) (Except ε PersistentDisk)} (ha : a.Calm slot)
    (hf : ∀ v, (f v).Quiet (Unnoted slot) (Handing disk)) : (a.andThen f).Quiet (Unnoted slot) (Handing disk) := by
  refine Always.bind ha (fun {v} _ => ?_) fun h => absurd h not_returns
  cases v with
  | ok v => exact hf v
  | error e => exact handing_error disk e

theorem quiet_mapFault {β : Type} {slot : υ → ρ} {g : β → ε} {disk : PersistentDisk}
    {a : Activity (Watched υ κ) (Except β PersistentDisk)} (ha : a.Quiet (Unnoted slot) (Handing disk)) :
    (a.mapFault g).Quiet (Unnoted slot) (Handing disk) := by
  refine Always.bind ha (fun {v} h => ?_) fun ⟨_, h, _⟩ => nomatch h
  obtain ⟨o, heq, ho⟩ := h
  cases heq
  cases v with
  | ok disk' => exact ⟨_, rfl, fun _ h => by cases h; exact ho disk' rfl⟩
  | error e => exact handing_error disk _

/-- **The processor hands on the disk it is given**, and touches no disk of an inflation. -/
structure Processor.HandsOn (slot : υ → ρ) (args : Arguments) (processor : Processor (Watched υ DiskNote)) : Prop where
  cancel : ∀ reason, (processor.cancel reason).Calm slot
  process : ∀ {disk given m}, Inflated args disk.uri m →
    (processor.process disk given).Meets (.whole slot) (fun _ _ => True)
      (fun r m' => Handing disk (r.map (·.2)) ∧ Inflated args disk.uri m') m

/-- A processor that writes nothing. -/
theorem Processor.HandsOn.of_quiet {slot : υ → ρ} {args : Arguments} {processor : Processor (Watched υ DiskNote)}
    {work : PersistentDisk → Activity (Watched υ DiskNote) (Except ImportError PersistentDisk)}
    (hcancel : ∀ reason, (processor.cancel reason).Calm slot)
    (hprocess : ∀ disk given, processor.process disk given = unreported given (work disk))
    (hwork : ∀ disk, (work disk).Quiet (Unnoted slot) (Handing disk)) : processor.HandsOn slot args where
  cancel := hcancel
  process {disk given m} h := by
    rw [hprocess]
    exact Quiet.meets_unnoted Terms.allows_whole (inflated_stable args _ slot) (inflated_stable args _ slot)
      (fun _ => trivial) (fun hx hr => ⟨hr.1, hx⟩) (unreported_always (hwork disk)) h

/-- A translation runs under its own name. -/
theorem name_of_prepareTranslation {files : Files} {a : Arguments} {path : String} {disk : PersistentDisk}
    {w : Workflow} (h : prepareTranslation files a path disk = .ok w) : w.name = translationName := by
  have hdeclared : ∀ (vars : List (String × String)) (w : Workflow),
      (vars.foldl (fun w v => w.setDeclared v.1 v.2) w).name = w.name := by
    intro vars
    induction vars with
    | nil => exact fun _ => rfl
    | cons v vars ih =>
      intro w
      rw [List.foldl_cons, ih]
      unfold Workflow.setDeclared
      split <;> rfl
  unfold prepareTranslation at h
  cases hload : Workflow.load files (Path.join a.workflowDir path) with
  | error e =>
    rw [hload] at h
    cases h
  | ok base =>
    rw [hload] at h
    dsimp only at h
    cases hvalid : (base.bound a disk).validate with
    | error e =>
      rw [hvalid] at h
      cases h
    | ok u =>
      rw [hvalid] at h
      dsimp only at h
      cases hincludes : (base.bound a disk).checkIncludes files with
      | error e =>
        rw [hincludes] at h
        cases h
      | ok u =>
        rw [hincludes] at h
        rw [← Except.ok.inj h]
        exact hdeclared _ _

section Processors

variable {slot : υ → ρ} {args : Arguments} {p : Platform (Watched υ DiskNote)} (hp : p.Answers (Unnoted slot))
  {cell : Cell (Watched υ DiskNote) TranslationState} (hcell : ∀ t s, Unnoted slot s (cell.set t s))

include hp

theorem dataDiskProcessor_handsOn : (dataDiskProcessor p.noting args).HandsOn slot args :=
  .of_quiet (fun _ => .done _) (fun _ _ => rfl) fun _ =>
    quiet_andThen (Calm.mapFault (hp.createImage ..)) fun _ => handing_ok _

theorem metadataProcessor_handsOn (plan : ProcessingPlan) : (metadataProcessor p.noting args plan).HandsOn slot args :=
  .of_quiet (fun _ => .done _) (fun _ _ => rfl) fun _ => quiet_mapFault <| quiet_andThen (hp.getDisk ..) fun _ =>
    quiet_andThen (hp.updateDiskMetadata ..) fun _ => handing_ok _

include hcell

theorem translation_handsOn (path : String) :
    ({ args, path, platform := p.noting, cell } : Translation (Watched υ DiskNote)).processor.HandsOn slot args where
  cancel _ := fun _ => ⟨hcell _ _, returns_ok _⟩
  process {disk given m} h := by
    let t : Translation (Watched υ DiskNote) := { args, path, platform := p.noting, cell }
    suffices hwork : (t.process disk).Meets (.whole slot) (fun _ _ => True)
        (fun r m' => Handing disk r ∧ Inflated args disk.uri m') m from
      Meets.weaken id And.left (unreported_meets hwork)
    cases hw : prepareTranslation t.platform.files t.args t.path disk with
    | error e =>
      rw [Translation.process_of_error hw]
      exact ⟨handing_error disk _, h⟩
    | ok w =>
      rw [Translation.process_of_ok hw]
      have hname := name_of_prepareTranslation hw
      have hrun := hp.runWorkflow w (fun s => (cell.get s).isCancelled) t.record fun _ _ s => hcell _ s
      refine Meets.bind (Meets.bind (Meets.weaken id (fun {r m'} hq => ?_) (noting_whole (c := .run w) hrun)))
      obtain ⟨⟨ran, rfl⟩, hle, t, hseen⟩ := hq
      have h' := h.of_call (c := .run w) (by simp [DiskCall.byMain, hname, translationName])
        (by simp [DiskCall.byShadow, hname, translationName, DirectInflation.checksumName]) hseen hle
      cases ran with
      | ok u => exact ⟨handing_ok disk, h'⟩
      | error e => exact ⟨handing_error disk _, h'⟩

/-! ## 3. The choice of the processors -/

omit hcell in
theorem planDisk_calm (disk : PersistentDisk) (metrics : Metrics) :
    (Planner.plan p.noting args disk metrics).Calm slot := by
  unfold Planner.plan
  split
  · exact .done _
  refine Calm.bind ?_ fun inspection => ?_
  · unfold Planner.inspectDisk
    split
    · exact .done _
    refine Calm.bind (hp.inspect _) fun report => ?_
    cases report with
    | ok inspection => exact .done _
    | error e => exact Calm.bind (.update (hp.log _ _)) fun _ => .done _
  · unfold Planner.planWith
    cases Planner.resolveOs args inspection with
    | error e => exact .done _
    | ok os =>
      refine Calm.bind ?_ fun _ => ?_
      · unfold Planner.warnUnsupported
        split
        · exact .update (hp.log _ _)
        · exact .done _
      · cases Planner.chosenEntry args os with
        | error e => exact .done _
        | ok entry => exact .done _

/-- The processors that have been chosen. -/
def Provided (slot : υ → ρ) (args : Arguments)
    (r : Except Crash (Planner.Outcome (List (Processor (Watched υ DiskNote))))) : Prop :=
  ∃ metrics answer, r = .ok (metrics, answer) ∧ ∀ processors, answer = .ok processors →
    ∀ processor ∈ processors, processor.HandsOn slot args

/-- **All processors of an import hand on the disk they are given.** -/
theorem provide_handsOn (disk : PersistentDisk) (metrics : Metrics) :
    (provide p.noting args cell disk metrics).Quiet (Unnoted slot) (Provided slot args) := by
  have hprocessors : ∀ plan, ∀ processor ∈ processorsOf p.noting args cell plan, processor.HandsOn slot args :=
    fun plan => processorsOf_forall (metadataProcessor_handsOn hp plan) (translation_handsOn hp hcell _)
  unfold provide provideWith
  split
  · refine ⟨_, _, rfl, fun processors heq processor hmem => ?_⟩
    cases heq
    cases List.mem_singleton.mp hmem
    exact dataDiskProcessor_handsOn hp
  refine Always.bind (planDisk_calm hp disk metrics) (fun {answer} _ => ?_) fun h => absurd h not_returns
  obtain ⟨metrics, answer⟩ := answer
  cases answer with
  | error e => exact ⟨_, _, rfl, fun _ h => nomatch h⟩
  | ok plan =>
    refine Always.bind (Calm.update fun s => hcell {} s) (fun _ => ?_) fun h => absurd h not_returns
    exact ⟨_, _, rfl, fun _ heq => by cases heq; exact hprocessors plan⟩

end Processors

/-! ## 4. One processor after the other -/

/-- The stages are over, and the disk that is known last is the one the inflation refers to. -/
def StagesLeave (args : Arguments) (r : Except Crash Importer.Stages) (m : Moment (Watched υ DiskNote)) : Prop :=
  ∃ stages, r = .ok stages ∧ Inflated args stages.1.disk.uri m

section Recording

variable {slot : υ → ρ} {args : Arguments} {m : Moment (Watched υ DiskNote)}
  {left : Cell (Watched υ DiskNote) Recorded} (hleft : ∀ r s, (left.set r s).seen = s.seen)

include hleft

/-- What is recorded for the import is no note. -/
theorem Inflated.recorded {uri : String} (h : Inflated args uri m) (r : Recorded) :
    Inflated args uri ⟨m.now, left.set r m.state⟩ :=
  -- the slot itself is written, so this is not a step that the slot does not see
  have hu : Unnoted (fun _ : υ => ()) m.state (left.set r m.state) := ⟨hleft r m.state, rfl⟩
  h.of_unnoted hu (Nat.le_refl _)

/-- The task of a processor, which records its metrics. -/
theorem notedProcess_handsOn {processor : Processor (Watched υ DiskNote)} (h : processor.HandsOn slot args)
    {disk : PersistentDisk} {given : Metrics} (hm : Inflated args disk.uri m) :
    (Importer.notedProcess left processor disk given).Meets (.whole slot) (fun _ _ => True)
      (fun r m' => Handing disk r ∧ Inflated args disk.uri m') m := by
  refine Meets.bind (Meets.weaken id (fun {r m'} hend => ?_) (h.process hm))
  match r, hend with
  | .ok (metrics, result), ⟨hands, hknown⟩ =>
    exact Meets.update_bind trivial (Meets.pure ⟨hands, hknown.recorded hleft _⟩)
  | .error why, ⟨⟨_, heq, _⟩, _⟩ => cases heq

/-- **One processor** hands on its disk, if it ends well. -/
theorem runProcessor_handsOn (ctx : RunContext) {processor : Processor (Watched υ DiskNote)}
    (h : processor.HandsOn slot args) {disk : PersistentDisk} {given : Metrics} (hm : Inflated args disk.uri m) :
    (Importer.runProcessor left ctx processor disk given).Meets (.whole slot) (fun _ _ => True)
      (fun r m' => ∃ o logs metrics, r = .ok ((o, logs), metrics) ∧ (∀ disk', o = .ok disk' → disk' = disk) ∧
        Inflated args disk.uri m') m := by
  have hstays : Stable (Unnoted slot) (Inflated (υ := υ) args disk.uri) := inflated_stable args _ slot
  have hstart := hm.recorded hleft { metrics := given }
  refine Meets.update_bind trivial (Meets.bind (Meets.weaken id (fun {r m'} hstep => ?_) (runStep_calm
    Terms.allows_whole h.cancel
    (fun o n => (∀ disk', o = .ok disk' → disk' = disk) ∧ Inflated args disk.uri n)
    (fun o => ⟨fun hx hu hle => ⟨hx.1, hstays hx.2 hu hle⟩, fun hx hu hle => ⟨hx.1, hstays hx.2 hu hle⟩⟩)
    (fun hr hn => ⟨fun _ heq => (nomatch heq), hstays hstart hr (Nat.le_of_eq hn.symm)⟩)
    fun hr hn => Meets.weaken id (fun ⟨⟨o, heq, ho⟩, hx⟩ => ⟨o, heq, ho, hx⟩)
      (notedProcess_handsOn hleft h (hstays hstart hr (Nat.le_of_eq hn.symm))))))
  obtain ⟨o, logs, rfl, ended, ⟨hdisk, hknown⟩, hends⟩ := hstep
  refine Meets.read_bind (Meets.pure ⟨o, logs, _, rfl, fun disk' heq => ?_, hknown⟩)
  rcases hends with rfl | ⟨e, herror⟩
  · exact hdisk disk' heq
  · cases heq.symm.trans herror

theorem runProcessors_meets {ctx : RunContext} {processors : List (Processor (Watched υ DiskNote))}
    (h : ∀ processor ∈ processors, processor.HandsOn slot args) (progress : Progress)
    (hm : Inflated args progress.disk.uri m) :
    (Importer.runProcessors left ctx processors progress).Meets (.whole slot) (fun _ _ => True) (StagesLeave args)
      m := by
  induction processors generalizing progress m with
  | nil => exact ⟨_, rfl, hm⟩
  | cons processor rest ih =>
    obtain ⟨hfirst, hrest⟩ := List.forall_mem_cons.mp h
    refine Meets.bind (Meets.weaken id (fun {r m'} hstep => ?_) (runProcessor_handsOn hleft ctx hfirst hm))
    obtain ⟨o, logs, metrics, rfl, hdisk, hknown⟩ := hstep
    cases o with
    | error e => exact ⟨_, rfl, hknown⟩
    | ok disk =>
      obtain rfl := hdisk disk rfl
      exact ih hrest { progress.addLogs logs with metrics, disk := progress.disk } hknown

end Recording

end ImageImport
