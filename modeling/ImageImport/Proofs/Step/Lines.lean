/-
# What a step keeps of its lines

The diagnostic lines of a step are a part of the state, which its work and its cancels change.  `Step.Keeps` says what
remains of the lines with every change: all of them in front of the others (`<+:`), or all of them in their order,
with others in between (`<+`).

The steps of an import all keep their lines.  A workflow appends what its instances print, so a translation and an
inflation by a worker keep prefixes (section 2).  An inflation by the compute service has a log of its own in front of
the console, and one with a shadow has the lines of the shadow behind those of the main inflation: what is new need
not come last, and they keep sublists (section 3).
-/
import ImageImport.Processing.Translation
import ImageImport.Proofs.Concurrency.SharedPromise
import ImageImport.Proofs.Inflation.Quiet
import ImageImport.Proofs.Serial

namespace ImageImport

open Activity

variable {σ ω : Type}

/-! ## 1. The lines of a step -/

/-- Of the lines there were, that much is kept. -/
abbrev Step.LinesKept (step : Step σ) (kept : List String → List String → Prop) (s t : σ) : Prop :=
  kept (step.traceLogs s) (step.traceLogs t)

/-- **What the step keeps of its lines** with every change that its work and its cancels make, and the tasks they leave
behind. -/
structure Step.Keeps (kept : List String → List String → Prop) (step : Step σ) (work : Activity σ ω) : Prop where
  work : work.Quiet (step.LinesKept kept) fun _ => True
  cancel : ∀ reason, (step.cancel reason).Quiet (step.LinesKept kept) fun _ => True

theorem promise_prefix : Promise (List.IsPrefix (α := String)) := ⟨fun _ => List.prefix_rfl, List.IsPrefix.trans⟩

theorem promise_sublist : Promise (List.Sublist (α := String)) := ⟨List.Sublist.refl, List.Sublist.trans⟩

/-- What is kept of the lines is a promise about the states. -/
theorem Promise.lines {kept : List String → List String → Prop} (h : Promise kept) (step : Step σ) :
    Promise (step.LinesKept kept) := ⟨fun _ => h.refl _, h.trans⟩

/-- **A step that keeps more** keeps as much. -/
theorem Step.Keeps.mono {kept kept' : List String → List String → Prop} {step : Step σ} {work : Activity σ ω}
    (hkept : ∀ {l l'}, kept l l' → kept' l l') (h : step.Keeps kept work) : step.Keeps kept' work where
  work := h.work.mono (fun _ _ => hkept) (fun _ => Background.Keeps.mono hkept) id
  cancel reason := (h.cancel reason).mono (fun _ _ => hkept) (fun _ => Background.Keeps.mono hkept) id

/-- **Lines that a cell holds** are kept with a change of the cell that keeps them. -/
theorem Cell.lines_modify {τ : Type} (kept : List String → List String → Prop) (lines : τ → List String)
    (c : Cell σ τ) (f : τ → τ) (hf : ∀ t, kept (lines t) (lines (f t))) (s : σ) :
    kept (lines (c.get s)) (lines (c.get (c.modify f s))) := by
  rw [c.get_modify]
  exact hf (c.get s)

/-! ## 2. What a workflow prints -/

/-- **A recorded line comes last.** -/
theorem SerialConsole.prefix_record (c : SerialConsole) (inst line : String) : c.logs <+: (c.record inst line).logs :=
  c.logs_record inst line ▸ List.prefix_append _ _

namespace Translation

variable {t : Translation σ}

theorem kept_modify (f : TranslationState → TranslationState) (hf : ∀ u, u.console.logs <+: (f u).console.logs)
    (s : σ) : t.processor.toStep.LinesKept List.IsPrefix s (t.cell.modify f s) :=
  t.cell.lines_modify List.IsPrefix (fun u => u.console.logs) f hf s

/-- **A translation appends**, where the platform leaves its lines alone. -/
theorem keeps (hp : t.platform.Does (t.processor.toStep.LinesKept List.IsPrefix) fun _ => True)
    (disk : PersistentDisk) : t.processor.toStep.Keeps List.IsPrefix (t.process disk) where
  work := by
    have hrecord : ∀ inst line s, t.processor.toStep.LinesKept List.IsPrefix s (t.record inst line s) :=
      fun inst line => kept_modify _ fun u => u.console.prefix_record inst line
    obtain ⟨prepared, hprepared⟩ : ∃ x, prepareTranslation t.platform.files t.args t.path disk = x := ⟨_, rfl⟩
    cases prepared with
    | error e =>
      rw [process_of_error hprepared]
      exact uniform_any.done _
    | ok w =>
      rw [process_of_ok hprepared]
      exact uniform_any.andThen (uniform_any.mapFault (hp.runWorkflow w _ _ hrecord)) fun _ => uniform_any.done _
  cancel reason := by
    have hflag : ∀ s, t.processor.toStep.LinesKept List.IsPrefix s
        (t.cell.modify (fun u => { u with isCancelled := true }) s) := kept_modify _ fun _ => List.prefix_rfl
    exact fun m => ⟨hflag m.state, trivial⟩

end Translation

namespace WorkerInflation

variable {i : WorkerInflation σ}

theorem kept_modify (f : WorkerState → WorkerState) (hf : ∀ t, t.console.logs <+: (f t).console.logs) (s : σ) :
    i.inflater.toStep.LinesKept List.IsPrefix s (i.cell.modify f s) :=
  i.cell.lines_modify List.IsPrefix (fun t => t.console.logs) f hf s

/-- **An inflation by a worker appends**, where the platform leaves its lines alone. -/
theorem keeps (hp : i.platform.Does (i.inflater.toStep.LinesKept List.IsPrefix) fun _ => True) :
    i.inflater.toStep.Keeps List.IsPrefix i.inflate := by
  have hlines := promise_prefix.lines i.inflater.toStep
  have hrecord : ∀ inst line s, i.inflater.toStep.LinesKept List.IsPrefix s (i.record inst line s) :=
    fun inst line => kept_modify _ fun t => t.console.prefix_record inst line
  have hended : ∀ s, i.inflater.toStep.LinesKept List.IsPrefix s
      (i.cell.modify (fun t => { t with finished := true }) s) := kept_modify _ fun _ => List.prefix_rfl
  have hflag : ∀ s, i.inflater.toStep.LinesKept List.IsPrefix s
      (i.cell.modify (fun t => { t with isCancelled := true }) s) := kept_modify _ fun _ => List.prefix_rfl
  constructor
  · unfold inflate
    cases i.workflow with
    | error cause => exact uniform_any.done _
    | ok w =>
      refine uniform_any.bind (uniform_any.clock hlines.refl) fun _ =>
        uniform_any.bind (hp.runWorkflow w _ _ hrecord) fun _ => ?_
      refine uniform_any.bind (uniform_any.update hended) fun _ => ?_
      exact uniform_any.bind (uniform_any.clock hlines.refl) fun _ =>
        uniform_any.bind (uniform_any.read hlines.refl) fun _ => uniform_any.done _
  · intro reason m
    refine ⟨?_, trivial⟩
    show i.inflater.toStep.LinesKept List.IsPrefix m.state (ite _ _ _ : Bool × σ).2
    split
    · exact hlines.refl _
    · exact hflag _

end WorkerInflation

/-! ## 3. Two logs behind one another -/

namespace DirectInflation

variable {i : DirectInflation σ}

theorem kept_modify (f : DirectState → DirectState) (hf : ∀ t : DirectState, t.logs.Sublist (f t).logs) (s : σ) :
    i.inflater.toStep.LinesKept List.Sublist s (i.cell.modify f s) :=
  i.cell.lines_modify List.Sublist DirectState.logs f hf s

/-- **An inflation by the compute service inserts**, where the platform leaves its lines alone: what a cancel adds
stands in front of the console. -/
theorem keeps (hp : i.platform.Does (i.inflater.toStep.LinesKept List.Sublist) fun _ => True) :
    i.inflater.toStep.Keeps List.Sublist i.inflate := by
  have hlines := promise_sublist.lines i.inflater.toStep
  have htrans : ∀ s t u, i.inflater.toStep.LinesKept List.Sublist s t → i.inflater.toStep.LinesKept List.Sublist t u →
      i.inflater.toStep.LinesKept List.Sublist s u := fun _ _ _ => hlines.trans
  have hlock : ∀ l s, i.inflater.toStep.LinesKept List.Sublist s (i.lock.set l s) :=
    fun l => kept_modify (fun t => { t with lock := l }) fun _ => .refl _
  have hrecord : ∀ inst line s, i.inflater.toStep.LinesKept List.Sublist s (i.record inst line s) :=
    fun inst line => kept_modify _ fun t => (t.console.prefix_record inst line).sublist.append_left t.trace
  have hpush : ∀ line s, i.inflater.toStep.LinesKept List.Sublist s (i.cell.modify (DirectState.push line) s) :=
    fun line => kept_modify _ fun t => (List.sublist_append_left t.trace [line]).append_right t.console.logs
  constructor
  · have hmeasure : ∀ started, (i.measure started).Quiet (i.inflater.toStep.LinesKept List.Sublist) fun _ => True := by
      intro started
      unfold measure
      cases Source.parseStoragePath i.sourceFile with
      | error e => exact uniform_any.done _
      | ok path =>
        exact uniform_any.andThen (uniform_any.mapFault (hp.objectSize ..)) fun _ =>
          checksum_quiet uniform_any hlines.refl htrans hp hrecord started _
    have htake : i.takePending.Quiet (i.inflater.toStep.LinesKept List.Sublist) fun _ => True :=
      uniform_any.exchange (kept_modify (fun t => { t with pending := none }) fun _ => .refl _)
    refine uniform_any.holding hlines.refl htrans hlock (uniform_any.bind ?_ fun _ =>
      uniform_any.bind (deleteDisk_quiet uniform_any hp) fun _ => uniform_any.done _)
    refine uniform_any.bind (uniform_any.clock hlines.refl) fun started =>
      uniform_any.andThen (uniform_any.mapFault (hp.createDisk ..)) fun _ =>
        uniform_any.bind htake fun pending => ?_
    cases pending with
    | some reason => exact uniform_any.done _
    | none => exact hmeasure started
  · intro reason
    have hrequest : ∀ s, i.inflater.toStep.LinesKept List.Sublist s
        (i.cell.modify (DirectState.requestCancel reason) s) := kept_modify _ fun _ => .refl _
    refine uniform_any.bind (uniform_any.update hrequest) fun _ =>
      uniform_any.holding hlines.refl htrans hlock (uniform_any.bind (hp.getDisk ..) fun found => ?_)
    exact uniform_any.bind (uniform_any.update (hpush _)) fun _ => uniform_any.done _

end DirectInflation

namespace ShadowedInflation

variable {i : ShadowedInflation σ}

/-- The lines of both inflations are kept. -/
abbrev BothKept (i : ShadowedInflation σ) (s t : σ) : Prop :=
  i.main.toStep.LinesKept List.Sublist s t ∧ i.shadow.toStep.LinesKept List.Sublist s t

theorem promise_both (i : ShadowedInflation σ) : Promise i.BothKept where
  refl _ := ⟨.refl _, .refl _⟩
  trans h h' := ⟨h.1.trans h'.1, h.2.trans h'.2⟩

/-- **An inflation with a shadow inserts**, where each of the two leaves the lines of the other one alone: what the
main inflation adds stands in front of the lines of the shadow. -/
theorem keeps (h : i.Does i.BothKept) : i.inflater.toStep.Keeps List.Sublist i.inflate := by
  have hboth := i.promise_both
  have htrans : ∀ s t u, i.BothKept s t → i.BothKept t u → i.BothKept s u := fun _ _ _ => hboth.trans
  have happend : ∀ {s t}, i.BothKept s t → i.inflater.toStep.LinesKept List.Sublist s t := fun h => h.1.append h.2
  have hinflate := h.inflate hboth.refl htrans
  have hcancel := h.cancel hboth.refl htrans
  constructor
  · exact hinflate.mono (fun _ _ => happend) (fun _ => Background.Keeps.mono happend) id
  · exact fun reason => (hcancel reason).mono (fun _ _ => happend) (fun _ => Background.Keeps.mono happend) id

end ShadowedInflation

end ImageImport
