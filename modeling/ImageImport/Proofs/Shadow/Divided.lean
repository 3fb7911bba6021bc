/-
# An import that is divided from its shadow

Whether a shadow has a say in an import can only be asked where the two do not write to the same place.  So the
state is divided: a part that is the import's own, a part that is the shadow's own, whether the main inflation
has ended, and the log, to which everybody writes and which nobody reads (`Divided`).

`MainParts.withShadow` puts such an import together, with the inflation that has a shadow as its inflater, and
`MainParts.alone` is the same import without a shadow.  What can be seen of the one without its shadow is a
state of the other (`unshadowed`): everything but the shadow's own part, the log, the two fields in which the
comparison is reported, and the notes of the inflation, which is what a shadow may delay.
-/
import ImageImport.Proofs.Import.History
import ImageImport.Proofs.Shadow.FollowsMain

namespace ImageImport

open Activity

variable {τ υ σ : Type}

/-! ## 1. What a shadow adds is left out -/

/-- The fields of an inflation without what a shadow adds. -/
def InflationFields.withoutShadow (f : InflationFields) : InflationFields :=
  { f with matchResult := none, shadowInflationTime := none }

/-- An inflation without what a shadow adds. -/
def Inflation.withoutShadow (i : Inflation) : Inflation := { i with fields := i.fields.withoutShadow }

/-- The outcome of an inflation without what a shadow adds. -/
def outcomeWithoutShadow : Except InflationFailure Inflation → Except InflationFailure Inflation
  | .ok i => .ok i.withoutShadow
  | .error f => .error { f with fields := f.fields.withoutShadow }

/-- Metrics without what a shadow adds. -/
def Metrics.withoutShadow (m : Metrics) : Metrics :=
  { m with shadowInflationTimeMs := 0, shadowDiskMatchResult := "" }

/-- What the task of a stage has recorded without what a shadow adds. -/
def Recorded.withoutShadow (r : Recorded) : Recorded where
  inflation := r.inflation.withoutShadow
  metrics := r.metrics.withoutShadow

/-- **What is shown is the outcome of the main inflation**, but for what the shadow adds. -/
theorem outcomeWithoutShadow_compared {result shown : Except InflationFailure Inflation}
    (h : Compared result shown) : outcomeWithoutShadow shown = outcomeWithoutShadow result := by
  obtain ⟨shadow, rfl⟩ := h
  cases result <;> rfl

theorem left_withoutShadow (result : Except InflationFailure Inflation) :
    (Inflation.left result).withoutShadow = Inflation.left (outcomeWithoutShadow result) := by
  cases result <;> rfl

/-! ## 2. The divided state -/

/-- **The state of an import with a shadow**: what is the import's own, whether the main inflation has ended,
what is the shadow's own, and the log. -/
structure Divided (τ υ : Type) where
  own : τ
  mainEnded : Bool
  shadow : υ
  log : List (Severity × String)

namespace Divided

/-- The import's own part. -/
def ownCell : Cell (Divided τ υ) τ where
  get s := s.own
  set t s := { s with own := t }

/-- Whether the main inflation has ended. -/
def endedCell : Cell (Divided τ υ) Bool where
  get s := s.mainEnded
  set b s := { s with mainEnded := b }

/-- The shadow's own part. -/
def shadowCell : Cell (Divided τ υ) υ where
  get s := s.shadow
  set u s := { s with shadow := u }

/-- One more line of the log. -/
def write (severity : Severity) (line : String) (s : Divided τ υ) : Divided τ υ :=
  { s with log := s.log ++ [(severity, line)] }

/-- **What can be seen without the shadow and the log.** -/
def unshadowed (s : Divided τ υ) : τ × Bool := (s.own, s.mainEnded)

/-- What is done on the import's own part is seen. -/
theorem mirrors_own {α : Type} (a : Activity τ α) :
    Mirrors (unshadowed : Divided τ υ → τ × Bool) True Eq (a.on ownCell) (a.on Cell.fst) := by
  have hget : ∀ s : Divided τ υ, Cell.fst.get s.unshadowed = ownCell.get s := fun _ => rfl
  exact mirrors_parts hget (fun _ _ => rfl) a

end Divided

/-! ## 3. The parts of an import -/

/-- An inflater on a part of the state. -/
def Inflater.on (i : Inflater τ) (c : Cell σ τ) : Inflater σ :=
  { i.toStep.on c with inflate := i.inflate.on c }

/-- A processor on a part of the state. -/
def Processor.on (p : Processor τ) (c : Cell σ τ) : Processor σ :=
  { p.toStep.on c with kind := p.kind, process := fun disk m => (p.process disk m).on c }

/-- Processors on a part of the state. -/
def Processor.allOn (c : Cell σ τ) : List (Processor τ) → List (Processor σ) := List.map fun p => p.on c

/-- A provider on a part of the state, with its processors. -/
def ProcessorProvider.on (provider : ProcessorProvider τ) (c : Cell σ τ) : ProcessorProvider σ :=
  fun disk m => ((provider disk m).on c).bind fun answer =>
    .done (ImportParts.lifted (Processor.allOn c) answer)

/-- **The parts of an import but for its shadow**, which act on the import's own part of the state. -/
structure MainParts (τ : Type) where
  args : Arguments
  validator : Preflight.Validator τ
  main : Inflater τ
  provider : ProcessorProvider τ
  deleteDisk : (project zone disk : String) → Call τ Unit
  grace : Duration := .ofSecs 180

namespace MainParts

/-- **The main inflation with a shadow.**  Of the platform it asks nothing but to write a line to the log. -/
def inflation (parts : MainParts τ) (shadow : Inflater υ) (rest : Platform (Divided τ υ)) :
    ShadowedInflation (Divided τ υ) where
  main := parts.main.on Divided.ownCell
  shadow := shadow.on Divided.shadowCell
  grace := parts.grace
  platform := { rest with log := Divided.write }
  mainFinished := Divided.endedCell

/-- **The import with a shadow.** -/
def withShadow (parts : MainParts τ) (shadow : Inflater υ) (rest : Platform (Divided τ υ)) :
    ImportParts (Divided τ υ) where
  args := parts.args
  validator args := (parts.validator args).on Divided.ownCell
  inflater := (parts.inflation shadow rest).inflater
  provider := parts.provider.on Divided.ownCell
  deleteDisk project zone disk := (parts.deleteDisk project zone disk).on Divided.ownCell
  log := Divided.write

/-- **The same import without a shadow.**  The main inflation notes that it has ended, and its cancel is
refused from then on. -/
def alone (parts : MainParts τ) : ImportParts (τ × Bool) where
  args := parts.args
  validator args := (parts.validator args).on Cell.fst
  inflater :=
    { cancel := loneCancel (parts.main.on Cell.fst) Cell.snd
      traceLogs := fun s => parts.main.traceLogs s.1
      inflate := loneInflate (parts.main.on Cell.fst) Cell.snd }
  provider := parts.provider.on Cell.fst
  deleteDisk project zone disk := (parts.deleteDisk project zone disk).on Cell.fst
  log _ _ s := s

end MainParts

/-! ## 4. What is asked of the parts -/

/-- **The cancels of a step answer**: whatever they do and however long they take, they do not crash. -/
def Step.CancelsSafely (step : Step υ) : Prop :=
  ∀ reason, (step.cancel reason).Always (fun _ _ => True) (fun _ => True) fun r => ∃ i, r = .ok i

/-- Answers that say the same but for what a shadow adds to the metrics. -/
abbrev SameAnswers {α : Type} (a' a : Metrics × α) : Prop :=
  a'.1.withoutShadow = a.1.withoutShadow ∧ a'.2 = a.2

/-- **A processor that does not look at what a shadow adds** to the metrics: it does the same with other
metrics that differ in nothing else, and answers the same but for that. -/
def Processor.BlindToShadow (processor : Processor τ) : Prop :=
  ∀ (disk : PersistentDisk) {m' m : Metrics}, m'.withoutShadow = m.withoutShadow →
    Mirrors id True SameAnswers (processor.process disk m') (processor.process disk m)

/-- The same processors, which do not look at it. -/
def BlindAnswers (a' a : Planner.Outcome (List (Processor τ))) : Prop :=
  SameAnswers a' a ∧ ∀ processors, a.2 = .ok processors → ∀ processor ∈ processors, processor.BlindToShadow

/-- **A provider that does not look at it** either. -/
def ProcessorProvider.BlindToShadow (provider : ProcessorProvider τ) : Prop :=
  ∀ (disk : PersistentDisk) {m' m : Metrics}, m'.withoutShadow = m.withoutShadow →
    Mirrors id True BlindAnswers (provider disk m') (provider disk m)

/-- **What is asked of an import** so that nothing but its shadow goes on beside it: neither the check of the
arguments nor the main inflation leaves a task behind.  And neither the provider nor its processors are to look for
the shadow. -/
structure MainParts.Settled (parts : MainParts τ) : Prop where
  validator : (parts.validator parts.args).LeavesNothing
  inflate : parts.main.inflate.LeavesNothing
  cancel : ∀ reason, (parts.main.cancel reason).LeavesNothing
  provider : parts.provider.BlindToShadow

/-- To the main inflation such a shadow is company. -/
theorem MainParts.Settled.beside {parts : MainParts τ} (h : parts.Settled) {shadow : Inflater υ}
    (hshadow : shadow.toStep.CancelsSafely) (rest : Platform (Divided τ υ)) :
    (parts.inflation shadow rest).Beside Divided.unshadowed (parts.main.on Cell.fst) Cell.snd where
  mainInflate := Divided.mirrors_own parts.main.inflate
  mainCancel reason := Divided.mirrors_own (parts.main.cancel reason)
  inflateTidy := h.inflate.on
  cancelTidy reason := (h.cancel reason).on
  get _ := rfl
  set _ _ := rfl
  shadowInflate := quiet_on (fun _ _ => rfl) shadow.inflate
  shadowCancel reason := (hshadow reason).on (fun _ _ _ => rfl) fun task _ => task.keeps_any.on fun _ _ _ => rfl
  log _ _ _ := rfl

/-! ## 5. What is seen of a run -/

/-- It is a note of the inflation. -/
def ImportNote.ofInflation : ImportNote → Bool
  | .inflation _ => true
  | _ => false

/-- The notes of everything but the inflation. -/
def ImportHistory.apartFromInflation (h : ImportHistory) : ImportHistory := h.filter fun n => !n.2.ofInflation

theorem ImportHistory.apartFromInflation_keptAs (h : ImportHistory)
    (l : StepHistory Unit (Except InflationFailure Inflation)) :
    apartFromInflation (h ++ keptAs .inflation l) = apartFromInflation h := by
  have hnone : apartFromInflation (keptAs .inflation l) = [] := by
    refine List.filter_eq_nil_iff.mpr fun n hn => ?_
    obtain ⟨k, -, rfl⟩ := List.mem_map.mp hn
    simp [ImportNote.ofInflation]
  rw [apartFromInflation, List.filter_append]
  show apartFromInflation h ++ apartFromInflation (keptAs .inflation l) = _
  rw [hnone, List.append_nil]

/-- **An import with a shadow as it is seen without**: its own part of the state, what the tasks of the stages have
recorded but for what a shadow adds, and the notes of everything but the inflation. -/
def unshadowed (s : ImportParts.Noted (Divided τ υ)) : ImportParts.Noted (τ × Bool) :=
  ⟨(s.state.1.unshadowed, s.state.2.withoutShadow), ImportHistory.apartFromInflation s.seen⟩

/-- A note of something else is seen. -/
theorem unshadowed_noted {n : ImportNote} (hn : n.ofInflation = false)
    (m : Moment (ImportParts.Noted (Divided τ υ))) :
    unshadowed (Watched.noted n m) = Watched.noted n (m.through unshadowed) := by
  show (⟨_, ImportHistory.apartFromInflation (m.state.seen ++ [(m.now, n)])⟩ : ImportParts.Noted (τ × Bool)) = _
  have hseen : List.filter (fun n => !n.2.ofInflation) [(m.now, n)] = [(m.now, n)] := by simp [hn]
  rw [ImportHistory.apartFromInflation, List.filter_append, hseen]
  rfl

/-! ## 6. The parts of this library -/

section Library

theorem withoutShadow_setInspection {m' m : Metrics} (h : m'.withoutShadow = m.withoutShadow) (i : Inspection) :
    (m'.setInspection i).withoutShadow = (m.setInspection i).withoutShadow :=
  congrArg (fun n => n.setInspection i) h

theorem withoutShadow_setUefi {m' m : Metrics} (h : m'.withoutShadow = m.withoutShadow) (requested detected : Bool) :
    (m'.setUefi requested detected).withoutShadow = (m.setUefi requested detected).withoutShadow :=
  congrArg (fun n => n.setUefi requested detected) h

theorem planWith_blind (p : Platform σ) (args : Arguments) (inspection : Option Inspection) {m' m : Metrics}
    (h : m'.withoutShadow = m.withoutShadow) :
    Mirrors id True SameAnswers (Planner.planWith p args inspection m') (Planner.planWith p args inspection m) := by
  unfold Planner.planWith
  cases Planner.resolveOs args inspection with
  | error e => exact .done ⟨h, rfl⟩
  | ok os =>
    refine Mirrors.bind (mirrors_self _) fun _ => ?_
    cases Planner.chosenEntry args os with
    | error e => exact .done ⟨h, rfl⟩
    | ok entry => exact .done ⟨withoutShadow_setUefi h _ _, rfl⟩

/-- Work that has nothing to report does not look at the metrics. -/
theorem unreported_blind {α : Type} (work : Activity σ α) {m' m : Metrics} (h : m'.withoutShadow = m.withoutShadow) :
    Mirrors id True SameAnswers (unreported m' work) (unreported m work) := by
  refine Mirrors.bind (mirrors_self work) ?_
  rintro r _ rfl
  exact .done ⟨h, rfl⟩

theorem plan_blind (p : Platform σ) (args : Arguments) (disk : PersistentDisk) {m' m : Metrics}
    (h : m'.withoutShadow = m.withoutShadow) :
    Mirrors id True SameAnswers (Planner.plan p args disk m') (Planner.plan p args disk m) := by
  unfold Planner.plan
  split
  · exact .done ⟨h, rfl⟩
  · refine Mirrors.bind (mirrors_self _) ?_
    rintro inspection _ rfl
    refine planWith_blind p args inspection ?_
    cases inspection with
    | none => exact h
    | some i => exact withoutShadow_setInspection h i

/-- **The provider of this library does not look for the shadow**, and neither do its processors, which have nothing to
report. -/
theorem provide_blindToShadow (p : Platform σ) (args : Arguments) (translation : Cell σ TranslationState) :
    (provide p args translation).BlindToShadow := by
  intro disk m' m h
  unfold provide provideWith
  split
  · refine .done ⟨⟨h, rfl⟩, ?_⟩
    rintro _ ⟨⟩ processor hmem
    rw [List.mem_singleton.mp hmem]
    exact fun disk _ _ => unreported_blind (imageDisk p args disk)
  · refine Mirrors.bind (plan_blind p args disk h) ?_
    rintro ⟨m₁', answer⟩ ⟨m₁, _⟩ ⟨h₁, rfl⟩
    cases answer with
    | error e => exact .done ⟨⟨h₁, rfl⟩, fun _ h => nomatch h⟩
    | ok plan =>
      refine Mirrors.bind (mirrors_self _) fun _ => .done ⟨⟨h₁, rfl⟩, ?_⟩
      rintro _ ⟨⟩
      exact processorsOf_forall (fun disk _ _ => unreported_blind (tagDisk p args plan disk))
        fun disk _ _ => unreported_blind (Translation.process _ disk)

/-- The rules leave nothing behind, one after the other. -/
theorem Preflight.reportOnto_leavesNothing {rules : List (Preflight.Rule σ)} {a : Arguments}
    (h : ∀ rule ∈ rules, (rule.check a).LeavesNothing) (report : Preflight.Report) :
    (Preflight.reportOnto a rules report).LeavesNothing := by
  induction rules generalizing report with
  | nil => exact .done _
  | cons rule others ih =>
    obtain ⟨hrule, hothers⟩ := List.forall_mem_cons.mp h
    exact .bind hrule fun _ => ih hothers _

/-- **The check of the arguments leaves nothing behind** if the look-up of an image does not. -/
theorem Preflight.validate_leavesNothing (p : Platform σ)
    (h : ∀ project name, (p.getImage project name).LeavesNothing) (a : Arguments) :
    (Preflight.validate p (Preflight.defaultRules p) a).LeavesNothing := by
  have hrules : ∀ rule ∈ Preflight.defaultRules p, (rule.check a).LeavesNothing := by
    simp only [Preflight.defaultRules, List.forall_mem_cons]
    refine ⟨.done _, ?_, .done _, .done _, fun _ h => nomatch h⟩
    show (Preflight.checkAvailable p a).LeavesNothing
    unfold Preflight.checkAvailable
    split
    · exact .done _
    · exact .bind (h _ _) fun _ => .done _
  refine .bind (Preflight.reportOnto_leavesNothing hrules _) fun r => ?_
  split
  · exact .done _
  · exact .step _ fun _ => .done _

/-- **A worker leaves nothing behind** if the runs of workflows do not. -/
theorem WorkerInflation.inflate_leavesNothing (w : WorkerInflation σ)
    (h : ∀ workflow isCancelled record, (w.platform.runWorkflow workflow isCancelled record).LeavesNothing) :
    w.inflate.LeavesNothing := by
  unfold WorkerInflation.inflate
  cases w.workflow with
  | error e => exact .done _
  | ok workflow =>
    refine .bind (.step _ fun _ => .done _) fun _ => .bind (h _ _ _) fun _ => ?_
    exact .step _ fun _ => .step _ fun _ => .step _ fun _ => .done _

/-- **The import of this library**, with a worker for its main inflation. -/
def MainParts.byWorker (p : Platform τ) (cells : Importer.Cells τ) (args : Arguments) (source : Source)
    (inspection : Option Inspection) : MainParts τ where
  args
  validator := Preflight.validate p (Preflight.defaultRules p)
  main := (cells.inflation.byWorker p args source inspection).inflater
  provider := provide p args cells.translation
  deleteDisk := p.deleteDisk

/-- **It is settled**, if what it calls leaves nothing behind. -/
theorem MainParts.byWorker_settled (p : Platform τ) (cells : Importer.Cells τ) (args : Arguments)
    (source : Source) (inspection : Option Inspection)
    (himage : ∀ project name, (p.getImage project name).LeavesNothing)
    (hrun : ∀ workflow isCancelled record, (p.runWorkflow workflow isCancelled record).LeavesNothing) :
    (MainParts.byWorker p cells args source inspection).Settled where
  validator := Preflight.validate_leavesNothing p himage args
  inflate := (cells.inflation.byWorker p args source inspection).inflate_leavesNothing hrun
  cancel _ := .step _ fun _ => .done _
  provider := provide_blindToShadow p args cells.translation

end Library

end ImageImport
