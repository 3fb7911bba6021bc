/-
# What a shadow can do to an import

Two imports differ in nothing but their shadows.  Up to the inflation they do the same, and what their guarded
inflations hand on is the same (`Proofs/Shadow/Stage.lean`).  From there on each does what the import without a
shadow does (`afterInflation_unshadowed`), beside whatever the shadow has left, which nobody sees.

So nothing of a shadow reaches the result but the time that is spent on it: an inflation is over when its shadow
has ended, or has been abandoned, and the stages after it find the clock where the inflation has left it.
`shadow_only_delays` says so of any two shadows, comparing each to the one import that has none; `shadow_shows`
says that this much cannot be denied.
-/
import ImageImport.Proofs.Concurrency.Attendance
import ImageImport.Proofs.Shadow.Stage

namespace ImageImport

open Activity
open ImportParts (Noted)

variable {τ υ σ : Type}

/-! ## 1. After the inflation -/

namespace Importer

/-- The stages after the inflation, which has handed on its outcome and its diagnostic lines. -/
def stagesAfter (i : Importer σ) (ctx : RunContext)
    (handed : Except InflationFailure Inflation × List String) : Activity σ Stages := do
  let left ← Activity.read i.left.get
  let p := (Progress.addLogs {} handed.2).addInflation left.inflation
  match handed.1 with
  | .error failure => return (p, .error failure.error)
  | .ok inflation => i.runChain ctx { p with disk := inflation.disk }

/-- When the stages are over. -/
def conclude (i : Importer σ) (stages : Stages) : Activity σ (Metrics × Except ImportError Unit) := do
  let _ ← cleanupDisk i.platform i.args stages.1.disk
  i.reportOutcome stages.2
  return (stages.1.finish.build (.ofMillis (← Activity.clock)), stages.2)

/-- **The import after its inflation.** -/
def afterInflation (i : Importer σ) (ctx : RunContext)
    (handed : Except InflationFailure Inflation × List String) :
    Activity σ (Metrics × Except ImportError Unit) := (i.stagesAfter ctx handed).bind i.conclude

/-- An import whose arguments were accepted is its guarded inflation, and then the rest. -/
theorem runValidated_eq (i : Importer σ) (ctx : RunContext) :
    i.runValidated ctx = (Activity.update (i.left.set {})).bind fun _ =>
      (runStep ctx i.inflater.toStep .ofError i.notedInflation).bind (i.afterInflation ctx) := by
  simp only [runValidated, runStages, Bind.bind, Activity.bind_assoc]
  rfl

end Importer

/-! ## 2. Seen without the shadow -/

/-- What is done on the part of the import is seen. -/
theorem mirrors_part {α' α : Type} {R : α' → α → Prop} {a' : Activity (Divided τ υ) α'}
    {a : Activity (τ × Bool) α} (h : Mirrors Divided.unshadowed True R a' a) :
    Mirrors unshadowed True R (a'.on (Watched.part Cell.fst) : Activity (Noted (Divided τ υ)) α')
      (a.on (Watched.part Cell.fst)) := by
  have hget : ∀ s : Noted (Divided τ υ), (Watched.part Cell.fst).get (unshadowed s) =
      Divided.unshadowed ((Watched.part Cell.fst).get s) := fun _ => rfl
  exact h.on hget fun _ _ => rfl

/-- **Notes of anything but the inflation** are seen too. -/
theorem mirrors_noted {α' α : Type} {R : α' → α → Prop} {called : ImportNote}
    {ended' : Except Crash α' → ImportNote} {ended : Except Crash α → ImportNote}
    {a' : Activity (Noted (Divided τ υ)) α'} {a : Activity (Noted (τ × Bool)) α}
    (hcalled : called.ofInflation = false)
    (hended : ∀ {r' r}, Alike R r' r → ended' r' = ended r ∧ (ended r).ofInflation = false)
    (h : Mirrors unshadowed True R a' a) :
    Mirrors unshadowed True R (Activity.watching called ended' a') (Activity.watching called ended a) := by
  refine Mirrors.watching_both (unshadowed_noted hcalled) (fun hr m => ?_) h
  obtain ⟨hsame, hother⟩ := hended hr
  rw [hsame]
  exact unshadowed_noted hother m

/-- A call of the import with its notes. -/
theorem call_unshadowed {α : Type} {called : ImportNote} {ended : Except Crash α → ImportNote}
    (hcalled : called.ofInflation = false) (hended : ∀ r, (ended r).ofInflation = false) (a : Activity τ α) :
    Mirrors unshadowed True Eq
      (Activity.watching called ended ((a.on Divided.ownCell).on (Watched.part Cell.fst)) :
        Activity (Noted (Divided τ υ)) α)
      (Activity.watching called ended ((a.on Cell.fst).on (Watched.part Cell.fst))) := by
  refine mirrors_noted hcalled (fun {r' r} hr => ?_) (mirrors_part (Divided.mirrors_own a))
  rw [eq_of_alike hr]
  exact ⟨rfl, hended r⟩

/-- The progress of two imports that have come equally far, `lines'` and `lines` being the diagnostic lines of
their inflations; the second one leaves out of the metrics what a shadow adds. -/
structure AlikeProgress (lines' lines : List String) (p' p : Progress) : Prop where
  metrics : p'.metrics.withoutShadow = p.metrics
  disk : p'.disk = p.disk
  traceLogs : ∃ later, p'.traceLogs = lines' ++ later ∧ p.traceLogs = lines ++ later

namespace AlikeProgress

variable {lines' lines : List String} {p' p : Progress}

theorem addLogs (h : AlikeProgress lines' lines p' p) (logs : List String) :
    AlikeProgress lines' lines (p'.addLogs logs) (p.addLogs logs) where
  metrics := h.metrics
  disk := h.disk
  traceLogs := by
    obtain ⟨later, h', h⟩ := h.traceLogs
    refine ⟨later ++ logs, ?_, ?_⟩
    · rw [← List.append_assoc, ← h']
      rfl
    · rw [← List.append_assoc, ← h]
      rfl

theorem withDisk (h : AlikeProgress lines' lines p' p) (disk : PersistentDisk) :
    AlikeProgress lines' lines { p' with disk } { p with disk } := ⟨h.metrics, rfl, h.traceLogs⟩

theorem withMetrics (h : AlikeProgress lines' lines p' p) (m : Metrics) :
    AlikeProgress lines' lines { p' with metrics := m } { p with metrics := m.withoutShadow } :=
  ⟨rfl, h.disk, h.traceLogs⟩

end AlikeProgress

/-- Stages that have come equally far. -/
def AlikeStages (lines' lines : List String) (s' s : Importer.Stages) : Prop :=
  AlikeProgress lines' lines s'.1 s.1 ∧ s'.2 = s.2

/-- A processor that leaves out of its metrics what a shadow adds. -/
def Processor.unshadowing (p : Processor τ) : Processor τ :=
  { p with process := fun disk m => (p.process disk m).bind fun answer => .done (answer.1.withoutShadow, answer.2) }

/-- A provider that leaves it out, and so do its processors. -/
def ProcessorProvider.unshadowing (provider : ProcessorProvider τ) : ProcessorProvider τ := fun disk m =>
  (provider disk m).bind fun answer =>
    .done (answer.1.withoutShadow, answer.2.map (List.map Processor.unshadowing))

/-- **The import without a shadow**, with its notes, where nothing adds to the metrics what a shadow does. -/
def MainParts.lone (parts : MainParts τ) : Importer (Noted (τ × Bool)) :=
  ({ parts with provider := parts.provider.unshadowing } : MainParts τ).alone.watched .refusing

section

variable {parts : MainParts τ} {shadow : Inflater υ} {rest : Platform (Divided τ υ)}
  {rest' : Platform (Noted (Divided τ υ))} {ctx : RunContext} {lines' lines : List String}

open ImportParts (watchedProcessor watchedProcessors)

/-- What a task records is seen, but for what a shadow adds. -/
theorem update_unshadowed (r : Recorded) :
    Mirrors unshadowed True Eq
      (Activity.update ((Watched.part Cell.snd).set r) : Activity (Noted (Divided τ υ)) Unit)
      (Activity.update ((Watched.part Cell.snd).set r.withoutShadow)) := Mirrors.update fun _ => rfl

/-- **One processor.** -/
theorem processor_unshadowed (ctx : RunContext) (k : Nat) {p : Processor τ} (hp : p.BlindToShadow)
    (disk : PersistentDisk) (m : Metrics) :
    Mirrors unshadowed True (fun x' x => x'.1 = x.1 ∧ x'.2.withoutShadow = x.2)
      (Importer.runProcessor (Watched.part Cell.snd) ctx
        (watchedProcessor k (p.on (Divided.ownCell : Cell (Divided τ υ) τ))) disk m)
      (Importer.runProcessor (Watched.part Cell.snd) ctx
        (watchedProcessor k (p.unshadowing.on (Cell.fst : Cell (τ × Bool) τ))) disk m.withoutShadow) := by
  have hstep : Step.Mirrors unshadowed
      (watchedProcessor k (p.on (Divided.ownCell : Cell (Divided τ υ) τ))).toStep
      (watchedProcessor k (p.unshadowing.on (Cell.fst : Cell (τ × Bool) τ))).toStep :=
    ⟨fun reason => call_unshadowed rfl (fun _ => rfl) (p.cancel reason), fun _ => rfl⟩
  have hwork : Mirrors Divided.unshadowed True (fun x' x => x'.1.withoutShadow = x.1 ∧ x'.2 = x.2)
      ((p.process disk m).on (Divided.ownCell : Cell (Divided τ υ) τ))
      ((p.unshadowing.process disk m.withoutShadow).on (Cell.fst : Cell (τ × Bool) τ)) := by
    have hget : ∀ s : Divided τ υ, Cell.fst.get s.unshadowed = id (Divided.ownCell.get s) := fun _ => rfl
    have hsame : Mirrors id True SameAnswers (p.process disk m) (p.process disk m.withoutShadow) := hp disk rfl
    have hblind : Mirrors id True (fun x' x => x'.1.withoutShadow = x.1 ∧ x'.2 = x.2) (p.process disk m)
        (p.unshadowing.process disk m.withoutShadow) := hsame.bind_done fun h => h
    exact hblind.on hget fun _ _ => rfl
  have hnoted : Mirrors unshadowed True Eq
      (Importer.notedProcess (Watched.part Cell.snd)
        (watchedProcessor k (p.on (Divided.ownCell : Cell (Divided τ υ) τ))) disk m)
      (Importer.notedProcess (Watched.part Cell.snd)
        (watchedProcessor k (p.unshadowing.on (Cell.fst : Cell (τ × Bool) τ))) disk m.withoutShadow) := by
    refine Mirrors.bind (mirrors_noted rfl (fun hr => ⟨?_, rfl⟩) (mirrors_part hwork)) ?_
    · exact congrArg (fun r => ImportNote.processing k (.ended r)) (hr.map_eq fun h => h.2)
    · rintro ⟨m', result⟩ ⟨_, _⟩ ⟨rfl, rfl⟩
      exact Mirrors.bind (update_unshadowed { metrics := m' }) fun _ => .done rfl
  refine Mirrors.bind (update_unshadowed { metrics := m }) fun _ => ?_
  refine Mirrors.bind (runStep_mirrors hstep hnoted) ?_
  rintro ended _ rfl
  refine Mirrors.bind (Mirrors.read (R := fun r' r => r = Recorded.withoutShadow r') fun _ => rfl) ?_
  rintro recorded _ rfl
  exact .done ⟨rfl, rfl⟩

/-- **The processors**: by induction on the list. -/
theorem runProcessors_unshadowed (ctx : RunContext) {processors : List (Processor τ)}
    (hblind : ∀ processor ∈ processors, processor.BlindToShadow) (k : Nat) {p' p : Progress}
    (hp : AlikeProgress lines' lines p' p) :
    Mirrors unshadowed True (AlikeStages lines' lines)
      (Importer.runProcessors (Watched.part Cell.snd) ctx
        (watchedProcessors k (Processor.allOn (Divided.ownCell : Cell (Divided τ υ) τ) processors)) p')
      (Importer.runProcessors (Watched.part Cell.snd) ctx
        (watchedProcessors k (Processor.allOn (Cell.fst : Cell (τ × Bool) τ) (processors.map Processor.unshadowing)))
        p) := by
  induction processors generalizing k p' p with
  | nil => exact .done ⟨hp, rfl⟩
  | cons processor others ih =>
    obtain ⟨hfirst, hothers⟩ := List.forall_mem_cons.mp hblind
    have hprocessor := processor_unshadowed (υ := υ) ctx k hfirst p'.disk p'.metrics
    rw [hp.metrics] at hprocessor
    show Mirrors unshadowed True _ _ ((Importer.runProcessor _ ctx _ p.disk p.metrics).bind _)
    rw [← hp.disk]
    refine Mirrors.bind hprocessor ?_
    rintro ⟨⟨outcome, logs⟩, m'⟩ ⟨_, _⟩ ⟨rfl, rfl⟩
    cases outcome with
    | error e => exact .done ⟨(hp.addLogs logs).withMetrics m', rfl⟩
    | ok disk => exact ih hothers (k + 1) (((hp.addLogs logs).withMetrics m').withDisk disk)

/-- Answers of a provider and of one that leaves out what a shadow adds: the metrics say the same otherwise, and the
choice is the same, of processors that do not look for the shadow. -/
def AlikeAnswers {β' β : Type} (lift' : List (Processor τ) → β') (lift : List (Processor τ) → β)
    (x' : Planner.Outcome β') (x : Planner.Outcome β) : Prop :=
  x'.1.withoutShadow = x.1 ∧ ∃ chosen : Except ImportError (List (Processor τ)), x'.2 = chosen.map lift' ∧
    x.2 = chosen.map (fun l => lift (l.map Processor.unshadowing)) ∧
      ∀ processors, chosen = .ok processors → ∀ processor ∈ processors, processor.BlindToShadow

/-- On whatever state it acts, a processor is of its kind. -/
theorem providedKinds_eq {σ' : Type} {c' : Cell σ' τ} {c : Cell σ τ}
    {r' : Except Crash (Planner.Outcome (List (Processor σ')))}
    {r : Except Crash (Planner.Outcome (List (Processor σ)))}
    (h : Alike (AlikeAnswers (Processor.allOn c') (Processor.allOn c)) r' r) :
    ImportParts.providedKinds r' = ImportParts.providedKinds r := by
  refine h.map_eq fun {x' x} ⟨_, chosen, hc', hc, _⟩ => ?_
  rw [hc', hc]
  cases chosen with
  | error e => rfl
  | ok l => simp [Except.map, Processor.allOn, Processor.on, Processor.unshadowing]

variable (shadow rest rest') in
/-- **The choice of the processors.** -/
theorem provider_unshadowed (h : parts.Settled) (disk : PersistentDisk) (m : Metrics) :
    Mirrors unshadowed True
      (AlikeAnswers (fun l => watchedProcessors 0 (Processor.allOn Divided.ownCell l))
        fun l => watchedProcessors 0 (Processor.allOn Cell.fst l))
      (((parts.withShadow shadow rest).watched rest').provider disk m)
      (parts.lone.provider disk m.withoutShadow) := by
  have hcall : Mirrors Divided.unshadowed True
      (AlikeAnswers (Processor.allOn Divided.ownCell) (Processor.allOn Cell.fst))
      (parts.provider.on (Divided.ownCell : Cell (Divided τ υ) τ) disk m)
      (parts.provider.unshadowing.on (Cell.fst : Cell (τ × Bool) τ) disk m.withoutShadow) := by
    have hget : ∀ s : Divided τ υ, Cell.fst.get s.unshadowed = id (Divided.ownCell.get s) := fun _ => rfl
    have hblind : Mirrors id True
        (fun x' x => x'.1.withoutShadow = x.1 ∧ x.2 = x'.2.map (List.map Processor.unshadowing) ∧
          ∀ processors, x'.2 = .ok processors → ∀ processor ∈ processors, processor.BlindToShadow)
        (parts.provider disk m) (parts.provider.unshadowing disk m.withoutShadow) := by
      have hsame : Mirrors id True BlindAnswers (parts.provider disk m) (parts.provider disk m.withoutShadow) :=
        h.provider disk rfl
      refine hsame.bind_done ?_
      rintro ⟨m', answer⟩ ⟨m, _⟩ ⟨⟨hsame, rfl⟩, hblind⟩
      exact ⟨hsame, rfl, hblind⟩
    refine Mirrors.bind (hblind.on hget fun _ _ => rfl) ?_
    rintro ⟨m', answer⟩ ⟨_, _⟩ ⟨rfl, rfl, hblind⟩
    refine .done ⟨rfl, answer, rfl, ?_, hblind⟩
    cases answer <;> rfl
  have hnoted : Mirrors unshadowed True
      (AlikeAnswers (Processor.allOn Divided.ownCell) (Processor.allOn Cell.fst))
      (Activity.watching (.providing disk) (fun r => .provided (ImportParts.providedKinds r))
        ((parts.provider.on (Divided.ownCell : Cell (Divided τ υ) τ) disk m).on (Watched.part Cell.fst)))
      (Activity.watching (.providing disk) (fun r => .provided (ImportParts.providedKinds r))
        ((parts.provider.unshadowing.on (Cell.fst : Cell (τ × Bool) τ) disk m.withoutShadow).on
          (Watched.part Cell.fst))) := by
    exact mirrors_noted rfl (fun hr => ⟨congrArg ImportNote.provided (providedKinds_eq hr), rfl⟩)
      (mirrors_part hcall)
  refine Mirrors.bind hnoted ?_
  rintro ⟨_, _⟩ ⟨_, _⟩ ⟨hsame, chosen, hc', hc, hblind⟩
  cases hc'
  cases hc
  refine .done ⟨hsame, chosen, ?_, ?_, hblind⟩
  · cases chosen <;> rfl
  · cases chosen <;> rfl

/-- **The stages after the inflation.** -/
theorem stagesAfter_unshadowed (h : parts.Settled) (ctx : RunContext)
    {handed' handed : Except InflationFailure Inflation × List String}
    (ho : outcomeWithoutShadow handed'.1 = handed.1) :
    Mirrors unshadowed True (AlikeStages handed'.2 handed.2)
      (((parts.withShadow shadow rest).watched rest').stagesAfter ctx handed')
      (parts.lone.stagesAfter ctx handed) := by
  obtain ⟨outcome', lines'⟩ := handed'
  obtain ⟨outcome, lines⟩ := handed
  cases ho
  refine Mirrors.bind (Mirrors.read (R := fun r' r => r = Recorded.withoutShadow r') fun _ => rfl) ?_
  rintro recorded _ rfl
  let left := recorded.inflation
  have hp : AlikeProgress lines' lines ((Progress.addLogs {} lines').addInflation left)
      ((Progress.addLogs {} lines).addInflation left.withoutShadow) := by
    refine ⟨?_, rfl, [], (List.append_nil _).symm, (List.append_nil _).symm⟩
    have hkind : left.withoutShadow.fields.inflationType = left.fields.inflationType := rfl
    simp only [Progress.addInflation, hkind]
    split <;> rfl
  cases outcome' with
  | error failure => exact .done ⟨hp, rfl⟩
  | ok inflation =>
    have hprovider := provider_unshadowed shadow rest rest' h inflation.disk
      ((Progress.addLogs {} lines').addInflation left).metrics
    rw [hp.metrics] at hprovider
    refine Mirrors.bind hprovider ?_
    rintro ⟨m, _⟩ ⟨_, _⟩ ⟨rfl, chosen, hc', hc, hblind⟩
    cases hc'
    cases hc
    cases chosen with
    | error e => exact .done ⟨(hp.withDisk inflation.disk).withMetrics m, rfl⟩
    | ok processors =>
      exact runProcessors_unshadowed ctx (hblind processors rfl) 0 ((hp.withDisk inflation.disk).withMetrics m)

/-- The reports of two imports, `lines'` and `lines` being the diagnostic lines of their inflations. -/
structure AlikeReports (lines' lines : List String) (x' x : Metrics × Except ImportError Unit) : Prop where
  result : x'.2 = x.2
  metrics : (x'.1.setTraceLogs []).withoutShadow = (x.1.setTraceLogs []).withoutShadow
  traceLogs : ∃ later, x'.1.traceLogs = lines' ++ later ∧ x.1.traceLogs = lines ++ later

/-- **When the stages are over.** -/
theorem conclude_unshadowed {s' s : Importer.Stages} (hs : AlikeStages lines' lines s' s) :
    Mirrors unshadowed True (AlikeReports lines' lines)
      (((parts.withShadow shadow rest).watched rest').conclude s') (parts.lone.conclude s) := by
  obtain ⟨p', result⟩ := s'
  obtain ⟨p, _⟩ := s
  obtain ⟨hp, rfl⟩ := hs
  -- a line of the log is not seen
  have hlog : ∀ severity line (s : Noted (Divided τ υ)),
      unshadowed (((parts.withShadow shadow rest).watched rest').platform.log severity line s) =
        parts.lone.platform.log severity line (unshadowed s) := fun _ _ _ => rfl
  have hcleanup : Mirrors unshadowed True Eq
      (cleanupDisk ((parts.withShadow shadow rest).watched rest').platform parts.args p'.disk)
      (cleanupDisk parts.lone.platform parts.args p.disk) := by
    rw [hp.disk]
    unfold cleanupDisk
    split
    · exact .done rfl
    · refine Mirrors.bind (call_unshadowed rfl (fun _ => rfl) _) ?_
      rintro answer _ rfl
      cases answer with
      | ok u => exact .done rfl
      | error e =>
        show Mirrors unshadowed True Eq (if (!e.isNotFound) = true then _ else _)
          (if (!e.isNotFound) = true then _ else _)
        split
        · exact Mirrors.bind (Mirrors.update (hlog _ _)) fun _ => .done rfl
        · exact .done rfl
  refine Mirrors.bind hcleanup fun _ => ?_
  have hreport : Mirrors unshadowed True Eq
      (((parts.withShadow shadow rest).watched rest').reportOutcome result)
      (parts.lone.reportOutcome result) := by
    cases result with
    | ok u => exact .done rfl
    | error e => exact Mirrors.update (hlog _ _)
  refine Mirrors.bind hreport fun _ => ?_
  refine Mirrors.bind Mirrors.clock ?_
  rintro now _ rfl
  obtain ⟨later, hlater', hlater⟩ := hp.traceLogs
  refine .done ⟨rfl, ?_, later, hlater', hlater⟩
  have hdisk : ∀ m : Metrics, m.setDisk p'.disk = m.setDisk p.disk := by
    rw [hp.disk]
    exact fun _ => rfl
  have hsame : p'.metrics.withoutShadow = p.metrics.withoutShadow := by
    rw [← show p'.metrics.withoutShadow = p.metrics from hp.metrics]
    rfl
  have hmetrics := congrArg (fun m => { m.setDisk p.disk with
    traceLogs := [], generatedAt := some (Timestamp.ofMillis now) }) hsame
  show Metrics.withoutShadow { p'.metrics.setDisk p'.disk with traceLogs := [], generatedAt := _ } = _
  rw [hdisk]
  exact hmetrics

/-- **The import after its inflation**, with the shadow and without. -/
theorem afterInflation_unshadowed (h : parts.Settled) (ctx : RunContext)
    {handed' handed : Except InflationFailure Inflation × List String}
    (ho : outcomeWithoutShadow handed'.1 = handed.1) :
    Mirrors unshadowed True (AlikeReports handed'.2 handed.2)
      (((parts.withShadow shadow rest).watched rest').afterInflation ctx handed')
      (parts.lone.afterInflation ctx handed) :=
  (stagesAfter_unshadowed h ctx ho).bind fun hs => conclude_unshadowed hs

end

/-! ## 3. Where a run is -/

section

variable (parts : ImportParts σ) (rest : Platform (Noted σ))

/-- The context of an import that is run from the moment `m` on. -/
abbrev contextOf (args : Arguments) (cancelledAt : Option Nat) (deadlineFirst : Nat → Bool) (m : Moment σ) :
    RunContext := RunContext.starting m.now args.timeout cancelledAt deadlineFirst

/-- **The arguments are accepted**, at the place `p`. -/
def ImportParts.Accepts (m : Moment (Noted σ)) (p : Place (Noted σ)) : Prop :=
  ((parts.watched rest).validator parts.args).Leads (.start m) (.ok ()) p

/-- **The guarded inflation**, from where it is entered to where it is over, with what it hands on. -/
def ImportParts.Inflates (ctx : RunContext) (p : Place (Noted σ))
    (handed : Except InflationFailure Inflation × List String) (q : Place (Noted σ)) : Prop :=
  (runStep ctx (parts.watched rest).inflater.toStep .ofError (parts.watched rest).notedInflation).Leads
    (p.set ((parts.watched rest).left.set {} p.moment.state)) handed q

/-- **The guarded inflation is over at the instant `t`**, if it is entered. -/
def ImportParts.OverAt (cancelledAt : Option Nat) (deadlineFirst : Nat → Bool) (m : Moment (Noted σ)) (t : Nat) :
    Prop :=
  ∀ p, parts.Accepts rest m p → ∃ handed q,
    parts.Inflates rest (contextOf parts.args cancelledAt deadlineFirst m) p handed q ∧ q.moment.now = t

end

/-- **A run up to its inflation.** -/
theorem run_attended_eq {parts : ImportParts σ} {rest : Platform (Noted σ)}
    (h : ((parts.watched rest).validator parts.args).LeavesNothing) (cancelledAt : Option Nat)
    (deadlineFirst : Nat → Bool) (m : Moment (Noted σ)) :
    ((parts.watched rest).run cancelledAt deadlineFirst).attended.run m =
      (((parts.watched rest).validator parts.args).run m).andThen fun verdict m₁ => match verdict with
        | .error e => .returned (.empty, .error e) m₁
        | .ok () =>
          ((parts.watched rest).runValidated (contextOf parts.args cancelledAt deadlineFirst m)).attended.run m₁ := by
  show (Activity.attended (((parts.watched rest).validator parts.args).bind _)).run m = _
  rw [attended_bind h, run_bind]
  congr 1
  funext verdict m₁
  cases verdict <;> rfl

/-- A run from where the inflation is over. -/
theorem ImportParts.Inflates.run_attended {parts : ImportParts σ} {rest : Platform (Noted σ)} {ctx : RunContext}
    {m : Moment (Noted σ)} {handed : Except InflationFailure Inflation × List String} {q : Place (Noted σ)}
    (h : parts.Inflates rest ctx (.start m) handed q) :
    ((parts.watched rest).runValidated ctx).attended.run m =
      ((attendingRest q.tasks ((parts.watched rest).afterInflation ctx handed)).run q.moment).andThen
        fun x m => .returned x.1 m := by
  rw [Importer.runValidated_eq]
  exact Leads.run_attending h _

/-! ## 4. Two runs -/

section

variable {υ' : Type} {parts : MainParts τ} {shadow : Inflater υ} {shadow' : Inflater υ'}
  {rest : Platform (Divided τ υ)} {watchers : Platform (Noted (Divided τ υ))}
  {rest' : Platform (Divided τ υ')} {watchers' : Platform (Noted (Divided τ υ'))} {ctx : RunContext}

/-- **Reports that differ in nothing but what a shadow adds**: the two fields of the comparison, and its own
diagnostic lines behind those of the main inflation. -/
structure SameReport (parts : MainParts τ) (shadow : Inflater υ) (shadow' : Inflater υ')
    (x x' : Metrics × Except ImportError Unit) : Prop where
  result : x.2 = x'.2
  metrics : (x.1.setTraceLogs []).withoutShadow = (x'.1.setTraceLogs []).withoutShadow
  traceLogs : x.1.traceLogs = x'.1.traceLogs ∨ ∃ t u u' later,
    x.1.traceLogs = parts.main.traceLogs t ++ shadow.traceLogs u ++ later ∧
      x'.1.traceLogs = parts.main.traceLogs t ++ shadow'.traceLogs u' ++ later

/-- **Runs that end in the same way**: with the same report, or with the same crash, at the same instant and with
the same to be seen; or everybody waits for ever, with the same to be seen. -/
def SameRun (parts : MainParts τ) (shadow : Inflater υ) (shadow' : Inflater υ') :
    Ending (Noted (Divided τ υ)) (Metrics × Except ImportError Unit) →
      Ending (Noted (Divided τ υ')) (Metrics × Except ImportError Unit) → Prop
  | .returned x m, .returned x' m' =>
    SameReport parts shadow shadow' x x' ∧ m.through unshadowed = m'.through unshadowed
  | .crashed why m, .crashed why' m' => why = why' ∧ m.through unshadowed = m'.through unshadowed
  | .stalled m, .stalled m' => unshadowed m.state = unshadowed m'.state
  | _, _ => False

/-- **Where the guarded inflations are over**, they have handed on the same, and the same is to be seen. -/
theorem handsOn_unique {start : Moment (τ × Bool)} {h₀ : ImportHistory} {x x' : LoneEnd}
    {n n' : Moment (τ × Bool)}
    {handed handed' : Except InflationFailure Inflation × List String} {q : Place (Noted (Divided τ υ))}
    {q' : Place (Noted (Divided τ υ'))} (h : HandsOn parts shadow ctx start h₀ x n handed q)
    (h' : HandsOn parts shadow' ctx start h₀ x' n' handed' q') :
    x = x' ∧ n = n' ∧ unshadowed q.moment.state = unshadowed q'.moment.state := by
  have hsame := h.alone.symm.trans h'.alone
  cases hsame
  exact ⟨rfl, rfl, h.state.trans h'.state.symm⟩

/-- Both report what the import without a shadow does. -/
theorem SameReport.of_alike {lines lines' : List String} {t : τ} {x x' x₀ : Metrics × Except ImportError Unit}
    (hlines : ∃ u, lines = parts.main.traceLogs t ++ shadow.traceLogs u)
    (hlines' : ∃ u, lines' = parts.main.traceLogs t ++ shadow'.traceLogs u)
    (h : AlikeReports lines (parts.main.traceLogs t) x x₀)
    (h' : AlikeReports lines' (parts.main.traceLogs t) x' x₀) : SameReport parts shadow shadow' x x' where
  result := h.result.trans h'.result.symm
  metrics := h.metrics.trans h'.metrics.symm
  traceLogs := by
    obtain ⟨u, rfl⟩ := hlines
    obtain ⟨u', rfl⟩ := hlines'
    obtain ⟨later, hx, hx₀⟩ := h.traceLogs
    obtain ⟨later', hx', hx₀'⟩ := h'.traceLogs
    have hlater : later = later' := List.append_cancel_left (hx₀.symm.trans hx₀')
    subst hlater
    exact .inr ⟨t, u, u', later, hx, hx'⟩

/-- **Both end as the import without a shadow does.** -/
theorem sameRun_of_endSame {lines lines' : List String} {t : τ}
    {e : Ending (Noted (Divided τ υ)) ((Metrics × Except ImportError Unit) × Background (Noted (Divided τ υ)))}
    {e' : Ending (Noted (Divided τ υ')) ((Metrics × Except ImportError Unit) × Background (Noted (Divided τ υ')))}
    {e₀ : Ending (Noted (τ × Bool)) ((Metrics × Except ImportError Unit) × Background (Noted (τ × Bool)))}
    (hlines : ∃ u, lines = parts.main.traceLogs t ++ shadow.traceLogs u)
    (hlines' : ∃ u, lines' = parts.main.traceLogs t ++ shadow'.traceLogs u)
    (h : EndSame unshadowed (fun y y₀ => AlikeReports lines (parts.main.traceLogs t) y.1 y₀.1) e e₀)
    (h' : EndSame unshadowed (fun y y₀ => AlikeReports lines' (parts.main.traceLogs t) y.1 y₀.1) e' e₀) :
    SameRun parts shadow shadow' (e.andThen fun y m => .returned y.1 m)
      (e'.andThen fun y m => .returned y.1 m) := by
  cases e₀ with
  | returned y₀ m₀ =>
    obtain ⟨y, m, rfl, hy, hm⟩ := h.returned
    obtain ⟨y', m', rfl, hy', hm'⟩ := h'.returned
    exact ⟨.of_alike hlines hlines' hy hy', hm.symm.trans hm'⟩
  | crashed why m₀ =>
    obtain ⟨m, rfl, hm⟩ := h.crashed
    obtain ⟨m', rfl, hm'⟩ := h'.crashed
    exact ⟨rfl, hm.symm.trans hm'⟩
  | stalled m₀ =>
    obtain ⟨m, rfl, hm⟩ := h.stalled
    obtain ⟨m', rfl, hm'⟩ := h'.stalled
    exact hm.symm.trans hm'

/-- **After the inflation** both go on as the import without a shadow does. -/
theorem sameRun_after (h : parts.Settled) {start : Moment (τ × Bool)} {h₀ : ImportHistory} {x x' : LoneEnd}
    {n n' : Moment (τ × Bool)} {handed handed' : Except InflationFailure Inflation × List String}
    {q : Place (Noted (Divided τ υ))} {q' : Place (Noted (Divided τ υ'))}
    (hq : HandsOn parts shadow ctx start h₀ x n handed q)
    (hq' : HandsOn parts shadow' ctx start h₀ x' n' handed' q') (hnow : q.moment.now = q'.moment.now) :
    SameRun parts shadow shadow'
      (((attendingRest q.tasks
        (((parts.withShadow shadow rest).watched watchers).afterInflation ctx handed)).run q.moment).andThen
          fun x m => .returned x.1 m)
      (((attendingRest q'.tasks
        (((parts.withShadow shadow' rest').watched watchers').afterInflation ctx handed')).run q'.moment).andThen
          fun x m => .returned x.1 m) := by
  obtain ⟨rfl, rfl, hstate⟩ := handsOn_unique hq hq'
  -- both end as the one without a shadow does from there
  let lone := parts.lone.afterInflation ctx (x.outcome, parts.main.traceLogs n.state.1)
  have hrun : EndSame unshadowed (fun y' y => AlikeReports handed.2 (parts.main.traceLogs n.state.1) y'.1 y.1)
      ((attendingRest q.tasks
        (((parts.withShadow shadow rest).watched watchers).afterInflation ctx handed)).run q.moment)
      ((attendingRest .ended lone).run (q.moment.through unshadowed)) :=
    (afterInflation_unshadowed h ctx hq.outcome).run_beside hq.company q.moment
  have hrun' : EndSame unshadowed (fun y' y => AlikeReports handed'.2 (parts.main.traceLogs n.state.1) y'.1 y.1)
      ((attendingRest q'.tasks
        (((parts.withShadow shadow' rest').watched watchers').afterInflation ctx handed')).run q'.moment)
      ((attendingRest .ended lone).run (q'.moment.through unshadowed)) :=
    (afterInflation_unshadowed h ctx hq'.outcome).run_beside hq'.company q'.moment
  have hstart : q.moment.through unshadowed = q'.moment.through unshadowed := by
    rw [Moment.through, Moment.through, hnow, hstate]
  rw [← hstart] at hrun'
  exact sameRun_of_endSame hq.lines hq'.lines hrun hrun'

/-- From where the arguments were accepted, to the end. -/
theorem sameRun_entered (h : parts.Settled) {ctx ctx' : RunContext} (hctx : ctx = ctx')
    {m : Moment (Noted (Divided τ υ))} {m' : Moment (Noted (Divided τ υ'))} {start : Moment (τ × Bool)}
    {h₀ : ImportHistory} {x x' : LoneEnd} {n n' : Moment (τ × Bool)}
    {handed handed' : Except InflationFailure Inflation × List String}
    {q : Place (Noted (Divided τ υ))} {q' : Place (Noted (Divided τ υ'))}
    (hq : (parts.withShadow shadow rest).Inflates watchers ctx (.start m) handed q)
    (hq' : (parts.withShadow shadow' rest').Inflates watchers' ctx' (.start m') handed' q')
    (hx : HandsOn parts shadow ctx start h₀ x n handed q)
    (hx' : HandsOn parts shadow' ctx start h₀ x' n' handed' q') (hnow : q.moment.now = q'.moment.now) :
    SameRun parts shadow shadow'
      ((((parts.withShadow shadow rest).watched watchers).runValidated ctx).attended.run m)
      ((((parts.withShadow shadow' rest').watched watchers').runValidated ctx').attended.run m') := by
  subst hctx
  rw [hq.run_attended, hq'.run_attended]
  exact sameRun_after h hx hx' hnow

/-- The check of the arguments, with the shadow and without. -/
theorem validator_unshadowed (parts : MainParts τ) (shadow : Inflater υ) (rest : Platform (Divided τ υ))
    (watchers : Platform (Noted (Divided τ υ))) (m : Moment (Noted (Divided τ υ))) :
    EndSame unshadowed Eq
      ((((parts.withShadow shadow rest).watched watchers).validator (parts.withShadow shadow rest).args).run m)
      (((parts.alone.watched .refusing).validator parts.args).run (m.through unshadowed)) :=
  .of_alike ((call_unshadowed rfl (fun _ => rfl) (parts.validator parts.args)).run m)

theorem validator_leavesNothing (h : parts.Settled) :
    (((parts.withShadow shadow rest).watched watchers).validator
      (parts.withShadow shadow rest).args).LeavesNothing :=
  .watching (.on (.on h.validator))

/-- Where the arguments are accepted nothing is left behind, and what is seen is what the check without a shadow
ends with. -/
theorem accepted (h : parts.Settled) {m : Moment (Noted (Divided τ υ))} {p : Place (Noted (Divided τ υ))}
    (hp : (parts.withShadow shadow rest).Accepts watchers m p) :
    p.tasks = .ended ∧ ((parts.alone.watched .refusing).validator parts.args).run (m.through unshadowed) =
      .returned (.ok ()) (p.moment.through unshadowed) := by
  obtain ⟨hrun, htasks⟩ := (leads_nothing (validator_leavesNothing h)).mp hp
  have hv := validator_unshadowed parts shadow rest watchers m
  rw [hrun] at hv
  generalize ((parts.alone.watched .refusing).validator parts.args).run (m.through unshadowed) = e at hv ⊢
  cases e with
  | returned v n =>
    obtain ⟨rfl, rfl⟩ := hv
    exact ⟨htasks, rfl⟩
  | crashed why n => exact hv.elim
  | stalled n => exact hv.elim

/-- **Where the inflation is over** that was entered when the arguments were accepted. -/
theorem entered (h : parts.Settled) (hshadow : shadow.toStep.CancelsSafely) {m : Moment (Noted (Divided τ υ))}
    {p q : Place (Noted (Divided τ υ))} {handed : Except InflationFailure Inflation × List String}
    (hp : (parts.withShadow shadow rest).Accepts watchers m p)
    (hq : (parts.withShadow shadow rest).Inflates watchers ctx p handed q) :
    ∃ x n, HandsOn parts shadow ctx (p.moment.through mainView)
      (ImportHistory.apartFromInflation p.moment.state.seen) x n handed q := by
  have htasks : (p.set (((parts.withShadow shadow rest).watched watchers).left.set {} p.moment.state)).tasks =
      .ended := (accepted h hp).1
  have hleads : (runStep ctx ((parts.withShadow shadow rest).watched watchers).inflater.toStep .ofError
      ((parts.withShadow shadow rest).watched watchers).notedInflation).Leads _ handed q := hq
  exact inflated h hshadow htasks rfl hleads

/-- The two inflations are entered where the same is to be seen. -/
theorem entered_same (h : parts.Settled) {m : Moment (Noted (Divided τ υ))} {m' : Moment (Noted (Divided τ υ'))}
    (hm : m.through unshadowed = m'.through unshadowed) {p : Place (Noted (Divided τ υ))}
    {p' : Place (Noted (Divided τ υ'))} (hp : (parts.withShadow shadow rest).Accepts watchers m p)
    (hp' : (parts.withShadow shadow' rest').Accepts watchers' m' p') :
    p.moment.through mainView = p'.moment.through mainView ∧
      ImportHistory.apartFromInflation p.moment.state.seen =
        ImportHistory.apartFromInflation p'.moment.state.seen := by
  have hsame := (accepted h hp).2.symm.trans ((congrArg _ hm).trans (accepted h hp').2)
  have hplace : p.moment.through unshadowed = p'.moment.through unshadowed := (Ending.returned.inj hsame).2
  have hstate : unshadowed p.moment.state = unshadowed p'.moment.state := congrArg Moment.state hplace
  have hview : mainView p.moment.state = mainView p'.moment.state := congrArg (fun s => s.state.1) hstate
  have hnow : p.moment.now = p'.moment.now := congrArg Moment.now hplace
  exact ⟨by rw [Moment.through, Moment.through, hnow, hview], congrArg Watched.seen hstate⟩

/-- So both are over where the main inflation alone has put them. -/
theorem entered_both (h : parts.Settled) (hshadow : shadow.toStep.CancelsSafely)
    (hshadow' : shadow'.toStep.CancelsSafely) {ctx ctx' : RunContext} (hctx : ctx = ctx')
    {m : Moment (Noted (Divided τ υ))} {m' : Moment (Noted (Divided τ υ'))}
    (hm : m.through unshadowed = m'.through unshadowed)
    {p q : Place (Noted (Divided τ υ))} {p' q' : Place (Noted (Divided τ υ'))}
    {handed handed' : Except InflationFailure Inflation × List String}
    (hp : (parts.withShadow shadow rest).Accepts watchers m p)
    (hp' : (parts.withShadow shadow' rest').Accepts watchers' m' p')
    (hq : (parts.withShadow shadow rest).Inflates watchers ctx p handed q)
    (hq' : (parts.withShadow shadow' rest').Inflates watchers' ctx' p' handed' q') :
    ∃ start h₀ x x' n n', HandsOn parts shadow ctx start h₀ x n handed q ∧
      HandsOn parts shadow' ctx start h₀ x' n' handed' q' := by
  subst hctx
  obtain ⟨x, n, hx⟩ := entered h hshadow hp hq
  obtain ⟨x', n', hx'⟩ := entered h hshadow' hp' hq'
  obtain ⟨hview, hseen⟩ := entered_same h hm hp hp'
  rw [← hview, ← hseen] at hx'
  exact ⟨_, _, x, x', n, n', hx, hx'⟩

/-- **Two runs whose inflations are over at the same instant** end in the same way.  What the check of the arguments
ends with is the same in both; only where it accepts them is there an inflation. -/
theorem sameRun_of_overAt (h : parts.Settled) (hshadow : shadow.toStep.CancelsSafely)
    (hshadow' : shadow'.toStep.CancelsSafely) {cancelledAt : Option Nat} {deadlineFirst : Nat → Bool}
    {m : Moment (Noted (Divided τ υ))} {m' : Moment (Noted (Divided τ υ'))}
    (hm : m.through unshadowed = m'.through unshadowed)
    (hctx : contextOf parts.args cancelledAt deadlineFirst m = contextOf parts.args cancelledAt deadlineFirst m')
    {t : Nat} (ht : (parts.withShadow shadow rest).OverAt watchers cancelledAt deadlineFirst m t)
    (ht' : (parts.withShadow shadow' rest').OverAt watchers' cancelledAt deadlineFirst m' t) :
    SameRun parts shadow shadow'
      ((((parts.withShadow shadow rest).watched watchers).run cancelledAt deadlineFirst).attended.run m)
      ((((parts.withShadow shadow' rest').watched watchers').run cancelledAt deadlineFirst).attended.run m') := by
  rw [run_attended_eq (validator_leavesNothing h), run_attended_eq (validator_leavesNothing h)]
  have hv := validator_unshadowed parts shadow rest watchers m
  have hv' := validator_unshadowed parts shadow' rest' watchers' m'
  rw [← hm] at hv'
  generalize ((parts.alone.watched .refusing).validator parts.args).run (m.through unshadowed) = e at hv hv'
  cases e with
  | crashed why n =>
    obtain ⟨m₁, hrun, hn⟩ := hv.crashed
    obtain ⟨m₁', hrun', hn'⟩ := hv'.crashed
    rw [hrun, hrun']
    exact ⟨rfl, hn.symm.trans hn'⟩
  | stalled n =>
    obtain ⟨m₁, hrun, hn⟩ := hv.stalled
    obtain ⟨m₁', hrun', hn'⟩ := hv'.stalled
    rw [hrun, hrun']
    exact hn.symm.trans hn'
  | returned verdict n =>
    obtain ⟨v, m₁, hrun, hsame, hn⟩ := hv.returned
    obtain ⟨v', m₁', hrun', hsame', hn'⟩ := hv'.returned
    subst hsame'
    subst hsame
    rw [hrun, hrun']
    cases v with
    | error e => exact ⟨⟨rfl, rfl, .inl rfl⟩, hn.symm.trans hn'⟩
    | ok u =>
      have hp : (parts.withShadow shadow rest).Accepts watchers m (.start m₁) :=
        (leads_nothing (validator_leavesNothing h)).mpr ⟨hrun, rfl⟩
      have hp' : (parts.withShadow shadow' rest').Accepts watchers' m' (.start m₁') :=
        (leads_nothing (validator_leavesNothing h)).mpr ⟨hrun', rfl⟩
      obtain ⟨handed, q, hq, hnow⟩ := ht _ hp
      obtain ⟨handed', q', hq', hnow'⟩ := ht' _ hp'
      obtain ⟨start, h₀, x, x', n, n', hx, hx'⟩ := entered_both h hshadow hshadow' hctx hm hp hp' hq hq'
      exact sameRun_entered h hctx hq hq' hx hx' (hnow.trans hnow'.symm)

end

/-! ## 5. Any two shadows -/

/-- **A shadow delays an import, and does nothing else.**  Take two shadows, of which nothing is asked but that
their cancels do not crash, and an import that is settled, from two moments that look the same without the
shadow, where of two limits that are past the same one is noticed.  Wherever the two guarded inflations are over, they
have handed on the same but for what a shadow adds, and the same is to be seen.  If they are over at the same instant,
the two runs end in the same way: with the same result, the same processors begun on the same disks and the same
deletions, each at the same instant.  Seen without the notes, they are the runs of the imports. -/
theorem shadow_only_delays {υ' : Type} (parts : MainParts τ) (h : parts.Settled) (shadow : Inflater υ)
    (shadow' : Inflater υ') (hshadow : shadow.toStep.CancelsSafely) (hshadow' : shadow'.toStep.CancelsSafely)
    (rest : Platform (Divided τ υ)) (watchers : Platform (Noted (Divided τ υ)))
    (rest' : Platform (Divided τ υ')) (watchers' : Platform (Noted (Divided τ υ'))) (cancelledAt : Option Nat)
    (deadlineFirst : Nat → Bool) (m : Moment (Noted (Divided τ υ))) (m' : Moment (Noted (Divided τ υ')))
    (hm : m.through unshadowed = m'.through unshadowed) :
    (∀ p p' handed handed' q q', (parts.withShadow shadow rest).Accepts watchers m p →
      (parts.withShadow shadow' rest').Accepts watchers' m' p' →
      (parts.withShadow shadow rest).Inflates watchers (contextOf parts.args cancelledAt deadlineFirst m) p handed q →
      (parts.withShadow shadow' rest').Inflates watchers' (contextOf parts.args cancelledAt deadlineFirst m') p'
        handed' q' →
      outcomeWithoutShadow handed.1 = outcomeWithoutShadow handed'.1 ∧
        unshadowed q.moment.state = unshadowed q'.moment.state) ∧
    (∀ t, (parts.withShadow shadow rest).OverAt watchers cancelledAt deadlineFirst m t →
      (parts.withShadow shadow' rest').OverAt watchers' cancelledAt deadlineFirst m' t →
      SameRun parts shadow shadow'
        ((((parts.withShadow shadow rest).watched watchers).run cancelledAt deadlineFirst).attended.run m)
        ((((parts.withShadow shadow' rest').watched watchers').run cancelledAt deadlineFirst).attended.run m')) ∧
    (∀ platform platform', Ending.Alike Watched.state Eq
        ((((parts.withShadow shadow rest).watched watchers).run cancelledAt deadlineFirst).attended.run m)
        ((((parts.withShadow shadow rest).importer platform).run cancelledAt deadlineFirst).attended.run
          (m.through Watched.state)) ∧
      Ending.Alike Watched.state Eq
        ((((parts.withShadow shadow' rest').watched watchers').run cancelledAt deadlineFirst).attended.run m')
        ((((parts.withShadow shadow' rest').importer platform').run cancelledAt deadlineFirst).attended.run
          (m'.through Watched.state))) := by
  have hctx : contextOf parts.args cancelledAt deadlineFirst m = contextOf parts.args cancelledAt deadlineFirst m' := by
    have hnow : m.now = m'.now := congrArg Moment.now hm
    rw [contextOf, hnow]
  refine ⟨fun p p' handed handed' q q' hp hp' hq hq' => ?_, fun t ht ht' => ?_, fun platform platform' =>
    ⟨((parts.withShadow shadow rest).run_mirrors watchers platform cancelledAt deadlineFirst).run_attended m,
      ((parts.withShadow shadow' rest').run_mirrors watchers' platform' cancelledAt deadlineFirst).run_attended m'⟩⟩
  · obtain ⟨start, h₀, x, x', n, n', hx, hx'⟩ := entered_both h hshadow hshadow' hctx hm hp hp' hq hq'
    obtain ⟨rfl, -, hstate⟩ := handsOn_unique hx hx'
    exact ⟨hx.outcome.trans hx'.outcome.symm, hstate⟩
  · exact sameRun_of_overAt h hshadow hshadow' hm hctx ht ht'

/-! ## 6. What the delay can do -/

/-- An inflater that sleeps, whatever it is told, and then hands on a disk. -/
def Inflater.sleeper (ms : Nat) (uri : String) : Inflater Unit where
  cancel _ := .done true
  traceLogs _ := []
  inflate := (Activity.sleep ms).bind fun _ =>
    .done (.ok { disk := { uri }, fields := { inflationType := "sleep" } })

theorem Inflater.sleeper_cancelsSafely (ms : Nat) (uri : String) : (Inflater.sleeper ms uri).toStep.CancelsSafely :=
  fun _ => ⟨true, rfl⟩

/-- **An import that may take a minute**: its inflation takes so long, and its one processor does nothing. -/
def MainParts.minute (ms : Nat) : MainParts Unit where
  args := { executionId := "minute", timeoutSecs := 60 }
  validator _ := .done (.ok ())
  main := .sleeper ms "main"
  provider _ m :=
    .done (m, .ok [{ cancel := fun _ => .done false, traceLogs := fun _ => [], kind := .dataDisk,
                     process := fun disk m => .done (m, .ok disk) }])
  deleteDisk _ _ _ := .done (.ok ())

theorem MainParts.minute_settled (ms : Nat) : (MainParts.minute ms).Settled where
  validator := .done _
  inflate := .bind (.sleep ms) fun _ => .done _
  cancel _ := .done _
  provider _ _ _ h := by
    refine .done ⟨⟨h, rfl⟩, ?_⟩
    rintro _ ⟨⟩ processor hmem
    rw [List.mem_singleton.mp hmem]
    exact fun _ _ _ h => .done ⟨h, rfl⟩

/-- Where it starts. -/
def MainParts.minuteStart : Divided Unit Unit × Recorded := ⟨⟨(), false, (), []⟩, {}⟩

/-- Its inflation takes a second, and is over half a second later when the shadow takes so long. -/
theorem MainParts.minute_overAt {shadow : Inflater Unit}
    (h : shadow = .sleeper 1500 "a" ∨ shadow = .sleeper 1500 "") :
    ((MainParts.minute 1000).withShadow shadow .refusing).OverAt .refusing none (fun _ => false)
      ⟨0, minuteStart, []⟩ 1500 := by
  rintro ⟨⟨now, s⟩, tasks⟩ hp
  cases hp
  rcases h with rfl | rfl
  · exact leads_of_leadsUntil (by decide +kernel)
  · exact leads_of_leadsUntil (by decide +kernel)

/-- Two shadows that delay the inflation by half a second, with different disks: no other difference is to be seen. -/
theorem shadow_only_delays_minute :
    (((MainParts.minute 1000).withShadow (.sleeper 1500 "a") .refusing).OverAt .refusing none (fun _ => false)
        ⟨0, MainParts.minuteStart, []⟩ 1500 ∧
      ((MainParts.minute 1000).withShadow (.sleeper 1500 "") .refusing).OverAt .refusing none (fun _ => false)
        ⟨0, MainParts.minuteStart, []⟩ 1500) ∧
    SameRun (MainParts.minute 1000) (.sleeper 1500 "a") (.sleeper 1500 "")
      (((((MainParts.minute 1000).withShadow (.sleeper 1500 "a") .refusing).watched .refusing).run
        none).attended.run ⟨0, MainParts.minuteStart, []⟩)
      (((((MainParts.minute 1000).withShadow (.sleeper 1500 "") .refusing).watched .refusing).run
        none).attended.run ⟨0, MainParts.minuteStart, []⟩) := by
  have h := shadow_only_delays (MainParts.minute 1000) (MainParts.minute_settled 1000) (.sleeper 1500 "a")
    (.sleeper 1500 "") (Inflater.sleeper_cancelsSafely 1500 "a") (Inflater.sleeper_cancelsSafely 1500 "") .refusing
    .refusing .refusing .refusing none (fun _ => false)
    ⟨0, MainParts.minuteStart, []⟩ ⟨0, MainParts.minuteStart, []⟩
    rfl
  have hover := MainParts.minute_overAt (.inl rfl)
  have hover' := MainParts.minute_overAt (.inr rfl)
  exact ⟨⟨hover, hover'⟩, h.2.1 1500 hover hover'⟩

/-- The result of a run with a shadow. -/
def MainParts.resultWith (parts : MainParts τ) (own : τ) (shadow : Inflater Unit) :
    Option (Except ImportError Unit) :=
  ((((parts.withShadow shadow .refusing).importer .refusing).run none).attended.run
    ⟨0, ⟨own, false, (), []⟩, {}⟩).value?.map (·.2)

/-- An import whose main inflation fails. -/
def MainParts.failing : MainParts Unit :=
  { MainParts.minute 0 with
    main := { cancel := fun _ => .done true, traceLogs := fun _ => [],
              inflate := .done (.error (.ofError (.inflation "no room"))) } }

/-- A shadow whose cancel crashes. -/
def Inflater.brittle : Inflater Unit := { Inflater.sleeper 0 "" with cancel := fun _ => .crash ⟨none⟩ }

/-- An import whose provider has no processors for a disk that the shadow says is another. -/
def MainParts.curious : MainParts Unit :=
  { MainParts.minute 0 with
    provider := fun _ m =>
      .done (m, if m.shadowDiskMatchResult = "Checksum missing" then .ok [] else .error (.planning "no shadow")) }

/-- An import whose processor does not accept such a disk. -/
def MainParts.pry : MainParts Unit :=
  { MainParts.minute 0 with
    provider := fun _ m =>
      .done (m, .ok [{ cancel := fun _ => .done false, traceLogs := fun _ => [], kind := .dataDisk,
                       process := fun disk m => .done (m, if m.shadowDiskMatchResult = "Checksum missing"
                         then .ok disk else .error (.inflation "no shadow")) }]) }

/-- An import whose main inflation takes a second, and leaves a task behind that goes on when it has ended.  There
are no processors for what that task has done. -/
def MainParts.untidy : MainParts Nat where
  args := { executionId := "untidy" }
  validator _ := .done (.ok ())
  main :=
    { cancel := fun _ => .done true, traceLogs := fun _ => [],
      inflate :=
        .detach (.wait ⟨fun n => n == 1, none⟩ (.step (fun _ => 2) fun _ => .ended))
          ((Activity.sleep 1000).bind fun _ => (Activity.update fun _ => 1).bind fun _ => .done (.ok {})) }
  provider _ m := .step Moment.state fun n =>
    .done (m, if n.state = 1 then .ok [] else .error (.planning "too late"))
  deleteDisk _ _ _ := .done (.ok ())

/-- **What cannot be denied a shadow.**  One that is slow leaves no time for the processors, and one whose cancel
crashes takes the inflation with it.  A provider may look at what it has found, and so may a processor.  And what a
main inflation leaves behind goes on while the shadow is waited for, even if that takes no time. -/
theorem shadow_shows :
    ((MainParts.minute 0).resultWith () (.sleeper 0 "") = some (.ok ()) ∧
      (MainParts.minute 0).resultWith () (.sleeper 100000 "") = some (.error (.timeout (.ofSecs 60)))) ∧
    (MainParts.failing.resultWith () (.sleeper 0 "") = some (.error (.inflation "no room")) ∧
      MainParts.failing.resultWith () .brittle = some (.error (.internal "step task failed: task <id> panicked"))) ∧
    (MainParts.curious.resultWith () (.sleeper 0 "a") = some (.ok ()) ∧
      MainParts.curious.resultWith () (.sleeper 0 "") = some (.error (.planning "no shadow"))) ∧
    (MainParts.pry.resultWith () (.sleeper 0 "a") = some (.ok ()) ∧
      MainParts.pry.resultWith () (.sleeper 0 "") = some (.error (.inflation "no shadow"))) ∧
    (MainParts.untidy.resultWith 0 (.sleeper 0 "") = some (.ok ()) ∧
      MainParts.untidy.resultWith 0 (.sleeper 1000 "") = some (.error (.planning "too late"))) :=
  ⟨⟨by rfl, by rfl⟩, ⟨by rfl, by rfl⟩, ⟨by rfl, by rfl⟩, ⟨by rfl, by rfl⟩, ⟨by rfl, by rfl⟩⟩

end ImageImport
