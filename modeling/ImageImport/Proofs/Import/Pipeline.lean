/-
# An import is a fold over its stages

An import enters its stages one after the other: the inflation, the choice of the processors, and the
processors.  `StagesWent` says how, as a walk from place to place of the run: each stage starts where the one
before it has ended, with the disk that one has handed on, and the first that fails is the last.  What
comes out of an import is then read off the list of the stages it has entered:

  1. **the result** is the error of the first stage that failed, if one did (`resultOf`);
  2. **the diagnostic lines** are those of the guarded steps, one step after the other;
  3. **the disk** whose type and sizes are reported is the one that is known last (`lastKnown`);
  4. **how the inflation went** is reported whenever it has left something that says so, whatever became of its
     outcome, unless somebody writes over it: the provider and the processors are handed the metrics and give them
     back with what they have to report, and nothing keeps them from reporting on the inflation as well.

A step has kept its diagnostic lines since it was made, and an import that is run again finds those of the earlier
runs among them.

Main statement: `run_is_fold`, over every run of every import.  `report_not_its_own` has imports whose report says
something else of the inflation, and one that is run twice.
-/
import ImageImport.Proofs.Concurrency.Places
import ImageImport.Proofs.Import.Cleanup

namespace ImageImport

open Activity

/-! ## 1. Stages -/

/-- **A stage that has been entered**, with what it was given and how it ended.  Processors are numbered in
their order. -/
inductive Stage where
  | inflating (outcome : Except InflationFailure Inflation) (lines : List String)
  | providing (disk : PersistentDisk) (outcome : Except ImportError (List ProcessorKind))
  | processing (k : Nat) (disk : PersistentDisk) (outcome : Except ImportError PersistentDisk)
      (lines : List String)

namespace Stage

/-- What it failed with, if it did. -/
def error? : Stage → Option ImportError
  | inflating (.error failure) _ => some failure.error
  | providing _ (.error e) | processing _ _ (.error e) _ => some e
  | _ => none

/-- Its diagnostic lines; the choice of the processors is no guarded step and has none. -/
def lines : Stage → List String
  | inflating _ lines | processing _ _ _ lines => lines
  | providing _ _ => []

/-- The disk it has handed on, if it has one of its own. -/
def output? : Stage → Option PersistentDisk
  | inflating (.ok inflation) _ => some inflation.disk
  | processing _ _ (.ok disk) _ => some disk
  | _ => none

end Stage

/-- **The result**: the error of the first stage that failed, if one did. -/
def resultOf (stages : List Stage) : Except ImportError Unit :=
  match stages.findSome? Stage.error? with
  | some e => .error e
  | none => .ok ()

/-- **The disk that is known last**, when `disk` is known before the stages. -/
def lastKnown (disk : PersistentDisk) (stages : List Stage) : PersistentDisk :=
  stages.foldl (fun known stage => stage.output?.getD known) disk

/-- How the inflation went, as the metrics have it. -/
def Metrics.telemetry (m : Metrics) : String × UInt64 × String × UInt64 :=
  (m.inflationType, m.inflationTimeMs, m.shadowDiskMatchResult, m.shadowInflationTimeMs)

/-- The metrics after the inflation: how it went, if what it has left says so. -/
def metricsOf (left : Inflation) : Metrics :=
  if left.fields.inflationType.isEmpty then .empty else Metrics.empty.setInflation left.fields

/-- The metrics that are given back, if any are, say of the inflation what `m` says. -/
def SaysAs {α : Type} (m : Metrics) (r : Except Crash (Metrics × α)) : Prop :=
  ∀ answer, r = .ok answer → answer.1.telemetry = m.telemetry

/-- **It leaves alone what the metrics say of the inflation**, whatever comes of its work. -/
def Processor.KeepsTelemetry {σ : Type} (processor : Processor σ) : Prop :=
  ∀ disk m, (processor.process disk m).EndsAs (SaysAs m)

/-- What a provider has answered leaves that alone, and so do the processors it has chosen. -/
def AnswerKeeps {σ : Type} (m : Metrics) (r : Except Crash (Planner.Outcome (List (Processor σ)))) : Prop :=
  SaysAs m r ∧ ∀ answer, r = .ok answer → ∀ processors, answer.2 = .ok processors →
    ∀ processor ∈ processors, processor.KeepsTelemetry

/-- **It leaves that alone**, and so do all the processors it provides. -/
def ProcessorProvider.KeepsTelemetry {σ : Type} (provider : ProcessorProvider σ) : Prop :=
  ∀ disk m, (provider disk m).EndsAs (AnswerKeeps m)

variable {τ : Type}

namespace ImportParts

/-! ## 2. The walk -/

/-- **A guarded step, from where it was entered to where it was over**: its run, its lines, which are read where
it is over, and its history, of which `handed` is what its work has ended with. -/
structure Went {ι ε α : Type} (ctx : RunContext) (ofError : ImportError → ε)
    (f : StepNote ι (Except ε α) → ImportNote) (step : Step (Noted τ))
    (work : Activity (Noted τ) (Except ε α)) (input : ι) (p : Place (Noted τ)) (outcome : Except ε α)
    (lines : List String) (handed : Option (Except Crash (Except ε α))) (p' : Place (Noted τ)) : Prop where
  leads : (runStep ctx step ofError work).Leads p (outcome, lines) p'
  lines_eq : lines = step.traceLogs p'.moment.state
  noted : ∃ h, p'.moment.state.seen = p.moment.state.seen ++ keptAs f h ∧
    StepLaw ctx ofError p.moment.now input h outcome ∧ h.ending = handed

/-- **A processor, from where it was entered to where it was over**, with the metrics it was given and those it has
left. -/
structure ProcessorWent (ctx : RunContext) (k : Nat) (processor : Processor τ) (disk : PersistentDisk)
    (given : Metrics) (p : Place (Noted τ)) (outcome : Except ImportError PersistentDisk) (lines : List String)
    (left : Metrics) (p' : Place (Noted τ)) : Prop where
  went : ∃ handed, Went ctx id (.processing k) (watchedProcessor k processor).toStep
    (Importer.notedProcess (Watched.part Cell.snd) (watchedProcessor k processor) disk given) disk
    (p.set ((Watched.part Cell.snd).set { metrics := given } p.moment.state)) outcome lines handed p'
  /-- It leaves the metrics it was given, or some that its work gives back. -/
  left_of : ∀ {R : Metrics → Prop}, R given →
    ((processor.process disk given).EndsAs fun r => ∀ answer, r = .ok answer → R answer.1) → R left

/-- **The processors from number `k` on**, the first of which is given `disk` and the metrics `given`; the last one
has left the metrics that stand behind the stages. -/
inductive ProcessorsWent (ctx : RunContext) : Nat → List (Processor τ) → PersistentDisk → (given : Metrics) →
    Place (Noted τ) → List Stage → (left : Metrics) → Place (Noted τ) → Prop where
  | nothing {k : Nat} {disk : PersistentDisk} {m : Metrics} {p : Place (Noted τ)} :
      ProcessorsWent ctx k [] disk m p [] m p
  | failed {k : Nat} {processor : Processor τ} {rest : List (Processor τ)} {disk : PersistentDisk}
      {m m' : Metrics} {e : ImportError} {lines : List String} {p p' : Place (Noted τ)}
      (went : ProcessorWent ctx k processor disk m p (.error e) lines m' p') :
      ProcessorsWent ctx k (processor :: rest) disk m p [.processing k disk (.error e) lines] m' p'
  | next {k : Nat} {processor : Processor τ} {rest : List (Processor τ)} {disk disk' : PersistentDisk}
      {m m' m'' : Metrics} {lines : List String} {stages : List Stage} {p p' p'' : Place (Noted τ)}
      (went : ProcessorWent ctx k processor disk m p (.ok disk') lines m' p')
      (others : ProcessorsWent ctx (k + 1) rest disk' m' p' stages m'' p'') :
      ProcessorsWent ctx k (processor :: rest) disk m p (.processing k disk (.ok disk') lines :: stages) m'' p''

/-- **The choice of the processors**, between its two notes. -/
def providing (parts : ImportParts τ) (disk : PersistentDisk) (m : Metrics) :
    Activity (Noted τ) (Planner.Outcome (List (Processor τ))) :=
  .watching (.providing disk) (fun r => .provided (providedKinds r))
    ((parts.provider disk m).on (Watched.part Cell.fst))

/-- **The stages**, from the place at which nothing has been inflated yet: what the inflation has left, the
metrics when the stages are over, and the stages entered.  The provider is given the metrics after the inflation, the
first processor those of the provider, and every other one those of the processor before it. -/
inductive StagesWent (parts : ImportParts τ) (rest : Platform (Noted τ)) (ctx : RunContext) :
    Place (Noted τ) → Inflation → Metrics → List Stage → Place (Noted τ) → Prop where
  | inflationFailed {failure : InflationFailure} {lines : List String} {handed : Option _}
      {p p' : Place (Noted τ)}
      (went : Went ctx InflationFailure.ofError .inflation (parts.watched rest).inflater.toStep
        (parts.watched rest).notedInflation () p (.error failure) lines handed p') :
      StagesWent parts rest ctx p (leftBy handed) (metricsOf (leftBy handed))
        [.inflating (.error failure) lines] p'
  | notProvided {inflation : Inflation} {lines : List String} {handed : Option _} {metrics : Metrics}
      {e : ImportError} {p p' p'' : Place (Noted τ)}
      (went : Went ctx InflationFailure.ofError .inflation (parts.watched rest).inflater.toStep
        (parts.watched rest).notedInflation () p (.ok inflation) lines handed p')
      (answered : (parts.providing inflation.disk (metricsOf (leftBy handed))).Leads p' (metrics, .error e) p'') :
      StagesWent parts rest ctx p (leftBy handed) metrics
        [.inflating (.ok inflation) lines, .providing inflation.disk (.error e)] p''
  | provided {inflation : Inflation} {lines : List String} {handed : Option _} {metrics collected : Metrics}
      {processors : List (Processor τ)} {stages : List Stage} {p p' p'' p''' : Place (Noted τ)}
      (went : Went ctx InflationFailure.ofError .inflation (parts.watched rest).inflater.toStep
        (parts.watched rest).notedInflation () p (.ok inflation) lines handed p')
      (answered : (parts.providing inflation.disk (metricsOf (leftBy handed))).Leads p'
        (metrics, .ok processors) p'')
      (others : ProcessorsWent ctx 0 processors inflation.disk metrics p'' stages collected p''') :
      StagesWent parts rest ctx p (leftBy handed) collected
        (.inflating (.ok inflation) lines ::
          .providing inflation.disk (.ok (processors.map (·.kind))) :: stages) p'''

/-! ## 3. One step -/

/-- The lines of a step are read where it is over. -/
theorem lines_of_leads {ε α σ : Type} {ctx : RunContext} {step : Step σ} {ofError : ImportError → ε}
    {work : Activity σ (Except ε α)} {p p' : Place σ} {outcome : Except ε α} {lines : List String}
    (h : (runStep ctx step ofError work).Leads p (outcome, lines) p') :
    lines = step.traceLogs p'.moment.state := by
  obtain ⟨outcome', q, -, h⟩ := leads_bind.mp h
  obtain ⟨lines', q', hread, h⟩ := leads_bind.mp h
  obtain ⟨rfl, rfl⟩ := leads_read.mp hread
  obtain ⟨heq, rfl⟩ := leads_done.mp h
  exact (Prod.mk.inj heq).2

/-- Tasks that nothing is known of, but that they note nothing. -/
abbrev Unattended (p : Place (Noted τ)) : Prop := p.tasks.Keeps (terms (τ := τ)).left

theorem closed (W : Wake (Noted τ) → Moment (Noted τ) → Prop) : (terms (τ := τ)).Closed W :=
  Terms.whole_closed _ _

/-- A call outside the guarded steps leaves nothing behind that notes anything. -/
theorem call_unattended {α : Type} {called : ImportNote} {ended : Except Crash α → ImportNote}
    {a : Activity τ α} {p p' : Place (Noted τ)} {v : α} (hp : Unattended p)
    (h : (watching called ended (a.on (Watched.part Cell.fst))).Leads p v p') : Unattended p' := by
  have hmeets : (watching called ended (a.on (Watched.part Cell.fst))).Meets (terms (τ := τ))
      (fun _ _ => True) (fun _ _ => True) p.moment :=
    Meets.watching trivial (Meets.part Terms.allows_whole (fun _ _ => rfl) (X := fun _ => True)
      (fun _ _ _ => trivial) (fun _ _ _ => trivial) (fun _ => trivial) (fun _ => ⟨trivial, trivial⟩) a
      trivial)
  exact (hmeets.leads (closed _) hp h).2

/-- **A processor has gone as the law says.** -/
theorem processor_went {ctx : RunContext} {k : Nat} {processor : Processor τ} {disk : PersistentDisk}
    {given left : Metrics} {p p' : Place (Noted τ)} {outcome : Except ImportError PersistentDisk}
    {lines : List String} (hp : Unattended p)
    (h : (Importer.runProcessor (Watched.part Cell.snd) ctx (watchedProcessor k processor) disk given).Leads p
      ((outcome, lines), left) p') :
    ProcessorWent ctx k processor disk given p outcome lines left p' ∧ Unattended p' := by
  obtain ⟨_, q, hset, h⟩ := leads_bind.mp h
  obtain rfl := leads_update.mp hset
  obtain ⟨⟨outcome', lines'⟩, q', hstep, h⟩ := leads_bind.mp h
  obtain ⟨recorded, q'', hread, h⟩ := leads_bind.mp h
  obtain ⟨rfl, rfl⟩ := leads_read.mp hread
  obtain ⟨heq, rfl⟩ := leads_done.mp h
  cases heq
  have hq : Unattended (p.set ((Watched.part Cell.snd).set { metrics := given } p.moment.state)) := hp
  have hmeets {R : Metrics → Prop} (hgiven : R given)
      (hback : (processor.process disk given).EndsAs fun r => ∀ answer, r = .ok answer → R answer.1) :=
    (processorStep_meets ctx k processor disk given hgiven hback rfl rfl).leads (closed _) hq hstep
  obtain ⟨⟨_, hs, ⟨l, rfl, hlaw⟩, -⟩, hq'⟩ := hmeets (R := fun _ => True) trivial
    ((quiet_any _).mono (fun _ _ h => h) (fun _ h => h) fun _ _ _ => trivial)
  refine ⟨⟨⟨_, hstep, lines_of_leads hstep, l, hs, hlaw, rfl⟩, fun {R} hgiven hback => ?_⟩, hq'⟩
  obtain ⟨⟨_, _, _, hleft⟩, -⟩ := hmeets hgiven hback
  exact hleft

/-- **The inflation has gone as the law says**, and what it has left is what its work has ended with. -/
theorem inflation_went {parts : ImportParts τ} {rest : Platform (Noted τ)} {ctx : RunContext}
    {p p' : Place (Noted τ)} {outcome : Except InflationFailure Inflation} {lines : List String}
    (hp : Unattended p) (hleft : p.moment.state.state.2 = {})
    (h : (runStep ctx (parts.watched rest).inflater.toStep InflationFailure.ofError
      (parts.watched rest).notedInflation).Leads p (outcome, lines) p') :
    (∃ handed, Went ctx InflationFailure.ofError .inflation (parts.watched rest).inflater.toStep
      (parts.watched rest).notedInflation () p outcome lines handed p' ∧
      p'.moment.state.state.2 = { inflation := leftBy handed }) ∧ Unattended p' := by
  obtain ⟨⟨_, hs, l, rfl, hlaw, hz⟩, hp'⟩ :=
    (inflation_meets parts rest ctx rfl hleft).leads (closed _) hp h
  exact ⟨⟨_, ⟨h, lines_of_leads h, l, hs, hlaw, rfl⟩, hz⟩, hp'⟩

/-! ## 4. The processors -/

/-- What has been collected over some stages, when `disk` was known and `lines` had been collected before them and
the last of them has left `metrics`. -/
structure Collects (disk : PersistentDisk) (lines : List String) (stages : List Stage) (metrics : Metrics)
    (after : Importer.Stages) : Prop where
  metrics : after.1.metrics = metrics
  disk : after.1.disk = lastKnown disk stages
  lines : after.1.traceLogs = lines ++ stages.flatMap Stage.lines
  result : after.2 = resultOf stages

/-- A stage that did not fail, in front of others. -/
theorem Collects.cons {disk : PersistentDisk} {lines : List String} {stage : Stage} {stages : List Stage}
    {metrics : Metrics} {after : Importer.Stages} (hok : stage.error? = none)
    (h : Collects (stage.output?.getD disk) (lines ++ stage.lines) stages metrics after) :
    Collects disk lines (stage :: stages) metrics after where
  metrics := h.metrics
  disk := h.disk
  lines := by rw [h.lines, List.flatMap_cons, List.append_assoc]
  result := by
    rw [h.result, resultOf, resultOf, List.findSome?_cons, hok]

/-- One that failed is the last. -/
theorem Collects.failed {disk : PersistentDisk} {lines : List String} {stage : Stage} {e : ImportError}
    {metrics : Metrics} {last : Progress} (he : stage.error? = some e) (hnone : stage.output? = none)
    (hmetrics : last.metrics = metrics) (hdisk : last.disk = disk)
    (hlines : last.traceLogs = lines ++ stage.lines) :
    Collects disk lines [stage] metrics (last, .error e) where
  metrics := hmetrics
  disk := by
    rw [lastKnown, List.foldl_cons, hnone]
    exact hdisk
  lines := by
    rw [List.flatMap_cons, List.flatMap_nil, List.append_nil]
    exact hlines
  result := by
    rw [resultOf, List.findSome?_cons, he]

/-- **The processors are a fold**: by induction on the list, one processor after the other. -/
theorem processors_went {ctx : RunContext} {processors : List (Processor τ)} {k : Nat} {before : Progress}
    {p p' : Place (Noted τ)} {after : Importer.Stages} (hp : Unattended p)
    (h : (Importer.runProcessors (Watched.part Cell.snd) ctx (watchedProcessors k processors) before).Leads p
      after p') :
    ∃ stages left, ProcessorsWent ctx k processors before.disk before.metrics p stages left p' ∧
      Collects before.disk before.traceLogs stages left after ∧ Unattended p' := by
  induction processors generalizing k before p with
  | nil =>
    obtain ⟨rfl, rfl⟩ := leads_done.mp h
    exact ⟨[], _, .nothing, ⟨rfl, rfl, (List.append_nil _).symm, rfl⟩, hp⟩
  | cons processor rest ih =>
    obtain ⟨⟨⟨outcome, lines⟩, metrics⟩, q, hstep, h⟩ := leads_bind.mp h
    obtain ⟨went, hq⟩ := processor_went hp hstep
    cases outcome with
    | error e =>
      obtain ⟨rfl, rfl⟩ := leads_done.mp h
      exact ⟨_, _, .failed went, .failed rfl rfl rfl rfl rfl, hq⟩
    | ok disk =>
      obtain ⟨stages, left, others, hcollects, hp'⟩ := ih hq h
      exact ⟨_, left, .next went others, .cons rfl hcollects, hp'⟩

/-! ## 5. The stages -/

/-- An answer of the provider is one of the parts, whose processors are watched. -/
theorem provider_answered {parts : ImportParts τ} {rest : Platform (Noted τ)} {disk : PersistentDisk}
    {m : Metrics} {p p' : Place (Noted τ)} {answer : Planner.Outcome (List (Processor (Noted τ)))}
    (hp : Unattended p) (h : ((parts.watched rest).provider disk m).Leads p answer p') :
    (∃ base, (parts.providing disk m).Leads p base p' ∧ answer = lifted (watchedProcessors 0) base) ∧
      Unattended p' := by
  obtain ⟨base, q, hcall, hdone⟩ := leads_bind.mp h
  obtain ⟨rfl, rfl⟩ := leads_done.mp hdone
  exact ⟨⟨base, hcall, rfl⟩, call_unattended hp hcall⟩

/-- **The stages are a fold.** -/
theorem stages_went {parts : ImportParts τ} {rest : Platform (Noted τ)} {ctx : RunContext}
    {p p' : Place (Noted τ)} {after : Importer.Stages} (hp : Unattended p)
    (h : ((parts.watched rest).runStages ctx).Leads p after p') :
    ∃ left metrics stages,
      StagesWent parts rest ctx (p.set ((parts.watched rest).left.set {} p.moment.state)) left metrics
        stages p' ∧
      Collects left.disk [] stages metrics after := by
  obtain ⟨_, q, hreset, h⟩ := leads_bind.mp h
  obtain rfl := leads_update.mp hreset
  obtain ⟨⟨outcome, lines⟩, q, hstep, h⟩ := leads_bind.mp h
  have hnothing : Unattended (p.set ((parts.watched rest).left.set {} p.moment.state)) := hp
  obtain ⟨⟨handed, went, hleft⟩, hq⟩ := inflation_went hnothing rfl hstep
  obtain ⟨left, q', hread, h⟩ := leads_bind.mp h
  obtain ⟨rfl, rfl⟩ := leads_read.mp hread
  have hleft' : (parts.watched rest).left.get q'.moment.state = { inflation := leftBy handed } := hleft
  rw [hleft'] at h
  cases outcome with
  | error failure =>
    obtain ⟨rfl, rfl⟩ := leads_done.mp h
    exact ⟨_, _, _, .inflationFailed went, .failed rfl rfl rfl rfl rfl⟩
  | ok inflation =>
    obtain ⟨answer, r, hprovider, h⟩ := leads_bind.mp h
    obtain ⟨⟨⟨metrics, chosen⟩, hcall, rfl⟩, hr⟩ := provider_answered hq hprovider
    cases chosen with
    | error e =>
      obtain ⟨rfl, rfl⟩ := leads_done.mp h
      exact ⟨_, _, _, .notProvided went hcall, .cons rfl (.failed rfl rfl rfl rfl (List.append_nil _).symm)⟩
    | ok processors =>
      obtain ⟨stages, collected, others, hcollects, -⟩ := processors_went hr h
      -- the choice of the processors adds no lines and no disk
      have hlater : Collects inflation.disk lines
          (.providing inflation.disk (.ok (processors.map (·.kind))) :: stages) collected after :=
        .cons rfl ((List.append_nil lines).symm ▸ hcollects)
      exact ⟨_, _, _, .provided went hcall others, .cons rfl hlater⟩

/-! ## 6. How the inflation went -/

/-- A provider that leaves alone what is said of the inflation does so when it is called. -/
theorem providing_keeps {parts : ImportParts τ} (hkeeps : parts.provider.KeepsTelemetry) {disk : PersistentDisk}
    {m : Metrics} {p p' : Place (Noted τ)} {answer : Planner.Outcome (List (Processor τ))}
    (h : (parts.providing disk m).Leads p answer p') : AnswerKeeps m (.ok answer) := by
  have hon : ((parts.provider disk m).on (Watched.part Cell.fst)).Always
      (fun (_ _ : Noted τ) => True) (fun _ => True) (AnswerKeeps m) :=
    Always.on (fun _ _ _ => trivial) (fun _ _ => trivial) (hkeeps disk m)
  exact (Always.watching hon).leads h

/-- So does a processor when it is run. -/
theorem ProcessorWent.telemetry {ctx : RunContext} {k : Nat} {processor : Processor τ} {disk : PersistentDisk}
    {given left : Metrics} {p p' : Place (Noted τ)} {outcome : Except ImportError PersistentDisk}
    {lines : List String} (went : ProcessorWent ctx k processor disk given p outcome lines left p')
    (hkeeps : processor.KeepsTelemetry) : left.telemetry = given.telemetry :=
  went.left_of (R := fun m => m.telemetry = given.telemetry) rfl (hkeeps disk given)

/-- The processors leave it alone, one after the other. -/
theorem ProcessorsWent.telemetry {ctx : RunContext} {k : Nat} {processors : List (Processor τ)}
    {disk : PersistentDisk} {given left : Metrics} {stages : List Stage} {p p' : Place (Noted τ)}
    (h : ProcessorsWent ctx k processors disk given p stages left p')
    (hkeeps : ∀ processor ∈ processors, processor.KeepsTelemetry) : left.telemetry = given.telemetry := by
  induction h with
  | nothing => rfl
  | failed went => exact went.telemetry (hkeeps _ List.mem_cons_self)
  | next went _ ih =>
    exact (ih fun processor hmem => hkeeps processor (List.mem_cons_of_mem _ hmem)).trans
      (went.telemetry (hkeeps _ List.mem_cons_self))

/-- **The metrics say how the inflation went**, up to the end of the stages. -/
theorem StagesWent.telemetry {parts : ImportParts τ} {rest : Platform (Noted τ)} {ctx : RunContext}
    (hkeeps : parts.provider.KeepsTelemetry) {p p' : Place (Noted τ)} {left : Inflation} {metrics : Metrics}
    {stages : List Stage} (h : StagesWent parts rest ctx p left metrics stages p') :
    metrics.telemetry = (metricsOf left).telemetry := by
  cases h with
  | inflationFailed => rfl
  | notProvided _ answered => exact (providing_keeps hkeeps answered).1 _ rfl
  | provided _ answered others =>
    obtain ⟨hsaid, hchosen⟩ := providing_keeps hkeeps answered
    exact (others.telemetry (hchosen _ rfl _ rfl)).trans (hsaid _ rfl)

/-! ## 7. The whole -/

/-- **What is reported of some stages**, when the inflation has left `left` and `collected` are the metrics that the
provider and the processors have given back. -/
structure Reports (parts : ImportParts τ) (left : Inflation) (collected : Metrics) (stages : List Stage)
    (metrics : Metrics) : Prop where
  /-- The lines of the guarded steps, one step after the other. -/
  traceLogs : metrics.traceLogs = stages.flatMap Stage.lines
  /-- The type and the sizes of the disk that is known last. -/
  sourceType : metrics.sourceType = (lastKnown left.disk stages).sourceType
  sourceSizeGb : metrics.sourceSizeGb = (lastKnown left.disk stages).sourceGb
  targetSizeGb : metrics.targetSizeGb = (lastKnown left.disk stages).sizeGb
  /-- How the inflation went, whenever what it has left says so and nobody writes over it. -/
  telemetry : parts.provider.KeepsTelemetry → left.fields.inflationType ≠ "" →
    metrics.telemetry = (Metrics.empty.setInflation left.fields).telemetry
  /-- Everything else is as the stages have left it. -/
  others : ∃ instant, metrics =
    ((collected.setDisk (lastKnown left.disk stages)).setTraceLogs (stages.flatMap Stage.lines)).build instant

/-- **What comes out of an import** that starts at a place. -/
inductive PipelineLaw (parts : ImportParts τ) (rest : Platform (Noted τ)) (ctx : RunContext)
    (p : Place (Noted τ)) : Metrics → Except ImportError Unit → Prop where
  | refused {e : ImportError} {p' : Place (Noted τ)}
      (refused : ((parts.watched rest).validator parts.args).Leads p (.error e) p') :
      PipelineLaw parts rest ctx p .empty (.error e)
  | ran {left : Inflation} {collected metrics : Metrics} {stages : List Stage} {p' p'' : Place (Noted τ)}
      (valid : ((parts.watched rest).validator parts.args).Leads p (.ok ()) p')
      (went : StagesWent parts rest ctx (p'.set ((parts.watched rest).left.set {} p'.moment.state)) left
        collected stages p'')
      (reports : Reports parts left collected stages metrics) :
      PipelineLaw parts rest ctx p metrics (resultOf stages)

/-- The report is put together when the stages are over. -/
theorem reports_finish {parts : ImportParts τ} {rest : Platform (Noted τ)} {ctx : RunContext}
    {p p' : Place (Noted τ)} {left : Inflation} {collected : Metrics} {stages : List Stage}
    {after : Importer.Stages} (went : StagesWent parts rest ctx p left collected stages p')
    (h : Collects left.disk [] stages collected after) (instant : Timestamp) :
    Reports parts left collected stages (after.1.finish.build instant) := by
  have hmetrics : after.1.metrics = collected := h.metrics
  have hlines : after.1.traceLogs = stages.flatMap Stage.lines := h.lines
  have hdisk : after.1.disk = lastKnown left.disk stages := h.disk
  refine
    { traceLogs := hlines, sourceType := by rw [← hdisk]; rfl, sourceSizeGb := by rw [← hdisk]; rfl,
      targetSizeGb := by rw [← hdisk]; rfl, telemetry := fun hkeeps hsaid => ?_,
      others := ⟨instant, ?_⟩ }
  · have htold : metricsOf left = Metrics.empty.setInflation left.fields := by
      simp [metricsOf, hsaid]
    rw [← htold, ← went.telemetry hkeeps, ← hmetrics]
    rfl
  · rw [← hlines, ← hdisk, ← hmetrics]
    rfl

/-- **A run that returns is a walk through its stages.** -/
theorem run_went {parts : ImportParts τ} {rest : Platform (Noted τ)} {cancelledAt : Option Nat}
    {deadlineFirst : Nat → Bool} {p p' : Place (Noted τ)} {metrics : Metrics} {result : Except ImportError Unit}
    (hp : Unattended p)
    (h : ((parts.watched rest).run cancelledAt deadlineFirst).Leads p (metrics, result) p') :
    PipelineLaw parts rest (RunContext.starting p.moment.now parts.args.timeout cancelledAt deadlineFirst) p
      metrics result := by
  obtain ⟨now, q, hclock, h⟩ := leads_bind.mp h
  obtain ⟨rfl, rfl⟩ := leads_clock.mp hclock
  obtain ⟨verdict, r, hvalid, h⟩ := leads_bind.mp h
  have hr := call_unattended hp hvalid
  cases verdict with
  | error e =>
    obtain ⟨heq, rfl⟩ := leads_done.mp h
    cases heq
    exact .refused hvalid
  | ok u =>
    obtain ⟨⟨progress, outcome⟩, s, hstages, h⟩ := leads_bind.mp h
    obtain ⟨left, collected, stages, went, hcollects⟩ := stages_went hr hstages
    obtain ⟨_, _, -, h⟩ := leads_bind.mp h
    obtain ⟨_, _, -, h⟩ := leads_bind.mp h
    obtain ⟨instant, _, -, h⟩ := leads_bind.mp h
    obtain ⟨heq, -⟩ := leads_done.mp h
    cases heq
    rw [show result = resultOf stages from hcollects.result]
    exact .ran hvalid went (reports_finish went hcollects _)

end ImportParts

/-! ## 8. Every run -/

/-- **What a run of an import comes to** that starts at a place. -/
def PipelineOutcome (parts : ImportParts τ) (rest : Platform (ImportParts.Noted τ)) (ctx : RunContext)
    (p : Place (ImportParts.Noted τ)) :
    Ending (ImportParts.Noted τ) (Metrics × Except ImportError Unit) → Prop
  | .returned (metrics, result) _ => parts.PipelineLaw rest ctx p metrics result
  | .crashed why m => ImportHistory.Blown why m.state.seen
  | .stalled m => ImportHistory.Pending m.state.seen

/-- **An import is a fold over its stages.**  Whatever its parts do, whenever it is run, whenever the caller cancels
and whichever limit is noticed: a run that returns has gone through its stages in order, each from where the one
before it has ended and with the disk and the metrics that one has handed on, up to the first that failed, and its
result and its metrics are read off them.  Seen without the notes it is the run of the import. -/
theorem run_is_fold (parts : ImportParts τ) (rest' : Platform (ImportParts.Noted τ))
    (rest : Platform (τ × Recorded)) (cancelledAt : Option Nat) (deadlineFirst : Nat → Bool)
    (m : Moment (τ × Recorded)) :
    let start : Moment (ImportParts.Noted τ) := ⟨m.now, ⟨m.state, []⟩⟩
    let watched := ((parts.watched rest').run cancelledAt deadlineFirst).attended.run start
    PipelineOutcome parts rest' (RunContext.starting m.now parts.args.timeout cancelledAt deadlineFirst)
        (.start start) watched ∧
      Ending.Alike Watched.state Eq watched
        (((parts.importer rest).run cancelledAt deadlineFirst).attended.run m) := by
  intro start watched
  refine ⟨?_, (parts.run_mirrors rest' rest cancelledAt deadlineFirst).run_attended start⟩
  have hsat := (parts.run_meets rest' cancelledAt deadlineFirst (m := start) rfl).run_attended
    (Terms.whole_closed _ _)
  cases hrun : watched with
  | returned value last =>
    obtain ⟨p', hleads, -⟩ := leads_of_attended hrun
    exact ImportParts.run_went (p := .start start) trivial hleads
  | crashed why last =>
    rw [show Activity.run _ _ = _ from hrun] at hsat
    exact hsat
  | stalled last =>
    rw [show Activity.run _ _ = _ from hrun] at hsat
    obtain ⟨w, hready | hpending, hh, -⟩ := hsat
    · simp [Wake.holds, hready] at hh
    · exact hpending

/-! ## 9. Reports of something else -/

/-- **An import that keeps its lines**: its inflation says so each time it is run, and has been done by a worker. -/
def ImportParts.keeping (provider : ProcessorProvider (List String)) : ImportParts (List String) where
  args := { executionId := "keeping" }
  validator _ := .done (.ok ())
  inflater :=
    { cancel := fun _ => .done false, traceLogs := id,
      inflate := (Activity.update (· ++ ["inflated"])).bind fun _ =>
        .done (.ok { fields := { inflationType := "worker" } }) }
  provider
  deleteDisk _ _ _ := .done (.ok ())
  log _ _ lines := lines

/-- The metrics with another kind of inflation. -/
def Metrics.overwritten (m : Metrics) : Metrics := m.setInflation { inflationType := "processor" }

/-- A processor that reports on the inflation. -/
def Processor.overwriting : Processor (List String) where
  cancel _ := .done false
  traceLogs _ := []
  kind := .dataDisk
  process disk m := .done (m.overwritten, .ok disk)

/-- A run of the import when `lines` have been kept. -/
def ImportParts.runKeeping (provider : ProcessorProvider (List String)) (lines : List String) :
    Ending (List String × Recorded) (Metrics × Except ImportError Unit) :=
  (((ImportParts.keeping provider).importer .refusing).run none).attended.run ⟨0, lines, {}⟩

/-- The result, how it was inflated, and the diagnostic lines. -/
def Ending.reported (e : Ending (List String × Recorded) (Metrics × Except ImportError Unit)) :
    Option (Except ImportError Unit × String × List String) :=
  e.value?.map fun (metrics, result) => (result, metrics.inflationType, metrics.traceLogs)

/-- **A report need not be about the stages of its run alone.**  Whoever is handed the metrics can write over what the
inflation has left, a provider as well as a processor; and a run that starts where another one of the same import has
ended reports the lines of both. -/
theorem report_not_its_own :
    (ImportParts.runKeeping (fun _ m => .done (m, .ok [])) []).reported = some (.ok (), "worker", ["inflated"]) ∧
    (ImportParts.runKeeping (fun _ m => .done (m.overwritten, .ok [])) []).reported =
      some (.ok (), "processor", ["inflated"]) ∧
    (ImportParts.runKeeping (fun _ m => .done (m, .ok [.overwriting])) []).reported =
      some (.ok (), "processor", ["inflated"]) ∧
    (ImportParts.runKeeping (fun _ m => .done (m, .ok []))
        (ImportParts.runKeeping (fun _ m => .done (m, .ok [])) []).moment.state.1).reported =
      some (.ok (), "worker", ["inflated", "inflated"]) :=
  ⟨by rfl, by rfl, by rfl, by rfl⟩

/-! ## 10. The provider of this library -/

section Provider

variable {σ : Type}

theorem saysAs_ok {α : Type} {m m' : Metrics} {x : α} (h : m'.telemetry = m.telemetry) :
    SaysAs m (.ok (m', x)) := by
  rintro _ ⟨⟩
  exact h

theorem saysAs_crash {α : Type} (m : Metrics) (why : Crash) :
    SaysAs m (.error why : Except Crash (Metrics × α)) := by
  rintro _ ⟨⟩

theorem planWith_saysAs (p : Platform σ) (args : Arguments) (inspection : Option Inspection) (m : Metrics) :
    (Planner.planWith p args inspection m).EndsAs (SaysAs m) := by
  unfold Planner.planWith
  cases Planner.resolveOs args inspection with
  | error e => exact saysAs_ok rfl
  | ok os =>
    refine always_after (saysAs_crash m) (fun _ => ?_) _
    cases Planner.chosenEntry args os with
    | error e => exact saysAs_ok rfl
    | ok entry => exact saysAs_ok rfl

/-- **Planning says nothing of the inflation.** -/
theorem plan_saysAs (p : Platform σ) (args : Arguments) (disk : PersistentDisk) (m : Metrics) :
    (Planner.plan p args disk m).EndsAs (SaysAs m) := by
  unfold Planner.plan
  split
  · exact saysAs_ok rfl
  · refine always_after (saysAs_crash m) (fun inspection => ?_) _
    have hsame : ((inspection.map m.setInspection).getD m).telemetry = m.telemetry := by
      cases inspection <;> rfl
    refine (planWith_saysAs p args inspection _).mono (fun _ _ h => h) (fun _ h => h) ?_
    exact fun h answer hr => (h answer hr).trans hsame

/-- Work that has nothing to report says nothing of it. -/
theorem unreported_saysAs {α : Type} (m : Metrics) (work : Activity σ α) :
    (unreported m work).EndsAs (SaysAs m) :=
  (unreported_always (quiet_any work)).mono (fun _ _ h => h) (fun _ h => h)
    fun h answer hr => congrArg Metrics.telemetry (h.2 answer hr)

/-- **The provider of this library leaves alone what is said of the inflation**, and so do its processors, which have
nothing to report. -/
theorem provide_keepsTelemetry (p : Platform σ) (args : Arguments) (translation : Cell σ TranslationState) :
    (provide p args translation).KeepsTelemetry := by
  have hcrash : ∀ m why, AnswerKeeps m (.error why : Except Crash (Planner.Outcome (List (Processor σ)))) :=
    fun m why => ⟨saysAs_crash m why, fun _ h => nomatch h⟩
  intro disk m
  unfold provide provideWith
  split
  · refine ⟨saysAs_ok rfl, ?_⟩
    rintro _ ⟨⟩ _ ⟨⟩ processor hmem
    rw [List.mem_singleton.mp hmem]
    exact fun disk m => unreported_saysAs m (imageDisk p args disk)
  · refine Always.bind (plan_saysAs p args disk m) (fun {answer} h => ?_) fun _ => hcrash m _
    obtain ⟨m', e | plan⟩ := answer
    · refine ⟨saysAs_ok (h _ rfl), ?_⟩
      rintro _ ⟨⟩ _ ⟨⟩
    · refine fun _ => ⟨trivial, saysAs_ok (h _ rfl), ?_⟩
      rintro _ ⟨⟩ _ ⟨⟩
      exact processorsOf_forall (fun disk m => unreported_saysAs m (tagDisk p args plan disk))
        fun disk m => unreported_saysAs m (Translation.process _ disk)

end Provider

end ImageImport
