/-
# The disk of an import is deleted once

Main statement: `run_deletes_once`, over every run of every import.  A run that returns has a history of
`ImportLaw`: what is deleted in it is the disk that is known last, once, when all the stages are over.  A run
that does not return breaks off within a call or with one that has crashed.

The proof follows the text of `Import.lean`: one lemma for each of its activities says how the history goes
on and what is known when it ends.  Everything an import does is in sequence, so all of them are on the same
terms, `Terms.whole`: others note nothing, and leave alone what the tasks of the stages have recorded.
-/
import ImageImport.Proofs.Import.History

namespace ImageImport

open Activity

variable {τ α : Type}

theorem ImportNote.inflation_injective : Function.Injective ImportNote.inflation := by
  intro a b hab
  cases hab
  rfl

namespace ImportParts

/-! ## 1. Waits and crashes -/

/-- Where an import waits: it can go on at once, or is within a call. -/
def Waits (w : Wake (Noted τ)) (m : Moment (Noted τ)) : Prop :=
  (∀ s, w.ready s = true) ∨ ImportHistory.Pending m.state.seen

/-- How something ends that is done after `h₀`: with a crash, or as `Q` says of the value and of what has
been noted since. -/
def EndsAfter (h₀ : ImportHistory) (Q : α → ImportHistory → Noted τ → Prop) :
    Except Crash α → Moment (Noted τ) → Prop
  | .ok x, m => ∃ h, m.state.seen = h₀ ++ h ∧ Q x h m.state
  | .error why, m => ImportHistory.Blown why m.state.seen

/-- The terms of everything in an import. -/
abbrev terms : Terms (Noted τ) := .whole Prod.snd

theorem waits_of_stepWaits {ι ε β : Type} {f : StepNote ι (Except ε β) → ImportNote} {h₀ : ImportHistory}
    (hf : ∀ {h}, StepHistory.Open h → ImportHistory.Pending (h₀ ++ keptAs f h))
    {w : Wake (Noted τ)} {m : Moment (Noted τ)} (h : StepWaits f h₀ w m) : Waits w m := by
  rcases h with hready | ⟨h, hs, hopen⟩
  · exact .inl hready
  · refine .inr ?_
    rw [hs]
    exact hf hopen

/-- **A call outside the guarded steps**, between its two notes. -/
theorem call_meets {called : ImportNote} {ended : Except Crash α → ImportNote}
    {Q : Except Crash α → Moment (Noted τ) → Prop} {m : Moment (Noted τ)} {h₀ : ImportHistory}
    (hm : m.state.seen = h₀) (hpending : ImportHistory.Pending (h₀ ++ [(m.now, called)]))
    (hQ : ∀ {r m' t}, m'.state.seen = h₀ ++ [(m.now, called), (t, ended r)] → Q r m')
    (a : Activity τ α) :
    (watching called ended (a.on (Watched.part Cell.fst))).Meets terms Waits Q m := by
  have hcalled : (Watched.noted called m).seen = h₀ ++ [(m.now, called)] := by rw [← hm]; rfl
  refine Meets.watching trivial (Meets.part Terms.allows_whole (fun _ _ => rfl)
    (X := fun m' => m'.state.seen = h₀ ++ [(m.now, called)]) ?_ ?_ ?_ ?_ a hcalled)
  · exact fun h hu _ => hu.1.trans h
  · exact fun h hu _ => hu.1.trans h
  · exact fun h => .inr (h ▸ hpending)
  · refine fun {r m'} h => ⟨trivial, hQ (t := m'.now) ?_⟩
    show m'.state.seen ++ [(m'.now, ended r)] = _
    rw [h, List.append_assoc]
    rfl

/-! ## 2. The processors -/

/-- What is known when the processors are over. -/
def ChainKnown (ctx : RunContext) (k n : Nat) (disk : PersistentDisk) (stages : Importer.Stages)
    (h : ImportHistory) (_ : Noted τ) : Prop :=
  ChainLaw ctx k n disk h stages.1.disk stages.2

/-- **The task of a processor** records the metrics its work gives back, at once. -/
theorem notedProcess_meets {ctx : RunContext} {k : Nat} (p : Processor τ) (disk : PersistentDisk) (given : Metrics)
    {R : Metrics → Prop} (hgiven : R given)
    (hback : (p.process disk given).EndsAs fun r => ∀ answer, r = .ok answer → R answer.1) {start : Nat}
    {h₀ : ImportHistory} {m : Moment (Noted τ)} (hlive : ctx.err start = none) (hm : m.now = start)
    (hw : WorkSays (ImportNote.processing k) h₀ [] m.state) (hleft : m.state.state.2 = { metrics := given }) :
    (Importer.notedProcess (Watched.part Cell.snd) (watchedProcessor k p) disk given).Meets
      (workTerms (ImportNote.processing k) Prod.snd) (WorkWaits ctx (ImportNote.processing k) h₀ start disk)
      (fun r => TaskEnds ctx id (ImportNote.processing k) Prod.snd (fun _ left => R left.metrics) h₀ start disk
        (.ok r)) m := by
  have hslot : ∀ (t : τ) (u : τ × Recorded), (Cell.fst.set t u).2 = u.2 := fun _ _ => rfl
  refine Meets.bind (watchedWork_meets hslot hlive hm hw (fun {r m' t} hr hs' ht hw' => ?_) hback)
  match r, hr, hw' with
  | .ok (metrics, result), hr, hw' =>
    exact Meets.update_bind (.of_seen_eq rfl) (Meets.pure ⟨_, rfl, .inr ⟨hlive, hr _ rfl, t, ht, hw'⟩⟩)
  | .error why, _, hw' =>
    have hkept : R m'.state.state.2.metrics := by
      rw [hs', hleft]
      exact hgiven
    exact ⟨_, rfl, .inr ⟨hlive, hkept, t, ht, hw'⟩⟩

/-- **A processor as a guarded step**, and what it has recorded: whatever is true of the metrics it is handed and of
all those it gives back. -/
theorem processorStep_meets (ctx : RunContext) (k : Nat) (p : Processor τ) (disk : PersistentDisk)
    (given : Metrics) {R : Metrics → Prop} (hgiven : R given)
    (hback : (p.process disk given).EndsAs fun r => ∀ answer, r = .ok answer → R answer.1)
    {m : Moment (Noted τ)} {h₀ : ImportHistory} (hm : m.state.seen = h₀)
    (hleft : m.state.state.2 = { metrics := given }) :
    (runStep ctx (watchedProcessor k p).toStep id
      (Importer.notedProcess (Watched.part Cell.snd) (watchedProcessor k p) disk given)).Meets terms Waits
      (EndsAfter h₀ fun o h s => (∃ l, h = keptAs (.processing k) l ∧ StepLaw ctx id m.now disk l o.1) ∧
        R s.state.2.metrics) m := by
  have hf : Function.Injective (ImportNote.processing k) := by
    intro a b hab
    cases hab
    rfl
  have hslot : ∀ (t : τ) (u : τ × Recorded), (Cell.fst.set t u).2 = u.2 := fun _ _ => rfl
  have hstep : (runStep ctx (p.toStep.watched Cell.fst (.processing k)) id
      (Importer.notedProcess (Watched.part Cell.snd) (watchedProcessor k p) disk given)).Meets terms
      (StepWaits (ImportNote.processing k) h₀)
      (Reported (p.toStep.watched Cell.fst (.processing k))
        (StepEnds ctx id (.processing k) Prod.snd (fun _ left => R left.metrics) h₀ m.now disk)) m :=
    watchedStep hf hslot p.toStep rfl hm (show R m.state.state.2.metrics from hleft ▸ hgiven)
      fun hlive hn hw hs => notedProcess_meets p disk given hgiven hback hlive hn hw (hs.trans hleft)
  refine Meets.weaken (waits_of_stepWaits .processing) (fun {r m'} h => ?_) hstep
  match r, h with
  | .ok (outcome, _), ⟨⟨l, hs, hlaw, hR⟩, _⟩ => exact ⟨_, hs, ⟨l, rfl, hlaw⟩, hR⟩
  | .error why, ⟨l, hs, t, hmem⟩ =>
    show ImportHistory.Blown why m'.state.seen
    rw [hs]
    exact .processing hmem

/-- **One processor** on its disk. -/
theorem runProcessor_meets (ctx : RunContext) (k : Nat) (p : Processor τ) (disk : PersistentDisk)
    (given : Metrics) {m : Moment (Noted τ)} {h₀ : ImportHistory} (hm : m.state.seen = h₀) :
    (Importer.runProcessor (Watched.part Cell.snd) ctx (watchedProcessor k p) disk given).Meets terms Waits
      (EndsAfter h₀ fun o h _ => ∃ l, h = keptAs (.processing k) l ∧ StepLaw ctx id m.now disk l o.1.1) m := by
  refine Meets.update_bind trivial (Meets.bind (Meets.weaken id (fun {r m'} h => ?_)
    (processorStep_meets ctx k p disk given (R := fun _ => True) trivial
      ((quiet_any _).mono (fun _ _ h => h) (fun _ h => h) fun _ _ _ => trivial) hm rfl)))
  match r, h with
  | .ok ended, ⟨h, hs, hlaw, _⟩ => exact Meets.read_bind (Meets.pure ⟨h, hs, hlaw⟩)
  | .error why, hblown => exact hblown

/-- **The processors in order**: by induction on the list, one processor after the other. -/
theorem runProcessors_meets (ctx : RunContext) (processors : List (Processor τ)) (k : Nat)
    (p : Progress) {m : Moment (Noted τ)} {h₀ : ImportHistory} (hm : m.state.seen = h₀) :
    (Importer.runProcessors (Watched.part Cell.snd) ctx (watchedProcessors k processors) p).Meets terms Waits
      (EndsAfter h₀ (ChainKnown ctx k processors.length p.disk)) m := by
  induction processors generalizing k p m h₀ with
  | nil => exact ⟨[], by rw [hm, List.append_nil], .nothing⟩
  | cons processor rest ih =>
    refine Meets.bind (Meets.weaken id (fun {r m'} h => ?_)
      (runProcessor_meets ctx k processor p.disk p.metrics hm))
    match r, h with
    | .ok ((.error e, logs), metrics), ⟨h, hs, l, hl, hlaw⟩ =>
      subst hl
      exact ⟨_, hs, .failed hlaw⟩
    | .ok ((.ok disk, logs), metrics), ⟨h, hs, l, hl, hlaw⟩ =>
      subst hl
      refine Meets.weaken id (fun {r m''} h => ?_) (ih (k + 1) { p.addLogs logs with metrics, disk } rfl)
      match r, h with
      | .ok stages, ⟨h', hs', hchain⟩ =>
        exact ⟨_, by rw [hs', hs, List.append_assoc], .next hlaw hchain⟩
      | .error why, hblown => exact hblown
    | .error why, hblown => exact hblown

/-! ## 3. The stages -/

/-- The work of the inflation writes down what it leaves, at once. -/
theorem notedInflation_meets (parts : ImportParts τ) (rest : Platform (Noted τ)) {ctx : RunContext}
    {start : Nat} {h₀ : ImportHistory} {m : Moment (Noted τ)} (hlive : ctx.err start = none)
    (hm : m.now = start) (hw : WorkSays ImportNote.inflation h₀ [] m.state) (hleft : m.state.state.2 = {}) :
    (parts.watched rest).notedInflation.Meets (workTerms ImportNote.inflation Prod.snd)
      (WorkWaits ctx ImportNote.inflation h₀ start ()) (fun r => TaskEnds ctx InflationFailure.ofError
        ImportNote.inflation Prod.snd (fun ended left => left = { inflation := leftBy ended }) h₀ start () (.ok r)) m := by
  have hslot : ∀ (t : τ) (u : τ × Recorded), (Cell.fst.set t u).2 = u.2 := fun _ _ => rfl
  refine Meets.bind (watchedWork_meets hslot hlive hm hw (fun {r m' t} _ hs' ht hw' => ?_) (quiet_any _))
  cases r with
  | ok result => exact Meets.update_bind (.of_seen_eq rfl) (Meets.pure ⟨_, rfl, .inr ⟨hlive, rfl, t, ht, hw'⟩⟩)
  | error why => exact ⟨_, rfl, .inr ⟨hlive, hs'.trans hleft, t, ht, hw'⟩⟩

/-- **The inflation**, which notes what it leaves when it ends. -/
theorem inflation_meets (parts : ImportParts τ) (rest : Platform (Noted τ)) (ctx : RunContext)
    {m : Moment (Noted τ)} {h₀ : ImportHistory} (hm : m.state.seen = h₀)
    (hleft : m.state.state.2 = {}) :
    (runStep ctx (parts.watched rest).inflater.toStep .ofError
      (parts.watched rest).notedInflation).Meets terms Waits
      (EndsAfter h₀ fun o h s => ∃ l, h = keptAs .inflation l ∧
        StepLaw ctx InflationFailure.ofError m.now () l o.1 ∧ s.state.2 = { inflation := leftBy l.ending }) m := by
  have hslot : ∀ (t : τ) (u : τ × Recorded), (Cell.fst.set t u).2 = u.2 := fun _ _ => rfl
  have hstep : (runStep ctx (parts.inflater.toStep.watched Cell.fst .inflation) InflationFailure.ofError
      (parts.watched rest).notedInflation).Meets terms (StepWaits ImportNote.inflation h₀)
      (Reported (parts.inflater.toStep.watched Cell.fst .inflation)
        (StepEnds ctx InflationFailure.ofError .inflation Prod.snd
          (fun ended left => left = { inflation := leftBy ended }) h₀ m.now ())) m :=
    watchedStep ImportNote.inflation_injective hslot parts.inflater.toStep rfl hm hleft
      fun hlive hn hw hs => notedInflation_meets parts rest hlive hn hw (hs.trans hleft)
  refine Meets.weaken (waits_of_stepWaits .inflation) (fun {r m'} h => ?_) hstep
  match r, h with
  | .ok (outcome, _), ⟨⟨l, hs, hlaw, hz⟩, _⟩ => exact ⟨_, hs, l, rfl, hlaw, hz⟩
  | .error why, ⟨l, hs, t, hmem⟩ =>
    show ImportHistory.Blown why m'.state.seen
    rw [hs]
    exact .inflation hmem

/-- What is known when the stages are over. -/
def StagesKnown (ctx : RunContext) (stages : Importer.Stages) (h : ImportHistory) (_ : Noted τ) : Prop :=
  StagesLaw ctx h stages.1.disk stages.2

/-- **The processors of an inflated disk**, chosen and run. -/
theorem runChain_meets (parts : ImportParts τ) (rest : Platform (Noted τ)) (ctx : RunContext)
    (p : Progress) {inflation : Inflation} (hp : p.disk = inflation.disk) {start : Nat}
    {l : StepHistory _ _} (hlaw : StepLaw ctx InflationFailure.ofError start () l (.ok inflation))
    {m : Moment (Noted τ)} {h₀ : ImportHistory} (hm : m.state.seen = h₀ ++ keptAs .inflation l) :
    ((parts.watched rest).runChain ctx p).Meets terms Waits (EndsAfter h₀ (StagesKnown ctx)) m := by
  refine Meets.bind (Meets.bind (call_meets hm .providing (fun {r m' t} hs => ?_)
    (parts.provider p.disk p.metrics)))
  rw [hp, List.append_assoc] at hs
  match r, hs with
  | .error why, hs =>
    show ImportHistory.Blown why m'.state.seen
    rw [hs, ← List.append_assoc]
    exact .provided
  | .ok (metrics, .error e), hs => exact ⟨_, hs, hp ▸ .notProvided hlaw⟩
  | .ok (metrics, .ok processors), hs =>
    have hchain := runProcessors_meets ctx processors 0 { p with metrics } (m := m') rfl
    show Meets terms Waits _
      (Importer.runProcessors (Watched.part Cell.snd) ctx (watchedProcessors 0 processors) _) m'
    refine Meets.weaken id (fun {r m''} h => ?_) hchain
    match r, h with
    | .ok stages, ⟨h, hs', hknown⟩ =>
      refine ⟨_, by rw [hs', hs, List.append_assoc], ?_⟩
      have hlen : processors.length = (processors.map (·.kind)).length := (List.length_map _).symm
      have hknown' : ChainLaw ctx 0 processors.length p.disk h stages.1.disk stages.2 := hknown
      rw [hp, hlen] at hknown'
      exact .provided hlaw hknown'
    | .error why, hblown => exact hblown

/-- **Inflation and then the chain.** -/
theorem runStages_meets (parts : ImportParts τ) (rest : Platform (Noted τ)) (ctx : RunContext)
    {m : Moment (Noted τ)} {h₀ : ImportHistory} (hm : m.state.seen = h₀) :
    ((parts.watched rest).runStages ctx).Meets terms Waits (EndsAfter h₀ (StagesKnown ctx)) m := by
  refine Meets.update_bind trivial ?_
  refine Meets.bind (Meets.weaken id (fun {r m'} h => ?_) (inflation_meets parts rest ctx hm rfl))
  match r, h with
  | .error why, hblown => exact hblown
  | .ok (outcome, logs), ⟨h, hs, l, hl, hlaw, hleft⟩ =>
    subst hl
    refine Meets.read_bind ?_
    have hleft' : (parts.watched rest).left.get m'.state = { inflation := leftBy l.ending } := hleft
    rw [hleft']
    match outcome, hlaw with
    | .error failure, hlaw => exact ⟨_, hs, .inflationFailed hlaw⟩
    | .ok inflation, hlaw => exact runChain_meets parts rest ctx _ rfl hlaw hs

/-! ## 4. The deletion -/

/-- **The deletion of a disk.** -/
theorem cleanupDisk_meets (parts : ImportParts τ) (rest : Platform (Noted τ)) (disk : PersistentDisk)
    {m : Moment (Noted τ)} {h₀ : ImportHistory} (hm : m.state.seen = h₀) :
    (cleanupDisk (parts.watched rest).platform parts.args disk).Meets terms Waits
      (EndsAfter h₀ fun _ h _ => DeletionLaw parts.args disk h) m := by
  unfold cleanupDisk
  cases hd : disk.isAllocated with
  | false =>
    have huri : disk.uri = "" := by simpa [PersistentDisk.isAllocated] using hd
    exact ⟨[], by rw [hm, List.append_nil], .nothing huri⟩
  | true =>
    have huri : disk.uri ≠ "" := by simpa [PersistentDisk.isAllocated] using hd
    refine Meets.bind (call_meets hm .deleting (fun {r m' t} hs => ?_) _)
    match r, hs with
    | .error why, hs =>
      show ImportHistory.Blown why m'.state.seen
      rw [hs]
      exact .deleted
    | .ok (.ok ()), hs => exact ⟨_, hs, .once huri⟩
    | .ok (.error e), hs =>
      -- a failure other than that the disk is gone is written to the log, and to nothing else
      show Meets terms Waits _ (if (!e.isNotFound) = true then _ else _) m'
      split
      · exact ⟨trivial, _, hs, .once huri⟩
      · exact ⟨_, hs, .once huri⟩

/-! ## 5. The whole -/

/-- What is known when an import is over. -/
def ImportKnown (args : Arguments) (ctx : RunContext) (value : Metrics × Except ImportError Unit)
    (h : ImportHistory) (_ : Noted τ) : Prop :=
  ImportLaw args ctx h value.1 value.2

theorem runValidated_meets (parts : ImportParts τ) (rest : Platform (Noted τ)) (ctx : RunContext)
    {t t' : Nat} {m : Moment (Noted τ)}
    (hm : m.state.seen = [(t, .validating), (t', .validated (.ok (.ok ())))]) :
    ((parts.watched rest).runValidated ctx).Meets terms Waits
      (EndsAfter [] (ImportKnown parts.args ctx)) m := by
  refine Meets.bind (Meets.weaken id (fun {r m₁} h => ?_) (runStages_meets parts rest ctx hm))
  match r, h with
  | .error why, hblown => exact hblown
  | .ok (progress, result), ⟨stages, hs, hlaw⟩ =>
    refine Meets.bind (Meets.weaken id (fun {r m₂} h => ?_)
      (cleanupDisk_meets parts rest progress.disk hs))
    match r, h with
    | .error why, hblown => exact hblown
    | .ok outcome, ⟨deletion, hs', hdeletion⟩ =>
      have hknown : ∀ (n : Nat) (m₃ : Moment (Noted τ)), m₃.state.seen = m₂.state.seen →
          EndsAfter [] (ImportKnown parts.args ctx)
            (.ok (progress.finish.build (.ofMillis n), result)) m₃ :=
        fun n m₃ hsame => ⟨_, hsame.trans hs', .ran hlaw hdeletion⟩
      cases result with
      | ok u => exact ⟨trivial, hknown _ _ rfl⟩
      | error e => exact ⟨trivial, trivial, hknown _ _ rfl⟩

theorem run_meets (parts : ImportParts τ) (rest : Platform (Noted τ)) (cancelledAt : Option Nat)
    (deadlineFirst : Nat → Bool) {m : Moment (Noted τ)} (hm : m.state.seen = []) :
    ((parts.watched rest).run cancelledAt deadlineFirst).Meets terms Waits
      (EndsAfter [] (ImportKnown parts.args
        (RunContext.starting m.now parts.args.timeout cancelledAt deadlineFirst))) m := by
  refine Meets.clock_bind (Meets.bind (call_meets hm .validating (fun {r m' t} hs => ?_) _))
  match r, hs with
  | .error why, hs =>
    show ImportHistory.Blown why m'.state.seen
    rw [hs]
    exact .validated
  | .ok (.error e), hs => exact ⟨_, hs, .refused⟩
  | .ok (.ok ()), hs => exact runValidated_meets parts rest _ hs

/-! ## 6. The notes change nothing -/

section Mirrors

variable (parts : ImportParts τ) (rest' : Platform (Noted τ)) (rest : Platform (τ × Recorded))

theorem runProcessor_mirrors (ctx : RunContext) (processor : Processor τ) (k : Nat) (disk : PersistentDisk)
    (given : Metrics) :
    Mirrors Watched.state True Eq
      (Importer.runProcessor (Watched.part Cell.snd) ctx (watchedProcessor k processor) disk given)
      (Importer.runProcessor Cell.snd ctx (processorOn processor) disk given) := by
  have hnoted : Mirrors Watched.state True Eq
      (Importer.notedProcess (Watched.part Cell.snd) (watchedProcessor k processor) disk given)
      (Importer.notedProcess Cell.snd (processorOn processor) disk given) := by
    refine Mirrors.bind (Mirrors.watching (mirrors_on Cell.fst (processor.process disk given))) ?_
    rintro ⟨metrics, result⟩ _ rfl
    refine Mirrors.bind (Mirrors.update fun _ => rfl) fun _ => ?_
    exact .done rfl
  refine Mirrors.bind (Mirrors.update fun _ => rfl) fun _ => ?_
  refine Mirrors.bind (runStep_mirrors (watched_mirrors processor.toStep Cell.fst _) hnoted) ?_
  rintro ended _ rfl
  refine Mirrors.bind (Mirrors.read (R := Eq) fun _ => rfl) ?_
  rintro recorded _ rfl
  exact .done rfl

theorem runProcessors_mirrors (ctx : RunContext) (processors : List (Processor τ)) (k : Nat)
    (p : Progress) :
    Mirrors Watched.state True Eq
      (Importer.runProcessors (Watched.part Cell.snd) ctx (watchedProcessors k processors) p)
      (Importer.runProcessors Cell.snd ctx (processors.map processorOn) p) := by
  induction processors generalizing k p with
  | nil => exact .done rfl
  | cons processor rest ih =>
    refine Mirrors.bind (runProcessor_mirrors ctx processor k p.disk p.metrics) ?_
    rintro ⟨⟨outcome, logs⟩, metrics⟩ _ rfl
    cases outcome with
    | error e => exact .done rfl
    | ok disk => exact ih (k + 1) _

theorem runChain_mirrors (ctx : RunContext) (p : Progress) :
    Mirrors Watched.state True Eq ((parts.watched rest').runChain ctx p)
      ((parts.importer rest).runChain ctx p) := by
  have hprovider : Mirrors Watched.state True
      (fun answer' answer => ∃ base, answer' = lifted (watchedProcessors 0) base ∧
        answer = lifted (List.map processorOn) base)
      ((parts.watched rest').provider p.disk p.metrics)
      ((parts.importer rest).provider p.disk p.metrics) := by
    refine Mirrors.bind (Mirrors.watching (mirrors_on Cell.fst (parts.provider p.disk p.metrics))) ?_
    rintro base _ rfl
    exact .done ⟨base, rfl, rfl⟩
  refine Mirrors.bind hprovider ?_
  rintro _ _ ⟨⟨metrics, answer⟩, rfl, rfl⟩
  cases answer with
  | error e => exact .done rfl
  | ok processors => exact runProcessors_mirrors ctx processors 0 _

theorem runStages_mirrors (ctx : RunContext) :
    Mirrors Watched.state True Eq ((parts.watched rest').runStages ctx)
      ((parts.importer rest).runStages ctx) := by
  have hnoted : Mirrors Watched.state True Eq (parts.watched rest').notedInflation
      (parts.importer rest).notedInflation := by
    refine Mirrors.bind (watchedWork_mirrors Cell.fst _ () parts.inflater.inflate) ?_
    rintro result _ rfl
    refine Mirrors.bind (Mirrors.update fun _ => rfl) fun _ => ?_
    exact .done rfl
  refine Mirrors.bind (Mirrors.update fun _ => rfl) fun _ => ?_
  refine Mirrors.bind (runStep_mirrors (watched_mirrors parts.inflater.toStep Cell.fst _) hnoted) ?_
  rintro ⟨outcome, logs⟩ _ rfl
  refine Mirrors.bind (Mirrors.read (R := Eq) fun _ => rfl) ?_
  rintro left _ rfl
  cases outcome with
  | error failure => exact .done rfl
  | ok inflation => exact runChain_mirrors parts rest' rest ctx _

theorem cleanupDisk_mirrors (disk : PersistentDisk) :
    Mirrors Watched.state True Eq (cleanupDisk (parts.watched rest').platform parts.args disk)
      (cleanupDisk (parts.importer rest).platform parts.args disk) := by
  unfold cleanupDisk
  split
  · exact .done rfl
  · refine Mirrors.bind (Mirrors.watching (mirrors_on Cell.fst _)) ?_
    rintro answer _ rfl
    cases answer with
    | ok u => exact .done rfl
    | error e =>
      show Mirrors Watched.state True Eq (if (!e.isNotFound) = true then _ else _)
        (if (!e.isNotFound) = true then _ else _)
      split
      · exact Mirrors.bind (Mirrors.update fun _ => rfl) fun _ => .done rfl
      · exact .done rfl

theorem run_mirrors (cancelledAt : Option Nat) (deadlineFirst : Nat → Bool) :
    Mirrors Watched.state True Eq ((parts.watched rest').run cancelledAt deadlineFirst)
      ((parts.importer rest).run cancelledAt deadlineFirst) := by
  refine Mirrors.bind Mirrors.clock ?_
  rintro now _ rfl
  refine Mirrors.bind (Mirrors.watching (mirrors_on Cell.fst _)) ?_
  rintro verdict _ rfl
  cases verdict with
  | error e => exact .done rfl
  | ok u =>
    refine Mirrors.bind (runStages_mirrors parts rest' rest _) ?_
    rintro ⟨progress, result⟩ _ rfl
    refine Mirrors.bind (cleanupDisk_mirrors parts rest' rest progress.disk) ?_
    rintro outcome _ rfl
    have hreport : Mirrors Watched.state True Eq ((parts.watched rest').reportOutcome result)
        ((parts.importer rest).reportOutcome result) := by
      cases result with
      | ok u => exact .done rfl
      | error e => exact Mirrors.update fun _ => rfl
    refine Mirrors.bind hreport fun _ => ?_
    refine Mirrors.bind Mirrors.clock ?_
    rintro now' _ rfl
    exact .done rfl

end Mirrors

end ImportParts

/-! ## 7. Every run -/

/-- **What a run of an import shows.** -/
def ImportOutcome (args : Arguments) (ctx : RunContext) :
    Ending (ImportParts.Noted τ) (Metrics × Except ImportError Unit) → Prop
  | .returned (metrics, result) m => ImportLaw args ctx m.state.seen metrics result
  | .crashed why m => ImportHistory.Blown why m.state.seen
  | .stalled m => ImportHistory.Pending m.state.seen

/-- **The disk that is known last is deleted exactly once.**  Whatever the parts of an import do, whenever
it is run, whenever the caller cancels and whichever limit is noticed: its run with notes is one of the law, and
seen without the notes it is its run. -/
theorem run_deletes_once (parts : ImportParts τ) (rest' : Platform (ImportParts.Noted τ))
    (rest : Platform (τ × Recorded)) (cancelledAt : Option Nat) (deadlineFirst : Nat → Bool)
    (m : Moment (τ × Recorded)) :
    let watched := ((parts.watched rest').run cancelledAt deadlineFirst).attended.run ⟨m.now, ⟨m.state, []⟩⟩
    ImportOutcome parts.args (RunContext.starting m.now parts.args.timeout cancelledAt deadlineFirst) watched ∧
      Ending.Alike Watched.state Eq watched
        (((parts.importer rest).run cancelledAt deadlineFirst).attended.run m) := by
  intro watched
  constructor
  · have hsat := (parts.run_meets rest' cancelledAt deadlineFirst
      (m := ⟨m.now, ⟨m.state, []⟩⟩) rfl).run_attended (Terms.whole_closed _ _)
    show ImportOutcome _ _ watched
    cases hrun : watched with
    | returned value last =>
      rw [show Activity.run _ _ = _ from hrun] at hsat
      obtain ⟨h, hs, hlaw⟩ := hsat
      rw [List.nil_append] at hs
      show ImportLaw parts.args _ last.state.seen value.1 value.2
      rw [hs]
      exact hlaw
    | crashed why last =>
      rw [show Activity.run _ _ = _ from hrun] at hsat
      exact hsat
    | stalled last =>
      rw [show Activity.run _ _ = _ from hrun] at hsat
      obtain ⟨w, hready | hpending, hh, -⟩ := hsat
      · simp [Wake.holds, hready] at hh
      · exact hpending
  · exact (parts.run_mirrors rest' rest cancelledAt deadlineFirst).run_attended ⟨m.now, ⟨m.state, []⟩⟩

end ImageImport
