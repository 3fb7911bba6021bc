/-
# A guarded step settles

A guarded step waits for its worker, the task its work runs in, whichever way it is going to return: when the worker
has ended by itself or crashed, and when the context is over and the cancel has answered, be it yes or no.  Only then
are the diagnostic lines read.

Main statement: `runStep_settles`, over every run.  A run that returns leaves neither the worker nor a cancel under way
(`StepHistory.Settled`), its lines are those of the state it returns in, and what the step keeps of its lines with every
change it makes has been kept since each moment of the run.

The worker has notes of its own here.  In `Proofs/Step/Outcome.lean` it is the work that is noted, and work that comes
too late is not started at all; but there is a worker in any case, and somebody has to wait for it.
-/
import ImageImport.Proofs.Concurrency.Moments
import ImageImport.Proofs.Step.Lines
import ImageImport.Proofs.Step.Outcome

namespace ImageImport

open Activity

variable {σ τ ε α ω : Type}

/-! ## 1. The worker and its notes -/

/-- The notes of a worker that ends with an outcome. -/
abbrev WorkerNote (ε α : Type) := StepNote Unit (Except ε α)

/-- **The worker of a step** with its notes.  It begins and it ends, also where the context does not let the work
start. -/
def notedWorker (ctx : RunContext) (ofError : ImportError → ε) (work : Activity τ (Except ε α)) :
    Activity (Watched τ (WorkerNote ε α)) (Except Crash (Except ε α)) :=
  (spawned (watchedWork .whole id () (guardedWork ctx ofError work))).caught

/-- **The step with the notes of its worker and of its cancel.** -/
def runNoted (ctx : RunContext) (step : Step τ) (ofError : ImportError → ε) (work : Activity τ (Except ε α)) :
    Activity (Watched τ (WorkerNote ε α)) (Except ε α × List String) := do
  let outcome ← runTask ctx (step.watched .whole id) ofError (notedWorker ctx ofError work)
  return (outcome, ← Activity.read (step.watched .whole (id : WorkerNote ε α → _)).traceLogs)

theorem runNoted_mirrors (ctx : RunContext) (step : Step τ) (ofError : ImportError → ε)
    (work : Activity τ (Except ε α)) :
    Mirrors Watched.state True Eq (runNoted ctx step ofError work) (runStep ctx step ofError work) := by
  have hstep := watched_mirrors step .whole (id : WorkerNote ε α → _)
  have hwork := watchedWork_mirrors .whole (id : WorkerNote ε α → _) () (guardedWork ctx ofError work)
  simp only [Step.on, Activity.on_whole] at hstep hwork
  have htask : Mirrors Watched.state False Eq (notedWorker ctx ofError work) (stepTask ctx ofError work) :=
    hwork.spawned.caught.mono id eq_of_alike
  refine Mirrors.bind (runTask_mirrors hstep htask) ?_
  rintro outcome _ rfl
  refine Mirrors.bind (Mirrors.read hstep.traceLogs) ?_
  rintro lines _ rfl
  exact .done rfl

/-! ## 2. Settled -/

namespace StepHistory

/-- **Nothing is under way any more.**  The worker has begun, at once, and has ended; and a cancel that was asked for
has answered. -/
structure Settled (start : Nat) (h : StepHistory Unit ω) : Prop where
  worker : ∃ t r, h.ofWork = [(start, .started ()), (t, .ended r)]
  cancel : h.ofCancel = [] ∨
    ∃ t reason t' answer, h.ofCancel = [(t, .asked reason), (t', .answered (.ok answer))]

end StepHistory

/-! What the two parties know, when nobody else writes notes. -/

section Known

variable {s : Watched τ (WorkerNote ε α)} {h : StepHistory Unit (Except ε α)}

theorem ofWork_seen (hw : WorkSays id [] h s) : StepHistory.ofWork s.seen = h := by
  obtain ⟨h', hs, hw⟩ := hw
  rw [hs, List.nil_append, keptAs_id, hw]

theorem ofCancel_seen (hc : CancelSays id [] h s) : StepHistory.ofCancel s.seen = h := by
  obtain ⟨h', hs, hc⟩ := hc
  rw [hs, List.nil_append, keptAs_id, hc]

theorem ofCancel_of_ends {m₁ m : Moment (Watched τ (WorkerNote ε α))} {e : ImportError} {r : Except Crash Bool}
    (hends : CancelEnds id [] m₁ e r m) :
    ∃ t, StepHistory.ofCancel m.state.seen = [(m₁.now, .asked (cancelReason e)), (t, .answered r)] := by
  obtain ⟨rest, t, ⟨hfirst, hseen⟩, hrest⟩ := hends
  have hnone := ofCancel_seen hfirst
  refine ⟨t, ?_⟩
  rw [hseen, keptAs_id, StepHistory.ofCancel_append, hnone, List.nil_append]
  show (m₁.now, _) :: StepHistory.ofCancel rest = _
  rw [hrest]

end Known

/-! ## 3. The worker is waited for -/

section Law

variable {ctx : RunContext} {ofError : ImportError → ε} {start : Nat}

/-- A context that is never over.  The notes of the worker are those of work in such a context. -/
abbrev RunContext.endless (start : Nat) : RunContext := .starting start none none

/-- The state has no slot. -/
abbrev noSlot : τ → Unit := fun _ => ()

/-- How the worker ends. -/
abbrev WorkerEnds (ofError : ImportError → ε) (start : Nat) (r : Except Crash (Except Crash (Except ε α)))
    (m : Moment (Watched τ (WorkerNote ε α))) : Prop :=
  TaskEnds (.endless start) ofError id noSlot (fun _ _ => True) [] start () r m

/-- How the two races end: settled, unless a cancel has crashed. -/
def Settles (start : Nat) {β : Type} (r : Except Crash β) (m : Moment (Watched τ (WorkerNote ε α))) : Prop :=
  match r with
  | .ok _ => StepHistory.Settled start m.state.seen
  | .error why => ∃ t, (t, StepNote.answered (.error why)) ∈ m.state.seen

theorem ofWork_of_ends {r : Except Crash (Except ε α)} {m : Moment (Watched τ (WorkerNote ε α))}
    (hends : WorkerEnds ofError start (.ok r) m) :
    ∃ t, StepHistory.ofWork m.state.seen = [(start, .started ()), (t, .ended r)] := by
  obtain ⟨r', hr, ⟨e, he, -⟩ | ⟨-, -, t, -, hnotes⟩⟩ := hends
  · cases he
  · cases hr
    exact ⟨t, ofWork_seen hnotes⟩

/-- **The rule**: whichever of the two is over first, the other one is waited for. -/
theorem noted_guarded (step : Step τ) :
    Guarded ctx (step.watched .whole id).cancel start (Terms.whole noSlot) (workTerms id noSlot)
      (cancelTerms id noSlot) (StepWaits id []) (WorkWaits (.endless start) id [] start ()) (CancelWaits id [])
      (CancelSays id [] []) (WorkerEnds ofError start) (CancelEnds id [])
      (Settles (ε := ε) (α := α) start) := by
  refine watched_judged (fun _ _ => rfl) step (fun {r m} hends hX _ => ?_) (fun {m₁ e u r i m} _ _ hends hanswers => ?_)
    fun {m₁ e why m} hanswers => ?_
  · obtain ⟨t, hwork⟩ := ofWork_of_ends hends
    exact ⟨⟨t, _, hwork⟩, .inl (ofCancel_seen hX)⟩
  · obtain ⟨t, hwork⟩ := ofWork_of_ends hends
    obtain ⟨t', hcancel⟩ := ofCancel_of_ends hanswers
    exact ⟨⟨t, _, hwork⟩, .inr ⟨_, _, t', _, hcancel⟩⟩
  · obtain ⟨t, hcancel⟩ := ofCancel_of_ends hanswers
    refine ⟨t, (StepHistory.mem_ofCancel.mp ?_).1⟩
    rw [hcancel]
    simp

/-- **The step with its notes**, from its start to where the lines are read. -/
theorem runNoted_meets (ctx : RunContext) (step : Step τ) (ofError : ImportError → ε)
    (work : Activity τ (Except ε α)) {m : Moment (Watched τ (WorkerNote ε α))} (hnone : m.state.seen = []) :
    (runNoted ctx step ofError work).Meets (Terms.whole noSlot) (StepWaits id [])
      (fun r m' => Settles m.now r m' ∧ ∀ v, r = .ok v → v.2 = step.traceLogs m'.state.state) m := by
  have hnotes := WorkSays.nothing (f := (id : WorkerNote ε α → _)) hnone
  have hready : (notedWorker ctx ofError work).Ready (workTerms id noSlot)
      (WorkWaits (.endless m.now) id [] m.now ()) (WorkerEnds ofError m.now) m := by
    refine ready_spawned (fun {w m'} hready hr hn => .inl ⟨hn, hready, hnotes.extend hr.1⟩) fun {m'} hr _ hn _ => ?_
    refine Meets.caught (watchedWork_meets (fun _ _ => rfl) rfl hn (hnotes.extend hr.1) (fun {r n t} _ _ ht hw => ?_)
      (quiet_any _))
    exact ⟨r, rfl, .inr ⟨rfl, trivial, t, ht, hw⟩⟩
  have htask : (endTask ctx (step.watched .whole id).cancel (notedWorker ctx ofError work)).Meets (Terms.whole noSlot)
      (StepWaits id []) (Settles m.now) m :=
    (noted_guarded step).endTask ⟨⟨_, _, _, rfl⟩, hready⟩ trivial (.nothing hnone) rfl
  unfold runNoted
  rw [runTask_eq]
  refine Meets.bind (Meets.bind (Meets.weaken id (fun {r m'} h => ?_) htask))
  cases r with
  | ok ended =>
    refine Meets.read_bind (Meets.pure ⟨h, ?_⟩)
    rintro _ ⟨rfl⟩
    rfl
  | error why =>
    refine ⟨h, ?_⟩
    rintro _ ⟨⟩

end Law

/-! ## 4. What a step keeps of its lines -/

theorem Promise.noted {N : τ → τ → Prop} (h : Promise N) (κ : Type) :
    Promise fun s t : Watched τ κ => N s.state t.state := ⟨fun _ => h.refl _, h.trans⟩

/-- **A guarded step changes nothing** but what its worker and its cancel change. -/
theorem runTask_quiet {N : σ → σ → Prop} (hN : Promise N) (ctx : RunContext) {step : Step σ}
    (ofError : ImportError → ε) {task : Activity σ (Except Crash (Except ε α))} (htask : task.Quiet N fun _ => True)
    (hcancel : ∀ reason, (step.cancel reason).Quiet N fun _ => True) :
    (runTask ctx step ofError task).Quiet N fun _ => True := by
  have htrans : ∀ s t u, N s t → N t u → N s u := fun _ _ _ => hN.trans
  have hdone : (ctx.done : Activity σ ImportError).Quiet N fun _ => True :=
    uniform_any.bind (always_waitOr hN.refl trivial _) fun _ =>
      uniform_any.bind (uniform_any.clock hN.refl) fun _ => uniform_any.done _
  refine Always.bind (Always.race_both hN.refl htrans htask hdone) (fun {r} hr => ?_) fun _ => trivial
  cases r with
  | left ended rest => exact uniform_any.done _
  | right rest e =>
    -- the step is asked to stop, and its worker goes on
    refine Always.bind (uniform_any.alongside hN.refl htrans hr.2 (hcancel _)) (fun {r} hr => ?_) fun _ => trivial
    exact uniform_any.bind (hr.2 _ _ rfl) fun _ => uniform_any.done _

/-- Notes are no change. -/
theorem quiet_watching {N : τ → τ → Prop} (hN : Promise N) {κ β : Type} {a : Activity τ β}
    (h : a.Quiet N fun _ => True) (called : κ) (ended : Except Crash β → κ) :
    (watching called ended (a.on (Watched.part .whole))).Quiet (fun s t => N s.state t.state) fun _ => True := by
  have hnote : ∀ n : κ, (note n : Activity (Watched τ κ) Unit).Quiet (fun s t => N s.state t.state) fun _ => True :=
    fun n m => ⟨hN.refl _, trivial⟩
  have hon : (a.on (Watched.part .whole : Cell (Watched τ κ) τ)).Quiet (fun s t => N s.state t.state) fun _ => True :=
    h.on (fun _ _ h => h) fun task ht => ht.on fun _ _ h => h
  have hcaught : (a.on (Watched.part .whole : Cell (Watched τ κ) τ)).caught.Quiet (fun s t => N s.state t.state)
      fun _ => True := Always.caught hon
  refine uniform_any.bind (hnote called) fun _ => uniform_any.bind hcaught fun r =>
    uniform_any.bind (hnote _) fun _ => ?_
  cases r with
  | ok v => exact uniform_any.done v
  | error why => trivial

theorem Step.Keeps.runNoted {kept : List String → List String → Prop} (hkept : Promise kept) {step : Step τ}
    {work : Activity τ (Except ε α)} (h : step.Keeps kept work) (ctx : RunContext) (ofError : ImportError → ε) :
    (runNoted ctx step ofError work).Quiet (fun s t => step.LinesKept kept s.state t.state) fun _ => True := by
  have hlines := hkept.lines step
  have hnoted := hlines.noted (WorkerNote ε α)
  have hguarded : (guardedWork ctx ofError work).Quiet (step.LinesKept kept) fun _ => True := by
    refine uniform_any.bind (uniform_any.clock hlines.refl) fun now => ?_
    cases ctx.err now with
    | some e => exact uniform_any.done _
    | none => exact h.work
  have hworker : (notedWorker ctx ofError work).Quiet (fun s t => step.LinesKept kept s.state t.state)
      fun _ => True := Always.caught (Always.spawned hnoted.refl (quiet_watching hlines hguarded _ _))
  refine uniform_any.bind (runTask_quiet hnoted ctx ofError hworker fun reason => ?_)
    fun outcome => uniform_any.bind (uniform_any.read hnoted.refl) fun lines => uniform_any.done (outcome, lines)
  exact quiet_watching hlines (h.cancel reason) _ _

/-! ## 5. Every run -/

/-- **What a run of a step shows** that passes the moments `passed`.  If it returns, the step is settled, its lines are
those of the state it returns in, and what it keeps of them it has kept since each moment passed.  If it crashes, a
cancel has.  If it stalls, the worker or a cancel is still under way. -/
def SettledOutcome (step : Step τ) (work : Activity τ (Except ε α)) (start : Nat)
    (passed : List (Moment (Watched τ (WorkerNote ε α)))) :
    Ending (Watched τ (WorkerNote ε α)) (Except ε α × List String) → Prop
  | .returned (_, lines) last =>
    StepHistory.Settled start last.state.seen ∧ lines = step.traceLogs last.state.state ∧
      ∀ kept, Promise kept → step.Keeps kept work → ∀ m ∈ passed, kept (step.traceLogs m.state.state) lines
  | .crashed why last => ∃ t, (t, .answered (.error why)) ∈ last.state.seen
  | .stalled last => StepHistory.Open last.state.seen

/-- **A guarded step leaves nothing running and loses no line.**  Whatever the context, the step and its work, and
whatever the work and the cancel do to each other: the run with notes ends as `SettledOutcome` says, and seen without
the notes it is the run of the step. -/
theorem runStep_settles (ctx : RunContext) (step : Step τ) (ofError : ImportError → ε)
    (work : Activity τ (Except ε α)) (m : Moment τ) :
    let noted := (runNoted ctx step ofError work).attended
    let start : Moment (Watched τ (WorkerNote ε α)) := ⟨m.now, ⟨m.state, []⟩⟩
    SettledOutcome step work m.now (noted.moments start) (noted.run start) ∧
      Ending.Alike Watched.state Eq (noted.run start) ((runStep ctx step ofError work).attended.run m) := by
  intro noted start
  refine ⟨?_, (runNoted_mirrors ctx step ofError work).run_attended start⟩
  have hsat := (runNoted_meets ctx step ofError work (m := start) rfl).run_attended (Terms.whole_closed _ _)
  have hkeeps : ∀ kept, Promise kept → step.Keeps kept work → ∀ m' ∈ noted.moments start,
      kept (step.traceLogs m'.state.state) (step.traceLogs (noted.run start).moment.state.state) := by
    intro kept hkept hstep m' hm'
    have hnoted := (hkept.lines step).noted (WorkerNote ε α)
    have hquiet := (hstep.runNoted hkept ctx ofError).attended hnoted.refl
    exact Always.kept_since (N := fun s t => step.LinesKept kept s.state t.state) hnoted.refl
      (fun _ _ _ => hnoted.trans) hquiet hm'
  cases hrun : noted.run start with
  | returned value last =>
    rw [hrun] at hsat hkeeps
    obtain ⟨hsettled, hlines⟩ := hsat
    have hread := hlines value rfl
    exact ⟨hsettled, hread, hread ▸ hkeeps⟩
  | crashed why last =>
    rw [hrun] at hsat
    exact hsat.1
  | stalled last =>
    rw [hrun] at hsat
    obtain ⟨w, hready | ⟨h, hs, hopen⟩, hh, -⟩ := hsat
    · simp [Wake.holds, hready] at hh
    · rw [keptAs_id, List.nil_append] at hs
      rw [← hs] at hopen
      exact hopen

end ImageImport
