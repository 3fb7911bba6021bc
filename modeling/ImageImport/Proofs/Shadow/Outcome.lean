/-
# The outcome of a guarded inflation with a shadow

Main statement: `runStep_shadowed`, over every run.  A run that returns has a history and an outcome of
`ShadowedLaw`; its outcome is the error of the context exactly when the context was over before the main
inflation started, or became over while that was in flight and its cancel answered that it was interrupted.
A run that does not return has something to show for it: a cancel that crashed, or something that is still
under way.

It is not true that the main inflation alone decides (`main_overruled`).  A shadow that is told of a failure takes
the inflation with it when its cancel crashes, and keeps it when that cancel does not answer.  And the flag that
the main inflation has ended stays set, so an inflation that is run again is no longer interrupted.

The run is the one with notes.  That it is the run of the inflation itself, seen without them, is part of
the statement.
-/
import ImageImport.Proofs.Shadow.Guarded
import ImageImport.Rehearsal.Scene

namespace ImageImport

open Activity

variable {τ σ σ' : Type}

/-! ## 1. The notes change nothing -/

/-- An inflation with a shadow seen through `view`: both inflations, the log, and whether the main one has
ended. -/
structure ShadowedInflation.Mirrors (view : σ' → σ) (i' : ShadowedInflation σ')
    (i : ShadowedInflation σ) : Prop where
  main : Step.Mirrors view i'.main.toStep i.main.toStep
  mainInflate : Activity.Mirrors view True Eq i'.main.inflate i.main.inflate
  shadow : Step.Mirrors view i'.shadow.toStep i.shadow.toStep
  shadowInflate : Activity.Mirrors view True Eq i'.shadow.inflate i.shadow.inflate
  grace : i'.grace = i.grace
  log : ∀ severity line s,
    view (i'.platform.log severity line s) = i.platform.log severity line (view s)
  get : ∀ s, i'.mainFinished.get s = i.mainFinished.get (view s)
  set : ∀ b s, view (i'.mainFinished.set b s) = i.mainFinished.set b (view s)

section Mirrors

variable {view : σ' → σ} {i' : ShadowedInflation σ'} {i : ShadowedInflation σ}
  {task' : ShadowedInflation.ShadowTask σ'} {task : ShadowedInflation.ShadowTask σ}

open ShadowedInflation

theorem runMain_mirrors (h : i'.Mirrors view i) :
    Activity.Mirrors view True Eq i'.runMain i.runMain := by
  refine Activity.Mirrors.bind h.mainInflate ?_
  rintro result _ rfl
  refine Activity.Mirrors.bind (Activity.Mirrors.update (h.set true)) fun _ => ?_
  show Activity.Mirrors view True Eq (ite _ _ _) (ite _ _ _)
  split
  · exact .done rfl
  · exact Activity.Mirrors.bind (h.shadow.cancel _) fun _ => .done rfl

theorem collect_mirrors (h : i'.Mirrors view i) (ht : Activity.Mirrors view False Eq task' task) :
    Activity.Mirrors view True Eq (i'.collect task') (i.collect task) := by
  have hgrace : i'.graceMillis = i.graceMillis := by rw [graceMillis, h.grace, graceMillis]
  have habandon : ∀ {task' : ShadowTask σ'} {task : ShadowTask σ},
      Activity.Mirrors view False Eq task' task →
      Activity.Mirrors view True Eq (i'.collectOrAbandon task') (i.collectOrAbandon task) := by
    intro task' task ht
    rw [collectOrAbandon, collectOrAbandon, hgrace]
    exact (Activity.Mirrors.within _ ht).mono False.elim eq_of_alikeOptions
  rw [collect, collect, hgrace]
  refine Activity.Mirrors.bind ((Activity.Mirrors.waitedFor _ ht).mono False.elim id) fun {x' x} hx => ?_
  match x', x, hx with
  | .inl ended', .inl ended, hx => exact .done (congrArg some hx)
  | .inr rest', .inr rest, ⟨hrest, _⟩ =>
    show Activity.Mirrors view True Eq (i'.collectLate rest') (i.collectLate rest)
    rw [collectLate, collectLate, hgrace, h.grace]
    refine Activity.Mirrors.bind (Activity.Mirrors.update (h.log _ _)) fun _ => ?_
    refine Activity.Mirrors.bind (Activity.Mirrors.alongside False.elim hrest
      (Activity.Mirrors.within _ (h.shadow.cancel _)) False.elim) ?_
    rintro ⟨left', _⟩ ⟨left, _⟩ ⟨hleft, -⟩
    exact habandon hleft

theorem conclude_mirrors (h : i'.Mirrors view i) (ht : Activity.Mirrors view False Eq task' task)
    (result : Except InflationFailure Inflation) :
    Activity.Mirrors view True Eq (i'.conclude task' result) (i.conclude task result) := by
  refine Activity.Mirrors.bind (collect_mirrors h ht) ?_
  rintro shadow _ rfl
  show Activity.Mirrors view True Eq (ite _ _ _) (ite _ _ _)
  split
  · exact Activity.Mirrors.bind (Activity.Mirrors.update (h.log _ _)) fun _ => .done rfl
  · exact .done rfl

theorem inflate_mirrors (h : i'.Mirrors view i) :
    Activity.Mirrors view True Eq i'.inflate i.inflate := by
  have hmain : Activity.Mirrors view False Eq i'.runMain.caught i.runMain.caught :=
    (runMain_mirrors h).caught.mono id eq_of_alike
  have hshadow : Activity.Mirrors view False Eq (spawned i'.shadow.inflate).caught
      (spawned i.shadow.inflate).caught := h.shadowInflate.spawned.caught.mono id eq_of_alike
  refine Activity.Mirrors.bind
    ((Activity.Mirrors.leading id hmain hshadow False.elim).mono False.elim id) ?_
  rintro ⟨task', r'⟩ ⟨task, r⟩ ⟨htask, hr⟩
  cases hr
  cases r' with
  | ok result => exact conclude_mirrors h htask result
  | error why =>
    exact Activity.Mirrors.bind htask.settle fun hrest => .detach hrest.background (.crash trivial)

theorem cancel_mirrors (h : i'.Mirrors view i) (reason : String) :
    Activity.Mirrors view True Eq (i'.cancel reason) (i.cancel reason) := by
  refine Activity.Mirrors.bind (Activity.Mirrors.read h.get) ?_
  rintro flag _ rfl
  show Activity.Mirrors view True Eq (ite _ _ _) (ite _ _ _)
  split
  · exact Activity.Mirrors.bind (h.shadow.cancel _) fun _ => .done rfl
  · refine Activity.Mirrors.bind (Activity.Mirrors.both (h.main.cancel _) (h.shadow.cancel _)) ?_
    rintro ⟨answer', _⟩ ⟨answer, _⟩ ⟨hanswer, -⟩
    exact .done hanswer

/-- **An inflation with a shadow of what is mirrored**, as a step. -/
theorem inflater_mirrors (h : i'.Mirrors view i) :
    Step.Mirrors view i'.inflater.toStep i.inflater.toStep where
  cancel := cancel_mirrors h
  traceLogs s := by
    show i'.main.traceLogs s ++ i'.shadow.traceLogs s = _
    rw [h.main.traceLogs s, h.shadow.traceLogs s]
    rfl

end Mirrors

namespace ShadowedParts

theorem watched_mirrors (parts : ShadowedParts τ) (rest' : Platform (Noted τ))
    (rest : Platform (τ × Bool)) :
    (parts.watched rest').Mirrors Watched.state (parts.inflation rest) where
  main := ImageImport.watched_mirrors parts.main.toStep Cell.fst ShadowedNote.main
  mainInflate := watchedWork_mirrors Cell.fst ShadowedNote.main () parts.main.inflate
  shadow :=
    { cancel := fun reason => .watching (mirrors_on Cell.fst (parts.shadow.cancel reason))
      traceLogs := fun _ => rfl }
  shadowInflate := mirrors_on Cell.fst parts.shadow.inflate
  grace := rfl
  log _ _ _ := rfl
  get _ := rfl
  set _ _ := rfl

end ShadowedParts

/-! ## 2. Every run -/

/-- **What a run of a guarded inflation with a shadow shows.** -/
def ShadowedOutcome (ctx : RunContext) (parts : ShadowedParts τ) (start : Nat) :
    Ending (ShadowedParts.Noted τ) (Except InflationFailure Inflation × List String) → Prop
  | .returned (outcome, lines) m =>
    ShadowedLaw ctx start m.state.seen outcome ∧
      ((∃ e, ctx.Error e ∧ outcome = .error (.ofError e)) ↔
        ctx.err start ≠ none ∨ (ShadowedHistory.ofMain m.state.seen).Interrupted ctx) ∧
      lines = parts.main.traceLogs m.state.state.1 ++ parts.shadow.traceLogs m.state.state.1
  | .crashed why m => ShadowedHistory.Blown why m.state.seen
  | .stalled m => ShadowedHistory.Open m.state.seen

/-- **What the main inflation decides.**  Whatever the two inflations do, to their common state and to each other,
and whenever the context is over: the run with notes keeps to the law, and seen without the notes it is the
run of the guarded inflation. -/
theorem runStep_shadowed (ctx : RunContext) (parts : ShadowedParts τ)
    (rest' : Platform (ShadowedParts.Noted τ)) (rest : Platform (τ × Bool)) (m : Moment τ) :
    let watched :=
      (runStep ctx (parts.watched rest').inflater.toStep .ofError
        (parts.watched rest').inflate).attended.run ⟨m.now, ⟨(m.state, false), []⟩⟩
    ShadowedOutcome ctx parts m.now watched ∧
      Ending.Alike Watched.state Eq watched
        ((runStep ctx (parts.inflation rest).inflater.toStep .ofError
          (parts.inflation rest).inflate).attended.run ⟨m.now, (m.state, false)⟩) := by
  intro watched
  constructor
  · have hsat := (parts.runStep_meets rest' ctx (m := ⟨m.now, ⟨(m.state, false), []⟩⟩) rfl
      rfl).run_attended (Terms.whole_closed _ _)
    show ShadowedOutcome ctx parts m.now watched
    cases hrun : watched with
    | returned value last =>
      rw [show Activity.run _ _ = _ from hrun] at hsat
      obtain ⟨hlaw, hlogs⟩ := hsat
      exact ⟨hlaw, ShadowedLaw.contextError_iff hlaw, hlogs⟩
    | crashed why last =>
      rw [show Activity.run _ _ = _ from hrun] at hsat
      exact hsat
    | stalled last =>
      rw [show Activity.run _ _ = _ from hrun] at hsat
      obtain ⟨w, hready | hdue | hopen, hh, hnone⟩ := hsat
      · simp [Wake.holds, hready] at hh
      · rw [hnone] at hdue
        cases hdue
      · exact hopen
  · have h := parts.watched_mirrors rest' rest
    exact (runStep_mirrors (inflater_mirrors h) (inflate_mirrors h)).run_attended _

/-! ## 3. What overrules the main inflation -/

section Rehearsed

open Rehearsal

/-- A main inflation that follows a script, with a shadow that succeeds at once and is cancelled like this. -/
def besideCancel (main : ActorScript) (cancel : Activity Scene Bool) : ShadowedParts Scene where
  main := (Scene.actor 0 main).inflater
  shadow := { (Scene.actor 1 {}).inflater with cancel := fun _ => cancel }
  grace := .ofMillis 50
  log := (Scene.platform .none).log

/-- The inflation of these parts. -/
def shadowedScene (parts : ShadowedParts Scene) : ShadowedInflation (Scene × Bool) :=
  parts.inflation (World.platform (Cell.fst.comp Scene.worldCell) .none)

/-- What comes of a guarded run within so many milliseconds: the disk, or the error. -/
def guardedFrom (parts : ShadowedParts Scene) (timeout : Nat) (m : Moment (Scene × Bool)) :
    Option (Except ImportError String) :=
  let i := shadowedScene parts
  let ctx := RunContext.starting m.now (some (.ofMillis timeout)) none
  ((runStep ctx i.inflater.toStep .ofError i.inflate).attended.run m).value?.map fun ended =>
    (ended.1.mapError (·.error)).map (·.disk.uri)

/-- An inflation that has not been run before. -/
def unusedScene : Moment (Scene × Bool) := ⟨0, (Scene.opening {}).state, false⟩

/-- The same when it has been run once. -/
def usedScene (parts : ShadowedParts Scene) : Moment (Scene × Bool) :=
  ((shadowedScene parts).inflate.attended.run unusedScene).moment

/-- A main inflation that fails at once. -/
def failsAtOnce : ActorScript := { finale := .failure (.inflation "no room") }

/-- A main inflation that takes 100 ms and can be interrupted. -/
def takesLong : ActorScript := { delay := 100, disk := some { uri := "main" } }

/-- **The main inflation can be overruled.**  Its failure is not what a guarded run comes to when the shadow's cancel
crashes, or does not answer.  And its success is not given up for the deadline, although its cancel would answer that
it was interrupted, when the inflation has been run before: it is not asked. -/
theorem main_overruled :
    (guardedFrom (besideCancel failsAtOnce (.done true)) 60000 unusedScene = some (.error (.inflation "no room")) ∧
      guardedFrom (besideCancel failsAtOnce (.crash ⟨none⟩)) 60000 unusedScene =
        some (.error (.internal "step task failed: task <id> panicked")) ∧
      guardedFrom (besideCancel failsAtOnce ((Activity.until_ fun _ => false).bind fun _ => .done true)) 60000
        unusedScene = none) ∧
    guardedFrom (besideCancel takesLong (.done true)) 50 unusedScene = some (.error (.timeout (.ofMillis 50))) ∧
      guardedFrom (besideCancel takesLong (.done true)) 50 (usedScene (besideCancel takesLong (.done true))) =
        some (.ok "main") :=
  ⟨⟨by rfl, by rfl, by rfl⟩, by rfl, by rfl⟩

end Rehearsed

end ImageImport
