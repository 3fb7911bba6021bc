/-
# The guarded inflation of a divided import

The inflation of an import is a guarded step, and with a shadow it has company.  Seen without the shadow its
task is the task of the main inflation alone, brought to its end by the same context (`stage_follows`), and
everything it hands on is read off how that one has ended: its outcome, what it has left, and its diagnostic
lines, but for what the shadow adds.

Main statement: `inflated`.  What is not said is *when* the inflation is over.  The main inflation alone is over
at an instant of its own; with a shadow the inflation is over then or later.
-/
import ImageImport.Proofs.Concurrency.Places
import ImageImport.Proofs.Import.Cleanup
import ImageImport.Proofs.Shadow.Divided

namespace ImageImport

open Activity
open ImportParts (Noted)

variable {τ υ : Type}

/-! ## 1. The task alone -/

/-- How the task of the main inflation alone was brought to its end: with an error of the context, or with what
the inflation has ended with, or with a crash. -/
abbrev LoneEnd := TaskEnd (Except Crash (ImportError ⊕ Except InflationFailure Inflation))

/-- **The guarded inflation without a shadow.** -/
def MainParts.loneStage (parts : MainParts τ) (ctx : RunContext) : Activity (τ × Bool) LoneEnd :=
  endTask ctx parts.alone.inflater.cancel (loneTask ctx parts.alone.inflater.inflate)

namespace LoneEnd

/-- What the task of a step ends with in its place. -/
def task : Except Crash (ImportError ⊕ Except InflationFailure Inflation) →
    Except Crash (Except InflationFailure Inflation)
  | .ok (.inl e) => .ok (.error (.ofError e))
  | .ok (.inr result) => .ok result
  | .error why => .error why

/-- **The outcome** that is handed on, without what a shadow adds. -/
def outcome (x : LoneEnd) : Except InflationFailure Inflation :=
  outcomeWithoutShadow (judge .ofError (task x.1, x.2))

/-- **What the inflation has left**, without what a shadow adds; nothing, if it was entered when the context was
over. -/
def left (ctx : RunContext) (start : Nat) (x : LoneEnd) : Inflation :=
  if (ctx.err start).isSome then {} else (leftBy (some (task x.1))).withoutShadow

end LoneEnd

/-! ## 2. What is handed on -/

/-- What the task with company ends with, and what is handed on, for how the one alone was brought to its end. -/
theorem outcome_of_sameEnd {x : LoneEnd} {x' : TaskEnd (Except Crash (Except InflationFailure Inflation))}
    (h : SameEnd (ShowsTask InflationFailure.ofError Compared) x x') :
    outcomeWithoutShadow (judge .ofError x') = x.outcome ∧
      (leftBy (some x'.1)).withoutShadow = (leftBy (some (LoneEnd.task x.1))).withoutShadow := by
  obtain ⟨ended, asked⟩ := x
  obtain ⟨ended', asked'⟩ := x'
  obtain ⟨hshows, hasked⟩ := h
  have htask : outcomeWithoutShadow (taskOutcome .ofError ended') =
      outcomeWithoutShadow (taskOutcome .ofError (LoneEnd.task ended)) ∧
        (leftBy (some ended')).withoutShadow = (leftBy (some (LoneEnd.task ended))).withoutShadow := by
    match ended, hshows with
    | .ok (.inl e), hshows =>
      rw [show ended' = _ from hshows]
      exact ⟨rfl, rfl⟩
    | .ok (.inr result), ⟨shown, hshown, hcompared⟩ =>
      rw [show ended' = _ from hshown]
      refine ⟨outcomeWithoutShadow_compared hcompared, ?_⟩
      show (Inflation.left shown).withoutShadow = (Inflation.left result).withoutShadow
      rw [left_withoutShadow, left_withoutShadow, outcomeWithoutShadow_compared hcompared]
    | .error why, hshows =>
      rw [show ended' = _ from hshows]
      exact ⟨rfl, rfl⟩
  refine ⟨?_, htask.2⟩
  rcases hasked with hasked | ⟨hnone, e, hasked⟩
  · -- both were asked for the same error, or neither was
    rw [show asked' = asked from hasked]
    cases asked with
    | none => exact htask.1
    | some a =>
      obtain ⟨e, interrupted⟩ := a
      cases interrupted with
      | true => rfl
      | false => exact htask.1
  · rw [show asked' = _ from hasked, show asked = _ from hnone]
    exact htask.1

/-! ## 3. The stage follows -/

/-- What the import with a shadow shows of itself: whatever is not the shadow's, nor a note. -/
def mainView (s : Noted (Divided τ υ)) : τ × Bool := s.state.1.unshadowed

section

variable {parts : MainParts τ} {shadow : Inflater υ} {rest : Platform (Divided τ υ)}
  {rest' : Platform (Noted (Divided τ υ))} {ctx : RunContext}

/-- The inflation notes what it leaves, and that is not seen either. -/
theorem notedInflation_follows (h : parts.Settled) (hshadow : shadow.toStep.CancelsSafely)
    (n : Moment (Noted (Divided τ υ))) :
    Follows mainView (Lingers mainView (fun s => s.2 = true) Compared)
      ((parts.withShadow shadow rest).watched rest').notedInflation parts.alone.inflater.inflate n := by
  have hwatched : Follows mainView (Lingers mainView (fun s => s.2 = true) Compared)
      (watchedWork Cell.fst ImportNote.inflation () (parts.inflation shadow rest).inflate)
      parts.alone.inflater.inflate n :=
    Follows.watching Cell.fst (fun n => (h.beside hshadow rest).inflate_follows (m := n)) n
  refine hwatched.andThen fun {r b' n} hd => ?_
  match r, hd with
  | .ok x, ⟨hended, hq⟩ =>
    refine .ended ⟨hended, hq.bind (fun {y} hy => ?_) fun hcrash => ?_⟩
    · exact fun _ => ⟨rfl, hy⟩
    · obtain ⟨y, hy, -⟩ := hcrash
      cases hy
  | .error why, hd =>
    rw [show b' = _ from hd]
    exact .blown rfl

/-- **The guarded inflation with a shadow follows the one without.** -/
theorem stage_follows (h : parts.Settled) (hshadow : shadow.toStep.CancelsSafely)
    (m : Moment (Noted (Divided τ υ))) :
    Follows mainView (EndRest mainView (ShowsTask InflationFailure.ofError Compared))
      (endTask ctx ((parts.withShadow shadow rest).watched rest').inflater.cancel
        (stepTask ctx .ofError ((parts.withShadow shadow rest).watched rest').notedInflation))
      (parts.loneStage ctx) m := by
  have hbeside := h.beside hshadow rest
  have hcancel : ∀ reason n, Follows mainView (CancelRest mainView)
      (((parts.withShadow shadow rest).watched rest').inflater.cancel reason)
      (parts.alone.inflater.cancel reason) n := fun reason n =>
    Follows.watching Cell.fst (fun n => hbeside.cancel_follows (m := n) reason) n
  -- a cancel that is given up has not begun: it starts with a note
  have habandon : ∀ reason s, Unseen mainView s
      ((((parts.withShadow shadow rest).watched rest').inflater.cancel reason).abandon s) := fun _ _ => rfl
  exact endTask_follows ctx habandon (fun reason {_} hn => ShadowedInflation.loneCancel_refuses hn reason)
    hcancel (fun n => stepTask_follows (notedInflation_follows h hshadow) n) m

/-! ## 4. The stage, from where it was entered to where it was over -/

/-- **What a guarded inflation with a shadow hands on**, when the one without is entered at `start`, and `h₀` are
the notes of everything else by then. -/
structure HandsOn (parts : MainParts τ) (shadow : Inflater υ) (ctx : RunContext) (start : Moment (τ × Bool))
    (h₀ : ImportHistory) (x : LoneEnd) (n : Moment (τ × Bool))
    (handed : Except InflationFailure Inflation × List String) (q : Place (Noted (Divided τ υ))) : Prop where
  alone : (parts.loneStage ctx).run start = .returned x n
  outcome : outcomeWithoutShadow handed.1 = x.outcome
  state : unshadowed q.moment.state = ⟨(n.state, { inflation := x.left ctx start.now }), h₀⟩
  lines : ∃ u, handed.2 = parts.main.traceLogs n.state.1 ++ shadow.traceLogs u
  /-- Whatever has been left behind is the shadow's. -/
  company : q.tasks.Keeps (Unseen unshadowed)

/-- The end of the task is the end of the one alone, as far as it is seen. -/
theorem stage_passes (h : parts.Settled) (hshadow : shadow.toStep.CancelsSafely) {p q : Place (Noted (Divided τ υ))}
    (htasks : p.tasks = .ended) {x' : TaskEnd (Except Crash (Except InflationFailure Inflation))}
    (hleads : (endTask ctx ((parts.withShadow shadow rest).watched rest').inflater.cancel
      (stepTask ctx .ofError ((parts.withShadow shadow rest).watched rest').notedInflation)).Leads p x' q) :
    ∃ x n, (parts.loneStage ctx).run (p.moment.through mainView) = .returned x n ∧
      SameEnd (ShowsTask InflationFailure.ofError Compared) x x' ∧ mainView q.moment.state = n.state ∧
        q.tasks.Keeps (Unseen mainView) := by
  have hended : p.tasks.Keeps (Unseen mainView) := by
    rw [htasks]
    trivial
  obtain ⟨r, b', tasks, n, hd, htasks', hrest, halone⟩ :=
    (stage_follows h hshadow p.moment).run hended hleads
  match r, hd with
  | .ok x, hd =>
    have hplace : (Place.mk n tasks).tasks.Keeps (Terms.unseen mainView).left := htasks'
    obtain ⟨⟨⟨_, heq, hsame⟩, hview⟩, hq⟩ := hd.and_unseen.leads Terms.unseen_closed hplace hrest
    cases heq
    exact ⟨x, n.through mainView, halone, hsame, hview, hq⟩
  | .error why, hd =>
    rw [show b' = _ from hd] at hrest
    cases hrest

/-- What the inflation has left, and what has been noted, when its task is at its end. -/
theorem stage_left {p q : Place (Noted (Divided τ υ))} (htasks : p.tasks = .ended)
    (hleft : p.moment.state.state.2 = {})
    {x' : TaskEnd (Except Crash (Except InflationFailure Inflation))}
    (hleads : (endTask ctx ((parts.withShadow shadow rest).watched rest').inflater.cancel
      (stepTask ctx .ofError ((parts.withShadow shadow rest).watched rest').notedInflation)).Leads p x' q) :
    q.moment.state.state.2 =
        { inflation := if (ctx.err p.moment.now).isSome then {} else leftBy (some x'.1) } ∧
      ImportHistory.apartFromInflation q.moment.state.seen =
        ImportHistory.apartFromInflation p.moment.state.seen ∧ q.tasks.Keeps (Unnoted Prod.snd) := by
  have hslot : ∀ (t : Divided τ υ) (u : Divided τ υ × Recorded), (Cell.fst.set t u).2 = u.2 := fun _ _ => rfl
  have hmeets : (endTask ctx ((parts.withShadow shadow rest).watched rest').inflater.cancel
      (stepTask ctx .ofError ((parts.withShadow shadow rest).watched rest').notedInflation)).Meets
      ImportParts.terms (StepWaits ImportNote.inflation p.moment.state.seen)
      (fun r m => ∀ x, r = .ok x → TaskEnds ctx InflationFailure.ofError ImportNote.inflation Prod.snd
        (fun ended left => left = { inflation := leftBy ended }) p.moment.state.seen p.moment.now () (.ok x.1) m)
      p.moment :=
    watchedTask ImportNote.inflation_injective hslot (parts.withShadow shadow rest).inflater.toStep rfl rfl hleft
      fun hlive hn hw hs =>
        ImportParts.notedInflation_meets (parts.withShadow shadow rest) rest' hlive hn hw (hs.trans hleft)
  have hended : p.tasks.Keeps (Unnoted Prod.snd) := by
    rw [htasks]
    trivial
  obtain ⟨hends, hq⟩ := hmeets.leads (Terms.whole_closed _ _) hended hleads
  obtain ⟨r', hr', hcase⟩ := hends x' rfl
  cases hr'
  have hseen : ∀ {w}, WorkSays ImportNote.inflation p.moment.state.seen w q.moment.state →
      ImportHistory.apartFromInflation q.moment.state.seen =
        ImportHistory.apartFromInflation p.moment.state.seen := by
    rintro w ⟨l, hs, -⟩
    rw [hs, ImportHistory.apartFromInflation_keptAs]
  rcases hcase with ⟨e, he, -, hsaid, hz⟩ | ⟨hlive, hz, t, -, hsaid⟩
  · exact ⟨by rw [he]; exact hz, hseen hsaid, hq⟩
  · exact ⟨by rw [hlive]; exact hz, hseen hsaid, hq⟩

/-- **The guarded inflation hands on what the one without a shadow does**, but for what the shadow adds and for
the instant at which it is over. -/
theorem inflated (h : parts.Settled) (hshadow : shadow.toStep.CancelsSafely) {p q : Place (Noted (Divided τ υ))}
    (htasks : p.tasks = .ended) (hleft : p.moment.state.state.2 = {})
    {handed : Except InflationFailure Inflation × List String}
    (hleads : (runStep ctx ((parts.withShadow shadow rest).watched rest').inflater.toStep .ofError
      ((parts.withShadow shadow rest).watched rest').notedInflation).Leads p handed q) :
    ∃ x n, HandsOn parts shadow ctx (p.moment.through mainView)
      (ImportHistory.apartFromInflation p.moment.state.seen) x n handed q := by
  obtain ⟨outcome, q₀, htask, hread⟩ := leads_bind.mp hleads
  rw [runTask_eq] at htask
  obtain ⟨x', q₁, htask, hjudged⟩ := leads_bind.mp htask
  obtain ⟨rfl, rfl⟩ := leads_done.mp hjudged
  obtain ⟨lines, q₂, hlines, hdone⟩ := leads_bind.mp hread
  obtain ⟨rfl, rfl⟩ := leads_read.mp hlines
  obtain ⟨rfl, rfl⟩ := leads_done.mp hdone
  obtain ⟨x, n, halone, hsame, hview, hunseen⟩ := stage_passes h hshadow htasks htask
  obtain ⟨hslot, hseen, hunnoted⟩ := stage_left htasks hleft htask
  obtain ⟨houtcome, hleftBy⟩ := outcome_of_sameEnd hsame
  refine ⟨x, n, halone, houtcome, ?_, ⟨q.moment.state.state.1.shadow, ?_⟩, ?_⟩
  · show (⟨(mainView q.moment.state, q.moment.state.state.2.withoutShadow), _⟩ : Noted (τ × Bool)) = _
    have hnow : (p.moment.through mainView).now = p.moment.now := rfl
    rw [hview, hslot, hseen, LoneEnd.left, ← hleftBy, hnow]
    cases (ctx.err p.moment.now).isSome <;> rfl
  · rw [← hview]
    rfl
  · refine (hunseen.and hunnoted).mono fun {s t} ⟨hview, hseen, hslot⟩ => ?_
    show (⟨(mainView t, t.state.2.withoutShadow), ImportHistory.apartFromInflation t.seen⟩ : Noted (τ × Bool)) = _
    rw [show mainView t = mainView s from hview, hseen, show t.state.2 = s.state.2 from hslot]
    rfl

end

end ImageImport
