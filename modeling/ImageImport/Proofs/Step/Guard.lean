/-
# The rule of guarded steps

A guarded step is two races: its task against the end of the context, and, when the context is over
first, what is left of the task against the step's own cancel (`Step.lean`).  This module says once what
follows from the two for the whole, so that nobody who runs a step looks into `runTask` again.

The two races yield what the task has ended with and what the step was asked (`endTask`), and the outcome is
read off that (`judge`).

The rule is a structure, `Guarded`: on whatever terms the work and the cancel of a step are, its fields
say what has to be known of them, and `Guarded.endStep` is what is then known of the end of the task.  Whether
anybody was asked stands in two of the fields, `own` and `stopped`; the rest is how the knowledge of one
party survives what the other one does.
-/
import ImageImport.Proofs.Concurrency.Races
import ImageImport.Step

namespace ImageImport

variable {σ ε α β : Type}

/-! ## 1. The end of a task -/

/-- **How a task was brought to its end**: what it has ended with, and for which error the step was asked to
stop, with the answer, if it was asked. -/
abbrev TaskEnd (β : Type) := β × Option (ImportError × Bool)

/-- The task and the cancel, both to the end, when one of them has ended. -/
def joinAsked (e : ImportError) : Race σ β Bool → Activity σ (TaskEnd β)
  | .left ended rest => rest.bind fun interrupted => .done (ended, some (e, interrupted))
  | .right rest interrupted => rest.bind fun ended => .done (ended, some (e, interrupted))

/-- What is left of the task against the cancel. -/
def endAsked (cancel : String → Activity σ Bool) (e : ImportError) (task : Activity σ β) :
    Activity σ (TaskEnd β) := (Activity.race task (cancel (cancelReason e))).bind (joinAsked e)

/-- The task that has ended in time, or what is left of it against the cancel. -/
def joinDone (cancel : String → Activity σ Bool) : Race σ β ImportError → Activity σ (TaskEnd β)
  | .left ended _ => .done (ended, none)
  | .right rest e => endAsked cancel e rest

/-- The task against the context, and then against the cancel. -/
def endTask (ctx : RunContext) (cancel : String → Activity σ Bool) (task : Activity σ β) :
    Activity σ (TaskEnd β) := (Activity.race task ctx.done).bind (joinDone cancel)

/-- **The outcome**: that of the task, unless the step has answered that it was interrupted. -/
def judge (ofError : ImportError → ε) : TaskEnd (Except Crash (Except ε α)) → Except ε α
  | (ended, none) => taskOutcome ofError ended
  | (ended, some (e, interrupted)) => if interrupted then .error (ofError e) else taskOutcome ofError ended

theorem interrupt_eq (step : Step σ) (ofError : ImportError → ε) (e : ImportError)
    (task : Activity σ (Except Crash (Except ε α))) :
    interrupt step ofError e task = (endAsked step.cancel e task).bind fun x => .done (judge ofError x) := by
  simp only [interrupt, endAsked, Activity.alongside, Bind.bind, Pure.pure, Activity.bind_assoc]
  congr 1
  funext x
  cases x with
  | left ended rest =>
    simp only [joinAsked, Activity.bind_assoc, Activity.bind]
    rfl
  | right rest i =>
    simp only [joinAsked, Activity.bind_assoc, Activity.bind]
    rfl

/-- **A task under a context** is brought to its end and then judged. -/
theorem runTask_eq (ctx : RunContext) (step : Step σ) (ofError : ImportError → ε)
    (task : Activity σ (Except Crash (Except ε α))) :
    runTask ctx step ofError task =
      (endTask ctx step.cancel task).bind fun x => .done (judge ofError x) := by
  simp only [runTask, endTask, Bind.bind, Activity.bind_assoc]
  congr 1
  funext x
  cases x with
  | left ended rest => rfl
  | right rest e => exact interrupt_eq step ofError e rest

/-! ## 2. The end of a context -/

namespace RunContext

/-- **Live at `start`, and not past its end** at `now`. -/
def LiveUntil (ctx : RunContext) (start now : Nat) : Prop :=
  ctx.err start = none ∧ ∀ d, ctx.endsAt = some d → now ≤ d

/-- **Found to be over**, with this error, by somebody who has waited since `start`. -/
def OverSince (ctx : RunContext) (start now : Nat) (e : ImportError) : Prop :=
  e = ctx.noticed now ∧ ∃ d, ctx.endsAt = some d ∧ now = max start d

theorem err_eq_none_iff (ctx : RunContext) (now : Nat) :
    ctx.err now = none ↔ ∀ d, ctx.endsAt = some d → now < d := by
  rw [← Option.not_isSome_iff_eq_none, err_isSome, reached]
  cases ctx.endsAt <;> simp

/-- A context that is found to be over is over. -/
theorem OverSince.err_isSome {ctx : RunContext} {start now : Nat} {e : ImportError}
    (h : ctx.OverSince start now e) : (ctx.err now).isSome = true := by
  obtain ⟨-, d, hd, rfl⟩ := h
  rw [RunContext.err_isSome, hd, reached, Option.any_some, decide_eq_true_eq]
  exact Nat.le_max_right start d

/-- A context that is over since it was first looked at. -/
theorem OverSince.late {ctx : RunContext} {start now : Nat} {e : ImportError}
    (h : ctx.OverSince start now e) (hs : ctx.err start ≠ none) : now = start := by
  obtain ⟨-, d, hd, rfl⟩ := h
  rcases Nat.lt_or_ge start d with hlt | hle
  · refine absurd ((err_eq_none_iff ctx start).mpr fun d' hd' => ?_) hs
    rw [hd, Option.some.injEq] at hd'
    omega
  · exact Nat.max_eq_left hle

/-- A context that was live when it was first looked at is found over at its very end. -/
theorem OverSince.atEnd {ctx : RunContext} {start now : Nat} {e : ImportError}
    (h : ctx.OverSince start now e) (hs : ctx.err start = none) :
    ctx.endsAt = some now ∧ start < now := by
  obtain ⟨-, d, hd, rfl⟩ := h
  have hlt := (err_eq_none_iff ctx start).mp hs d hd
  rw [hd, Nat.max_eq_right (Nat.le_of_lt hlt)]
  exact ⟨rfl, hlt⟩

/-- The wait for the end of the context. -/
def ending (ctx : RunContext) : Wake σ := ⟨fun _ => false, ctx.endsAt⟩

/-- **Whoever waits for the end of a context** meets any terms on which it does nothing: it waits while the
context is live, and yields what it notices of the context that is over. -/
theorem done_meets (ctx : RunContext) {T : Terms σ} {m : Moment σ} (hi : T.inv m) :
    (ctx.done : Activity σ ImportError).Meets T
      (fun _ m' => T.rely m.state m'.state ∧ ctx.LiveUntil m.now m'.now)
      (fun r m' => ∃ e, r = .ok e ∧ T.rely m.state m'.state ∧ T.inv m' ∧
        ctx.OverSince m.now m'.now e) m := by
  refine Activity.Meets.waitOr_bind hi (fun {m'} hr hi' hs hh => ⟨hr, ?_⟩) fun {m'} hr hi' hs hh => ?_
  · have hlive : ctx.err m.now = none := by
      refine (err_eq_none_iff ctx m.now).mpr fun d hd => ?_
      simp only [Wake.holds, hd, Option.any_some, Bool.false_or, decide_eq_false_iff_not] at hh
      omega
    refine ⟨hlive, fun d hd => ?_⟩
    have h1 := hs.due d hd
    have h2 := (err_eq_none_iff ctx m.now).mp hlive d hd
    omega
  · refine Activity.Meets.clock_bind (Activity.Meets.pure ⟨_, rfl, hr, hi', ?_⟩)
    cases hd : ctx.endsAt with
    | none => simp [Wake.holds, hd] at hh
    | some d =>
      simp only [Wake.holds, hd, Option.any_some, Bool.false_or, decide_eq_true_eq] at hh
      have h1 := hs.due d hd
      have h2 := hs.le
      exact ⟨rfl, d, hd, by omega⟩

end RunContext

/-! ## 3. What has to be known -/

/-- The terms of one that only looks on, and keeps what the others keep of `X`. -/
def Terms.onlooker (inv : Moment σ → Prop) (X : σ → Prop) : Terms σ where
  rely s t := X s → X t
  guar := Eq
  left := Eq
  inv
  rely_refl _ := id
  rely_trans h h' hx := h' (h hx)
  guar_refl _ := rfl
  guar_trans := Eq.trans
  left_refl _ := rfl

/-- **What has to be known of a guarded step**: of its work, which is on terms `A`, of its cancel, on terms
`C`, and of both together, on terms `P`.

`X` holds until the step is asked to stop, and `start` is the instant at which its task is left to itself.
`WA` and `QA` are the waits and the end of the work.  `WC` and `QC` are those of the cancel; they may speak
of the moment at which the step is asked, and of the error it is asked for. -/
structure Guarded (ctx : RunContext) (cancel : String → Activity σ Bool) (start : Nat)
    (P A C : Terms σ) (W WA : Wake σ → Moment σ → Prop)
    (WC : Moment σ → ImportError → Wake σ → Moment σ → Prop) (X : σ → Prop)
    (QA : Except Crash β → Moment σ → Prop)
    (QC : Moment σ → ImportError → Except Crash Bool → Moment σ → Prop)
    (Q : Except Crash (TaskEnd β) → Moment σ → Prop) : Prop where
  split : P.Split A C WA
  /-- The work crashes in its task only. -/
  caught : ∀ {why m}, ¬ QA (.error why) m
  /-- Nothing but the cancel ends `X`. -/
  work_keeps : ∀ {s t}, A.guar s t → X s → X t
  others_keep : ∀ {s t}, P.rely s t → X s → X t
  /-- Where the work waits, the whole waits, whatever else it waits for. -/
  waits_work : ∀ {u m}, WA u m → W u m ∧ ∀ v, W (u.either v) m
  waits_cancel : ∀ {m₁ e v m}, WC m₁ e v m → W v m
  /-- How the work has ended stays as the cancel goes on, and the other way round. -/
  work_stays : ∀ {r}, Stable C.guar (QA r) ∧ Stable P.rely (QA r)
  cancel_stays : ∀ {m₁ e r}, Stable A.guar (QC m₁ e r) ∧ Stable P.rely (QC m₁ e r)
  inv_work : ∀ {r m}, QA (.ok r) m → P.inv m
  inv_cancel : ∀ {m₁ e i m}, QC m₁ e (.ok i) m → P.inv m
  turn_cancel : ∀ {r m}, QA (.ok r) m → P.turn m → C.turn m
  /-- The cancel meets its terms whenever it can be asked for. -/
  asked : ∀ {m₁ e u}, X m₁.state → WA u m₁ → P.inv m₁ → ctx.OverSince start m₁.now e →
    (cancel (cancelReason e)).Meets C (WC m₁ e) (QC m₁ e) m₁
  /-- **The work ends before the context**: nobody is asked. -/
  own : ∀ {r m}, QA (.ok r) m → X m.state → ctx.LiveUntil start m.now → Q (.ok (r, none)) m
  /-- **The context is over first**: the step is asked, and answers. -/
  stopped : ∀ {m₁ e u r i m}, X m₁.state → WA u m₁ → ctx.OverSince start m₁.now e → QA (.ok r) m →
    QC m₁ e (.ok i) m → Q (.ok (r, some (e, i))) m
  /-- A cancel that crashes crashes the step. -/
  blown : ∀ {m₁ e why m}, QC m₁ e (.error why) m → Q (.error why) m

namespace Guarded

variable {ctx : RunContext} {cancel : String → Activity σ Bool} {start : Nat}
  {P A C : Terms σ} {W WA : Wake σ → Moment σ → Prop}
  {WC : Moment σ → ImportError → Wake σ → Moment σ → Prop} {X : σ → Prop}
  {QA : Except Crash β → Moment σ → Prop}
  {QC : Moment σ → ImportError → Except Crash Bool → Moment σ → Prop}
  {Q : Except Crash (TaskEnd β) → Moment σ → Prop}

/-! ## 4. The two races -/

/-- A task that is found at a wait, ready to go on. -/
def Pausing (A : Terms σ) (WA : Wake σ → Moment σ → Prop) (QA : Except Crash β → Moment σ → Prop)
    (task : Activity σ β) (m : Moment σ) : Prop :=
  (∃ wake leave next, task = .wait wake leave next) ∧ task.Ready A WA QA m

/-- Where both wait, the whole waits. -/
theorem waits_both (g : Guarded ctx cancel start P A C W WA WC X QA QC Q)
    {WB : Wake σ → Moment σ → Prop} {w : Wake σ} {m : Moment σ} (h : Wake.OfBoth WA WB w m) : W w m := by
  obtain ⟨u, v, rfl, hu, -⟩ := h
  exact (g.waits_work hu).2 v

/-- **The step has been asked to stop**, and its task goes on beside the cancel. -/
theorem endAsked (g : Guarded ctx cancel start P A C W WA WC X QA QC Q) {task : Activity σ β}
    {e : ImportError} {m : Moment σ} (ht : Pausing A WA QA task m) (hi : P.inv m) (hX : X m.state)
    (ho : ctx.OverSince start m.now e) : (ImageImport.endAsked cancel e task).Meets P W Q m := by
  obtain ⟨⟨wake, leave, next, rfl⟩, hr⟩ := ht
  obtain ⟨hwa, -⟩ := hr.look ((g.split.inv_left _).mpr hi)
  have hend : ∀ {r i m'}, QA (.ok r) m' → QC m e (.ok i) m' → Q (.ok (r, some (e, i))) m' :=
    fun hqa hqc => g.stopped hX hwa ho hqa hqc
  -- the race, with either winner
  have hrace := Activity.Meets.race_waiting (Y := fun _ => True) g.split
    (fun _ _ => trivial) (fun _ => trivial) id hr (g.asked hX hwa hi ho)
  refine Activity.Meets.bind (Activity.Meets.weaken g.waits_both (fun {r m'} h => ?_) hrace)
  match r, h with
  | .ok (.left ended rest), ⟨hqa, _, hrest⟩ =>
    -- the task has ended, and the cancel goes on
    refine Activity.Meets.bind (Activity.Meets.weaken id (fun {i m''} h => ?_) (hrest.finish
      g.split.covers_right g.work_stays.1 g.work_stays.2 g.turn_cancel
      (fun h => (g.split.inv_right _).mpr (g.inv_work h)) (fun _ => g.waits_cancel) hqa))
    match i, h with
    | .ok i, ⟨hqa', hqc⟩ => exact hend hqa' hqc
    | .error why, ⟨_, hqc⟩ => exact g.blown hqc
  | .ok (.right rest i), ⟨hqc, _, hrest⟩ =>
    -- the cancel has answered, and the task goes on
    refine Activity.Meets.bind (Activity.Meets.weaken id (fun {r m''} h => ?_) (hrest.finish
      g.split.covers_left g.cancel_stays.1 g.cancel_stays.2 (fun _ => g.split.turn_left)
      (fun h => (g.split.inv_left _).mpr (g.inv_cancel h)) (fun _ h => (g.waits_work h).1) hqc))
    match r, h with
    | .ok r, ⟨hqc', hqa⟩ => exact hend hqa hqc'
    | .error why, ⟨_, hqa⟩ => exact absurd hqa g.caught
  | .error why, ⟨s, .inl ⟨hqa, _⟩⟩ => exact absurd hqa g.caught
  | .error why, ⟨s, .inr ⟨hqc, hs⟩⟩ => exact g.blown (g.cancel_stays.1 hqc hs (Nat.le_refl _))

/-- **The task against the end of the context.** -/
theorem endTask (g : Guarded ctx cancel start P A C W WA WC X QA QC Q) {task : Activity σ β}
    {m : Moment σ} (ht : Pausing A WA QA task m) (hi : P.inv m) (hX : X m.state) (hm : m.now = start) :
    (ImageImport.endTask ctx cancel task).Meets P W Q m := by
  obtain ⟨⟨wake, leave, next, rfl⟩, hr⟩ := ht
  have hs : P.Split A (.onlooker P.inv X) WA :=
    { rely_left := g.split.rely_left
      rely_right := g.others_keep
      across_left := fun h => h ▸ A.rely_refl _
      across_right := g.work_keeps
      guar_left := g.split.guar_left
      guar_right := fun h => h ▸ P.guar_refl _
      left_left := g.split.left_left
      left_right := fun h => h ▸ P.left_refl _
      inv_left := g.split.inv_left
      inv_right := fun _ => Iff.rfl
      turn_left := g.split.turn_left
      turn_right := fun _ _ _ => trivial }
  subst hm
  have hrace := Activity.Meets.race_waiting
    (Y := fun m' => X m'.state ∧ ctx.LiveUntil m.now m'.now) hs
    (fun hy ha => ⟨g.work_keeps ha hy.1, hy.2⟩) (fun hw => ⟨hw.1 hX, hw.2⟩) id hr
    (ctx.done_meets hi)
  refine Activity.Meets.bind (Activity.Meets.weaken g.waits_both (fun {r m'} h => ?_) hrace)
  match r, h with
  | .ok (.left ended _), ⟨hqa, ⟨hx, hlive⟩, _⟩ => exact g.own hqa hx hlive
  | .ok (.right rest e), ⟨⟨_, he, hx, hi', ho⟩, hpause, hrest⟩ =>
    cases he
    exact g.endAsked ⟨hpause, hrest⟩ hi' (hx hX) ho
  | .error why, ⟨s, .inl ⟨hqa, _⟩⟩ => exact absurd hqa g.caught
  | .error why, ⟨s, .inr ⟨⟨_, he, _⟩, _⟩⟩ => cases he

/-! ## 5. The whole -/

/-- **The task of a step, brought to its end.**  The task is left to itself at `start`; whether the context is
live is found out when it first acts, at the same instant, and work that must not start is not there at
all. -/
theorem endStep {QA : Except Crash (Except Crash (Except ε α)) → Moment σ → Prop}
    {Q : Except Crash (TaskEnd (Except Crash (Except ε α))) → Moment σ → Prop}
    (g : Guarded ctx cancel start P A C W WA WC X QA QC Q) {ofError : ImportError → ε}
    {work : Activity σ (Except ε α)} {m : Moment σ} (hi : P.inv m) (hX : X m.state)
    (hm : m.now = start)
    (hwaits : ∀ {w m'}, (∀ s, w.ready s = true) → A.rely m.state m'.state → m'.now = start → WA w m')
    (hlate : ∀ {e m'}, ctx.err start = some e → A.rely m.state m'.state → A.inv m' → m'.now = start →
      QA (.ok (.ok (.error (ofError e)))) m')
    (hwork : ∀ {m'}, ctx.err start = none → A.rely m.state m'.state → A.inv m' → m'.now = start →
      A.turn m' → work.Meets A WA (fun r => QA (.ok r)) m') :
    (ImageImport.endTask ctx cancel (stepTask ctx ofError work)).Meets P W Q m := by
  have hready : (stepTask ctx ofError work).Ready A WA QA m := by
    refine Activity.ready_spawned (fun hw hr hn => hwaits hw hr (hn.trans hm)) ?_
    intro m' hr hi' hn ht
    have hn' : m'.now = start := hn.trans hm
    refine Activity.Meets.caught (Activity.Meets.clock_bind ?_)
    rw [hn']
    cases he : ctx.err start with
    | some e => exact Activity.Meets.pure (hlate he hr hi' hn')
    | none => exact hwork he hr hi' hn' ht
  exact g.endTask ⟨⟨_, _, _, rfl⟩, hready⟩ hi hX hm

/-- What the work ends with is what the task ends with, whoever was asked. -/
theorem ended (g : Guarded ctx cancel start P A C W WA WC X QA QC Q) :
    Guarded ctx cancel start P A C W WA WC X QA QC fun r m => ∀ x, r = .ok x → QA (.ok x.1) m :=
  { g with
    own := by
      rintro r m hqa - - _ ⟨rfl⟩
      exact hqa
    stopped := by
      rintro m₁ e u r i m - - - hqa - _ ⟨rfl⟩
      exact hqa
    blown := by
      rintro m₁ e why m - _ ⟨⟩ }

end Guarded

/-! ## 6. Outcomes -/

/-- What is known of the outcome is known of the end it is read off. -/
def Judged (ofError : ImportError → ε) (Q : Except Crash (Except ε α) → Moment σ → Prop)
    (r : Except Crash (TaskEnd (Except Crash (Except ε α)))) (m : Moment σ) : Prop :=
  Q (r.map (judge ofError)) m

/-- The outcome of a step with its diagnostic lines, which are read when all is over. -/
def Reported (step : Step σ) (Q : Except Crash (Except ε α) → Moment σ → Prop) :
    Except Crash (Except ε α × List String) → Moment σ → Prop
  | .ok (outcome, logs), m => Q (.ok outcome) m ∧ logs = step.traceLogs m.state
  | .error why, m => Q (.error why) m

/-- **A guarded step**, from the end of its task to its outcome. -/
theorem runStep_meets {T : Terms σ} {W : Wake σ → Moment σ → Prop} {ctx : RunContext} {step : Step σ}
    {ofError : ImportError → ε} {work : Activity σ (Except ε α)}
    {Q : Except Crash (Except ε α) → Moment σ → Prop} {m : Moment σ}
    (h : (endTask ctx step.cancel (stepTask ctx ofError work)).Meets T W (Judged ofError Q) m) :
    (runStep ctx step ofError work).Meets T W (Reported step Q) m := by
  unfold runStep
  rw [runTask_eq]
  refine Activity.Meets.bind (Activity.Meets.bind (Activity.Meets.weaken id (fun {r m'} hq => ?_) h))
  match r, hq with
  | .ok ended, hq => exact Activity.Meets.read_bind (Activity.Meets.pure ⟨hq, rfl⟩)
  | .error why, hq => exact hq

end ImageImport
