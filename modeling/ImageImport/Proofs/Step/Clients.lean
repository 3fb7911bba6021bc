/-
# Clients of a step

What a step answers to a cancel is asked of every history of calls: of one call after the other, of calls beside
one another, and of calls that depend on what the earlier ones have answered.  Such a history is made by a
`Client`, a program that calls the work of a step and its cancel.  What has returned is noted, and with each
answer of a cancel whether some work had returned before the cancel was called (`CallNote`).

Main statement: `Lasting.cancels`.  When something holds of the state from then on that the work returns, and
a cancel that is called while it holds answers as it is allowed to, then it does so in every history.
-/
import ImageImport.Proofs.Concurrency.SharedPromise
import ImageImport.Step

namespace ImageImport

open Activity

variable {σ ι ω : Type}

/-! ## 1. Histories of calls -/

/-- **A client**: what it calls, in which order, and what beside what.  It may go on as it has been answered. -/
inductive Client (ι ω : Type) where
  | stop
  | work (input : ι) (next : ω → Client ι ω)
  | cancel (reason : String) (next : Bool → Client ι ω)
  | pause (ms : Nat) (next : Client ι ω)
  | beside (left right next : Client ι ω)

/-- What has been answered.  A cancel was `late` when some work had returned before it was called. -/
inductive CallNote where
  | returned
  | cancelled (late answer : Bool)
  deriving DecidableEq

/-- What has been noted, each note with its instant. -/
abbrev CallHistory := List (Nat × CallNote)

/-- Some work has returned. -/
def CallHistory.hasReturned (h : CallHistory) : Bool := h.any fun n => n.2 == .returned

/-- **The calls of a client**, with their notes. -/
def Client.play (step : Step σ) (work : ι → Activity σ ω) :
    Client ι ω → Activity (Watched σ CallNote) Unit
  | .stop => .done ()
  | .work input next => do
    let outcome ← (work input).on Watched.inside
    Activity.note .returned
    (next outcome).play step work
  | .cancel reason next => do
    let late ← Activity.read fun s => CallHistory.hasReturned s.seen
    let answer ← (step.cancel reason).on Watched.inside
    Activity.note (.cancelled late answer)
    (next answer).play step work
  | .pause ms next => do
    Activity.sleep ms
    next.play step work
  | .beside left right next => do
    let _ ← Activity.both (left.play step work) (right.play step work)
    next.play step work

/-- **The history of a client** from a moment on: what is noted when all its calls have returned, or one of them
has crashed, or none of them can go on. -/
def Client.history (c : Client ι ω) (step : Step σ) (work : ι → Activity σ ω) (m : Moment σ) : CallHistory :=
  ((c.play step work).attended.run ⟨m.now, ⟨m.state, []⟩⟩).moment.state.seen

/-- **In every history each cancel answers as it is allowed to.** -/
def Step.Cancels (step : Step σ) (work : ι → Activity σ ω) (allowed : (late answer : Bool) → Prop) : Prop :=
  ∀ (c : Client ι ω) (m : Moment σ), ∀ t late answer,
    (t, .cancelled late answer) ∈ c.history step work m → allowed late answer

/-- **A late cancel is refused.** -/
def Step.RefusesLate (step : Step σ) (work : ι → Activity σ ω) : Prop :=
  step.Cancels work fun late answer => late = true → answer = false

/-- **Every cancel is obeyed**, be it late or not. -/
def Step.ObeysAlways (step : Step σ) (work : ι → Activity σ ω) : Prop :=
  step.Cancels work fun _ answer => answer = true

/-! ## 2. What lasts -/

/-- What holds once holds from then on. -/
theorem promise_lasting (past : σ → Prop) : Promise fun s t => past s → past t := ⟨fun _ => id, fun h h' => h' ∘ h⟩

/-- The terms of those who keep what holds. -/
abbrev Terms.lasting (past : σ → Prop) : Terms σ := .sharing (promise_lasting past)

/-- **Something lasts when the work has returned**: `past` holds from then on, whoever acts, and by it a cancel
knows how to answer. -/
structure Step.Lasting (past : σ → Prop) (allowed : (late answer : Bool) → Prop) (step : Step σ)
    (work : ι → Activity σ ω) : Prop where
  work : ∀ input m, (work input).Meets (.lasting past) Wake.anywhere
    (fun r m' => ∀ v, r = .ok v → past m'.state) m
  cancel : ∀ reason late m, (late = true → past m.state) → (step.cancel reason).Meets (.lasting past) Wake.anywhere
    (fun r _ => ∀ answer, r = .ok answer → allowed late answer) m

/-! ## 3. Every history -/

section Histories

variable {past : σ → Prop} {allowed : (late answer : Bool) → Prop} {step : Step σ} {work : ι → Activity σ ω}

/-- **What is noted is as it should be**: `past` holds since some work has returned, and every answer is
allowed. -/
structure Honest (past : σ → Prop) (allowed : (late answer : Bool) → Prop) (s : Watched σ CallNote) : Prop where
  past : CallHistory.hasReturned s.seen = true → past s.state
  answers : ∀ t late answer, (t, .cancelled late answer) ∈ s.seen → allowed late answer

theorem promise_honest (past : σ → Prop) (allowed : (late answer : Bool) → Prop) :
    Promise fun s t : Watched σ CallNote =>
      (past s.state → past t.state) ∧ (Honest past allowed s → Honest past allowed t) :=
  ⟨fun _ => ⟨id, id⟩, fun h h' => ⟨h'.1 ∘ h.1, h'.2 ∘ h.2⟩⟩

/-- The terms of the clients. -/
abbrev Terms.honest (past : σ → Prop) (allowed : (late answer : Bool) → Prop) : Terms (Watched σ CallNote) :=
  .sharing (promise_honest past allowed)

theorem honest_stable : Stable (fun s t : Watched σ CallNote =>
    (past s.state → past t.state) ∧ (Honest past allowed s → Honest past allowed t))
    fun m => Honest past allowed m.state := fun h hr _ => hr.2 h

/-- A call keeps the notes honest, and ends as it does by itself. -/
theorem call_honest {α : Type} {a : Activity σ α} {Q : Except Crash α → Moment σ → Prop}
    {m : Moment (Watched σ CallNote)} (hm : Honest past allowed m.state)
    (ha : a.Meets (.lasting past) Wake.anywhere Q ⟨m.now, m.state.state⟩) :
    (a.on Watched.inside).Meets (.honest past allowed) (fun _ m' => Honest past allowed m'.state)
      (fun r m' => Honest past allowed m'.state ∧ Q r ⟨m'.now, m'.state.state⟩) m := by
  have hon : (a.on (Watched.inside : Cell (Watched σ CallNote) σ)).Meets (.honest past allowed) Wake.anywhere
      (fun r m' => Q r ⟨m'.now, m'.state.state⟩) m := by
    refine Meets.on_sharing (c := Watched.inside) (fun {s t} h => h.1) (fun {s t} h => ?_) ha
    exact ⟨h, fun hs => ⟨fun hr => h (hs.past hr), hs.answers⟩⟩
  exact Meets.and_kept honest_stable hm hon

/-- A note that is as it should be. -/
theorem Honest.noted {m : Moment (Watched σ CallNote)} {n : CallNote} (hm : Honest past allowed m.state)
    (hpast : n = .returned → past m.state.state) (hanswer : ∀ late answer, n = .cancelled late answer → allowed late answer) :
    Honest past allowed (Watched.noted n m) where
  past hr := by
    simp only [CallHistory.hasReturned, Watched.noted, List.any_append, Bool.or_eq_true, List.any_cons, List.any_nil,
      Bool.or_false, beq_iff_eq] at hr
    exact hr.elim hm.past hpast
  answers t late answer hmem := by
    rcases List.mem_append.mp hmem with hmem | hmem
    · exact hm.answers t late answer hmem
    · cases List.mem_singleton.mp hmem
      exact hanswer late answer rfl

/-- Whoever makes such a note goes on with honest notes. -/
theorem note_honest {m : Moment (Watched σ CallNote)} {n : CallNote} {f : Unit → Activity (Watched σ CallNote) Unit}
    (hm : Honest past allowed m.state) (hpast : n = .returned → past m.state.state)
    (hanswer : ∀ late answer, n = .cancelled late answer → allowed late answer)
    (hf : ∀ {m'}, Honest past allowed m'.state → (f ()).Meets (.honest past allowed)
      (fun _ m' => Honest past allowed m'.state) (fun _ m' => Honest past allowed m'.state) m') :
    (note n >>= f).Meets (.honest past allowed) (fun _ m' => Honest past allowed m'.state)
      (fun _ m' => Honest past allowed m'.state) m :=
  have hnoted : Honest past allowed (Watched.noted n m) := hm.noted hpast hanswer
  ⟨⟨id, fun _ => hnoted⟩, @hf ⟨m.now, Watched.noted n m⟩ hnoted⟩

namespace Step.Lasting

/-- **Whatever a client calls, what is noted is as it should be.** -/
theorem play_honest (h : step.Lasting past allowed work) (c : Client ι ω) {m : Moment (Watched σ CallNote)}
    (hm : Honest past allowed m.state) :
    (c.play step work).Meets (.honest past allowed) (fun _ m' => Honest past allowed m'.state)
      (fun _ m' => Honest past allowed m'.state) m := by
  induction c generalizing m with
  | stop => exact hm
  | work input next ih =>
    refine Meets.bind (Meets.weaken id (fun {r m'} hr => ?_) (call_honest hm (h.work input _)))
    cases r with
    | ok v => exact note_honest hr.1 (fun _ => hr.2 v rfl) (fun _ _ hn => nomatch hn) (ih v)
    | error why => exact hr.1
  | cancel reason next ih =>
    refine Meets.read_bind (Meets.bind (Meets.weaken id (fun {r m'} hr => ?_)
      (call_honest hm (h.cancel reason _ _ hm.past))))
    cases r with
    | ok answer =>
      refine note_honest hr.1 (fun hn => nomatch hn) (fun late' answer' hn => ?_) (ih answer)
      cases hn
      exact hr.2 answer rfl
    | error why => exact hr.1
  | pause ms next ih =>
    have hsleep : (sleep ms : Activity (Watched σ CallNote) Unit).Quiet Eq fun _ => True :=
      always_sleep (fun _ => rfl) trivial ms
    have hmeets : (sleep ms : Activity (Watched σ CallNote) Unit).Meets (.honest past allowed) Wake.anywhere
        (fun _ _ => True) m := by
      refine hsleep.meets_sharing (X := fun _ => True) (fun {s t} hst => ?_) (fun _ _ _ => trivial) (fun _ _ => trivial) trivial
      cases hst
      exact (promise_honest past allowed).refl _
    refine Meets.bind (Meets.weaken id (fun {r m'} hr => ?_) (Meets.and_kept honest_stable hm hmeets))
    cases r with
    | ok _ => exact ih hr.1
    | error why => exact hr.1
  | beside left right next ihl ihr ih =>
    refine Meets.bind (Meets.weaken id (fun {r m'} hr => ?_) (Meets.both sharing_split (fun _ => trivial)
      (fun _ => trivial) ⟨honest_stable, honest_stable⟩ ⟨honest_stable, honest_stable⟩ (fun hw => ⟨hw, fun _ => hw⟩) id
      (ihl hm) fun hr _ => ihr (hr.2 hm)))
    match r, hr with
    | .ok _, hr => exact ih hr.1
    | .error why, hr => exact hr.elim id id

/-- **In every history the cancels answer as they are allowed to.** -/
theorem cancels (h : step.Lasting past allowed work) : step.Cancels work allowed := by
  intro c m t late answer hmem
  have hstart : Honest past allowed (⟨m.state, []⟩ : Watched σ CallNote) := by
    refine ⟨fun hr => ?_, fun _ _ _ hn => ?_⟩
    · cases hr
    · cases hn
  have hmeets := h.play_honest c (m := ⟨m.now, ⟨m.state, []⟩⟩) hstart
  have hsat := hmeets.run_attended sharing_closed
  have hend : Honest past allowed ((c.play step work).attended.run ⟨m.now, ⟨m.state, []⟩⟩).moment.state := by
    cases hrun : (c.play step work).attended.run ⟨m.now, ⟨m.state, []⟩⟩ with
    | returned v last =>
      rw [hrun] at hsat
      exact hsat
    | crashed why last =>
      rw [hrun] at hsat
      exact hsat
    | stalled last =>
      rw [hrun] at hsat
      obtain ⟨w, hw, -⟩ := hsat
      exact hw
  exact hend.answers t late answer hmem

end Step.Lasting

end Histories

end ImageImport
