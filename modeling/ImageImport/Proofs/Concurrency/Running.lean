/-
# Runs of activities that are on terms

An activity that has the clock and the state for itself, apart from the tasks it leaves behind, runs as its
terms say.  Main statement: `Meets.run_attended`, the run ends with a value or a crash of which `Q` holds,
or it stalls in a wait of which `W` holds and that nothing will end.

The tasks left behind act in the run where the activity waits (`Concurrency/Background.lean`), so they are
the others it relies on, and the only ones.  A run of one activity after the other is taken apart with
`attendingRest`, which also yields what the tasks have not done yet.
-/
import ImageImport.Concurrency.Run
import ImageImport.Proofs.Concurrency.Races

namespace ImageImport

variable {σ α β : Type}

/-- **How a run ends** that meets its terms. -/
def Ending.Sat (W : Wake σ → Moment σ → Prop) (Q : Except Crash α → Moment σ → Prop) :
    Ending σ α → Prop
  | .returned v m => Q (.ok v) m
  | .crashed why m => Q (.error why) m
  | .stalled m => ∃ w, W w m ∧ w.holds m = false ∧ w.due = none

/-- **Terms for one that has everything for itself**: it relies on its own tasks only, what holds
while it waits holds as time passes, and its turn is always. -/
structure Terms.Closed (T : Terms σ) (W : Wake σ → Moment σ → Prop) : Prop where
  left_rely : ∀ {s t}, T.left s t → T.rely s t
  left_inv : ∀ {m s}, T.left m.state s → T.inv m → T.inv { m with state := s }
  tick : ∀ {w m t}, T.inv m → W w m → w.holds m = false → m.now ≤ t → (∀ d, w.due = some d → t ≤ d) →
    T.inv { m with now := t }
  turn : ∀ m, T.turn m

namespace Wake

variable {w : Wake σ} {m : Moment σ} {t : Nat}

theorem due_lt (h : w.holds m = false) (hd : w.due = some t) : m.now < t := by
  simp only [holds, hd, Option.any_some, Bool.or_eq_false_iff, decide_eq_false_iff_not] at h
  omega

theorem holds_at_due {s : σ} (hd : w.due = some t) : w.holds ⟨t, s⟩ = true := by simp [holds, hd]

/-- Time may pass up to the instant at which a wait is over. -/
theorem Spans.tick (h : w.holds m = false) (ht : m.now ≤ t) (hd : ∀ d, w.due = some d → t ≤ d) :
    w.Spans m { m with now := t } where
  le := ht
  due d hw := Nat.le_trans (hd d hw) (Nat.le_max_right _ _)
  ready hr := by simp [holds, hr] at h

end Wake

namespace Activity

/-! ## 1. With what is left of the tasks -/

/-- **The activity beside tasks that were left before**, and what is left of the tasks when it ends. -/
def attendingRest (tasks : Background σ) : Activity σ α → Activity σ (α × Background σ)
  | done a => done (a, tasks)
  | crash why => crash why
  | step act next => step act fun m => attendingRest tasks (next m)
  | detach task next => attendingRest (tasks.beside task) next
  | wait wake leave next => attendedHeld wake leave (fun tasks' => attendingRest tasks' next) tasks

theorem attendedHeld_bind (wake : Wake σ) (leave : σ → σ) (resume : Background σ → Activity σ α)
    (f : α → Activity σ β) (tasks : Background σ) :
    (attendedHeld wake leave resume tasks).bind f =
      attendedHeld wake leave (fun tasks' => (resume tasks').bind f) tasks := by
  induction tasks with
  | ended => rfl
  | step act next ih =>
    simp only [attendedHeld, bind, Activity.step.injEq, true_and]
    funext m
    exact ih m
  | wait wake' next ih =>
    simp only [attendedHeld, bind, Activity.wait.injEq, Activity.step.injEq, true_and]
    funext m
    split
    · exact ih
    · rfl

/-- **One after the other**, beside tasks: the second one finds what the first one has left of them. -/
theorem attendingRest_bind (tasks : Background σ) (a : Activity σ α) (f : α → Activity σ β) :
    attendingRest tasks (a.bind f) =
      (attendingRest tasks a).bind fun x => attendingRest x.2 (f x.1) := by
  induction a generalizing tasks with
  | done x => rfl
  | crash why => rfl
  | step act next ih =>
    simp only [attendingRest, bind, Activity.step.injEq, true_and]
    funext m
    exact ih m tasks
  | detach task next ih => exact ih (tasks.beside task)
  | wait wake leave next ih =>
    simp only [attendingRest, bind, attendedHeld_bind, ih]

theorem attending_eq (tasks : Background σ) (a : Activity σ α) :
    attending tasks a = (attendingRest tasks a).bind fun x => done x.1 := by
  induction a generalizing tasks with
  | done x => rfl
  | crash why => rfl
  | step act next ih =>
    simp only [attending, attendingRest, bind, Activity.step.injEq, true_and]
    funext m
    exact ih m tasks
  | detach task next ih => exact ih (tasks.beside task)
  | wait wake leave next ih => simp only [attending, attendingRest, attendedHeld_bind, ih]

/-! ## 2. On terms -/

variable {T : Terms σ} {W : Wake σ → Moment σ → Prop} {Q : Except Crash α → Moment σ → Prop}
  {QB : Except Crash β → Moment σ → Prop}

/-- **The run of a wait**: it is over, or the clock jumps to its instant, or nothing ends it. -/
theorem run_wait_cases (wake : Wake σ) (leave : σ → σ) (next : Activity σ α) (m : Moment σ) :
    (wake.holds m = true ∧ (wait wake leave next).run m = next.run m) ∨
      (wake.holds m = false ∧ ∃ t, wake.due = some t ∧
        (wait wake leave next).run m = next.run { m with now := t }) ∨
      (wake.holds m = false ∧ wake.due = none ∧ (wait wake leave next).run m = .stalled m) := by
  simp only [run]
  by_cases hr : wake.ready m.state = true
  · exact .inl ⟨by simp [Wake.holds, hr], by simp [hr]⟩
  · rw [if_neg hr]
    cases hd : wake.due with
    | none => exact .inr (.inr ⟨by simp [Wake.holds, hr, hd], rfl, rfl⟩)
    | some t =>
      by_cases ht : t ≤ m.now
      · refine .inl ⟨by simp [Wake.holds, hd, ht], ?_⟩
        show next.run { m with now := max m.now t } = _
        rw [Nat.max_eq_left ht]
      · refine .inr (.inl ⟨by simp [Wake.holds, hr, hd, ht], t, rfl, ?_⟩)
        show next.run { m with now := max m.now t } = _
        rw [Nat.max_eq_right (by omega)]

/-- The tasks left behind act while the activity is held at a wait. -/
theorem Meets.run_attendedHeld (hT : T.Closed W) {wake : Wake σ} {leave : σ → σ}
    {resume : Background σ → Activity σ β} {next : Activity σ α}
    (hresume : ∀ {tasks m}, tasks.Keeps T.left → next.Meets T W Q m →
      ((resume tasks).run m).Sat W QB)
    {tasks : Background σ} {m : Moment σ} (ht : tasks.Keeps T.left)
    (hi : T.inv m) (ha : (wait wake leave next).Ready T W Q m) :
    ((attendedHeld wake leave resume tasks).run m).Sat W QB := by
  induction tasks generalizing m with
  | ended =>
    rw [attendedHeld]
    obtain ⟨hw, hgo⟩ := ha.look hi
    rcases run_wait_cases wake leave (resume .ended) m with ⟨hh, hrun⟩ | ⟨hh, t, hd, hrun⟩ |
      ⟨hh, hd, hrun⟩
    · rw [hrun]
      exact hresume trivial (hgo hh (hT.turn _))
    · have hdue : ∀ d, wake.due = some d → t ≤ d := by
        intro d hd'
        rw [hd, Option.some.injEq] at hd'
        exact Nat.le_of_eq hd'
      have hlt := Nat.le_of_lt (Wake.due_lt hh hd)
      have hi' := hT.tick hi hw hh hlt hdue
      have ha' : (wait wake leave next).Ready T W Q { m with now := t } :=
        ha.later (T.rely_refl _) (Wake.Spans.tick hh hlt hdue)
      rw [hrun]
      exact hresume trivial ((ha'.look hi').2 (Wake.holds_at_due hd) (hT.turn _))
    · rw [hrun]
      exact ⟨wake, hw, hh, hd⟩
  | step act rest ih =>
    have hl := (ht m).1
    exact ih m (ht m).2 (hT.left_inv hl hi) (ha.step (hT.left_rely hl))
  | wait wake' rest ih =>
    rw [attendedHeld]
    -- whoever of the two can go on does, the task before the activity
    have go : ∀ {m'}, T.inv m' → (wait wake leave next).Ready T W Q m' →
        (wake'.either wake).holds m' = true →
        Ending.Sat W QB (Activity.run (if wake'.holds m' = true then
          attendedHeld wake leave resume rest else resume (.wait wake' rest)) m') := by
      intro m' hi' ha' hh
      split
      next => exact ih ht hi' ha'
      next hw' =>
        rw [Wake.holds_either] at hh
        exact hresume ht ((ha'.look hi').2 (by simpa [hw'] using hh) (hT.turn _))
    obtain ⟨hw, -⟩ := ha.look hi
    rcases run_wait_cases (wake'.either wake) leave _ m with ⟨hh, hrun⟩ | ⟨hh, t, hd, hrun⟩ |
      ⟨hh, hd, hrun⟩
    · rw [hrun]
      exact go hi ha hh
    · have hdue : ∀ d, (wake'.either wake).due = some d → t ≤ d := by
        intro d hd'
        rw [hd, Option.some.injEq] at hd'
        exact Nat.le_of_eq hd'
      have hlt := Nat.le_of_lt (Wake.due_lt hh hd)
      have hspan := (Wake.Spans.tick hh hlt hdue).of_either_right
      have hh' : wake.holds m = false := by
        rw [Wake.holds_either, Bool.or_eq_false_iff] at hh
        exact hh.2
      have hi' : T.inv { m with now := t } := by
        refine hT.tick hi hw hh' hlt fun d hd' => ?_
        have h1 : t ≤ max m.now d := hspan.due d hd'
        have h2 := Wake.due_lt hh' hd'
        omega
      rw [hrun]
      exact go hi' (ha.later (T.rely_refl _) hspan) (Wake.holds_at_due hd)
    · rw [hrun]
      rw [Wake.holds_either, Bool.or_eq_false_iff] at hh
      refine ⟨wake, hw, hh.2, ?_⟩
      cases hd' : wake.due with
      | none => rfl
      | some u => cases hv : wake'.due <;> simp [Wake.either, Wake.earlier, hd', hv] at hd

/-- What is left of the tasks goes with the value. -/
def WithTasks (T : Terms σ) (Q : Except Crash α → Moment σ → Prop) :
    Except Crash (α × Background σ) → Moment σ → Prop
  | .ok (x, tasks), m => Q (.ok x) m ∧ tasks.Keeps T.left
  | .error why, m => Q (.error why) m

/-- **A run keeps to what the activity promises**, beside tasks that were left before. -/
theorem Meets.run_attendingRest (hT : T.Closed W) {a : Activity σ α} {tasks : Background σ} {m : Moment σ}
    (ht : tasks.Keeps T.left) (ha : a.Meets T W Q m) :
    ((attendingRest tasks a).run m).Sat W (WithTasks T Q) := by
  induction a generalizing tasks m with
  | done v => exact ⟨ha, ht⟩
  | crash why => exact ha
  | step act next ih => exact ih m ht ha.2
  | detach task next ih => exact ih (ht.beside T.left_refl ha.1) ha.2
  | wait wake leave next ih =>
    exact Meets.run_attendedHeld hT (fun h1 h2 => ih h1 h2) ht ha.1 ha.ready

/-- **A run keeps to what the activity promises.** -/
theorem Meets.run_attended (hT : T.Closed W) {a : Activity σ α} {m : Moment σ} (ha : a.Meets T W Q m) :
    (a.attended.run m).Sat W Q := by
  have hended : Background.Keeps T.left .ended := trivial
  have hsat := Meets.run_attendingRest hT hended ha
  rw [attended, attending_eq, run_bind]
  cases hrun : (attendingRest .ended a).run m with
  | returned x last =>
    rw [hrun] at hsat
    exact hsat.1
  | crashed why last =>
    rw [hrun] at hsat
    exact hsat
  | stalled last =>
    rw [hrun] at hsat
    exact hsat

end Activity

end ImageImport
