/-
# Runs that follow one another

A run with company is, as far as can be seen, the run of the one that is alone: main statement,
`Follows.run`.  Whatever company there is and whatever tasks have been left behind, as long as all of them are
quiet for what is seen: if the run returns at all, it passes a moment at which the one alone has ended, with
the state and at the instant at which that one ends by itself.

From there on what is left of the run is what `D` says.  Often that is an activity that only waits for its
company, so that nothing changes any more that could be seen; the terms of such a wait are `Terms.unseen`.
-/
import ImageImport.Proofs.Concurrency.Following
import ImageImport.Proofs.Concurrency.Running

namespace ImageImport

variable {σ σ' α α' : Type}

/-! ## 1. Ends of runs -/

/-- The end of a run that ends so. -/
def Ending.of (r : Except Crash α) (m : Moment σ) : Ending σ α :=
  match r with
  | .ok x => .returned x m
  | .error why => .crashed why m

namespace Activity

/-- **A wait of the one alone, while company is waited for.**  If the clock jumps where both wait, the one alone
would have let that time pass too, or waits for ever. -/
theorem run_wait_jump {view : σ' → σ} {wake' : Wake σ'} {wake : Wake σ} {leave : σ → σ} {next : Activity σ α}
    {m : Moment σ'} {t : Nat}
    (hwake : ∀ n : Moment σ', wake.holds (n.through view) = true → wake'.holds n = true)
    (hh : wake'.holds m = false) (hd : wake'.due = some t) :
    (wait wake leave next).run (m.through view) =
        (wait wake leave next).run (Moment.through view ⟨t, m.state⟩) ∨
      (wait wake leave next).run (m.through view) = .stalled (m.through view) ∧
        (wait wake leave next).run (Moment.through view ⟨t, m.state⟩) =
          .stalled (Moment.through view ⟨t, m.state⟩) := by
  have hlt : m.now < t := Wake.due_lt hh hd
  have hready : wake.ready (view m.state) = false := by
    cases hr : wake.ready (view m.state) with
    | false => rfl
    | true =>
      have := hwake m (by simp [Wake.holds, Moment.through, hr])
      rw [hh] at this
      cases this
  simp only [run, Moment.through, hready]
  cases hdue : wake.due with
  | none => exact .inr ⟨rfl, rfl⟩
  | some d =>
    -- the instant of the one alone has not gone by
    have hle : t ≤ d := by
      have hholds := hwake ⟨d, m.state⟩ (by simp [Wake.holds, Moment.through, hdue])
      simp only [Wake.holds, hd, Option.any_some, Bool.or_eq_true, decide_eq_true_eq] at hholds hh
      rcases hholds with hr | hle
      · simp [hr] at hh
      · exact hle
    left
    simp only [Nat.max_eq_right hle, Nat.max_eq_right (Nat.le_trans (Nat.le_of_lt hlt) hle)]
    rfl

/-- The same of a run that does not wait for ever. -/
theorem run_wait_later {view : σ' → σ} {wake' : Wake σ'} {wake : Wake σ} {leave : σ → σ}
    {next : Activity σ α} {m : Moment σ'} {t : Nat} {e : Ending σ α}
    (hwake : ∀ n : Moment σ', wake.holds (n.through view) = true → wake'.holds n = true)
    (hh : wake'.holds m = false) (hd : wake'.due = some t)
    (he : ∀ n, e ≠ .stalled n)
    (hrun : (wait wake leave next).run (Moment.through view ⟨t, m.state⟩) = e) :
    (wait wake leave next).run (m.through view) = e := by
  rcases run_wait_jump hwake hh hd with hsame | ⟨-, hstall⟩
  · rw [hsame, hrun]
  · exact absurd (hrun.symm.trans hstall) (he _)

/-- A wait that is over goes on. -/
theorem run_wait_over {wake : Wake σ} {m : Moment σ} (h : wake.holds m = true) (leave : σ → σ)
    (next : Activity σ α) : (wait wake leave next).run m = next.run m := by
  rcases run_wait_cases wake leave next m with ⟨-, hrun⟩ | ⟨hh, -⟩ | ⟨hh, -⟩
  · exact hrun
  · rw [h] at hh
    cases hh
  · rw [h] at hh
    cases hh

/-! ## 2. Runs with company -/

variable {view : σ' → σ} {D : Except Crash α → Activity σ' α' → Moment σ' → Prop}

/-- **The moment at which the one alone has ended**, with what is left of the one with company, and of the
tasks. -/
def Passes (view : σ' → σ) (D : Except Crash α → Activity σ' α' → Moment σ' → Prop) (a : Activity σ α)
    (m : Moment σ') (e : Ending σ' (α' × Background σ')) : Prop :=
  ∃ r b' tasks n, D r b' n ∧ tasks.Keeps (Unseen view) ∧ (attendingRest tasks b').run n = e ∧
    a.run (m.through view) = .of r (n.through view)

/-- While the one with company is held at a wait, its tasks act. -/
theorem Follows.run_held {wake' : Wake σ'} {wake : Wake σ} {leave' : σ' → σ'} {leave : σ → σ}
    {next' : Activity σ' α'} {next : Activity σ α} {go : Moment σ' → Bool}
    (hwake : ∀ n : Moment σ', wake.holds (n.through view) = true → wake'.holds n = true)
    (hgo : ∀ n : Moment σ', go n = true → wake.holds (n.through view) = true)
    {x : α' × Background σ'} {last : Moment σ'}
    (hnext : ∀ n {tasks : Background σ'}, go n = true → tasks.Keeps (Unseen view) →
      (attendingRest tasks next').run n = .returned x last → Passes view D next n (.returned x last))
    (hstay : ∀ n {tasks : Background σ'}, wake'.holds n = true → go n = false →
      tasks.Keeps (Unseen view) → (attendingRest tasks next').run n = .returned x last →
        Passes view D (.wait wake leave next) n (.returned x last))
    {tasks : Background σ'} (ht : tasks.Keeps (Unseen view)) {m : Moment σ'}
    (hrun : (attendedHeld wake' leave' (fun tasks' => attendingRest tasks' next') tasks).run m =
      .returned x last) : Passes view D (.wait wake leave next) m (.returned x last) := by
  -- where the wait is over, whoever can go on does
  have hover : ∀ {n : Moment σ'} {tasks : Background σ'}, wake'.holds n = true →
      tasks.Keeps (Unseen view) → (attendingRest tasks next').run n = .returned x last →
      Passes view D (.wait wake leave next) n (.returned x last) := by
    intro n tasks hn ht hrun
    by_cases hg : go n = true
    · obtain ⟨r, b', tasks', n', hD, ht', hleft, hend⟩ := hnext n hg ht hrun
      exact ⟨r, b', tasks', n', hD, ht', hleft, by rw [run_wait_over (hgo n hg), hend]⟩
    · exact hstay n hn (by simpa using hg) ht hrun
  -- where the clock jumps, the one alone would have waited too
  have hlater : ∀ {u' : Wake σ'} {n : Moment σ'} {t : Nat},
      (∀ n : Moment σ', wake'.holds n = true → u'.holds n = true) → u'.holds n = false →
      u'.due = some t → Passes view D (.wait wake leave next) ⟨t, n.state⟩ (.returned x last) →
      Passes view D (.wait wake leave next) n (.returned x last) := by
    rintro u' n t hu hh hd ⟨r, b', tasks', n', hD, ht', hleft, hend⟩
    refine ⟨r, b', tasks', n', hD, ht', hleft, ?_⟩
    refine run_wait_later (fun n' hn' => hu n' (hwake n' hn')) hh hd (fun k hk => ?_) hend
    cases r <;> cases hk
  induction tasks generalizing m with
  | ended =>
    rw [attendedHeld] at hrun
    rcases run_wait_cases wake' leave' _ m with ⟨hh, hcase⟩ | ⟨hh, t, hd, hcase⟩ | ⟨hh, hd, hcase⟩
    · rw [hcase] at hrun
      exact hover hh ht hrun
    · rw [hcase] at hrun
      exact hlater (fun _ h => h) hh hd (hover (Wake.holds_at_due hd) ht hrun)
    · rw [hcase] at hrun
      cases hrun
  | step act rest ih =>
    obtain ⟨r, b', tasks', n', hD, ht', hleft, hend⟩ := ih m (ht m).2 hrun
    refine ⟨r, b', tasks', n', hD, ht', hleft, ?_⟩
    rw [← hend]
    exact congrArg _ (Unseen.through (ht m).1).symm
  | wait v rest ih =>
    rw [attendedHeld] at hrun
    have hturn : ∀ {n : Moment σ'}, (v.either wake').holds n = true →
        Activity.run (if v.holds n = true then
          attendedHeld wake' leave' (fun tasks' => attendingRest tasks' next') rest
        else attendingRest (.wait v rest) next') n = .returned x last →
        Passes view D (.wait wake leave next) n (.returned x last) := by
      intro n hn hrun
      by_cases hv : v.holds n = true
      · rw [if_pos hv] at hrun
        exact ih ht hrun
      · rw [if_neg hv] at hrun
        rw [Wake.holds_either] at hn
        exact hover (by simpa [hv] using hn) ht hrun
    have heither : ∀ n : Moment σ', wake'.holds n = true → (v.either wake').holds n = true := by
      intro n hn
      rw [Wake.holds_either, hn, Bool.or_true]
    rcases run_wait_cases (v.either wake') leave' _ m with ⟨hh, hcase⟩ | ⟨hh, t, hd, hcase⟩ |
      ⟨hh, hd, hcase⟩
    · rw [hcase] at hrun
      exact hturn hh hrun
    · rw [hcase] at hrun
      exact hlater heither hh hd (hturn (Wake.holds_at_due hd) hrun)
    · rw [hcase] at hrun
      cases hrun

/-- **A run with company passes the end of the run without.** -/
theorem Follows.run {a' : Activity σ' α'} {a : Activity σ α} {m : Moment σ'} (h : Follows view D a' a m)
    {tasks : Background σ'} (ht : tasks.Keeps (Unseen view)) {x : α' × Background σ'} {last : Moment σ'}
    (hrun : (attendingRest tasks a').run m = .returned x last) :
    Passes view D a m (.returned x last) := by
  induction h generalizing tasks with
  | ended h => exact ⟨_, _, tasks, _, h, ht, hrun, rfl⟩
  | blown h => exact ⟨_, _, tasks, _, h, ht, hrun, rfl⟩
  | quiet hact _ ih =>
    obtain ⟨r, b', tasks', n, hD, ht', hleft, hend⟩ := ih ht hrun
    exact ⟨r, b', tasks', n, hD, ht', hleft, by rw [← hend, hact.through]⟩
  | @step act' act next' next m hact _ ih =>
    obtain ⟨r, b', tasks', n, hD, ht', hleft, hend⟩ := ih ht hrun
    refine ⟨r, b', tasks', n, hD, ht', hleft, ?_⟩
    have hsame : Moment.through view ⟨m.now, act' m⟩ = ⟨m.now, act (m.through view)⟩ :=
      congrArg (Moment.mk m.now) hact
    rw [hsame] at hend
    exact hend
  | aside htask _ ih => exact ih (ht.beside (Unseen.refl view) htask) hrun
  | wait go hwake hleave hgo _ _ ihnext ihstay =>
    exact Follows.run_held hwake hgo (fun n _ hg ht hrun => ihnext n hg ht hrun)
      (fun n _ hn hno ht hrun => ihstay n hn hno ht hrun) ht hrun

end Activity

/-! ## 3. Where only company acts -/

/-- **The terms of those who do nothing that is seen**, all of them. -/
def Terms.unseen (view : σ' → σ) : Terms σ' where
  rely := Unseen view
  guar := Unseen view
  left := Unseen view
  rely_refl := Unseen.refl view
  rely_trans h h' := h'.trans h
  guar_refl := Unseen.refl view
  guar_trans h h' := h'.trans h
  left_refl := Unseen.refl view

namespace Terms

variable {view : σ' → σ} {W : Wake σ' → Moment σ' → Prop}

theorem unseen_split : (unseen view).Split (unseen view) (unseen view) W where
  rely_left := id
  rely_right := id
  across_left := id
  across_right := id
  guar_left := id
  guar_right := id
  left_left := id
  left_right := id
  inv_left _ := Iff.rfl
  inv_right _ := Iff.rfl
  turn_left _ := trivial
  turn_right _ _ _ := trivial

theorem unseen_closed : (unseen view).Closed W where
  left_rely := id
  left_inv _ _ := trivial
  tick _ _ _ _ _ := trivial
  turn _ := trivial

end Terms

namespace Activity

variable {view : σ' → σ} {D : Except Crash α → Activity σ' α' → Moment σ' → Prop}
  {W : Wake σ' → Moment σ' → Prop} {Q : Except Crash α' → Moment σ' → Prop}
  {p : Except Crash α' → Prop} {a' : Activity σ' α'} {m : Moment σ'}

theorem Quiet.meets_unseen (h : a'.Quiet (Unseen view) p) :
    a'.Meets (Terms.unseen view) (fun _ _ => True) (fun r _ => p r) m :=
  h.meets (X := fun _ => True) id id (fun _ _ => trivial) (fun _ _ => trivial) (fun _ _ _ => trivial)
    (fun _ => trivial) (fun _ => trivial) (fun _ hp => hp) trivial

/-- What is seen stays as it is. -/
theorem Meets.and_unseen (h : a'.Meets (Terms.unseen view) W Q m) :
    a'.Meets (Terms.unseen view) W (fun r n => Q r n ∧ view n.state = view m.state) m := by
  refine Meets.mono (X := fun n => view n.state = view m.state) ⟨id, id, id, fun _ => Iff.rfl⟩ ?_ ?_
    (fun _ => id) (fun _ => id) (fun hx hq => ⟨hq, hx⟩) rfl h
  · exact fun hx hs _ => hs.trans hx
  · exact fun hx hs _ => hs.trans hx

/-- **The value is there at once**, and nothing is done for it. -/
inductive Instantly (x : α) : Activity σ α → Moment σ → Prop where
  | done {m : Moment σ} : Instantly x (.done x) m
  | step {act : Moment σ → σ} {next : Moment σ → Activity σ α} {m : Moment σ} (hact : act m = m.state)
      (hnext : Instantly x (next m) m) : Instantly x (.step act next) m

/-- Who follows one that has its value at once does nothing that is seen. -/
theorem Follows.meets_unseen {a : Activity σ α} {x : α} (h : Follows view D a' a m)
    (ha : Instantly x a (m.through view))
    (hD : ∀ {b' n}, D (.ok x) b' n → b'.Meets (Terms.unseen view) W Q n) :
    a'.Meets (Terms.unseen view) W Q m := by
  induction h with
  | ended h =>
    cases ha
    exact hD h
  | blown h => cases ha
  | quiet hact _ ih => exact ⟨hact, ih (by rw [hact.through]; exact ha)⟩
  | @step act' act next' next m hact _ ih =>
    cases ha with
    | step hsame hnext =>
      have hseen : Unseen view m.state (act' m) := hact.trans hsame
      exact ⟨hseen, ih (by rw [hseen.through]; exact hnext)⟩
  | aside htask _ ih => exact ⟨htask, ih ha⟩
  | wait go hwake hleave hgo _ _ ihnext ihstay => cases ha

end Activity

end ImageImport
