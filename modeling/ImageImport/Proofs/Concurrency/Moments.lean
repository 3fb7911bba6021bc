/-
# The moments of a run

A run ends somewhere, and nothing is said of the way there.  `Activity.moments` lists the moments it passes: where it
starts, after each change of the state, and after each jump of the clock.

Main statement: `Always.kept_since`.  What every change of an activity keeps has been kept from each moment of its run
to the last one.  The tasks that an activity leaves behind act in its run as well, and what they and the activity keep
is kept by the two together (`Quiet.attended`).
-/
import ImageImport.Concurrency.Run
import ImageImport.Proofs.Concurrency.Quiet

namespace ImageImport

variable {σ α : Type}

namespace Activity

variable {N : σ → σ → Prop} {K : Background σ → Prop} {p : Except Crash α → Prop} {a : Activity σ α}

/-! ## 1. The way of a run -/

/-- **The moments of a run**, one after the other.  It is the recursion of `run`, with a moment for each step and for
each wait that is not over at once. -/
def moments : Activity σ α → Moment σ → List (Moment σ)
  | done _, m => [m]
  | crash _, m => [m]
  | step act next, m => m :: moments (next m) { m with state := act m }
  | detach _ next, m => moments next m
  | wait wake _ next, m =>
    if wake.ready m.state then moments next m
    else match wake.due with
      | some t => m :: moments next { m with now := max m.now t }
      | none => [m]

/-- **At a wait** the run goes on with the same state, perhaps later, or it ends there. -/
theorem run_moments_wait (wake : Wake σ) (leave : σ → σ) (next : Activity σ α) (m : Moment σ) :
    ((wait wake leave next).run m = .stalled m ∧ (wait wake leave next).moments m = [m]) ∨
      ∃ t, (wait wake leave next).run m = next.run { m with now := t } ∧
        ((wait wake leave next).moments m = next.moments { m with now := t } ∧ t = m.now ∨
          (wait wake leave next).moments m = m :: next.moments { m with now := t }) := by
  by_cases hready : wake.ready m.state = true
  · exact .inr ⟨m.now, by rw [run, if_pos hready], .inl ⟨by rw [moments, if_pos hready], rfl⟩⟩
  · cases hdue : wake.due with
    | none =>
      simp only [run, moments, if_neg hready, hdue]
      exact .inl ⟨trivial, trivial⟩
    | some t =>
      simp only [run, moments, if_neg hready, hdue]
      exact .inr ⟨max m.now t, rfl, .inr rfl⟩

/-- The first moment is the one it starts at. -/
theorem head?_moments (a : Activity σ α) (m : Moment σ) : (a.moments m).head? = some m := by
  induction a generalizing m with
  | done v => rfl
  | crash why => rfl
  | step act next ih => rfl
  | detach task next ih => exact ih m
  | wait wake leave next ih =>
    rcases run_moments_wait wake leave next m with ⟨-, hmoments⟩ | ⟨t, -, ⟨hmoments, rfl⟩ | hmoments⟩
    · rw [hmoments]
      rfl
    · rw [hmoments]
      exact ih m
    · rw [hmoments]
      rfl

/-! ## 2. What is kept on the way -/

/-- **What every change keeps is kept from each moment of the run to the last one.** -/
theorem Always.kept_since (hN : ∀ s, N s s) (htrans : ∀ s t u, N s t → N t u → N s u) (h : a.Always N K p)
    {m m' : Moment σ} (hm : m' ∈ a.moments m) : N m'.state (a.run m).moment.state := by
  -- from where the run goes on, which is among its moments
  have hstart : ∀ {b : Activity σ α} {n : Moment σ},
      (∀ n' ∈ b.moments n, N n'.state (b.run n).moment.state) → N n.state (b.run n).moment.state :=
    fun {b n} hall => hall n (List.mem_of_head? (head?_moments b n))
  induction a generalizing m m' with
  | done v =>
    rcases List.mem_singleton.mp hm with rfl
    exact hN _
  | crash why =>
    rcases List.mem_singleton.mp hm with rfl
    exact hN _
  | step act next ih =>
    have hrest : ∀ n' ∈ (next m).moments { m with state := act m },
        N n'.state ((next m).run { m with state := act m }).moment.state := fun n' hn' => ih m (h m).2 hn'
    rcases List.mem_cons.mp hm with rfl | hm
    · exact htrans _ _ _ (h m').1 (hstart hrest)
    · exact hrest m' hm
  | detach task next ih => exact ih h.2 hm
  | wait wake leave next ih =>
    rcases run_moments_wait wake leave next m with ⟨hrun, hmoments⟩ | ⟨t, hrun, hmoments⟩
    · rw [hmoments] at hm
      rw [hrun]
      rcases List.mem_singleton.mp hm with rfl
      exact hN _
    · have hrest : ∀ n' ∈ next.moments { m with now := t }, N n'.state (next.run { m with now := t }).moment.state :=
        fun n' hn' => ih h.2 hn'
      rw [hrun]
      rcases hmoments with ⟨hmoments, -⟩ | hmoments
      · rw [hmoments] at hm
        exact hrest m' hm
      · rw [hmoments] at hm
        rcases List.mem_cons.mp hm with rfl | hm
        · exact hstart hrest
        · exact hrest m' hm

/-! ## 3. With the tasks it leaves behind -/

theorem Always.attendedHeld (hN : ∀ s, N s s) {wake : Wake σ} {leave : σ → σ} {resume : Background σ → Activity σ α}
    (hleave : ∀ s, N s (leave s)) (hresume : ∀ {tasks : Background σ}, tasks.Keeps N → (resume tasks).Always N K p)
    {tasks : Background σ} (ht : tasks.Keeps N) : (attendedHeld wake leave resume tasks).Always N K p := by
  induction tasks with
  | ended => exact ⟨hleave, hresume trivial⟩
  | step act next ih => exact fun m => ⟨(ht m).1, ih m (ht m).2⟩
  | wait wake' next ih =>
    refine ⟨hleave, fun m => ⟨hN _, ?_⟩⟩
    show Always N K p (if wake'.holds m = true then _ else _)
    split
    · exact ih ht
    · exact hresume ht

theorem Quiet.attending (hN : ∀ s, N s s) (h : a.Quiet N p) {tasks : Background σ} (ht : tasks.Keeps N) :
    (Activity.attending tasks a).Quiet N p := by
  induction a generalizing tasks with
  | done v => exact h
  | crash why => exact h
  | step act next ih => exact fun m => ⟨(h m).1, ih m (h m).2 ht⟩
  | detach task next ih => exact ih h.2 (ht.beside hN h.1)
  | wait wake leave next ih => exact Always.attendedHeld hN h.1 (fun ht => ih h.2 ht) ht

/-- **A quiet one with the quiet tasks it leaves behind.** -/
theorem Quiet.attended (hN : ∀ s, N s s) (h : a.Quiet N p) : a.attended.Quiet N p := h.attending hN trivial

end Activity

end ImageImport
