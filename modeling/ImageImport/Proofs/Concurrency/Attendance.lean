/-
# Tasks that have company

What is left to itself goes on beside an activity, and among the tasks there may be some that belong to
somebody else: to company, of which nothing can be seen.  The activity and its own tasks do not notice it:
they are made to wait more often, but where the two without company would go on, those with company go on
at that instant.

`Background.Follows` says so of tasks, as `Activity.Follows` says it of an activity, and main statement is
`Mirrors.run_beside`: an activity that is mirrored ends as it does without company.  Only where it is held for
ever by a wait that nobody ends, the company may go on for a while before everybody waits.
-/
import ImageImport.Proofs.Concurrency.Independence

namespace ImageImport

variable {σ σ' α α' : Type}

/-! ## 1. Two waits at once

Somebody waits for either of two things.  The first may be over more often than it seems; the second is over exactly
when it seems to be. -/

namespace Wake

variable {view : σ' → σ} {v' : Wake σ'} {v w : Wake σ} {go : Moment σ' → Bool} {n : Moment σ'}

theorem either_of_second (hn : w.holds (n.through view) = true) : (v'.either (w.through view)).holds n = true := by
  rw [holds_either, holds_through, hn, Bool.or_true]

theorem first_of_either (hn : (v'.either (w.through view)).holds n = true) (hno : w.holds (n.through view) = false) :
    v'.holds n = true := by
  rwa [holds_either, holds_through, hno, Bool.or_false] at hn

/-- Where either seems to be over, one is. -/
theorem either_of_seen (hwake : v.holds (n.through view) = true → v'.holds n = true)
    (hn : (v.either w).holds (n.through view) = true) : (v'.either (w.through view)).holds n = true := by
  rw [holds_either, Bool.or_eq_true] at hn
  rcases hn with hn | hn
  · rw [holds_either, hwake hn, Bool.true_or]
  · exact either_of_second hn

/-- Where the first that is over goes on, either seems to be over. -/
theorem seen_of_goes (hgo : go n = true → v.holds (n.through view) = true)
    (hn : (if v'.holds n then go n else w.holds (n.through view)) = true) :
    (v.either w).holds (n.through view) = true := by
  rw [holds_either]
  split at hn
  · rw [hgo hn, Bool.true_or]
  · rw [hn, Bool.or_true]

theorem not_seen (hwake : v.holds (n.through view) = true → v'.holds n = true) (hh : ¬ v'.holds n = true) :
    v.holds (n.through view) = false := Bool.eq_false_iff.mpr fun hl => hh (hwake hl)

end Wake

/-! ## 2. The relation -/

/-- **The tasks `t'` follow the tasks `t` from the moment `m` on**: they make the same steps, as far as can be
seen, and where a wait is over either both go on (`go`) or only the company does.  When `t` has ended, only
company is left. -/
inductive Background.Follows (view : σ' → σ) : Background σ' → Background σ → Moment σ' → Prop where
  | company {t' : Background σ'} {m : Moment σ'} (h : t'.Keeps (Unseen view)) : Follows view t' .ended m
  | quiet {act : Moment σ' → σ'} {next : Moment σ' → Background σ'} {t : Background σ} {m : Moment σ'}
      (hact : Unseen view m.state (act m)) (hnext : Follows view (next m) t ⟨m.now, act m⟩) :
      Follows view (.step act next) t m
  | step {act' : Moment σ' → σ'} {act : Moment σ → σ} {next' : Moment σ' → Background σ'}
      {next : Moment σ → Background σ} {m : Moment σ'} (hact : view (act' m) = act (m.through view))
      (hnext : Follows view (next' m) (next (m.through view)) ⟨m.now, act' m⟩) :
      Follows view (.step act' next') (.step act next) m
  | wait {wake' : Wake σ'} {wake : Wake σ} {next' : Background σ'} {next : Background σ} {m : Moment σ'}
      (go : Moment σ' → Bool)
      (hwake : ∀ n : Moment σ', wake.holds (n.through view) = true → wake'.holds n = true)
      (hgo : ∀ n : Moment σ', go n = true → wake.holds (n.through view) = true)
      (hnext : ∀ n, go n = true → Follows view next' next n)
      (hstay : ∀ n, wake'.holds n = true → go n = false → Follows view next' (.wait wake next) n) :
      Follows view (.wait wake' next') (.wait wake next) m

namespace Background

variable {view : σ' → σ} {t' u' q : Background σ'} {t u : Background σ} {m : Moment σ'}

/-- What is mirrored is followed. -/
theorem Mirrors.follows (h : t'.Mirrors view t) (m : Moment σ') : Follows view t' t m := by
  induction h generalizing m with
  | ended => exact .company trivial
  | quiet hact _ ih => exact .quiet (hact m) (ih m _)
  | step hact _ ih => exact .step (hact m) (ih m _)
  | @wait wake' wake next' next hwake _ ih =>
    subst hwake
    refine .wait (fun n => wake.holds (n.through view)) (fun _ h => h) (fun _ h => h) (fun n _ => ih n)
      fun n h hno => ?_
    rw [Wake.holds_through, hno] at h
    cases h

/-! ## 3. More tasks -/

/-- **Company in front.** -/
theorem Mirrors.behind (hq : q.Keeps (Unseen view)) (hu : u'.Mirrors view u) (m : Moment σ') :
    Follows view (q.beside u') u m := by
  induction q generalizing u' u m with
  | ended => exact hu.follows m
  | step act next ih => exact .quiet (hq m).1 (ih m (hq m).2 hu _)
  | wait wake next ih =>
    have held : ∀ {u' : Background σ'} {u : Background σ}, u'.Mirrors view u → ∀ m,
        Follows view (besideHeld wake (.wait wake next) (fun t => next.beside t) u') u m := by
      intro u' u hu m
      induction hu generalizing m with
      | ended => exact .company hq
      | quiet hact _ ihu => exact .quiet (hact m) (ihu m _)
      | step hact _ ihu => exact .step (hact m) (ihu m _)
      | @wait w' w rest' rest hw hrest ihu =>
        subst hw
        refine .wait (fun n => !wake.holds n && w.holds (n.through view)) (fun n hn => Wake.either_of_second hn)
          (fun n hn => ?_) (fun n hn => ?_) fun n hn hno => ?_
        · simp only [Bool.and_eq_true] at hn
          exact hn.2
        · simp only [Bool.and_eq_true, Bool.not_eq_true'] at hn
          refine .quiet rfl ?_
          simp only [hn.1]
          exact ihu n
        · refine .quiet rfl ?_
          by_cases hh : wake.holds n = true
          · simp only [hh, if_true]
            exact ih hq (.wait rfl hrest) n
          · simp only [hh, Bool.not_false, Bool.true_and] at hno
            exact absurd (Wake.first_of_either hn hno) hh
    exact held hu m

/-- **One more task**, behind those that follow. -/
theorem Follows.beside (ht : Follows view t' t m) (hu : u'.Mirrors view u) :
    Follows view (t'.beside u') (t.beside u) m := by
  induction ht generalizing u' u with
  | company h => exact hu.behind h _
  | quiet hact _ ih => exact .quiet hact (ih hu)
  | step hact _ ih => exact .step hact (ih hu)
  | @wait wake' wake next' next m go hwake hgo hnext hstay ihnext ihstay =>
    induction hu generalizing m with
    | ended => exact .wait go hwake hgo hnext hstay
    | quiet hact _ ihu => exact .quiet (hact m) (ihu m)
    | step hact _ ihu => exact .step (hact m) (ihu m)
    | @wait w' w rest' rest hw hrest ihu =>
      subst hw
      -- the tasks before it come first, and among them the company
      refine .wait (fun n => if wake'.holds n then go n else w.holds (n.through view))
        (fun n hn => Wake.either_of_seen (hwake n) hn) (fun n hn => Wake.seen_of_goes (hgo n) hn) (fun n hn => ?_)
        fun n hn hno => ?_
      · refine .step rfl ?_
        by_cases hh : wake'.holds n = true
        · simp only [hh, if_true] at hn
          simp only [hh, hgo n hn, if_true]
          exact ihnext n hn (.wait rfl hrest)
        · simp only [hh, Wake.not_seen (hwake n) hh]
          exact ihu
      · refine .quiet rfl ?_
        by_cases hh : wake'.holds n = true
        · rw [if_pos hh] at hno ⊢
          exact ihstay n hh hno (.wait rfl hrest)
        · rw [if_neg hh] at hno
          exact absurd (Wake.first_of_either hn hno) hh

end Background

namespace Activity

variable {view : σ' → σ} {R : α' → α → Prop} {C : Prop} {m : Moment σ'}

/-! ## 4. An activity with its tasks -/

/-- The value is shown, and the tasks go on as they are. -/
def Attended (R : α' → α → Prop) :
    Except Crash (α × Background σ) → Activity σ' (α' × Background σ') → Moment σ' → Prop
  | .ok (x, _), b', _ => ∃ x' tasks', b' = .done (x', tasks') ∧ R x' x
  | .error why, b', _ => b' = .crash why

/-- The tasks act while the activity is held at a wait. -/
theorem Follows.attendedHeld {D : Except Crash (α × Background σ) →
      Activity σ' (α' × Background σ') → Moment σ' → Prop}
    {wake : Wake σ} {leave' : σ' → σ'} {leave : σ → σ} (hleave : ∀ s, view (leave' s) = leave (view s))
    {resume' : Background σ' → Activity σ' (α' × Background σ')}
    {resume : Background σ → Activity σ (α × Background σ)}
    (hresume : ∀ {t' t}, (∀ n, Background.Follows view t' t n) → ∀ n,
      Follows view D (resume' t') (resume t) n)
    {t' : Background σ'} {t : Background σ} (ht : Background.Follows view t' t m) :
    Follows view D (attendedHeld (wake.through view) leave' resume' t')
      (attendedHeld wake leave resume t) m := by
  induction ht with
  | @company t' m h =>
    induction t' generalizing m with
    | ended => exact Follows.wait_through hleave fun n => hresume (fun n => .company h) n
    | step act next ih => exact .quiet (h m).1 (ih m (h m).2)
    | wait v rest ih =>
      refine .wait (fun n => !v.holds n && wake.holds (n.through view)) (fun n hn => Wake.either_of_second hn) hleave
        (fun n hn => ?_) (fun n hn => ?_) fun n hn hno => ?_
      · simp only [Bool.and_eq_true] at hn
        exact hn.2
      · simp only [Bool.and_eq_true, Bool.not_eq_true'] at hn
        refine .quiet rfl ?_
        simp only [hn.1]
        exact hresume (fun n => .company h) n
      · refine .quiet rfl ?_
        by_cases hv : v.holds n = true
        · simp only [hv, if_true]
          exact ih h
        · simp only [hv, Bool.not_false, Bool.true_and] at hno
          exact absurd (Wake.first_of_either hn hno) hv
  | quiet hact _ ih => exact .quiet hact ih
  | step hact _ ih => exact .step hact ih
  | @wait v' v rest' rest m go hwake hgo hnext hstay ihnext ihstay =>
    -- a task goes on, or the activity, or only the company
    refine .wait (fun n => if v'.holds n then go n else wake.holds (n.through view))
      (fun n hn => Wake.either_of_seen (hwake n) hn) hleave (fun n hn => Wake.seen_of_goes (hgo n) hn)
      (fun n hn => ?_) fun n hn hno => ?_
    · refine .step rfl ?_
      by_cases hv : v'.holds n = true
      · simp only [hv, if_true] at hn
        simp only [hv, hgo n hn, if_true]
        exact ihnext n hn
      · simp only [hv, Wake.not_seen (hwake n) hv]
        exact hresume (fun n => .wait go hwake hgo hnext hstay) n
    · refine .quiet rfl ?_
      by_cases hv : v'.holds n = true
      · rw [if_pos hv] at hno ⊢
        exact ihstay n hv hno
      · rw [if_neg hv] at hno
        exact absurd (Wake.first_of_either hn hno) hv

/-- **An activity that is mirrored, with tasks that have company**, follows the one without. -/
theorem Mirrors.attendingRest_follows {a' : Activity σ' α'} {a : Activity σ α} (h : Mirrors view C R a' a)
    {t' : Background σ'} {t : Background σ} (ht : ∀ n, Background.Follows view t' t n) (m : Moment σ') :
    Follows view (Attended R) (attendingRest t' a') (attendingRest t a) m := by
  induction h generalizing t' t m with
  | done h => exact .ended ⟨_, _, rfl, h⟩
  | crash _ => exact .blown rfl
  | quiet hact _ ih => exact .quiet (hact m) (ih m ht _)
  | step hact _ ih => exact .step (hact m) (ih m ht _)
  | detach htask _ ih => exact ih (fun n => (ht n).beside htask) m
  | wait hwake hleave _ ih =>
    subst hwake
    exact Follows.attendedHeld hleave (fun ht n => ih ht n) (ht m)

/-! ## 5. Runs -/

/-- **Runs that end in the same way**, seen through `view`; where nobody goes on any more, the company of the
one may have gone on for a while. -/
def EndSame (view : σ' → σ) (R : α' → α → Prop) : Ending σ' α' → Ending σ α → Prop
  | .returned x' m', .returned x m => R x' x ∧ m = m'.through view
  | .crashed why' m', .crashed why m => why' = why ∧ m = m'.through view
  | .stalled m', .stalled m => m.state = view m'.state
  | _, _ => False

/-- Where the one with company waits for ever, the one alone does. -/
theorem run_wait_stalled {wake' : Wake σ'} {wake : Wake σ} {leave : σ → σ} {next : Activity σ α}
    (hwake : ∀ n : Moment σ', wake.holds (n.through view) = true → wake'.holds n = true)
    (hh : wake'.holds m = false) (hd : wake'.due = none) :
    (wait wake leave next).run (m.through view) = .stalled (m.through view) := by
  have hnot : ∀ n : Nat, wake.holds (Moment.through view ⟨n, m.state⟩) = false := by
    intro n
    cases hl : wake.holds (Moment.through view ⟨n, m.state⟩) with
    | false => rfl
    | true =>
      have := hwake _ hl
      simp only [Wake.holds, hd, Option.any_none, Bool.or_false] at this hh
      rw [hh] at this
      cases this
  rcases run_wait_cases wake leave next (m.through view) with ⟨hl, -⟩ | ⟨-, t, hdue, -⟩ | ⟨-, -, hrun⟩
  · exact absurd hl (by rw [show wake.holds (m.through view) = false from hnot m.now]; exact Bool.false_ne_true)
  · have hdone : wake.holds (Moment.through view ⟨t, m.state⟩) = true := Wake.holds_at_due hdue
    rw [hnot t] at hdone
    cases hdone
  · exact hrun

theorem EndSame.of_alike {e' : Ending σ' α'} {e : Ending σ α} (h : Ending.Alike view R e' e) :
    EndSame view R e' e := by
  cases e' with
  | returned x' n' => cases e <;> exact h
  | crashed why' n' => cases e <;> exact h
  | stalled n' =>
    cases e with
    | stalled n => exact congrArg Moment.state h
    | returned x n => exact h
    | crashed why n => exact h

/-! Where the one alone has ended, the one with company has. -/

theorem EndSame.returned {e' : Ending σ' α'} {x : α} {n : Moment σ} (h : EndSame view R e' (.returned x n)) :
    ∃ x' n', e' = .returned x' n' ∧ R x' x ∧ n = n'.through view := by
  cases e' with
  | returned x' n' => exact ⟨x', n', rfl, h⟩
  | crashed why n' => exact h.elim
  | stalled n' => exact h.elim

theorem EndSame.crashed {e' : Ending σ' α'} {why : Crash} {n : Moment σ} (h : EndSame view R e' (.crashed why n)) :
    ∃ n', e' = .crashed why n' ∧ n = n'.through view := by
  cases e' with
  | returned x' n' => exact h.elim
  | crashed why' n' =>
    obtain ⟨rfl, hn⟩ := h
    exact ⟨n', rfl, hn⟩
  | stalled n' => exact h.elim

theorem EndSame.stalled {e' : Ending σ' α'} {n : Moment σ} (h : EndSame view R e' (.stalled n)) :
    ∃ n', e' = .stalled n' ∧ n.state = view n'.state := by
  cases e' with
  | returned x' n' => exact h.elim
  | crashed why n' => exact h.elim
  | stalled n' => exact ⟨n', rfl, h⟩

theorem EndSame.stalled_through {e' : Ending σ' α'} {n k : Moment σ} (h : EndSame view R e' (.stalled n))
    (hs : k.state = n.state) : EndSame view R e' (.stalled k) := by
  obtain ⟨n', rfl, hn⟩ := h.stalled
  exact hs.trans hn

/-- **Who follows ends in the same way**, if what is left does where the one alone has ended. -/
theorem Follows.run_same {D : Except Crash α → Activity σ' α' → Moment σ' → Prop} {a' : Activity σ' α'}
    {a : Activity σ α} (h : Follows view D a' a m)
    (hD : ∀ {r b' n}, D r b' n → EndSame view R (b'.run n) (.of r (n.through view))) :
    EndSame view R (a'.run m) (a.run (m.through view)) := by
  induction h with
  | ended h => exact hD h
  | blown h => exact hD h
  | quiet hact _ ih =>
    rw [← hact.through]
    exact ih
  | @step act' act next' next m hact _ ih =>
    have hsame : Moment.through view ⟨m.now, act' m⟩ = ⟨m.now, act (m.through view)⟩ :=
      congrArg (Moment.mk m.now) hact
    show EndSame view R ((next' m).run ⟨m.now, act' m⟩)
      ((next (m.through view)).run ⟨m.now, act (m.through view)⟩)
    rw [← hsame]
    exact ih
  | aside _ _ ih => exact ih
  | @wait wake' wake leave' leave next' next m go hwake hleave hgo _ _ ihnext ihstay =>
    -- where the wait is over, whoever can go on does
    have hover : ∀ n : Moment σ', wake'.holds n = true →
        EndSame view R (next'.run n) ((Activity.wait wake leave next).run (n.through view)) := by
      intro n hn
      by_cases hg : go n = true
      · rw [run_wait_over (hgo n hg)]
        exact ihnext n hg
      · exact ihstay n hn (by simpa using hg)
    rcases run_wait_cases wake' leave' next' m with ⟨hh, hrun⟩ | ⟨hh, t, hd, hrun⟩ | ⟨hh, hd, hrun⟩
    · rw [hrun]
      exact hover m hh
    · rw [hrun]
      have hlater := hover ⟨t, m.state⟩ (Wake.holds_at_due hd)
      have hjump := @run_wait_jump _ _ _ view wake' wake leave next m t hwake hh hd
      rcases hjump with hsame | ⟨hstall, hstall'⟩
      · rw [hsame]
        exact hlater
      · rw [hstall'] at hlater
        rw [hstall]
        exact hlater.stalled_through rfl
    · rw [hrun, run_wait_stalled hwake hh hd]
      rfl

/-- **An activity that is mirrored ends as it does alone**, whatever company there is among the tasks. -/
theorem Mirrors.run_beside {a' : Activity σ' α'} {a : Activity σ α} (h : Mirrors view C R a' a)
    {company : Background σ'} (hq : company.Keeps (Unseen view)) (m : Moment σ') :
    EndSame view (fun x' x => R x'.1 x.1) ((attendingRest company a').run m)
      ((attendingRest .ended a).run (m.through view)) := by
  refine (h.attendingRest_follows (fun n => .company hq) m).run_same fun {r b' n} hd => ?_
  match r, hd with
  | .ok (x, _), ⟨x', tasks', hb, hx⟩ =>
    subst hb
    exact ⟨hx, rfl⟩
  | .error why, hd =>
    subst hd
    exact ⟨rfl, rfl⟩

end Activity

end ImageImport
