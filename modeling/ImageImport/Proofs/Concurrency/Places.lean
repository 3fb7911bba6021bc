/-
# Places in a run

A run of one activity after the other passes a place between the two: the moment at which the first one
returns, and what is left by then of the tasks that nobody waits for.  `a.Leads p v p'` says that `a`, run
from the place `p`, returns `v` at the place `p'`.

So a run of a text is a walk along its activities, from place to place: `leads_bind` takes it apart, and
what an activity promises on its terms is known at the place it leads to (`Meets.leads`).
-/
import ImageImport.Proofs.Concurrency.Running
import ImageImport.Proofs.Concurrency.Watching

namespace ImageImport

variable {σ α β : Type}

/-! ## 1. From place to place -/

/-- **A place in a run**: the moment, and what is left of the tasks that nobody waits for. -/
structure Place (σ : Type) where
  moment : Moment σ
  tasks : Background σ

/-- Where a run starts. -/
def Place.start (m : Moment σ) : Place σ := ⟨m, .ended⟩

/-- The same place with another state. -/
def Place.set (p : Place σ) (s : σ) : Place σ := { p with moment := { p.moment with state := s } }

namespace Activity

/-- **The activity leads from one place to another**, where it returns the value. -/
def Leads (a : Activity σ α) (p : Place σ) (v : α) (p' : Place σ) : Prop :=
  (attendingRest p.tasks a).run p.moment = .returned (v, p'.tasks) p'.moment

/-- **The instant at which it leads on** from a place, if it does. -/
def leadsUntil (a : Activity σ α) (p : Place σ) : Option Nat :=
  match (attendingRest p.tasks a).run p.moment with
  | .returned _ m => some m.now
  | _ => none

variable {a : Activity σ α} {p p' : Place σ} {v : α}

theorem leads_of_leadsUntil {t : Nat} (h : a.leadsUntil p = some t) : ∃ v p', a.Leads p v p' ∧ p'.moment.now = t := by
  unfold leadsUntil at h
  split at h
  next x m hrun =>
    cases h
    exact ⟨x.1, ⟨m, x.2⟩, hrun, rfl⟩
  next => cases h

/-- **One after the other**: there is a place between the two. -/
theorem leads_bind {f : α → Activity σ β} {w : β} :
    (a.bind f).Leads p w p' ↔ ∃ v q, a.Leads p v q ∧ (f v).Leads q w p' := by
  rw [Leads, attendingRest_bind, run_bind]
  constructor
  · intro h
    cases ha : (attendingRest p.tasks a).run p.moment with
    | returned x m =>
      rw [ha] at h
      exact ⟨x.1, ⟨m, x.2⟩, ha, h⟩
    | crashed why m =>
      rw [ha] at h
      cases h
    | stalled m =>
      rw [ha] at h
      cases h
  · rintro ⟨v, q, ha, hf⟩
    rw [show (attendingRest p.tasks a).run p.moment = _ from ha]
    exact hf

theorem leads_done {x : α} : (done x : Activity σ α).Leads p v p' ↔ v = x ∧ p' = p := by
  simp only [Leads, attendingRest, run, Ending.returned.injEq, Prod.mk.injEq]
  constructor
  · rintro ⟨⟨rfl, ht⟩, hm⟩
    cases p'
    cases ht
    cases hm
    exact ⟨rfl, rfl⟩
  · rintro ⟨rfl, rfl⟩
    exact ⟨⟨rfl, rfl⟩, rfl⟩

theorem leads_read {f : σ → α} : (read f).Leads p v p' ↔ v = f p.moment.state ∧ p' = p := leads_done

theorem leads_update {f : σ → σ} {u : Unit} :
    (update f).Leads p u p' ↔ p' = p.set (f p.moment.state) := by
  have h : (done ()).Leads (p.set (f p.moment.state)) u p' ↔ u = () ∧ p' = p.set (f p.moment.state) :=
    leads_done
  exact h.trans (and_iff_right rfl)

theorem leads_clock {n : Nat} :
    (clock : Activity σ Nat).Leads p n p' ↔ n = p.moment.now ∧ p' = p := leads_done

/-- **Beside no tasks**, one that leaves none behind runs by itself. -/
theorem attendingRest_nothing (h : a.LeavesNothing) :
    attendingRest .ended a = a.bind fun x => done (x, .ended) := by
  induction h with
  | done x => rfl
  | crash why => rfl
  | step act _ ih =>
    simp only [attendingRest, bind, Activity.step.injEq, true_and]
    funext m
    exact ih m
  | wait wake leave _ ih => simp only [attendingRest, attendedHeld, bind, ih]

/-- One that leaves nothing behind leads where it runs to. -/
theorem leads_nothing (h : a.LeavesNothing) {m : Moment σ} :
    a.Leads (.start m) v p' ↔ a.run m = .returned v p'.moment ∧ p'.tasks = .ended := by
  rw [Leads, Place.start, attendingRest_nothing h, run_bind]
  cases a.run m with
  | returned x last =>
    show Ending.returned (x, Background.ended) last = .returned (v, p'.tasks) p'.moment ↔ _
    simp only [Ending.returned.injEq, Prod.mk.injEq]
    constructor
    · rintro ⟨⟨rfl, ht⟩, rfl⟩
      exact ⟨⟨rfl, rfl⟩, ht.symm⟩
    · rintro ⟨⟨rfl, rfl⟩, ht⟩
      exact ⟨⟨rfl, ht.symm⟩, rfl⟩
  | crashed why last => simp [Ending.andThen]
  | stalled last => simp [Ending.andThen]

/-- One that leaves nothing behind, and then something else. -/
theorem attended_bind (h : a.LeavesNothing) (f : α → Activity σ β) :
    (a.bind f).attended = a.bind fun x => (f x).attended := by
  rw [attended, attending_eq, attendingRest_bind, attendingRest_nothing h, bind_assoc, bind_assoc]
  congr 1
  funext x
  exact (attending_eq .ended (f x)).symm

/-- **From a place that is passed** the run goes on with what is left. -/
theorem Leads.run_attending (h : a.Leads p v p') (f : α → Activity σ β) :
    (attending p.tasks (a.bind f)).run p.moment =
      ((attendingRest p'.tasks (f v)).run p'.moment).andThen fun x m => .returned x.1 m := by
  rw [attending_eq, attendingRest_bind, bind_assoc, run_bind,
    show (attendingRest p.tasks a).run p.moment = _ from h]
  exact run_bind _ _ _

/-- A run that returns leads from its start to where it returns. -/
theorem leads_of_attended {m m' : Moment σ} (h : a.attended.run m = .returned v m') :
    ∃ p', a.Leads (.start m) v p' ∧ p'.moment = m' := by
  rw [attended, attending_eq, run_bind] at h
  cases ha : (attendingRest .ended a).run m with
  | returned x last =>
    rw [ha] at h
    cases h
    exact ⟨⟨_, x.2⟩, ha, rfl⟩
  | crashed why last =>
    rw [ha] at h
    cases h
  | stalled last =>
    rw [ha] at h
    cases h

/-! ## 2. What is known on the way -/

/-- **What the activity promises is known where it leads**, and what it leaves to themselves are tasks of its
terms. -/
theorem Meets.leads {T : Terms σ} {W : Wake σ → Moment σ → Prop} {Q : Except Crash α → Moment σ → Prop}
    (hT : T.Closed W) (hp : p.tasks.Keeps T.left) (ha : a.Meets T W Q p.moment) (h : a.Leads p v p') :
    Q (.ok v) p'.moment ∧ p'.tasks.Keeps T.left := by
  have hsat := ha.run_attendingRest hT hp
  rw [show (attendingRest p.tasks a).run p.moment = _ from h] at hsat
  exact hsat

/-- The terms of one of which nothing is known. -/
def unbound : Terms σ where
  rely _ _ := True
  guar _ _ := True
  left _ _ := True
  rely_refl _ := trivial
  rely_trans _ _ := trivial
  guar_refl _ := trivial
  guar_trans _ _ := trivial
  left_refl _ := trivial

/-- On such terms there is nothing to keep. -/
theorem meets_unbound (a : Activity σ α) (m : Moment σ) :
    a.Meets unbound (fun _ _ => True) (fun _ _ => True) m := by
  have hquiet : a.Quiet (fun _ _ => True) fun _ => True :=
    (quiet_any a).mono (fun _ _ h => h) (fun task _ => task.keeps_any) fun h => h
  exact Quiet.meets (X := fun _ => True) id id (fun _ _ => trivial) (fun _ _ => trivial)
    (fun _ _ _ => trivial) (fun _ => trivial) (fun _ => trivial) (fun _ _ => trivial) hquiet trivial

/-- **What is known of all ends of an activity is known where it leads**, whoever acts meanwhile. -/
theorem Always.leads {N : σ → σ → Prop} {K : Background σ → Prop} {q : Except Crash α → Prop}
    (ha : a.Always N K q) (h : a.Leads p v p') : q (.ok v) := by
  have hclosed : (unbound : Terms σ).Closed fun _ _ => True :=
    ⟨fun _ => trivial, fun _ _ => trivial, fun _ _ _ _ _ => trivial, fun _ => trivial⟩
  exact (((meets_unbound a p.moment).and_always ha).leads hclosed p.tasks.keeps_any h).1.2

end Activity

end ImageImport
