/-
# Crews settle

An activity is a tree of which every branch ends, and a move leads from a tree to a part of it, and perhaps to a few
tasks.  So a crew of finitely many members makes only finitely many moves, whatever the order and whatever it waits for:
what it has left to do is a finite collection of trees, and a move replaces one of them by finitely many that are
smaller.

Main statements: `Crew.settles`, in every endless run there is a point after which only time passes; and `Crew.rests`,
in a fair run there is one after which nobody can go on.
-/
import ImageImport.Proofs.Concurrency.Crew
import Mathlib.Logic.Hydra
import Mathlib.Tactic.Abel

namespace ImageImport

open Relation

variable {σ ι : Type} {α : ι → Type}

namespace Crew

/-! ## 1. What is left to do -/

/-- What is left of a member, or of a task. -/
abbrev Left (σ : Type) (α : ι → Type) := (Σ i, Activity σ (α i)) ⊕ Background σ

/-- **Smaller**: what a move leaves of something, and the tasks that it leaves to themselves. -/
inductive Smaller : Left σ α → Left σ α → Prop where
  | member {i : ι} {a : Activity σ (α i)} {m : Moment σ} {move : Move σ (α i)} (h : a.move? m = some move) :
      Smaller (.inl ⟨i, move.rest⟩) (.inl ⟨i, a⟩)
  | leaves {i : ι} {a : Activity σ (α i)} {m : Moment σ} {move : Move σ (α i)} {task : Background σ}
      (h : a.move? m = some move) (ht : task ∈ move.tasks) : Smaller (.inr task) (.inl ⟨i, a⟩)
  | task {task rest : Background σ} {m : Moment σ} {s : σ} (h : task.move? m = some (s, rest)) :
      Smaller (.inr rest) (.inr task)

theorem acc_task (task : Background σ) : Acc Smaller (.inr task : Left σ α) := by
  induction task with
  | ended =>
    refine ⟨_, fun y hy => ?_⟩
    cases hy with
    | task h => cases h
  | step act next ih =>
    refine ⟨_, fun y hy => ?_⟩
    cases hy with
    | @task _ _ m _ h =>
      cases h
      exact ih m
  | wait wake next ih =>
    refine ⟨_, fun y hy => ?_⟩
    cases hy with
    | task h =>
      rw [Background.move?] at h
      split at h
      next =>
        cases h
        exact ih
      next => cases h

theorem acc_member (i : ι) (a : Activity σ (α i)) : Acc Smaller (.inl ⟨i, a⟩ : Left σ α) := by
  induction a with
  | done v =>
    refine ⟨_, fun y hy => ?_⟩
    cases hy with
    | member h => cases h
    | leaves h ht => cases h
  | crash why =>
    refine ⟨_, fun y hy => ?_⟩
    cases hy with
    | member h => cases h
    | leaves h ht => cases h
  | step act next ih =>
    refine ⟨_, fun y hy => ?_⟩
    cases hy with
    | @member _ _ m _ h =>
      cases h
      exact ih m
    | leaves h ht => exact acc_task _
  | detach task next ih =>
    refine ⟨_, fun y hy => ?_⟩
    cases hy with
    | member h =>
      cases h
      exact ih
    | leaves h ht => exact acc_task _
  | wait wake leave next ih =>
    refine ⟨_, fun y hy => ?_⟩
    cases hy with
    | member h =>
      rw [Activity.move?] at h
      split at h
      next =>
        cases h
        exact ih
      next => cases h
    | leaves h ht => exact acc_task _

theorem wellFounded_smaller : WellFounded (Smaller : Left σ α → Left σ α → Prop) := by
  refine ⟨fun x => ?_⟩
  rcases x with ⟨i, a⟩ | task
  · exact acc_member i a
  · exact acc_task task

/-! ## 2. The crew -/

variable [Fintype ι]

/-- **All that is left to do.** -/
def left (c : Crew σ α) : Multiset (Left σ α) :=
  Finset.univ.val.map (fun i => (.inl ⟨i, c.rest i⟩ : Left σ α)) + Multiset.ofList (c.tasks.map .inr)

variable [DecidableEq ι]

/-- All but one member. -/
theorem map_univ (f : ι → Left σ α) (i : ι) :
    Finset.univ.val.map f = f i ::ₘ ((Finset.univ : Finset ι).erase i).val.map f := by
  rw [← Multiset.map_cons, Finset.erase_val, Multiset.cons_erase (Finset.mem_univ i)]

/-- **Only time passes.** -/
def Ticks (c d : Crew σ α) : Prop := ∃ t, c.moment.now ≤ t ∧ d = { c with moment := { c.moment with now := t } }

/-- **A step makes less of what is left**, or only time passes. -/
theorem Step.left {c d : Crew σ α} (h : Step c d) :
    Ticks c d ∨ CutExpand Smaller d.left c.left := by
  cases h with
  | @member i move hmove =>
    let few : Multiset (Left σ α) := .inl ⟨i, move.rest⟩ ::ₘ Multiset.ofList (move.tasks.map .inr)
    refine .inr ⟨few, .inl ⟨i, c.rest i⟩, fun x hx => ?_, ?_⟩
    · rcases Multiset.mem_cons.mp hx with rfl | hx
      · exact .member hmove
      · obtain ⟨task, htask, rfl⟩ := List.mem_map.mp (Multiset.mem_coe.mp hx)
        exact .leaves hmove htask
    · let others : Multiset ι := ((Finset.univ : Finset ι).erase i).val
      have hothers : others.map (fun j => (.inl ⟨j, (c.after i move).rest j⟩ : Left σ α)) =
          others.map fun j => .inl ⟨j, c.rest j⟩ := by
        refine Multiset.map_congr rfl fun j hj => ?_
        have hne : j ≠ i := Finset.ne_of_mem_erase hj
        simp [after, hne]
      have hself : (c.after i move).rest i = move.rest := by simp [after]
      rw [Crew.left, Crew.left, map_univ _ i, map_univ _ i, hothers, hself]
      simp only [few, others, after, List.map_append, ← Multiset.coe_add, ← Multiset.singleton_add]
      abel
  | @task before behind task rest s hc hmove =>
    refine .inr ⟨{.inr rest}, .inr task, fun x hx => ?_, ?_⟩
    · rw [Multiset.mem_singleton.mp hx]
      exact .task hmove
    · simp only [Crew.left, hc, List.map_append, List.map_cons, ← Multiset.coe_add, ← Multiset.cons_coe,
        ← Multiset.singleton_add]
      abel
  | tick ht => exact .inl ⟨_, ht, rfl⟩

variable {run : Nat → Crew σ α}

/-- **A crew settles**: in every endless run there is a point after which only time passes. -/
theorem settles (hrun : ∀ n, Step (run n) (run (n + 1))) :
    ∃ n, ∀ k l, n ≤ k → k ≤ l → Ticks (run k) (run l) := by
  obtain ⟨_, ⟨n, rfl⟩, hmin⟩ :=
    wellFounded_smaller.cutExpand.has_min (Set.range fun n => (run n).left) ⟨_, 0, rfl⟩
  -- what is left is as little as it ever gets
  have hsame : ∀ k, n ≤ k → (run k).left = (run n).left ∧ Ticks (run k) (run (k + 1)) := by
    intro k hk
    induction k, hk using Nat.le_induction with
    | base => exact ⟨rfl, (hrun n).left.resolve_right (hmin _ ⟨n + 1, rfl⟩)⟩
    | succ k hk ih =>
      obtain ⟨hleft, t, -, heq⟩ := ih
      have hleft' : (run (k + 1)).left = (run n).left := by
        rw [← hleft, heq]
        rfl
      have hmin' : ¬ CutExpand Smaller (run (k + 1 + 1)).left (run (k + 1)).left := by
        rw [hleft']
        exact hmin _ ⟨k + 1 + 1, rfl⟩
      exact ⟨hleft', (hrun (k + 1)).left.resolve_right hmin'⟩
  refine ⟨n, fun k l hk hl => ?_⟩
  induction l, hl using Nat.le_induction with
  | base => exact ⟨_, Nat.le_refl _, rfl⟩
  | succ l hl ih =>
    obtain ⟨t, ht, heq⟩ := ih
    obtain ⟨t', ht', heq'⟩ := (hsame l (Nat.le_trans hk hl)).2
    rw [heq] at ht' heq'
    exact ⟨t', Nat.le_trans ht ht', heq'⟩

/-- **Whoever can make a move can make it later as well**, if only time passes. -/
theorem move?_later {β : Type} {a : Activity σ β} {m : Moment σ} {t : Nat} (ht : m.now ≤ t)
    (h : a.move? m ≠ none) : a.move? { m with now := t } ≠ none := by
  cases a with
  | wait wake leave next =>
    have hholds : wake.holds m = true := by
      by_contra hnot
      exact h (if_neg hnot)
    have hlater : wake.holds { m with now := t } = true := by
      simp only [Wake.holds, Bool.or_eq_true, Option.any_eq_true, decide_eq_true_eq] at hholds ⊢
      rcases hholds with hready | ⟨due, hdue, hle⟩
      · exact .inl hready
      · exact .inr ⟨due, hdue, Nat.le_trans hle ht⟩
    rw [Activity.move?, if_pos hlater]
    exact Option.some_ne_none _
  | done v => exact h
  | crash why => exact h
  | step act next => exact Option.some_ne_none _
  | detach task next => exact Option.some_ne_none _

/-- **A fair run**: nobody who can go on from some point on is left standing for ever. -/
def Fair (run : Nat → Crew σ α) : Prop :=
  ∀ i n, (∀ k, n ≤ k → ((run k).rest i).move? (run k).moment ≠ none) → ∃ k, n ≤ k ∧ (run k).rest i ≠ (run n).rest i

omit [Fintype ι] in
theorem reaches_of_steps (hrun : ∀ n, Step (run n) (run (n + 1))) (n : Nat) : Reaches (run 0) (run n) := by
  induction n with
  | zero => exact .refl
  | succ n ih => exact .tail ih (hrun n)

/-- **A fair run comes to rest.** -/
theorem rests (hrun : ∀ n, Step (run n) (run (n + 1))) (hfair : Fair run) : ∃ n, ∀ k, n ≤ k → (run k).Idle := by
  obtain ⟨n, hn⟩ := settles hrun
  refine ⟨n, fun k hk i => ?_⟩
  by_contra hmove
  have hstays : ∀ l, k ≤ l → ((run l).rest i).move? (run l).moment ≠ none := by
    intro l hl
    obtain ⟨t, ht, heq⟩ := hn k l hk hl
    rw [heq]
    exact move?_later ht hmove
  obtain ⟨l, hl, hne⟩ := hfair i k hstays
  obtain ⟨t, -, heq⟩ := hn k l hk hl
  rw [heq] at hne
  exact hne rfl

end Crew

end ImageImport
