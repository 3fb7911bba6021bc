/-
# Batches are the levels of the dependencies

The level of a step is the length of the longest chain of dependencies below it.  The loop that forms the
batches counts, for each pending step, the dependencies that are still open; one invariant says what it has
in hand at the start of each round:

  * **in round `n` exactly the steps with a chain of `n` dependencies are pending**, each with the number of
    its dependencies which are pending too (`pendingAt`).

From it everything else is read off: the batch of round `n` is the `n`-th level (`batchOf_pendingAt`), what
remains is what is pending in the next round (`remaining_pendingAt`), the loop comes to a stop at the first
level that is empty (`emit_pendingAt`), and nothing is left over exactly if every step settles
(`left_eq_nil_iff`).

The counters are taken apart further in the last section: one is taken off for every occurrence of every
step that is emitted, and as each step is emitted once, what is taken off is never more than there was.
-/
import ImageImport.Proofs.Workflow.Circles
import Mathlib.Data.List.Induction
import Mathlib.Data.List.Nodup
import Mathlib.Order.Bounds.Basic

namespace ImageImport

/-! ## 1. Chains -/

/-- **There is a chain of so many dependencies below the step.** -/
def ChainBelow (r : String → String → Prop) (step : String) (n : Nat) : Prop :=
  ∃ chain : List String, chain.length = n ∧ List.IsChain r (step :: chain)

section Chains

variable {r : String → String → Prop} {step : String}

theorem chainBelow_zero : ChainBelow r step 0 := ⟨[], rfl, .singleton _⟩

theorem chainBelow_succ_iff {n : Nat} :
    ChainBelow r step (n + 1) ↔ ∃ dep, r step dep ∧ ChainBelow r dep n := by
  constructor
  · rintro ⟨_ | ⟨dep, chain⟩, hlen, hchain⟩
    · simp at hlen
    · obtain ⟨hdep, hrest⟩ := List.isChain_cons_cons.mp hchain
      exact ⟨dep, hdep, chain, by simpa using hlen, hrest⟩
  · rintro ⟨dep, hdep, chain, hlen, hrest⟩
    exact ⟨dep :: chain, by simp [hlen], List.isChain_cons_cons.mpr ⟨hdep, hrest⟩⟩

/-- A chain without its last step. -/
theorem ChainBelow.shorter {n : Nat} (h : ChainBelow r step (n + 1)) : ChainBelow r step n := by
  induction n generalizing step with
  | zero => exact chainBelow_zero
  | succ n ih =>
    obtain ⟨dep, hdep, hrest⟩ := chainBelow_succ_iff.mp h
    exact chainBelow_succ_iff.mpr ⟨dep, hdep, ih hrest⟩

theorem ChainBelow.of_le {m n : Nat} (h : ChainBelow r step n) (hle : m ≤ n) : ChainBelow r step m := by
  induction hle with
  | refl => exact h
  | step _ ih => exact ih h.shorter

/-- **The level of the step**: the length of the longest chain below it. -/
def Level (r : String → String → Prop) (step : String) (n : Nat) : Prop :=
  IsGreatest {n | ChainBelow r step n} n

theorem level_iff {n : Nat} : Level r step n ↔ ChainBelow r step n ∧ ¬ ChainBelow r step (n + 1) := by
  constructor
  · rintro ⟨hmem, hmax⟩
    exact ⟨hmem, fun h => Nat.not_succ_le_self n (hmax h)⟩
  · rintro ⟨hmem, hnot⟩
    refine ⟨hmem, fun m hm => ?_⟩
    by_contra hlt
    exact hnot (ChainBelow.of_le hm (by omega))

/-- Where the chains below a step are bounded, it has a level below the bound. -/
theorem exists_level {bound : Nat} (h : ¬ ChainBelow r step bound) : ∃ n < bound, Level r step n := by
  induction bound with
  | zero => exact absurd chainBelow_zero h
  | succ bound ih =>
    by_cases hb : ChainBelow r step bound
    · exact ⟨bound, Nat.lt_succ_self _, level_iff.mpr ⟨hb, h⟩⟩
    · obtain ⟨n, hn, hl⟩ := ih hb
      exact ⟨n, Nat.lt_succ_of_lt hn, hl⟩

/-- The first level: no dependencies at all. -/
theorem Level.eq_zero_iff {n : Nat} (h : Level r step n) : n = 0 ↔ ∀ dep, ¬ r step dep := by
  obtain ⟨hchain, hnot⟩ := level_iff.mp h
  constructor
  · rintro rfl dep hdep
    exact hnot (chainBelow_succ_iff.mpr ⟨dep, hdep, chainBelow_zero⟩)
  · intro hnone
    cases n with
    | zero => rfl
    | succ n =>
      obtain ⟨dep, hdep, -⟩ := chainBelow_succ_iff.mp hchain
      exact absurd hdep (hnone dep)

/-- A dependency has a level further down. -/
theorem Level.exists_lt {n : Nat} (h : Level r step n) {dep : String} (hdep : r step dep) :
    ∃ j < n, Level r dep j := by
  refine exists_level fun hchain => (level_iff.mp h).2 ?_
  exact chainBelow_succ_iff.mpr ⟨dep, hdep, hchain⟩

/-- **One level up**: the dependencies of a step of level `n + 1` have levels up to `n`, and one has it. -/
theorem Level.greatest_below {n : Nat} (h : Level r step (n + 1)) :
    IsGreatest {j | ∃ dep, r step dep ∧ Level r dep j} n := by
  obtain ⟨hchain, hnot⟩ := level_iff.mp h
  constructor
  · obtain ⟨dep, hdep, hbelow⟩ := chainBelow_succ_iff.mp hchain
    have hmax : ¬ ChainBelow r dep (n + 1) := fun hlong =>
      hnot (chainBelow_succ_iff.mpr ⟨dep, hdep, hlong⟩)
    exact ⟨dep, hdep, level_iff.mpr ⟨hbelow, hmax⟩⟩
  · rintro j ⟨dep, hdep, hlevel⟩
    exact Nat.le_of_succ_le_succ (h.2 (chainBelow_succ_iff.mpr ⟨dep, hdep, hlevel.1⟩))

/-- Whatever numbers steps above their dependencies numbers each at least as high as the chains below it. -/
theorem ChainBelow.le_rank {rank : String → Nat} (hrank : ∀ step dep, r step dep → rank dep < rank step)
    {n : Nat} (h : ChainBelow r step n) : n ≤ rank step := by
  induction n generalizing step with
  | zero => exact Nat.zero_le _
  | succ n ih =>
    obtain ⟨dep, hdep, hbelow⟩ := chainBelow_succ_iff.mp h
    exact Nat.lt_of_le_of_lt (ih hbelow) (hrank step dep hdep)

end Chains

namespace DependencyGraph

/-! ## 2. One round of the loop -/

/-- The steps of the pending ones that come after nothing pending. -/
def batchOf (pending : List (String × Int)) : List String :=
  (pending.filter fun e => e.2 == 0).map (·.1)

/-- The others, with the batch taken off their counters. -/
def remaining (g : DependencyGraph) (pending : List (String × Int)) : List (String × Int) :=
  (pending.filter fun e => e.2 != 0).map fun e => (e.1, e.2 - (g.openIn (batchOf pending) e.1 : Int))

/-- The loop, round by round. -/
theorem emit_eq (g : DependencyGraph) (pending : List (String × Int)) :
    g.emit pending = if batchOf pending = [] then ([], pending) else
      (batchOf pending :: (g.emit (g.remaining pending)).1, (g.emit (g.remaining pending)).2) := by
  rw [emit]
  by_cases h : pending.filter (fun e => e.2 == 0) = []
  · simp [h, batchOf]
  · simp only [dif_neg h, batchOf, List.map_eq_nil_iff, if_neg h]
    rfl

/-- Fewer steps are pending after a round with a batch. -/
theorem length_remaining_lt {g : DependencyGraph} {pending : List (String × Int)}
    (h : batchOf pending ≠ []) : (g.remaining pending).length < pending.length := by
  obtain ⟨step, hstep⟩ := List.exists_mem_of_ne_nil _ h
  obtain ⟨e, he, -⟩ := List.mem_map.mp hstep
  obtain ⟨hmem, hzero⟩ := List.mem_filter.mp he
  rw [remaining, List.length_map]
  exact List.length_filter_lt_length_iff_exists.mpr ⟨e, hmem, by simpa using hzero⟩

/-! ## 3. What is pending -/

variable {g : DependencyGraph}

section

open scoped Classical

/-- The steps of a level, in key order. -/
noncomputable def level (g : DependencyGraph) (n : Nat) : List String :=
  g.nodes.filter fun step => Level g.Edge step n

/-- How many of the dependencies of a step have a chain of `n` dependencies below them. -/
noncomputable def openAt (g : DependencyGraph) (n : Nat) (step : String) : Nat :=
  (g.after step).countP fun dep => ChainBelow g.Edge dep n

/-- **What is pending in round `n`**: the steps with a chain of `n` dependencies below them, each with the
number of those it comes after. -/
noncomputable def pendingAt (g : DependencyGraph) (n : Nat) : List (String × Int) :=
  (g.nodes.filter fun step => ChainBelow g.Edge step n).map fun step => (step, (g.openAt n step : Int))

/-- The first levels, one batch after the other. -/
noncomputable def levels (g : DependencyGraph) (n : Nat) : List (List String) :=
  (List.range n).map g.level

@[simp] theorem mem_level {n : Nat} {step : String} :
    step ∈ g.level n ↔ step ∈ g.nodes ∧ Level g.Edge step n := by
  simp [level]

theorem openAt_eq_zero_iff {n : Nat} {step : String} :
    g.openAt n step = 0 ↔ ¬ ChainBelow g.Edge step (n + 1) := by
  simp only [openAt, List.countP_eq_zero, decide_eq_true_eq, chainBelow_succ_iff, Edge, not_exists,
    not_and]

/-- In the first round every step is pending, with all its dependencies. -/
theorem degrees_eq (hg : g.nodes.Nodup) : g.degrees = g.pendingAt 0 := by
  have hall : g.nodes.filter (fun step => ChainBelow g.Edge step 0) = g.nodes :=
    List.filter_eq_self.mpr fun step _ => by simp [chainBelow_zero]
  rw [pendingAt, hall, nodes, List.map_map, degrees]
  refine List.map_congr_left fun e he => ?_
  have hafter : g.after e.1 = e.2 := after_eq hg he
  have hopen : g.openAt 0 e.1 = e.2.length := by
    rw [openAt, hafter]
    exact List.countP_eq_length.mpr fun dep _ => by simp [chainBelow_zero]
  simp [hopen]

/-- **The batch of a round is a level.** -/
theorem batchOf_pendingAt (g : DependencyGraph) (n : Nat) : batchOf (g.pendingAt n) = g.level n := by
  simp only [batchOf, pendingAt, List.filter_map, List.map_map, List.filter_filter]
  have hid : ((fun e : String × Int => e.1) ∘ fun step => (step, (g.openAt n step : Int))) = id := rfl
  rw [hid, List.map_id]
  refine List.filter_congr fun step _ => ?_
  simp only [Function.comp_apply, beq_eq_decide, ← Bool.decide_and, decide_eq_decide,
    Int.natCast_eq_zero, openAt_eq_zero_iff, level_iff]
  exact and_comm

/-- Of dependencies that are steps, those with a chain of `n` below them are the ones of level `n` and those
with a longer chain. -/
theorem countP_level (n : Nat) {deps : List String} (hdeps : ∀ dep ∈ deps, dep ∈ g.nodes) :
    deps.countP (fun dep => ChainBelow g.Edge dep n) =
      deps.countP (fun dep => ChainBelow g.Edge dep (n + 1)) +
        deps.countP fun dep => (g.level n).contains dep := by
  induction deps with
  | nil => rfl
  | cons dep rest ih =>
    obtain ⟨hdep, hrest⟩ := List.forall_mem_cons.mp hdeps
    have hlevel : (g.level n).contains dep = decide (Level g.Edge dep n) := by
      simp [hdep]
    simp only [List.countP_cons, ih hrest, hlevel, level_iff, decide_eq_true_eq]
    by_cases hlong : ChainBelow g.Edge dep (n + 1)
    · simp only [if_pos hlong, if_pos hlong.shorter,
        if_neg (fun h : _ ∧ ¬ ChainBelow g.Edge dep (n + 1) => h.2 hlong)]
      omega
    · by_cases hn : ChainBelow g.Edge dep n
      · simp only [if_neg hlong, if_pos hn, if_pos (And.intro hn hlong)]
        omega
      · simp only [if_neg hlong, if_neg hn,
          if_neg (fun h : ChainBelow g.Edge dep n ∧ _ => hn h.1)]
        omega

/-- **What remains after a round is what is pending in the next.** -/
theorem remaining_pendingAt (hg : g.Closed) (n : Nat) :
    g.remaining (g.pendingAt n) = g.pendingAt (n + 1) := by
  rw [remaining, batchOf_pendingAt]
  simp only [pendingAt, List.filter_map, List.map_map, List.filter_filter]
  have hsame : ∀ step ∈ g.nodes,
      (((fun e : String × Int => e.2 != 0) ∘ fun step => (step, (g.openAt n step : Int))) step &&
        decide (ChainBelow g.Edge step n)) = decide (ChainBelow g.Edge step (n + 1)) := by
    intro step _
    have hopen : ((g.openAt n step : Int) != 0) = decide (ChainBelow g.Edge step (n + 1)) := by
      rw [bne, beq_eq_decide, ← decide_not, decide_eq_decide, Int.natCast_eq_zero, openAt_eq_zero_iff,
        not_not]
    simp only [Function.comp_apply, hopen, ← Bool.decide_and, decide_eq_decide]
    exact ⟨fun h => h.1, fun h => ⟨h, h.shorter⟩⟩
  rw [List.filter_congr hsame]
  refine List.map_congr_left fun step _ => ?_
  have hcount := countP_level n fun dep (hdep : dep ∈ g.after step) => hg.inside hdep
  simp only [Function.comp_apply, openIn, openAt, hcount]
  simp

end

/-! ## 4. The whole loop -/

/-- **The loop emits level after level, up to the first one that is empty.** -/
theorem emit_pendingAt (hg : g.Closed) (n : Nat) :
    ∃ rounds, g.emit (g.pendingAt n) =
      ((List.range' n rounds).map g.level, g.pendingAt (n + rounds)) ∧
      (∀ level ∈ (List.range' n rounds).map g.level, level ≠ []) ∧ g.level (n + rounds) = [] := by
  generalize hp : g.pendingAt n = pending
  induction hl : pending.length using Nat.strong_induction_on generalizing n pending with
  | _ len ih =>
    subst hp hl
    rw [emit_eq, batchOf_pendingAt, remaining_pendingAt hg]
    by_cases hempty : g.level n = []
    · exact ⟨0, by simp [hempty], by simp, hempty⟩
    · have hlt : (g.pendingAt (n + 1)).length < (g.pendingAt n).length := by
        rw [← remaining_pendingAt hg]
        exact length_remaining_lt (by rwa [batchOf_pendingAt])
      obtain ⟨rounds, hemit, hne, hlast⟩ := ih _ hlt (n + 1) _ rfl rfl
      have hn : n + 1 + rounds = n + (rounds + 1) := by omega
      refine ⟨rounds + 1, ?_, ?_, hn ▸ hlast⟩
      · rw [if_neg hempty, hemit, List.range'_succ, List.map_cons, hn]
      · rw [List.range'_succ, List.map_cons]
        exact List.forall_mem_cons.mpr ⟨hempty, hne⟩

/-- The loop from the start. -/
theorem emit_degrees (hg : g.Closed) :
    ∃ rounds, g.emit g.degrees = (g.levels rounds, g.pendingAt rounds) ∧
      (∀ level ∈ g.levels rounds, level ≠ []) ∧ g.level rounds = [] := by
  obtain ⟨rounds, hemit, hne, hlast⟩ := emit_pendingAt hg 0
  rw [Nat.zero_add, ← List.range_eq_range', ← degrees_eq hg.nodup, ← levels] at hemit
  rw [← List.range_eq_range', ← levels] at hne
  exact ⟨rounds, hemit, hne, by rwa [Nat.zero_add] at hlast⟩

/-! ## 5. What is left over -/

/-- Below a step that settles there is no chain as long as a level that is empty. -/
theorem Settles.not_chainBelow (hg : g.Closed) {n : Nat} (hempty : g.level n = []) {step : String}
    (h : g.Settles step) (hstep : step ∈ g.nodes) : ¬ ChainBelow g.Edge step n := by
  induction h with
  | intro step _ ih =>
    intro hchain
    have hlong : ChainBelow g.Edge step (n + 1) := by
      by_contra hnot
      have hmem : step ∈ g.level n := mem_level.mpr ⟨hstep, level_iff.mpr ⟨hchain, hnot⟩⟩
      simp [hempty] at hmem
    obtain ⟨dep, hdep, hbelow⟩ := chainBelow_succ_iff.mp hlong
    exact ih dep hdep (hg.inside hdep) hbelow

/-- A step settles if the chains below it are bounded. -/
theorem settles_of_not_chainBelow {n : Nat} {step : String} (h : ¬ ChainBelow g.Edge step n) :
    g.Settles step := by
  induction n generalizing step with
  | zero => exact absurd chainBelow_zero h
  | succ n ih =>
    exact settles_of_edges fun dep hdep =>
      ih fun hbelow => h (chainBelow_succ_iff.mpr ⟨dep, hdep, hbelow⟩)

theorem pendingAt_eq_nil_iff {n : Nat} :
    g.pendingAt n = [] ↔ ∀ step ∈ g.nodes, ¬ ChainBelow g.Edge step n := by
  simp [pendingAt]

/-- **Nothing is left over exactly if every step settles.** -/
theorem left_eq_nil_iff (hg : g.Closed) :
    (g.emit g.degrees).2 = [] ↔ ∀ step, g.Settles step := by
  obtain ⟨rounds, hemit, -, hlast⟩ := emit_degrees hg
  rw [hemit, pendingAt_eq_nil_iff]
  constructor
  · intro h step
    by_cases hstep : step ∈ g.nodes
    · exact settles_of_not_chainBelow (h step hstep)
    · exact settles_of_not_mem hstep
  · intro h step hstep
    exact (h step).not_chainBelow hg hlast hstep

/-! ## 6. What has been emitted -/

theorem mem_flatten_levels {n : Nat} {step : String} :
    step ∈ (g.levels n).flatten ↔ step ∈ g.nodes ∧ ¬ ChainBelow g.Edge step n := by
  simp only [levels, List.mem_flatten, List.mem_map, List.mem_range, exists_exists_and_eq_and, mem_level]
  constructor
  · rintro ⟨m, hm, hstep, hlevel⟩
    exact ⟨hstep, fun h => (level_iff.mp hlevel).2 (h.of_le hm)⟩
  · rintro ⟨hstep, hchain⟩
    obtain ⟨m, hm, hlevel⟩ := exists_level hchain
    exact ⟨m, hm, hstep, hlevel⟩

/-- **No step is emitted twice.** -/
theorem nodup_flatten_levels (hg : g.nodes.Nodup) (n : Nat) : (g.levels n).flatten.Nodup := by
  refine List.nodup_flatten.mpr ⟨?_, List.pairwise_map.mpr ?_⟩
  · rw [levels, List.forall_mem_map]
    exact fun m _ => hg.filter _
  · refine List.nodup_range.imp fun {m n} hne step hm hn => hne ?_
    exact (mem_level.mp hm).2.unique (mem_level.mp hn).2

theorem flatten_levels_succ (g : DependencyGraph) (n : Nat) :
    (g.levels (n + 1)).flatten = (g.levels n).flatten ++ g.level n := by
  simp [levels, List.range_succ]

/-- **The states of the loop**: the steps emitted so far, in that order, and what is pending. -/
inductive Emitting (g : DependencyGraph) : List String → List (String × Int) → Prop
  | start : Emitting g [] g.degrees
  | round {emitted : List String} {pending : List (String × Int)} (h : Emitting g emitted pending)
      (hbatch : batchOf pending ≠ []) : Emitting g (emitted ++ batchOf pending) (g.remaining pending)

/-- **Every state of the loop is that at the start of a round.** -/
theorem Emitting.at_round (hg : g.Closed) {emitted : List String} {pending : List (String × Int)}
    (h : Emitting g emitted pending) : ∃ n, emitted = (g.levels n).flatten ∧ pending = g.pendingAt n := by
  induction h with
  | start => exact ⟨0, rfl, degrees_eq hg.nodup⟩
  | round _ _ ih =>
    obtain ⟨n, rfl, rfl⟩ := ih
    refine ⟨n + 1, ?_, remaining_pendingAt hg n⟩
    rw [batchOf_pendingAt, flatten_levels_succ]

/-- **The loop runs through these states**, from any of them to the end. -/
theorem Emitting.emit {emitted : List String} {pending : List (String × Int)}
    (h : Emitting g emitted pending) :
    Emitting g (emitted ++ (g.emit pending).1.flatten) (g.emit pending).2 := by
  induction hl : pending.length using Nat.strong_induction_on generalizing emitted pending with
  | _ len ih =>
    subst hl
    rw [emit_eq]
    by_cases hbatch : batchOf pending = []
    · simpa [hbatch] using h
    · have hrest := ih _ (length_remaining_lt hbatch) (h.round hbatch) rfl
      simpa [hbatch] using hrest

/-! ## 7. The counters -/

/-- **The counter of a step** after some steps have been emitted one by one: each takes one off for every time
it is listed. -/
def counter (g : DependencyGraph) (step : String) (emitted : List String) : Int :=
  emitted.foldl (fun n done => n - ((g.after step).count done : Int)) ((g.after step).length : Int)

/-- What is taken off for one more step. -/
theorem countP_not_mem_append {emitted : List String} {done : String} (h : done ∉ emitted)
    (deps : List String) :
    deps.countP (fun dep => dep ∉ emitted) =
      deps.countP (fun dep => dep ∉ emitted ++ [done]) + deps.count done := by
  induction deps with
  | nil => rfl
  | cons dep rest ih =>
    rw [List.countP_cons, List.countP_cons, List.count_cons, ih]
    by_cases hd : dep = done
    · subst hd
      simp [h]
      omega
    · by_cases he : dep ∈ emitted
      · simp [hd, he]
      · simp [hd, he]
        omega

/-- **The counter says how many dependencies are still to be emitted**, however often they are listed. -/
theorem counter_eq {step : String} {emitted : List String} (h : emitted.Nodup) :
    g.counter step emitted = ((g.after step).countP fun dep => dep ∉ emitted : Nat) := by
  induction emitted using List.reverseRecOn with
  | nil => simp [counter]
  | append_singleton emitted done ih =>
    obtain ⟨hemitted, -, hdone⟩ := List.nodup_append.mp h
    have hnew : done ∉ emitted := fun hmem => hdone done hmem done (List.mem_singleton_self _) rfl
    have hstep : g.counter step (emitted ++ [done]) =
        g.counter step emitted - ((g.after step).count done : Int) := by
      simp [counter]
    rw [hstep, ih hemitted, countP_not_mem_append hnew]
    omega

/-- **The loop's own counters are these.** -/
theorem Emitting.counter_eq (hg : g.Closed) {emitted : List String} {pending : List (String × Int)}
    (h : Emitting g emitted pending) {e : String × Int} (he : e ∈ pending) :
    e.2 = g.counter e.1 emitted := by
  obtain ⟨n, rfl, rfl⟩ := h.at_round hg
  obtain ⟨step, -, rfl⟩ := List.mem_map.mp he
  rw [DependencyGraph.counter_eq (nodup_flatten_levels hg.nodup n), openAt]
  refine congrArg Nat.cast (List.countP_congr fun dep hdep => ?_)
  have hin : dep ∈ g.nodes := hg.inside hdep
  simp only [decide_eq_true_eq, mem_flatten_levels, hin, true_and, not_not]

/-- **No counter goes below zero**, at no point of a round. -/
theorem Emitting.counter_nonneg (hg : g.Closed) {emitted done : List String}
    {pending : List (String × Int)} (h : Emitting g emitted pending) (hdone : done <+: batchOf pending)
    (step : String) : 0 ≤ g.counter step (emitted ++ done) := by
  obtain ⟨n, rfl, rfl⟩ := h.at_round hg
  rw [batchOf_pendingAt] at hdone
  have hnodup : ((g.levels n).flatten ++ g.level n).Nodup := by
    rw [← flatten_levels_succ]
    exact nodup_flatten_levels hg.nodup (n + 1)
  rw [DependencyGraph.counter_eq (hnodup.sublist (hdone.sublist.append_left _))]
  exact Int.natCast_nonneg _

end DependencyGraph

end ImageImport
