/-
# The order of the steps of a workflow

What the order of a workflow's steps is, and when there is none:

  1. `Workflow.executionOrder_arranged`: **if there is an order, its batches are the levels** of the
     dependencies.  Each step stands in one batch, whose place is the length of the longest chain of
     dependencies below the step, and no counter goes below zero on the way there.
  2. `Workflow.executionOrder_rejects`: **exactly the bad dependencies are rejected**: an unknown name first,
     the first of them in key order, and then a circle, with the least step that reaches one.  The loop never
     comes to a stop with steps left over, since the search for a circle has found one by then.

Both are read off one account of the function (`executionOrder_cases`): it has three ends, each with what is
known of the dependencies there.
-/
import ImageImport.Proofs.Text.ByteOrder
import ImageImport.Proofs.Workflow.Levels

namespace ImageImport

/-! ## 1. Where a step stands -/

/-- The step is in the batch at that place. -/
def StandsAt (batches : List (List String)) (step : String) (i : Nat) : Prop :=
  ∃ batch, batches[i]? = some batch ∧ step ∈ batch

namespace DependencyGraph

variable {g : DependencyGraph}

/-- Among so many levels that nothing is pending after them, a step stands at its level. -/
theorem standsAt_levels_iff {n : Nat} (hdone : g.pendingAt n = []) {step : String} {i : Nat} :
    StandsAt (g.levels n) step i ↔ step ∈ g.nodes ∧ Level g.Edge step i := by
  constructor
  · rintro ⟨batch, hbatch, hstep⟩
    obtain ⟨hi, rfl⟩ := List.getElem?_eq_some_iff.mp hbatch
    simpa [levels] using hstep
  · rintro ⟨hstep, hlevel⟩
    have hi : i < n := by
      by_contra hle
      exact pendingAt_eq_nil_iff.mp hdone step hstep (hlevel.1.of_le (by omega))
    exact ⟨g.level i, by simp [levels, hi], mem_level.mpr ⟨hstep, hlevel⟩⟩

end DependencyGraph

namespace Workflow

open DependencyGraph

/-! ## 2. The three ends -/

/-- The report of a circle. -/
def circleText (step : String) : String := "Dependency cycle detected involving step '" ++ step ++ "'"

/-- **The least step, in key order, from which a circle can be reached.** -/
def LeastCircular (w : Workflow) (step : String) : Prop :=
  IsLeast {s | s ∈ w.steps.keys ∧ ReachesCircle w.DependsOn s} step

/-- What is known where the function ends. -/
inductive Ends (w : Workflow) : Except WorkflowError (List (List String)) → Prop
  /-- Some name is wrong, and the first offence is reported. -/
  | offence {o : Offence} (h : w.offences.head? = some o) : Ends w (.error (.stepNotFound o.text))
  /-- The names are known, and the least step that reaches a circle is reported. -/
  | circle {step : String} (hnames : w.NamesKnown) (hleast : w.LeastCircular step) :
      Ends w (.error (.dependencyCycle (circleText step)))
  /-- The names are known, every step settles, and the batches are the levels. -/
  | order {n : Nat} (hnames : w.NamesKnown) (hsettle : ∀ step, w.graph.Settles step)
      (hemit : w.graph.emit w.graph.degrees = (w.graph.levels n, []))
      (hdone : w.graph.pendingAt n = []) (hne : ∀ level ∈ w.graph.levels n, level ≠ []) :
      Ends w (.ok (w.graph.levels n))

/-- The step reported by the search is the least one. -/
theorem leastCircular_of_reported {w : Workflow} (hnames : w.NamesKnown) {step : String}
    (h : w.graph.Reported w.steps.keys (some step)) : w.LeastCircular step := by
  obtain ⟨before, after, hkeys, hbefore, hcircle⟩ := h
  rw [graph_edge_eq hnames] at hcircle
  have hsorted := w.steps.keys_sorted
  rw [hkeys, List.pairwise_append, List.pairwise_cons] at hsorted
  refine ⟨⟨by simp [hkeys], hcircle⟩, ?_⟩
  rintro s ⟨hs, hc⟩
  rw [hkeys] at hs
  rcases List.mem_append.mp hs with hs | hs
  · -- the steps before it settle
    rw [← graph_edge_eq hnames] at hc
    exact absurd hc (hbefore s hs).not_reachesCircle
  · rcases List.mem_cons.mp hs with rfl | hs
    · exact String.le_refl _
    · exact String.not_lt.mp (String.lt_asymm (hsorted.2.1.1 s hs))

/-- **The function has three ends.** -/
theorem executionOrder_cases (w : Workflow) : w.Ends w.executionOrder := by
  rw [executionOrder, dependencyGraph_eq]
  cases ho : w.offences with
  | cons o rest => exact .offence (by rw [ho]; rfl)
  | nil =>
    have hnames : w.NamesKnown := (w.offences_eq_nil_iff).mp ho
    simp only [firstOf, Except.map]
    have hreported := reported_firstCircular (g := w.graph) [] w.graph.nodes (by simp)
    cases hf : w.graph.firstCircular [] w.graph.nodes with
    | some step =>
      rw [hf, nodes_graph] at hreported
      exact .circle hnames (leastCircular_of_reported hnames hreported)
    | none =>
      have hsettle := firstCircular_eq_none_iff.mp hf
      obtain ⟨n, hemit, hne, -⟩ := emit_degrees (graph_closed hnames)
      have hdone : w.graph.pendingAt n = [] := by
        rw [← (left_eq_nil_iff (graph_closed hnames)).mpr hsettle, hemit]
      rw [hdone] at hemit
      simp only [hemit, List.isEmpty_nil, if_true]
      exact .order hnames hsettle hemit hdone hne

/-! ## 3. The batches are the levels -/

/-- **The steps arranged in batches by their levels.** -/
structure Arranged (w : Workflow) (batches : List (List String)) : Prop where
  /-- Every step is in the batches once, and nothing else. -/
  perm : batches.flatten.Perm w.steps.keys
  nodup : batches.flatten.Nodup
  /-- No batch is empty. -/
  nonempty : ∀ batch ∈ batches, batch ≠ []
  /-- Each is sorted by the bytes of the names. -/
  sorted : ∀ batch ∈ batches, batch.Pairwise fun a b => utf8Bytes a < utf8Bytes b
  /-- A step stands at the length of the longest chain of dependencies below it. -/
  level : ∀ {step : String} {i : Nat}, StandsAt batches step i →
    IsGreatest {n | ChainBelow w.DependsOn step n} i
  /-- That is the first batch exactly if it has none. -/
  first : ∀ {step : String} {i : Nat}, StandsAt batches step i →
    (i = 0 ↔ ∀ dep, ¬ w.DependsOn step dep)
  /-- Else it is the one after the last of its dependencies. -/
  next : ∀ {step : String} {i : Nat}, StandsAt batches step (i + 1) →
    IsGreatest {j | ∃ dep, w.DependsOn step dep ∧ StandsAt batches dep j} i
  /-- Every dependency stands in some earlier batch. -/
  after : ∀ {step dep : String} {i : Nat}, StandsAt batches step i → w.DependsOn step dep →
    ∃ j < i, StandsAt batches dep j
  /-- Wherever steps come after their dependencies, each comes at least as late. -/
  earliest : ∀ {step : String} {i : Nat}, StandsAt batches step i → ∀ rank : String → Nat,
    (∀ step dep, w.DependsOn step dep → rank dep < rank step) → i ≤ rank step
  /-- The loop has gone from the start to a state with nothing pending. -/
  reached : w.graph.Emitting batches.flatten []
  /-- In every state of the loop the counters of the pending steps are those taken down step by step. -/
  counters : ∀ {emitted : List String} {pending : List (String × Int)},
    w.graph.Emitting emitted pending → ∀ e ∈ pending, e.2 = w.graph.counter e.1 emitted
  /-- None of them goes below zero, at no point of a round. -/
  nonneg : ∀ {emitted done : List String} {pending : List (String × Int)},
    w.graph.Emitting emitted pending → done <+: batchOf pending →
    ∀ step, 0 ≤ w.graph.counter step (emitted ++ done)

section Levels

variable {w : Workflow} (hnames : w.NamesKnown) {n : Nat} (hdone : w.graph.pendingAt n = [])
include hnames hdone

theorem standsAt_iff {step : String} {i : Nat} :
    StandsAt (w.graph.levels n) step i ↔ step ∈ w.steps.keys ∧ Level w.DependsOn step i := by
  rw [← graph_edge_eq hnames, ← nodes_graph]
  exact standsAt_levels_iff hdone

/-- The dependencies of a step stand at their levels. -/
theorem dependency_stands_iff {step dep : String} {j : Nat} :
    w.DependsOn step dep ∧ StandsAt (w.graph.levels n) dep j ↔
      w.DependsOn step dep ∧ Level w.DependsOn dep j := by
  refine and_congr_right fun hdep => ?_
  obtain ⟨deps, hmem, hlisted⟩ := hdep
  rw [standsAt_iff hnames hdone]
  exact and_iff_right ((hnames _ hmem).2 dep hlisted)

/-- The levels, so many that nothing is pending after them, are such batches. -/
theorem arranged_levels (hemit : w.graph.emit w.graph.degrees = (w.graph.levels n, []))
    (hne : ∀ level ∈ w.graph.levels n, level ≠ []) : w.Arranged (w.graph.levels n) where
  perm := by
    have hclosed := graph_closed hnames
    rw [← nodes_graph]
    refine (List.perm_ext_iff_of_nodup (nodup_flatten_levels hclosed.nodup n) hclosed.nodup).mpr
      fun step => ?_
    rw [mem_flatten_levels]
    exact and_iff_left_of_imp fun hstep => pendingAt_eq_nil_iff.mp hdone step hstep
  nodup := nodup_flatten_levels (graph_closed hnames).nodup n
  nonempty := hne
  sorted := by
    rw [levels, List.forall_mem_map]
    intro i _
    have hkeys : (w.graph.level i).Pairwise (· < ·) := by
      rw [DependencyGraph.level, nodes_graph]
      exact w.steps.keys_sorted.filter _
    exact hkeys.imp utf8Bytes_lt
  level h := ((standsAt_iff hnames hdone).mp h).2
  first h := ((standsAt_iff hnames hdone).mp h).2.eq_zero_iff
  next h := by
    simp only [dependency_stands_iff hnames hdone]
    exact ((standsAt_iff hnames hdone).mp h).2.greatest_below
  after := by
    intro step dep i h hdep
    obtain ⟨j, hj, hlevel⟩ := ((standsAt_iff hnames hdone).mp h).2.exists_lt hdep
    exact ⟨j, hj, ((dependency_stands_iff hnames hdone).mpr ⟨hdep, hlevel⟩).2⟩
  earliest h _ hrank := ((standsAt_iff hnames hdone).mp h).2.1.le_rank hrank
  reached := by
    have h := (Emitting.start (g := w.graph)).emit
    rwa [hemit, List.nil_append] at h
  counters h _ he := h.counter_eq (graph_closed hnames) he
  nonneg h hpart step := h.counter_nonneg (graph_closed hnames) hpart step

end Levels

/-- **If there is an order, its batches are the levels of the dependencies.** -/
theorem executionOrder_arranged (w : Workflow) {batches : List (List String)}
    (h : w.executionOrder = .ok batches) : w.Arranged batches := by
  have hends := executionOrder_cases w
  rw [h] at hends
  cases hends with
  | order hnames _ hemit hdone hne => exact arranged_levels hnames hdone hemit hne

/-- A workflow in which one step is listed twice for another. -/
def listedTwice : Workflow where
  name := "listed-twice"
  steps := .ofList [("a", .createDisks []), ("b", .createDisks []), ("c", .createDisks []),
    ("d", .createDisks [])]
  dependencies := .ofList [("b", ["a", "a"]), ("c", ["b", "a"])]

theorem executionOrder_listedTwice :
    listedTwice.executionOrder = .ok [["a", "d"], ["b"], ["c"]] := by
  have hgraph : listedTwice.dependencyGraph =
      .ok [("a", []), ("b", ["a", "a"]), ("c", ["b", "a"]), ("d", [])] := by
    decide +kernel
  have hcircle : firstCircular [("a", []), ("b", ["a", "a"]), ("c", ["b", "a"]), ("d", [])] []
      ["a", "b", "c", "d"] = none := by
    simp [firstCircular, search, nodes, DependencyGraph.after]
  have hemit : emit [("a", []), ("b", ["a", "a"]), ("c", ["b", "a"]), ("d", [])]
      [("a", 0), ("b", 2), ("c", 2), ("d", 0)] = ([["a", "d"], ["b"], ["c"]], []) := by
    decide +kernel
  rw [executionOrder, hgraph]
  simp only [nodes, List.map_cons, List.map_nil, hcircle]
  simp [degrees, hemit]

theorem arranged_listedTwice :
    listedTwice.executionOrder = .ok [["a", "d"], ["b"], ["c"]] ∧
      listedTwice.Arranged [["a", "d"], ["b"], ["c"]] :=
  ⟨executionOrder_listedTwice, executionOrder_arranged listedTwice executionOrder_listedTwice⟩

/-! ## 4. What is rejected -/

variable {w : Workflow}

theorem LeastCircular.unique {step step' : String} (h : w.LeastCircular step)
    (h' : w.LeastCircular step') : step = step' :=
  String.le_antisymm (h.2 h'.1) (h'.2 h.1)

theorem not_namesKnown_of_offence {o : Offence} (h : w.offences.head? = some o) : ¬ w.NamesKnown := by
  intro hnames
  rw [(w.offences_eq_nil_iff).mpr hnames] at h
  cases h

/-- Where every step settles, no circle can be reached. -/
theorem not_reachesCircle_of_settles (hnames : w.NamesKnown) (h : ∀ step, w.graph.Settles step)
    (step : String) : ¬ ReachesCircle w.DependsOn step := by
  rw [← graph_edge_eq hnames]
  exact (h step).not_reachesCircle

theorem circleText_eq (step : String) :
    circleText step = "Dependency cycle detected involving step '" ++ step ++ "'" := rfl

/-- The report of the loop is no report of a circle: their first characters differ. -/
theorem circleText_ne (step : String) :
    circleText step ≠ "Unable to resolve all dependencies - cycle detected" := by
  intro h
  have hcircle : "Dependency cycle detected involving step '".toList.head? = some 'D' := by
    decide +kernel
  have hloop : "Unable to resolve all dependencies - cycle detected".toList.head? = some 'U' := by
    decide +kernel
  rw [← h, circleText_eq, String.toList_append, String.toList_append, List.append_assoc,
    List.head?_append, hcircle, Option.some_or] at hloop
  exact absurd (Option.some.inj hloop) (by decide)

/-- An unknown name is reported exactly if there is one, the first offence. -/
theorem Ends.stepNotFound_iff {r : Except WorkflowError (List (List String))} (h : w.Ends r)
    (text : String) :
    r = .error (.stepNotFound text) ↔ ∃ o, w.offences.head? = some o ∧ text = o.text := by
  cases h with
  | @offence o ho =>
    constructor
    · rintro ⟨⟩
      exact ⟨o, ho, rfl⟩
    · rintro ⟨o', ho', rfl⟩
      rw [ho] at ho'
      cases ho'
      rfl
  | circle hnames _ =>
    refine ⟨nofun, ?_⟩
    rintro ⟨o, ho, -⟩
    exact absurd hnames (not_namesKnown_of_offence ho)
  | order hnames =>
    refine ⟨nofun, ?_⟩
    rintro ⟨o, ho, -⟩
    exact absurd hnames (not_namesKnown_of_offence ho)

/-- A circle is reported exactly if the names are known and there is a step that reaches one: the least. -/
theorem Ends.dependencyCycle_iff {r : Except WorkflowError (List (List String))} (h : w.Ends r)
    (text : String) :
    r = .error (.dependencyCycle text) ↔
      w.NamesKnown ∧ ∃ step, w.LeastCircular step ∧ text = circleText step := by
  cases h with
  | offence ho =>
    refine ⟨nofun, ?_⟩
    rintro ⟨hnames, -⟩
    exact absurd hnames (not_namesKnown_of_offence ho)
  | @circle step hnames hleast =>
    constructor
    · rintro ⟨⟩
      exact ⟨hnames, step, hleast, rfl⟩
    · rintro ⟨-, step', hleast', rfl⟩
      rw [hleast.unique hleast']
  | order hnames hsettle =>
    refine ⟨nofun, ?_⟩
    rintro ⟨-, step, hleast, -⟩
    exact absurd hleast.1.2 (not_reachesCircle_of_settles hnames hsettle step)

/-- Some circle is reported exactly if the names are known and the dependencies have one. -/
theorem Ends.exists_dependencyCycle_iff {r : Except WorkflowError (List (List String))} (h : w.Ends r) :
    (∃ text, r = .error (.dependencyCycle text)) ↔
      w.NamesKnown ∧ ∃ step, Relation.TransGen w.DependsOn step step := by
  rw [← exists_reachesCircle_iff]
  cases h with
  | offence ho =>
    refine ⟨nofun, ?_⟩
    rintro ⟨hnames, -⟩
    exact absurd hnames (not_namesKnown_of_offence ho)
  | @circle step hnames hleast => exact ⟨fun _ => ⟨hnames, step, hleast.1.2⟩, fun _ => ⟨_, rfl⟩⟩
  | order hnames hsettle =>
    refine ⟨nofun, ?_⟩
    rintro ⟨-, step, hc⟩
    exact absurd hc (not_reachesCircle_of_settles hnames hsettle step)

/-- **Exactly the bad dependencies are rejected**, and the search for a circle and the loop that forms the
batches agree. -/
theorem executionOrder_rejects (w : Workflow) :
    -- an unknown name is reported exactly if there is one, and it is the first
    ((∃ text, w.executionOrder = .error (.stepNotFound text)) ↔
      ∃ e ∈ w.dependencies.entries, e.1 ∉ w.steps.keys ∨ ∃ dep ∈ e.2, dep ∉ w.steps.keys) ∧
    (∀ text, w.executionOrder = .error (.stepNotFound text) ↔
      ∃ o, w.offences.head? = some o ∧ text = o.text) ∧
    -- else a circle is reported exactly if there is one, with the least step that reaches one
    ((∃ text, w.executionOrder = .error (.dependencyCycle text)) ↔
      w.NamesKnown ∧ ∃ step, Relation.TransGen w.DependsOn step step) ∧
    (∀ text, w.executionOrder = .error (.dependencyCycle text) ↔
      w.NamesKnown ∧ ∃ step, w.LeastCircular step ∧ text = circleText step) ∧
    -- the loop never comes to a stop with steps left over
    w.executionOrder ≠ .error (.dependencyCycle "Unable to resolve all dependencies - cycle detected") ∧
    (w.NamesKnown → (w.graph.firstCircular [] w.graph.nodes = none ↔
      (w.graph.emit w.graph.degrees).2 = [])) := by
  have hends := executionOrder_cases w
  refine ⟨?_, hends.stepNotFound_iff, hends.exists_dependencyCycle_iff, hends.dependencyCycle_iff, ?_, ?_⟩
  · have hsome : (∃ text, w.executionOrder = .error (.stepNotFound text)) ↔ w.offences ≠ [] := by
      simp only [hends.stepNotFound_iff]
      cases w.offences <;> simp
    rw [hsome, ne_eq, offences_eq_nil_iff, NamesKnown]
    push Not
    exact exists_congr fun e => and_congr_right fun _ => imp_iff_not_or
  · intro h
    obtain ⟨-, step, -, htext⟩ := (hends.dependencyCycle_iff _).mp h
    exact circleText_ne step htext.symm
  · intro hnames
    rw [firstCircular_eq_none_iff, left_eq_nil_iff (graph_closed hnames)]

end Workflow

end ImageImport
