/-
# The order of steps

A workflow lists, for some of its steps, the steps they come after.  Steps are grouped into batches
(`execution_order`): the first batch holds the steps that come after nothing, and each further one those whose
dependencies have all been emitted.  There is such a grouping unless the dependencies run in a circle.

First every name is checked (`dependency_graph`), then the circle is looked for depth first (`has_cycle`), and
only then are the batches formed by counting, for each step, the dependencies that are still open.  The count
is by occurrence: a dependency listed twice is open twice, and both fall away together.
-/
import ImageImport.Error
import ImageImport.Workflow.Basic

namespace ImageImport

/-! ## 1. The graph -/

/-- Every step in key order with the steps it comes after, as listed. -/
abbrev DependencyGraph := List (String × List String)

namespace DependencyGraph

/-- The steps. -/
def nodes (g : DependencyGraph) : List String := g.map (·.1)

/-- What a step comes after. -/
def after (g : DependencyGraph) (step : String) : List String :=
  ((g.find? fun e => e.1 == step).map (·.2)).getD []

end DependencyGraph

namespace Workflow

/-- The first listed dependency that is no step. -/
def checkDependencies (w : Workflow) : List (String × List String) → Except WorkflowError Unit
  | [] => .ok ()
  | (step, after) :: rest =>
    if !w.steps.contains step then
      .error (.stepNotFound ("Dependencies declared for unknown step '" ++ step ++ "'"))
    else match after.find? fun dep => !w.steps.contains dep with
      | some dep =>
        .error (.stepNotFound ("Step '" ++ step ++ "' depends on '" ++ dep ++ "' which doesn't exist"))
      | none => checkDependencies w rest

/-- **The graph of a workflow**, if every name in its dependencies is a step. -/
def dependencyGraph (w : Workflow) : Except WorkflowError DependencyGraph :=
  (w.checkDependencies w.dependencies.entries).map fun () =>
    w.steps.keys.map fun step => (step, (w.dependencies.find? step).getD [])

end Workflow

/-! ## 2. Circles -/

namespace DependencyGraph

/-- What the search has still to look at among the steps, at most: those not visited yet, each with what it
comes after. -/
def openWork (g : DependencyGraph) (visited : List String) : List String → Nat
  | [] => 0
  | n :: rest => (if visited.contains n then 0 else (g.after n).length + 1) + g.openWork visited rest

theorem openWork_le (g : DependencyGraph) {visited more : List String} (h : visited ⊆ more) (steps : List String) :
    g.openWork more steps ≤ g.openWork visited steps := by
  induction steps with
  | nil => exact Nat.le_refl _
  | cons n rest ih =>
    by_cases hv : n ∈ visited
    · simpa [openWork, hv, h hv] using ih
    · by_cases hm : n ∈ more <;> simp [openWork, hv, hm] <;> omega

theorem openWork_lt (g : DependencyGraph) {visited steps : List String} {n : String} (hn : n ∈ steps)
    (hv : n ∉ visited) :
    g.openWork (n :: visited) steps + (g.after n).length < g.openWork visited steps := by
  induction steps with
  | nil => cases hn
  | cons m rest ih =>
    have hle := g.openWork_le (List.subset_cons_self n visited) rest
    by_cases hs : m = n
    · subst hs
      simp [openWork, hv]
      omega
    · have hrest := ih ((List.mem_cons.mp hn).resolve_left (Ne.symm hs))
      by_cases hm : m ∈ visited <;> simp [openWork, hm, hs] <;> omega

/-- **Look for a circle depth first**: through the given steps, with the steps on the way to them on
the `path`.  Yields whether there is one, and the steps visited in the search. -/
def search (g : DependencyGraph) (path visited : List String) (steps : List String) :
    { r : Bool × List String // visited ⊆ r.2 } :=
  match steps with
  | [] => ⟨(false, visited), fun _ h => h⟩
  | step :: rest =>
    if visited.contains step then
      if path.contains step then ⟨(true, visited), fun _ h => h⟩
      else search g path visited rest
    else if h : step ∈ g.nodes ∧ step ∉ visited then
      have := openWork_lt g h.1 h.2
      let ⟨(found, visited'), h'⟩ := search g (step :: path) (step :: visited) (g.after step)
      have hsub : visited ⊆ visited' := fun _ hm => h' (List.mem_cons_of_mem _ hm)
      have := openWork_le g hsub g.nodes
      if found then ⟨(true, visited'), hsub⟩
      else
        let ⟨r, hr⟩ := search g path visited' rest
        ⟨r, fun _ hm => hr (hsub hm)⟩
    else search g path visited rest
termination_by g.openWork visited g.nodes + steps.length
decreasing_by all_goals simp only [List.length_cons]; omega

/-- The first of the given steps from which the search finds a circle. -/
def firstCircular (g : DependencyGraph) (visited : List String) : List String → Option String
  | [] => none
  | step :: rest =>
    if visited.contains step then firstCircular g visited rest
    else
      let r := (g.search [] visited [step]).val
      if r.1 then some step else firstCircular g r.2 rest

/-! ## 3. Batches -/

/-- How many of the dependencies of a step are in a batch. -/
def openIn (g : DependencyGraph) (batch : List String) (step : String) : Nat :=
  (g.after step).countP fun dep => batch.contains dep

/-- **Emit batch after batch.**  `pending` holds the steps not emitted yet, each with the number of its
dependencies that are still open.  Yields the batches and the steps left over. -/
def emit (g : DependencyGraph) (pending : List (String × Int)) :
    List (List String) × List (String × Int) :=
  let ready := pending.filter fun e => e.2 == 0
  if h : ready = [] then ([], pending)
  else
    let batch := ready.map (·.1)
    let rest := (pending.filter fun e => e.2 != 0).map fun e => (e.1, e.2 - (g.openIn batch e.1 : Int))
    have : rest.length < pending.length := by
      obtain ⟨e, he⟩ := List.exists_mem_of_ne_nil _ h
      have he := List.mem_filter.mp he
      simp only [rest, List.length_map]
      refine List.length_filter_lt_length_iff_exists.mpr ⟨e, he.1, ?_⟩
      simpa using he.2
    let (batches, left) := emit g rest
    (batch :: batches, left)
termination_by pending.length
decreasing_by exact this

/-- Every step with the number of its dependencies. -/
def degrees (g : DependencyGraph) : List (String × Int) := g.map fun e => (e.1, (e.2.length : Int))

end DependencyGraph

namespace Workflow

/-- **The steps in batches**, each batch in key order. -/
def executionOrder (w : Workflow) : Except WorkflowError (List (List String)) :=
  match w.dependencyGraph with
  | .error e => .error e
  | .ok g =>
    match g.firstCircular [] g.nodes with
    | some step =>
      .error (.dependencyCycle ("Dependency cycle detected involving step '" ++ step ++ "'"))
    | none =>
      let (batches, left) := g.emit g.degrees
      if left.isEmpty then .ok batches
      else .error (.dependencyCycle "Unable to resolve all dependencies - cycle detected")

end Workflow

end ImageImport
