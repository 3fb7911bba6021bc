/-
# Names in the dependencies

A workflow's dependencies speak of steps by name, on both sides, and any name may be wrong.  This
module lists everything that is wrong with them, in key order and within one entry in list order
(`Workflow.offences`), and proves that the check reports the head of that list: there is a graph
exactly if there is nothing to report, `Workflow.dependencyGraph_eq`.

With every name known, what a step comes after in the graph is what the workflow lists for it,
`Workflow.edge_graph`, and the graph is closed: nothing in it leads out of the steps.
-/
import ImageImport.Workflow.Order

namespace ImageImport

/-! ## 1. The graph of the dependencies -/

namespace DependencyGraph

/-- The second step is one of those which the first one comes after. -/
def Edge (g : DependencyGraph) (step dep : String) : Prop := dep ∈ g.after step

/-- Each step stands in it once, and comes after steps only. -/
structure Closed (g : DependencyGraph) : Prop where
  nodup : g.nodes.Nodup
  inside : ∀ {step dep : String}, g.Edge step dep → dep ∈ g.nodes

/-- A name that is no step comes after nothing. -/
theorem after_eq_nil {g : DependencyGraph} {name : String} (h : name ∉ g.nodes) :
    g.after name = [] := by
  have hfind : g.find? (fun e => e.1 == name) = none := Dict.find?_entry_eq_none_iff.mpr h
  simp [after, hfind]

theorem mem_nodes_of_edge {g : DependencyGraph} {step dep : String} (h : g.Edge step dep) :
    step ∈ g.nodes := by
  by_cases hn : step ∈ g.nodes
  · exact hn
  · simp [Edge, after_eq_nil hn] at h

theorem after_eq {g : DependencyGraph} (hg : g.nodes.Nodup) {step : String} {deps : List String}
    (h : (step, deps) ∈ g) : g.after step = deps := by
  simp [after, Dict.find?_entry_eq_some_iff hg |>.mpr h]

end DependencyGraph

namespace Workflow

/-- **The first step depends on the second**: the second is listed for it. -/
def DependsOn (w : Workflow) (step dep : String) : Prop :=
  ∃ deps, (step, deps) ∈ w.dependencies.entries ∧ dep ∈ deps

/-- Every step with the names listed for it, known or not. -/
def graph (w : Workflow) : DependencyGraph :=
  w.steps.keys.map fun step => (step, (w.dependencies.find? step).getD [])

@[simp] theorem nodes_graph (w : Workflow) : w.graph.nodes = w.steps.keys := by
  simp only [graph, DependencyGraph.nodes, List.map_map]
  exact List.map_id _

theorem after_graph (w : Workflow) {step : String} (h : step ∈ w.steps.keys) :
    w.graph.after step = (w.dependencies.find? step).getD [] := by
  refine DependencyGraph.after_eq ?_ (List.mem_map.mpr ⟨step, h, rfl⟩)
  rw [nodes_graph]
  exact w.steps.keys_nodup

/-! ## 2. Everything that is wrong -/

/-- What can be wrong with a name in the dependencies. -/
inductive Offence where
  | unknownStep (step : String)
  | unknownDependency (step dep : String)
  deriving DecidableEq

/-- How it is reported. -/
def Offence.text : Offence → String
  | unknownStep step => "Dependencies declared for unknown step '" ++ step ++ "'"
  | unknownDependency step dep => "Step '" ++ step ++ "' depends on '" ++ dep ++ "' which doesn't exist"

/-- What is wrong with one entry, its key first. -/
def offencesOf (w : Workflow) (step : String) (deps : List String) : List Offence :=
  (if step ∈ w.steps.keys then [] else [.unknownStep step]) ++
    (deps.filter fun dep => dep ∉ w.steps.keys).map (.unknownDependency step)

/-- **Everything that is wrong with the dependencies**, in key order and then in list order. -/
def offences (w : Workflow) : List Offence :=
  w.dependencies.entries.flatMap fun e => w.offencesOf e.1 e.2

/-- Every name in the dependencies is a step. -/
def NamesKnown (w : Workflow) : Prop :=
  ∀ e ∈ w.dependencies.entries, e.1 ∈ w.steps.keys ∧ ∀ dep ∈ e.2, dep ∈ w.steps.keys

theorem offencesOf_eq_nil_iff (w : Workflow) (step : String) (deps : List String) :
    w.offencesOf step deps = [] ↔ step ∈ w.steps.keys ∧ ∀ dep ∈ deps, dep ∈ w.steps.keys := by
  by_cases h : step ∈ w.steps.keys <;> simp [offencesOf, h]

theorem offences_eq_nil_iff (w : Workflow) : w.offences = [] ↔ w.NamesKnown := by
  simp [offences, NamesKnown, offencesOf_eq_nil_iff]

/-! ## 3. The check reports the first offence -/

/-- The report of the first of some offences, if there is any. -/
def firstOf (os : List Offence) : Except WorkflowError Unit :=
  match os with
  | [] => .ok ()
  | o :: _ => .error (.stepNotFound o.text)

/-- What the search for an unknown name finds is the head of the unknown names. -/
theorem find?_unknown (w : Workflow) (deps : List String) :
    (deps.find? fun dep => !w.steps.contains dep) =
      (deps.filter fun dep => dep ∉ w.steps.keys).head? := by
  rw [List.head?_filter]
  congr 1
  funext dep
  simp only [decide_not, ← Dict.contains_iff, Bool.decide_eq_true]

/-- **The check reports the first offence.** -/
theorem checkDependencies_eq (w : Workflow) (entries : List (String × List String)) :
    w.checkDependencies entries = firstOf (entries.flatMap fun e => w.offencesOf e.1 e.2) := by
  induction entries with
  | nil => rfl
  | cons e rest ih =>
    obtain ⟨step, deps⟩ := e
    rw [List.flatMap_cons]
    by_cases hstep : step ∈ w.steps.keys
    · have hknown : w.steps.contains step = true := (w.steps.contains_iff step).mpr hstep
      simp only [checkDependencies, hknown, find?_unknown, offencesOf, if_pos hstep]
      cases deps.filter fun dep => dep ∉ w.steps.keys with
      | nil => exact ih
      | cons dep _ => rfl
    · have hunknown : w.steps.contains step = false := by
        rw [← Bool.not_eq_true, Dict.contains_iff]
        exact hstep
      simp only [checkDependencies, hunknown, offencesOf, if_neg hstep]
      rfl

/-- **There is a graph exactly if nothing is wrong**; if something is, the first offence is reported. -/
theorem dependencyGraph_eq (w : Workflow) :
    w.dependencyGraph = (firstOf w.offences).map fun () => w.graph := by
  rw [dependencyGraph, checkDependencies_eq]
  rfl

/-! ## 4. With every name known -/

variable {w : Workflow}

/-- What a step comes after in the graph is what it depends on. -/
theorem edge_graph (h : w.NamesKnown) (step dep : String) :
    w.graph.Edge step dep ↔ w.DependsOn step dep := by
  constructor
  · intro he
    have hstep : step ∈ w.steps.keys := by simpa using DependencyGraph.mem_nodes_of_edge he
    rw [DependencyGraph.Edge, after_graph w hstep] at he
    cases hf : w.dependencies.find? step with
    | none => simp [hf] at he
    | some deps => exact ⟨deps, Dict.find?_eq_some_iff.mp hf, by simpa [hf] using he⟩
  · rintro ⟨deps, hmem, hdep⟩
    have hf := Dict.find?_eq_some_iff.mpr hmem
    rw [DependencyGraph.Edge, after_graph w (h _ hmem).1, hf]
    exact hdep

theorem graph_edge_eq (h : w.NamesKnown) : w.graph.Edge = w.DependsOn :=
  funext fun step => funext fun dep => propext (edge_graph h step dep)

theorem graph_closed (h : w.NamesKnown) : w.graph.Closed where
  nodup := by
    rw [nodes_graph]
    exact w.steps.keys_nodup
  inside := by
    intro step dep he
    obtain ⟨deps, hmem, hdep⟩ := (edge_graph h step dep).mp he
    rw [nodes_graph]
    exact (h _ hmem).2 dep hdep

end Workflow

end ImageImport
