/-
# Circles among the dependencies

The search for a circle goes depth first, and remembers the steps it has visited over all its starts.  What
it finds and what it clears are two statements, with one invariant each:

  1. **a circle is found only where there is one**: every step on the path leads to the steps that are looked
     at, so a step on the path that is met again lies on a circle (`Searches.circle_reached`);
  2. **what is cleared settles**: every visited step off the path settles, so a search that finds nothing has
     shown it of every step it was given (`Searches.settled`).

A step settles if one cannot go on for ever along its dependencies, and such a step reaches no circle.
Together the two say that the first step reported is the first one that reaches a circle
(`firstCircular_eq_some`), and that all steps settle if none is (`firstCircular_eq_none`).
-/
import ImageImport.Proofs.Workflow.Dependencies
import Mathlib.Logic.Relation

namespace ImageImport

open Relation (ReflTransGen TransGen)

/-- **A circle can be reached**: one that starts here and follows the relation can come to a step from which
it comes back to that step. -/
def ReachesCircle (r : String → String → Prop) (step : String) : Prop :=
  ∃ turn, ReflTransGen r step turn ∧ TransGen r turn turn

theorem ReachesCircle.of_edge {r : String → String → Prop} {step dep : String} (h : r step dep)
    (hc : ReachesCircle r dep) : ReachesCircle r step := by
  obtain ⟨turn, hreach, hturn⟩ := hc
  exact ⟨turn, .head h hreach, hturn⟩

/-- There is a circle exactly if one can be reached from somewhere. -/
theorem exists_reachesCircle_iff (r : String → String → Prop) :
    (∃ step, ReachesCircle r step) ↔ ∃ step, TransGen r step step :=
  ⟨fun ⟨_, turn, _, hturn⟩ => ⟨turn, hturn⟩, fun ⟨step, hstep⟩ => ⟨step, step, .refl, hstep⟩⟩

namespace DependencyGraph

variable {g : DependencyGraph}

/-! ## 1. Steps that settle -/

/-- **The step settles**: whoever goes from it along dependencies comes to an end. -/
def Settles (g : DependencyGraph) (step : String) : Prop := Acc (fun dep step => g.Edge step dep) step

theorem settles_of_edges {step : String} (h : ∀ dep ∈ g.after step, g.Settles dep) :
    g.Settles step := ⟨_, fun dep hdep => h dep hdep⟩

/-- A name that is no step settles, having no dependencies. -/
theorem settles_of_not_mem {name : String} (h : name ∉ g.nodes) : g.Settles name :=
  settles_of_edges (by simp [after_eq_nil h])

/-- **A step that settles reaches no circle.** -/
theorem Settles.not_reachesCircle {step : String} (h : g.Settles step) :
    ¬ ReachesCircle g.Edge step := by
  induction h with
  | intro step _ ih =>
    rintro ⟨turn, hreach, hturn⟩
    rcases hreach.cases_head with rfl | ⟨dep, hdep, hrest⟩
    · -- the step itself is on the circle, and so is the next one
      obtain ⟨dep, hdep, hback⟩ := TransGen.head'_iff.mp hturn
      exact ih dep hdep ⟨step, hback, hturn⟩
    · exact ih dep hdep ⟨turn, hrest, hturn⟩

/-! ## 2. The search as a relation -/

/-- **What a search through some steps does**, by what it meets first: the path to the steps, the steps
visited before, the steps, and what it yields. -/
inductive Searches (g : DependencyGraph) :
    List String → List String → List String → Bool × List String → Prop
  /-- Nothing is left to look at. -/
  | nothing {path visited : List String} : Searches g path visited [] (false, visited)
  /-- A step on the path is met again. -/
  | circle {path visited rest : List String} {step : String} (hv : step ∈ visited) (hp : step ∈ path) :
      Searches g path visited (step :: rest) (true, visited)
  /-- The step has been visited, and its search is over. -/
  | seen {path visited rest : List String} {step : String} {r : Bool × List String} (hv : step ∈ visited)
      (hp : step ∉ path) (hrest : Searches g path visited rest r) :
      Searches g path visited (step :: rest) r
  /-- A circle is found below the step. -/
  | found {path visited visited' rest : List String} {step : String} (hv : step ∉ visited)
      (hbelow : Searches g (step :: path) (step :: visited) (g.after step) (true, visited')) :
      Searches g path visited (step :: rest) (true, visited')
  /-- There is none below the step, and the others are looked at with what has been visited there. -/
  | cleared {path visited visited' rest : List String} {step : String} {r : Bool × List String}
      (hv : step ∉ visited)
      (hbelow : Searches g (step :: path) (step :: visited) (g.after step) (false, visited'))
      (hrest : Searches g path visited' rest r) : Searches g path visited (step :: rest) r
  /-- The name is no step. -/
  | stranger {path visited rest : List String} {step : String} {r : Bool × List String}
      (hn : step ∉ g.nodes) (hrest : Searches g path visited rest r) :
      Searches g path visited (step :: rest) r

/-- **The search does what the relation says.** -/
theorem searches_search (g : DependencyGraph) (path visited steps : List String) :
    Searches g path visited steps (g.search path visited steps).val := by
  induction path, visited, steps using search.induct g with
  | case1 path visited =>
    rw [search]
    exact .nothing
  | case2 path visited step rest hv hp =>
    rw [search, if_pos hv, if_pos hp]
    exact .circle (by simpa using hv) (by simpa using hp)
  | case3 path visited step rest hv hp ih =>
    rw [search, if_pos hv, if_neg hp]
    exact .seen (by simpa using hv) (by simpa using hp) ih
  | case4 path visited step rest hv hn _ visited' _ hbelow _ _ ih =>
    rw [search, if_neg hv, dif_pos hn]
    rw [hbelow] at ih ⊢
    exact .found hn.2 ih
  | case5 path visited step rest hv hn _ found visited' _ hbelow _ _ hfound r _ hrest ih ih' =>
    rw [search, if_neg hv, dif_pos hn]
    obtain rfl : found = false := by simpa using hfound
    rw [hbelow] at ih ⊢
    rw [hrest] at ih'
    simp only [Bool.false_eq_true, if_false, hrest]
    exact .cleared hn.2 ih ih'
  | case6 path visited step rest hv hn ih =>
    rw [search, if_neg hv, dif_neg hn]
    exact .stranger (fun h => hn ⟨h, by simpa using hv⟩) ih

/-! ## 3. What it finds and what it clears -/

/-- **A circle is found only where there is one**: if the path leads to the steps, one of them reaches a
circle. -/
theorem Searches.circle_reached {path visited steps : List String} {r : Bool × List String}
    (h : Searches g path visited steps r) (hr : r.1 = true)
    (hpath : ∀ p ∈ path, ∀ s ∈ steps, TransGen g.Edge p s) :
    ∃ s ∈ steps, ReachesCircle g.Edge s := by
  induction h with
  | nothing => cases hr
  | @circle _ _ _ step _ hp =>
    exact ⟨step, List.mem_cons_self .., step, .refl, hpath step hp step (List.mem_cons_self ..)⟩
  | seen _ _ _ ih | stranger _ _ ih =>
    obtain ⟨s, hs, hc⟩ := ih hr fun p hp s hs => hpath p hp s (List.mem_cons_of_mem _ hs)
    exact ⟨s, List.mem_cons_of_mem _ hs, hc⟩
  | @found path _ _ _ step _ _ ih =>
    -- the path, now with the step on it, leads to what the step comes after
    have hbelow : ∀ p ∈ step :: path, ∀ dep ∈ g.after step, TransGen g.Edge p dep := by
      intro p hp dep hdep
      rcases List.mem_cons.mp hp with rfl | hp
      · exact .single hdep
      · exact (hpath p hp step (List.mem_cons_self ..)).tail hdep
    obtain ⟨dep, hdep, hc⟩ := ih hr hbelow
    exact ⟨step, List.mem_cons_self .., hc.of_edge hdep⟩
  | cleared _ _ _ _ ih =>
    obtain ⟨s, hs, hc⟩ := ih hr fun p hp s hs => hpath p hp s (List.mem_cons_of_mem _ hs)
    exact ⟨s, List.mem_cons_of_mem _ hs, hc⟩

/-- **What is cleared settles**: if every visited step off the path settles, this stays so in a search that
finds nothing, and every step it was given settles. -/
theorem Searches.settled {path visited steps : List String} {r : Bool × List String}
    (h : Searches g path visited steps r) (hr : r.1 = false)
    (hvisited : ∀ s ∈ visited, s ∉ path → g.Settles s) :
    (∀ s ∈ r.2, s ∉ path → g.Settles s) ∧ ∀ s ∈ steps, g.Settles s := by
  induction h with
  | nothing => exact ⟨hvisited, by simp⟩
  | circle => cases hr
  | @seen _ _ _ step _ hv hp _ ih =>
    obtain ⟨hkept, hrest⟩ := ih hr hvisited
    exact ⟨hkept, List.forall_mem_cons.mpr ⟨hvisited step hv hp, hrest⟩⟩
  | found => cases hr
  | @cleared path visited visited' _ step _ _ _ _ ih ih' =>
    have hoff : ∀ s ∈ step :: visited, s ∉ step :: path → g.Settles s := by
      intro s hs hp
      rcases List.mem_cons.mp hs with rfl | hs
      · exact absurd (List.mem_cons_self ..) hp
      · exact hvisited s hs fun h => hp (List.mem_cons_of_mem _ h)
    obtain ⟨hkept, hbelow⟩ := ih rfl hoff
    -- with all its dependencies the step itself settles
    have hstep : g.Settles step := settles_of_edges hbelow
    have hvisited' : ∀ s ∈ visited', s ∉ path → g.Settles s := by
      intro s hs hp
      by_cases heq : s = step
      · exact heq ▸ hstep
      · exact hkept s hs (by simp [heq, hp])
    obtain ⟨hkept', hrest⟩ := ih' hr hvisited'
    exact ⟨hkept', List.forall_mem_cons.mpr ⟨hstep, hrest⟩⟩
  | stranger hn _ ih =>
    obtain ⟨hkept, hrest⟩ := ih hr hvisited
    exact ⟨hkept, List.forall_mem_cons.mpr ⟨settles_of_not_mem hn, hrest⟩⟩

/-! ## 4. The first step that reaches a circle -/

/-- One start of the search, with nothing on the path: the step reaches a circle, or it settles and so does
everything visited by then. -/
theorem search_start {visited : List String} (hvisited : ∀ s ∈ visited, g.Settles s) (step : String) :
    ((g.search [] visited [step]).val.1 = true ∧ ReachesCircle g.Edge step) ∨
      ((g.search [] visited [step]).val.1 = false ∧ g.Settles step ∧
        ∀ s ∈ (g.search [] visited [step]).val.2, g.Settles s) := by
  have hsearch := searches_search g [] visited [step]
  cases hr : (g.search [] visited [step]).val.1 with
  | true =>
    obtain ⟨s, hs, hc⟩ := hsearch.circle_reached hr (by simp)
    rw [List.mem_singleton.mp hs] at hc
    exact .inl ⟨rfl, hc⟩
  | false =>
    obtain ⟨hkept, hstep⟩ := hsearch.settled hr fun s hs _ => hvisited s hs
    exact .inr ⟨rfl, hstep step (List.mem_singleton_self _), fun s hs => hkept s hs (by simp)⟩

/-- What the starts of the search say of the steps, the first of which may be reported. -/
def Reported (g : DependencyGraph) (steps : List String) : Option String → Prop
  | some step => ∃ before after, steps = before ++ step :: after ∧ (∀ s ∈ before, g.Settles s) ∧
      ReachesCircle g.Edge step
  | none => ∀ s ∈ steps, g.Settles s

/-- A step that settles, in front of the others, is not reported. -/
theorem Reported.cons {steps : List String} {found : Option String} {step : String}
    (hstep : g.Settles step) (h : g.Reported steps found) : g.Reported (step :: steps) found := by
  cases found with
  | none => exact List.forall_mem_cons.mpr ⟨hstep, h⟩
  | some s =>
    obtain ⟨before, after, rfl, hbefore, hs⟩ := h
    exact ⟨step :: before, after, rfl, List.forall_mem_cons.mpr ⟨hstep, hbefore⟩, hs⟩

/-- **The first step that reaches a circle is reported**, and all steps before it settle. -/
theorem reported_firstCircular (visited steps : List String) (hvisited : ∀ s ∈ visited, g.Settles s) :
    g.Reported steps (g.firstCircular visited steps) := by
  induction steps generalizing visited with
  | nil => simp [firstCircular, Reported]
  | cons step rest ih =>
    by_cases hv : visited.contains step = true
    · rw [firstCircular, if_pos hv]
      exact (ih visited hvisited).cons (hvisited step (by simpa using hv))
    · rw [firstCircular, if_neg hv]
      rcases search_start hvisited step with ⟨hr, hc⟩ | ⟨hr, hstep, hkept⟩
      · simp only [hr, if_true]
        exact ⟨[], rest, rfl, by simp, hc⟩
      · simp only [hr, Bool.false_eq_true, if_false]
        exact (ih _ hkept).cons hstep

/-- **No step is reported exactly if all settle.** -/
theorem firstCircular_eq_none_iff : g.firstCircular [] g.nodes = none ↔ ∀ step, g.Settles step := by
  have hreported := reported_firstCircular (g := g) [] g.nodes (by simp)
  constructor
  · intro h step
    rw [h] at hreported
    by_cases hn : step ∈ g.nodes
    · exact hreported step hn
    · exact settles_of_not_mem hn
  · intro h
    cases hf : g.firstCircular [] g.nodes with
    | none => rfl
    | some step =>
      rw [hf] at hreported
      obtain ⟨_, _, _, _, hc⟩ := hreported
      exact absurd hc (h step).not_reachesCircle

end DependencyGraph

end ImageImport
