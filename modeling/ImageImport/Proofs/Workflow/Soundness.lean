/-
# What makes a workflow sound

A workflow is sound when it is named and has steps, its timeout can be read, no variable that is required lacks a
value, and its steps can be put in order (`validate_eq_ok`).  The order depends on the names of the steps alone
(`SameOrder.executionOrder_eq`).

The timeout has a say of its own (`validate_iff`).  What is written for a duration can be read whatever the duration
is, so such a timeout never makes a workflow unsound: it is as sound as without one (`validate_of_timed`).

Main statement: `timeouts_read_back`, over all durations, all texts and all workflows.
-/
import ImageImport.Proofs.Duration
import ImageImport.Proofs.Workflow.Dependencies
import ImageImport.Proofs.Workflow.Substitution

namespace ImageImport

/-! ## 1. Names of steps -/

/-- The keys of a dictionary do not depend on its values. -/
theorem Dict.keys_insert_congr {α β : Type} {d : Dict α} {e : Dict β} (h : d.keys = e.keys) (key : String)
    (value : α) (value' : β) : (d.insert key value).keys = (e.insert key value').keys := by
  have hentries : ∀ (es : List (String × α)) (fs : List (String × β)), es.map (·.1) = fs.map (·.1) →
      (insertEntry key value es).map (·.1) = (insertEntry key value' fs).map (·.1) := by
    intro es
    induction es with
    | nil =>
      intro fs hfs
      rw [List.map_eq_nil_iff.mp hfs.symm]
      rfl
    | cons x es ih =>
      intro fs hfs
      cases fs with
      | nil => cases hfs
      | cons y fs =>
        obtain ⟨hxy, hrest⟩ := List.cons.inj hfs
        simp only [insertEntry, ← hxy]
        split
        · simp [hrest, hxy]
        · split
          · simp [ih fs hrest, hxy]
          · simp [hrest]
  exact hentries d.entries e.entries h

namespace Workflow

variable {v w : Workflow}

/-- **Steps of the same names in the same order.** -/
structure SameOrder (v w : Workflow) : Prop where
  keys : v.steps.keys = w.steps.keys
  dependencies : v.dependencies = w.dependencies

namespace SameOrder

theorem withStep (h : SameOrder v w) (name : String) (s s' : WorkflowStep) :
    SameOrder (v.withStep name s) (w.withStep name s') :=
  ⟨Dict.keys_insert_congr h.keys name s s', h.dependencies⟩

theorem withDependency (h : SameOrder v w) (step : String) (after : List String) :
    SameOrder (v.withDependency step after) (w.withDependency step after) := by
  refine ⟨h.keys, ?_⟩
  simp only [Workflow.withDependency, h.dependencies]

theorem addVar (h : SameOrder v w) (name value : String) : SameOrder (v.addVar name value) w :=
  ⟨h.keys, h.dependencies⟩

theorem withForcedCleanup (h : SameOrder v w) (force : Bool) : SameOrder (v.withForcedCleanup force) w :=
  ⟨h.keys, h.dependencies⟩

theorem substitute (h : SameOrder v w) : SameOrder v.substitute w :=
  ⟨(Dict.keys_map _ _).trans h.keys, h.dependencies⟩

/-- **The order depends on the names of the steps and on their dependencies alone.** -/
theorem executionOrder_eq (h : SameOrder v w) : v.executionOrder = w.executionOrder := by
  have hgraph : v.dependencyGraph = w.dependencyGraph := by
    rw [dependencyGraph_eq, dependencyGraph_eq]
    simp only [offences, offencesOf, graph, h.keys, h.dependencies]
  simp only [executionOrder, hgraph]

theorem isEmpty_eq (h : SameOrder v w) : v.steps.isEmpty = w.steps.isEmpty := by
  have hlength := congrArg List.isEmpty h.keys
  simpa [Dict.keys, Dict.isEmpty] using hlength

end SameOrder

/-- **What makes a workflow sound.** -/
theorem validate_eq_ok (hname : Text.isBlankText w.name = false) (hsteps : w.steps.isEmpty = false)
    (htimeout : ∀ t, w.defaultTimeout = some t → (Duration.parse? t).isSome = true)
    (hvars : ∀ e ∈ w.vars.entries, e.2.isRequired = false) (horder : w.executionOrder.isOk = true) :
    w.validate = .ok () := by
  have hnone : (w.vars.entries.find? fun e => e.2.isRequired && e.2.text.isEmpty) = none :=
    List.find?_eq_none.mpr fun e he => by simp [hvars e he]
  have hread : (w.defaultTimeout.any fun t => (Duration.parse? t).isNone) = false := by
    cases ht : w.defaultTimeout with
    | none => rfl
    | some t => simpa using htimeout t ht
  cases ho : w.executionOrder with
  | error e =>
    rw [ho] at horder
    cases horder
  | ok batches =>
    unfold validate
    simp [hname, hsteps, hread, hnone, ho, Except.map]

/-- No variable that is set this way has to be given a value. -/
theorem optional_addVar {name value : String} (h : ∀ e ∈ w.vars.entries, e.2.isRequired = false) :
    ∀ e ∈ (w.addVar name value).vars.entries, e.2.isRequired = false := by
  intro e he
  unfold addVar at he
  cases hfound : w.vars.find? name with
  | none =>
    rw [hfound] at he
    rcases Dict.mem_insertEntry he with rfl | he
    · rfl
    · exact h e he
  | some spec =>
    rw [hfound] at he
    rcases Dict.mem_insertEntry he with rfl | he
    · have hspec := h _ (Dict.find?_eq_some_iff.mp hfound)
      cases spec with
      | value t => rfl
      | declared t required description => exact hspec
    · exact h e he

theorem isOk_build (h : w.substitute.validate = .ok ()) : w.build = .ok w.substitute := by
  rw [build_eq, h]
  rfl

/-! ## 2. Timeouts -/

open Duration

/-- A workflow without its timeout. -/
def untimed (w : Workflow) : Workflow := { w with defaultTimeout := none }

/-- **The timeout can be read**, if there is one. -/
def Timed (w : Workflow) : Prop := ∀ text ∈ w.defaultTimeout, ∃ n < UInt64.size, Spells text n

theorem timed_iff : w.Timed ↔ (w.defaultTimeout.any fun text => (parse? text).isNone) = false := by
  unfold Timed
  cases w.defaultTimeout with
  | none => simp
  | some text =>
    simp only [Option.mem_some_iff, forall_eq', Option.any_some, Option.isNone_eq_false_iff]
    exact isSome_parse?_iff.symm

/-- **A timeout that can be read** is not what makes a workflow unsound. -/
theorem validate_of_timed (h : w.Timed) : w.validate = w.untimed.validate := by
  have horder : w.untimed.executionOrder = w.executionOrder := SameOrder.executionOrder_eq ⟨rfl, rfl⟩
  unfold validate
  rw [horder, timed_iff.mp h]
  rfl

/-- **Sound but for the timeout, and sound in that.** -/
theorem validate_iff : w.validate = .ok () ↔ w.Timed ∧ w.untimed.validate = .ok () := by
  by_cases htimed : w.Timed
  · rw [validate_of_timed htimed]
    exact (and_iff_right htimed).symm
  · have hany : (w.defaultTimeout.any fun text => (parse? text).isNone) = true := by
      rwa [timed_iff, Bool.not_eq_false] at htimed
    have herror : w.validate ≠ .ok () := by
      unfold validate
      rw [if_pos hany]
      split
      · simp
      · split <;> simp
    exact ⟨fun h => absurd h herror, fun h => absurd h.1 htimed⟩

theorem timed_withDefaultTimeout (w : Workflow) (d : Duration) : (w.withDefaultTimeout d).Timed := by
  intro text htext
  cases htext
  exact ⟨d.secs.toNat, d.secs.toNat_lt_size, spells_format d⟩

/-- **Durations and texts.**  A duration that is written is read back as whole seconds.  A text is read exactly when it
spells a number of seconds below `2^64`, and as that number.  So a timeout that is written is never at fault, and it is
read off the workflow as it was set. -/
theorem timeouts_read_back :
    (∀ d : Duration, parse? d.format = some (ofSecs d.secs)) ∧
      (∀ text, (parse? text).isSome = true ↔ ∃ n < UInt64.size, Spells text n) ∧
      (∀ text d, parse? text = some d ↔ Spells text d.secs.toNat ∧ d.nanos = 0) ∧
      (∀ w : Workflow, w.validate = .ok () ↔ w.Timed ∧ w.untimed.validate = .ok ()) ∧
      ∀ (w : Workflow) (d : Duration), (w.withDefaultTimeout d).Timed ∧
        (w.withDefaultTimeout d).validate = w.untimed.validate ∧
        (w.withDefaultTimeout d).timeout? = some (ofSecs d.secs) := by
  refine ⟨parse?_format, fun _ => isSome_parse?_iff, fun _ _ => parse?_eq_some_iff, fun _ => validate_iff, ?_⟩
  intro w d
  have htimed := timed_withDefaultTimeout w d
  exact ⟨htimed, validate_of_timed htimed, parse?_format d⟩

end Workflow

end ImageImport
