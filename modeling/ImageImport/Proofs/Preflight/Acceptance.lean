/-
# What an accepted import has passed

The rules of a pre-flight check add up to one verdict.  A rule that is bound to fail stops the import
(`reportOnto_stopped`), whatever the others ask the platform meanwhile and whatever it answers: one blocking result is
never made up for.

Main statement: `accepted_of_validate`, what is known of the arguments once the rules of every import have passed.
-/
import ImageImport.Preflight.Rules
import ImageImport.Proofs.Concurrency.Places
import ImageImport.Proofs.Os.Identifiers

namespace ImageImport.Preflight

open Activity

variable {σ : Type}

/-! ## 1. The verdict of a report -/

theorem Status.worst_eq_failed_iff (s t : Status) : s.worst t = .failed ↔ s = .failed ∨ t = .failed := by
  cases s <;> cases t <;> decide

theorem Result.status_eq_failed_iff (r : Result) : r.status = .failed ↔ r.isBlocking = true := by
  unfold Result.status Result.isBlocking
  cases r.passed <;> cases r.level.blocks <;> simp

theorem Report.canProceed_eq_false_iff (report : Report) : report.canProceed = false ↔ report.overallStatus = .failed := by
  simp [Report.canProceed]

/-- **One blocking result is enough**, and it is not forgotten. -/
theorem Report.canProceed_addResult (report : Report) (r : Result) :
    (report.addResult r).canProceed = false ↔ report.canProceed = false ∨ r.isBlocking = true := by
  simp only [Report.canProceed_eq_false_iff, Report.addResult, Status.worst_eq_failed_iff, Result.status_eq_failed_iff]

/-! ## 2. The rules -/

/-- **The rule stops the import**: whatever it finds, it is a failure that blocks. -/
def Rule.Stops (rule : Rule σ) (a : Arguments) : Prop :=
  (rule.check a).Always (fun _ _ => True) (fun _ => True) fun r =>
    ∀ verdict, r = .ok verdict → (rule.result verdict).isBlocking = true

/-- An end that is no report, or one with which the import cannot proceed. -/
def Refused (r : Except Crash Report) : Prop := ∀ final, r = .ok final → final.canProceed = false

/-- **A rule that stops the import is not made up for**: by induction on the rules, no report gets better by what is
added to it. -/
theorem reportOnto_stopped {a : Arguments} {rules : List (Rule σ)} {report : Report}
    (h : report.canProceed = false ∨ ∃ rule ∈ rules, rule.Stops a) :
    (reportOnto a rules report).EndsAs Refused := by
  induction rules generalizing report with
  | nil =>
    rcases h with h | ⟨rule, hmem, -⟩
    · intro final hfinal
      cases hfinal
      exact h
    · exact absurd hmem List.not_mem_nil
  | cons rule rest ih =>
    have hcrash : ∀ why, Refused (.error why) := fun _ _ hfinal => nomatch hfinal
    by_cases hstops : rule.Stops a
    · refine Always.bind hstops (fun {verdict} hv => ih (.inl ?_)) fun _ => hcrash _
      exact (Report.canProceed_addResult _ _).mpr (.inr (hv verdict rfl))
    · refine always_after hcrash (fun _ => ih ?_) _
      rcases h with h | ⟨other, hmem, hother⟩
      · exact .inl ((Report.canProceed_addResult _ _).mpr (.inl h))
      · rcases List.mem_cons.mp hmem with rfl | hmem
        · exact absurd hother hstops
        · exact .inr ⟨other, hmem, hother⟩

/-- **No rule stops an import that is accepted.** -/
theorem not_stops_of_validate {p : Platform σ} {rules : List (Rule σ)} {a : Arguments} {m last : Moment σ}
    (h : (validate p rules a).attended.run m = .returned (.ok ()) last) {rule : Rule σ} (hmem : rule ∈ rules) :
    ¬ rule.Stops a := by
  intro hstops
  have hvalidate : (validate p rules a).EndsAs (· ≠ .ok (.ok ())) := by
    refine Always.bind (reportOnto_stopped (.inr ⟨rule, hmem, hstops⟩)) (fun {final} hfinal => ?_) fun _ => nofun
    rw [hfinal final rfl]
    exact fun _ => ⟨trivial, nofun⟩
  obtain ⟨_, hleads, -⟩ := leads_of_attended h
  exact hvalidate.leads hleads rfl

/-! ## 3. The rules of every import -/

/-- **What is known of arguments that are accepted.** -/
structure Accepted (a : Arguments) : Prop where
  /-- The name of the image is well formed. -/
  named : a.imageName ≠ "" ∧ Source.isImageName a.imageName.toList = true
  /-- A data disk has no settings of an operating system. -/
  alone : a.dataDisk = true → a.os = "" ∧ a.customWorkflow = ""
  /-- An operating system that is named is supported, unless the user brings a workflow. -/
  supported : a.os ≠ "" → a.customWorkflow = "" → ∃ e, Os.Supports a.os e

theorem Rule.stops_done {rule : Rule σ} {a : Arguments} {verdict : Verdict} (hcheck : rule.check a = .done verdict)
    (h : (rule.result verdict).isBlocking = true) : rule.Stops a := by
  unfold Rule.Stops
  rw [hcheck]
  intro v hv
  cases hv
  exact h

theorem nameSyntax_of_pass {a : Arguments} {message : String} (h : nameSyntax a = .pass message) :
    a.imageName ≠ "" ∧ Source.isImageName a.imageName.toList = true := by
  unfold nameSyntax at h
  split at h
  next => cases h
  next hne =>
    split at h
    next hwell => exact ⟨by simpa using hne, hwell⟩
    next => cases h

theorem dataDiskAlone_of_pass {a : Arguments} {message : String} (h : dataDiskAlone a = .pass message)
    (hdisk : a.dataDisk = true) : a.os = "" ∧ a.customWorkflow = "" := by
  unfold dataDiskAlone at h
  rw [hdisk] at h
  have hnone : (osSettings a).isEmpty = true := by
    by_contra hsome
    simp [hsome] at h
  simpa [osSettings] using hnone

theorem osSupported_of_pass {a : Arguments} {message : String} (h : osSupported a = .pass message) (hos : a.os ≠ "")
    (hcustom : a.customWorkflow = "") : ∃ e, Os.Supports a.os e := by
  cases hentry : Os.lookup a.os with
  | some e => exact ⟨e, (Os.lookup_eq_some_iff _ _).mp hentry⟩
  | none => simp [osSupported, hos, hcustom, hentry] at h

/-- **Accepted arguments are well formed, and name no system that is not supported**, whatever the platform has
answered. -/
theorem accepted_of_validate {p : Platform σ} {a : Arguments} {m last : Moment σ}
    (h : (validate p (defaultRules p) a).attended.run m = .returned (.ok ()) last) : Accepted a := by
  have hpasses : ∀ rule ∈ defaultRules p, ∀ verdict, rule.check a = .done verdict → rule.level = .critical →
      ∃ message, verdict = .pass message := by
    intro rule hmem verdict hcheck hlevel
    cases verdict with
    | pass message => exact ⟨message, rfl⟩
    | fail message remediation arguments =>
      refine absurd (Rule.stops_done hcheck ?_) (not_stops_of_validate h hmem)
      simp [Rule.result, Result.isBlocking, hlevel, Level.blocks]
  simp only [defaultRules, List.forall_mem_cons] at hpasses
  obtain ⟨hname, -, halone, hsupported, -⟩ := hpasses
  obtain ⟨_, hname⟩ := hname _ rfl trivial
  obtain ⟨_, halone⟩ := halone _ rfl trivial
  obtain ⟨_, hsupported⟩ := hsupported _ rfl trivial
  exact ⟨nameSyntax_of_pass hname, dataDiskAlone_of_pass halone, osSupported_of_pass hsupported⟩

end ImageImport.Preflight
