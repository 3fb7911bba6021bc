/-
# What a report adds up to

The three parts of a report are kept apart.  The counts go up with each result, the status is the worst so far, and the
message is picked out of the results at the end.  What they say is the same all the same: a result that is added keeps
them in step (`Report.Of.addResult`), whatever has been added before.

Main statement: `Report.ofResults_adds_up`, for every list of results.  What holds of the whole list is read off the
invariant, with no further induction.  The invariant does not see the order of the results in the counts and in the
status, so it does not matter to them.

The counters are words of 64 bits.  They stand at what has been counted (`Report.AddsUp.counted`), and as numbers they
are exact as long as a word has room for the number of results, which it always has for results that are held in memory
(`Report.AddsUp.exact`).
-/
import ImageImport.Preflight.Report
import ImageImport.Proofs.Preflight.Acceptance
import Mathlib.Data.List.Induction

namespace ImageImport.Preflight

/-! ## 1. Failures that block -/

/-- **A failure that blocks**: the rule has not passed, and is at level error or critical. -/
def Result.Blocks (r : Result) : Prop := r.passed = false ∧ (r.level = .error ∨ r.level = .critical)

instance (r : Result) : Decidable r.Blocks := inferInstanceAs (Decidable (_ ∧ _))

namespace Result

theorem isBlocking_iff (r : Result) : r.isBlocking = true ↔ r.Blocks := by
  unfold isBlocking Blocks
  cases r.passed <;> cases r.level <;> simp [Level.blocks]

theorem isBlocking_eq_decide (r : Result) : r.isBlocking = decide r.Blocks := by
  rw [Bool.eq_iff_iff, isBlocking_iff, decide_eq_true_iff]

theorem status_eq_passed_iff (r : Result) : r.status = .passed ↔ r.passed = true := by
  unfold status
  cases r.passed <;> cases r.level.blocks <;> simp

/-- A failure is never without words. -/
theorem failureText_ne_empty (r : Result) : r.failureText ≠ "" := by
  unfold failureText
  split <;> simp [String.append_eq_empty_iff]

end Result

/-! ## 2. The worse of two verdicts -/

namespace Status

theorem worst_eq_passed_iff (s t : Status) : s.worst t = .passed ↔ s = .passed ∧ t = .passed := by
  cases s <;> cases t <;> decide

theorem rank_le_worst (s t : Status) : s.rank ≤ (s.worst t).rank := by
  cases s <;> cases t <;> decide

/-- There is one verdict between the best and the worst. -/
theorem eq_passedWithWarnings_iff (s : Status) : s = .passedWithWarnings ↔ s ≠ .failed ∧ s ≠ .passed := by
  cases s <;> decide

theorem eq_of_extremes {s t : Status} (hfailed : s = .failed ↔ t = .failed) (hpassed : s = .passed ↔ t = .passed) :
    s = t := by
  cases s <;> cases t <;> simp at hfailed hpassed ⊢

end Status

/-! ## 3. Counters -/

/-- **The counters of a summary.** -/
inductive Counter where
  | total
  | passed
  | failed
  | level (l : Level)

/-- Is the result one that the counter counts? -/
def Counter.counts : Counter → Result → Bool
  | total, _ => true
  | passed, r => r.passed
  | failed, r => !r.passed
  | level l, r => r.level = l

namespace Summary

/-- Where a counter stands. -/
def count (s : Summary) : Counter → UInt64
  | .total => s.total
  | .passed => s.passed
  | .failed => s.failed
  | .level .info => s.info
  | .level .warning => s.warning
  | .level .error => s.error
  | .level .critical => s.critical

/-- **One more result is counted** by the counters that it is for. -/
theorem count_record (s : Summary) (r : Result) (k : Counter) :
    (s.record r).count k = if k.counts r then s.count k + 1 else s.count k := by
  unfold record
  rcases k with _ | _ | _ | l
  · cases r.passed <;> cases r.level <;> rfl
  · cases hpassed : r.passed <;> cases r.level <;> simp [count, Counter.counts, hpassed]
  · cases hpassed : r.passed <;> cases r.level <;> simp [count, Counter.counts, hpassed]
  · cases r.passed <;> cases hlevel : r.level <;> cases l <;> simp [count, Counter.counts, hlevel]

/-- A summary is what its counters say. -/
theorem eq_of_count {s t : Summary} (h : ∀ k, s.count k = t.count k) : s = t := by
  have htotal : s.total = t.total := h .total
  have hpassed : s.passed = t.passed := h .passed
  have hfailed : s.failed = t.failed := h .failed
  have hinfo : s.info = t.info := h (.level .info)
  have hwarning : s.warning = t.warning := h (.level .warning)
  have herror : s.error = t.error := h (.level .error)
  have hcritical : s.critical = t.critical := h (.level .critical)
  cases s
  cases t
  simp_all

end Summary

theorem countP_total (rs : List Result) : rs.countP Counter.total.counts = rs.length :=
  List.countP_eq_length.mpr fun _ _ => rfl

/-- **Each result has passed or failed.** -/
theorem countP_outcomes (rs : List Result) :
    rs.countP Counter.passed.counts + rs.countP Counter.failed.counts = rs.length := by
  rw [List.length_eq_countP_add_countP Counter.passed.counts]
  congr 2
  funext r
  simp [Counter.counts]

/-- **Each result is at one of the four levels.** -/
theorem countP_levels (rs : List Result) :
    rs.countP (Counter.level .info).counts + rs.countP (Counter.level .warning).counts +
      rs.countP (Counter.level .error).counts + rs.countP (Counter.level .critical).counts = rs.length := by
  induction rs with
  | nil => rfl
  | cons r rs ih =>
    simp only [List.countP_cons, List.length_cons, ← ih]
    cases hlevel : r.level <;> simp [Counter.counts, hlevel] <;> omega

/-! ## 4. Texts in a row -/

/-- What is put together of texts with words is without words only if there is no text. -/
theorem intercalate_eq_empty_iff (separator : String) {texts : List String} (h : ∀ text ∈ texts, text ≠ "") :
    separator.intercalate texts = "" ↔ texts = [] := by
  cases texts with
  | nil => simp
  | cons text rest =>
    have htext : text ≠ "" := h text List.mem_cons_self
    cases rest with
    | nil => simpa using htext
    | cons next rest => simp [String.intercalate_cons_cons, String.append_eq_empty_iff, htext]

/-! ## 5. What one addition keeps -/

namespace Report

/-- **The report of some results**, part by part. -/
structure Of (report : Report) (rs : List Result) : Prop where
  /-- The results are kept in order. -/
  results : report.results = rs
  /-- Each counter has counted the results it is for. -/
  counted : ∀ k : Counter, report.summary.count k = .ofNat (rs.countP k.counts)
  /-- The status is the worst where a failure blocks. -/
  failed : report.overallStatus = .failed ↔ ∃ r ∈ rs, r.Blocks
  /-- It is the best where there is no failure. -/
  passed : report.overallStatus = .passed ↔ ∀ r ∈ rs, r.passed = true

variable {report other : Report} {rs more : List Result}

theorem summary_addResult (report : Report) (r : Result) : (report.addResult r).summary = report.summary.record r := rfl

theorem overallStatus_addResult (report : Report) (r : Result) :
    (report.addResult r).overallStatus = report.overallStatus.worst r.status := rfl

theorem of_empty : empty.Of [] where
  results := rfl
  counted k := by rcases k with _ | _ | _ | _ | _ | _ | _ <;> rfl
  failed := by simp [empty]
  passed := by simp [empty]

/-- **The parts of a report stay in step** when a result is added, whatever it is. -/
theorem Of.addResult (h : report.Of rs) (r : Result) : (report.addResult r).Of (rs ++ [r]) where
  results := by rw [Report.addResult, h.results]
  counted k := by
    rw [summary_addResult, Summary.count_record, h.counted, List.countP_append, List.countP_singleton]
    split <;> simp [UInt64.ofNat_add]
  failed := by
    rw [← canProceed_eq_false_iff, canProceed_addResult, canProceed_eq_false_iff, h.failed, Result.isBlocking_iff]
    simp [or_and_right, exists_or]
  passed := by
    rw [overallStatus_addResult, Status.worst_eq_passed_iff, h.passed, Result.status_eq_passed_iff]
    simp [or_imp, forall_and]

theorem ofResults_append (rs more : List Result) : ofResults (rs ++ more) = more.foldl addResult (ofResults rs) :=
  List.foldl_append

theorem of_ofResults (rs : List Result) : (ofResults rs).Of rs := by
  induction rs using List.reverseRecOn with
  | nil => exact of_empty
  | append_singleton rs r ih =>
    rw [ofResults_append]
    exact ih.addResult r

/-- **What is added later never lowers the status**, by induction on what is added. -/
theorem rank_le_foldl (report : Report) (more : List Result) :
    report.overallStatus.rank ≤ (more.foldl addResult report).overallStatus.rank := by
  induction more generalizing report with
  | nil => exact Nat.le_refl _
  | cons r more ih => calc
      report.overallStatus.rank ≤ (report.addResult r).overallStatus.rank := Status.rank_le_worst _ _
      _ ≤ (more.foldl addResult (report.addResult r)).overallStatus.rank := ih _

/-! ## 6. What is read off -/

namespace Of

/-- **The order of the results does not matter** to the status and to the counts. -/
theorem perm (h : report.Of rs) (h' : other.Of more) (hperm : more.Perm rs) :
    other.overallStatus = report.overallStatus ∧ other.summary = report.summary := by
  constructor
  · refine Status.eq_of_extremes ?_ ?_
    · rw [h.failed, h'.failed]
      simp only [hperm.mem_iff]
    · rw [h.passed, h'.passed]
      simp only [hperm.mem_iff]
  · refine Summary.eq_of_count fun k => ?_
    rw [h.counted, h'.counted, hperm.countP_eq]

theorem canProceed_iff (h : report.Of rs) : report.canProceed = true ↔ ∀ r ∈ rs, ¬ r.Blocks := by
  rw [← Bool.not_eq_false, canProceed_eq_false_iff, h.failed]
  simp

theorem failureMessage_eq (h : report.Of rs) :
    report.failureMessage = "; ".intercalate ((rs.filter fun r => r.Blocks).map Result.failureText) := by
  have hsame : Result.isBlocking = fun r => decide r.Blocks := funext Result.isBlocking_eq_decide
  rw [failureMessage, h.results, hsame]

/-- There are no words only where nothing blocks. -/
theorem failureMessage_eq_empty_iff (h : report.Of rs) : report.failureMessage = "" ↔ ∀ r ∈ rs, ¬ r.Blocks := by
  rw [h.failureMessage_eq, intercalate_eq_empty_iff]
  · simp [List.filter_eq_nil_iff]
  · intro text htext
    obtain ⟨r, -, rfl⟩ := List.mem_map.mp htext
    exact r.failureText_ne_empty

end Of

/-! ## 7. The report of any results -/

/-- **The counts as numbers.** -/
structure Exact (s : Summary) (rs : List Result) : Prop where
  total : s.total.toNat = rs.length
  counted : ∀ k : Counter, (s.count k).toNat = rs.countP k.counts
  outcomes : s.passed.toNat + s.failed.toNat = s.total.toNat
  levels : s.info.toNat + s.warning.toNat + s.error.toNat + s.critical.toNat = s.total.toNat

/-- **The report of results that are added one after the other.** -/
structure AddsUp (report : Report) (rs : List Result) : Prop where
  /-- The results are kept in order. -/
  results : report.results = rs
  /-- The total is the number of results. -/
  total : report.summary.total = .ofNat rs.length
  /-- Each counter stands at the number of the results it is for. -/
  counted : ∀ k : Counter, report.summary.count k = .ofNat (rs.countP k.counts)
  /-- What has passed and what has failed sum to the total. -/
  outcomes : report.summary.passed + report.summary.failed = report.summary.total
  /-- So do the four levels. -/
  levels : report.summary.info + report.summary.warning + report.summary.error + report.summary.critical =
    report.summary.total
  /-- The counters are exact as numbers unless there are more results than they have room for. -/
  exact : rs.length < UInt64.size → Exact report.summary rs
  /-- The status is the worst where a failure blocks, ... -/
  failed : report.overallStatus = .failed ↔ ∃ r ∈ rs, r.Blocks
  /-- ... tells of warnings where there are failures and none of them blocks, ... -/
  warned : report.overallStatus = .passedWithWarnings ↔ (¬ ∃ r ∈ rs, r.Blocks) ∧ ∃ r ∈ rs, r.passed = false
  /-- ... and is the best otherwise. -/
  passed : report.overallStatus = .passed ↔ ¬ ∃ r ∈ rs, r.passed = false
  /-- It is never lowered by what is added later. -/
  raised : ∀ more, report.overallStatus.rank ≤ (ofResults (rs ++ more)).overallStatus.rank
  /-- The status and the counts are the same for the results in any other order. -/
  reordered : ∀ rs', rs'.Perm rs →
    (ofResults rs').overallStatus = report.overallStatus ∧ (ofResults rs').summary = report.summary
  /-- The import may go on where there is nothing to say, and only there. -/
  proceeds : report.canProceed = true ↔ report.failureMessage = ""
  /-- What there is to say is the failures that block, in the order in which they were added. -/
  message : report.failureMessage = "; ".intercalate ((rs.filter fun r => r.Blocks).map Result.failureText)

theorem Of.exact (h : report.Of rs) (hlength : rs.length < UInt64.size) : Exact report.summary rs := by
  have hcounted : ∀ k : Counter, (report.summary.count k).toNat = rs.countP k.counts := by
    intro k
    rw [h.counted]
    exact UInt64.toNat_ofNat_of_lt' (Nat.lt_of_le_of_lt List.countP_le_length hlength)
  have htotal : report.summary.total.toNat = rs.length := (hcounted .total).trans (countP_total rs)
  refine ⟨htotal, hcounted, ?_, ?_⟩
  · rw [htotal, ← countP_outcomes, ← hcounted, ← hcounted]
    rfl
  · rw [htotal, ← countP_levels, ← hcounted, ← hcounted, ← hcounted, ← hcounted]
    rfl

/-- **The parts of a report agree**, for any results in any order. -/
theorem ofResults_adds_up (rs : List Result) : (ofResults rs).AddsUp rs := by
  have h := of_ofResults rs
  have htotal : (ofResults rs).summary.total = .ofNat rs.length := by
    rw [← countP_total]
    exact h.counted .total
  exact {
    results := h.results
    total := htotal
    counted := h.counted
    outcomes := by
      rw [htotal, ← countP_outcomes, UInt64.ofNat_add, ← h.counted, ← h.counted]
      rfl
    levels := by
      rw [htotal, ← countP_levels, UInt64.ofNat_add, UInt64.ofNat_add, UInt64.ofNat_add, ← h.counted, ← h.counted,
        ← h.counted, ← h.counted]
      rfl
    exact := h.exact
    failed := h.failed
    warned := by
      rw [Status.eq_passedWithWarnings_iff, ne_eq, ne_eq, h.failed, h.passed]
      simp
    passed := by
      rw [h.passed]
      simp
    raised := fun more => by
      rw [ofResults_append]
      exact rank_le_foldl _ more
    reordered := fun rs' hperm => h.perm (of_ofResults rs') hperm
    proceeds := by rw [h.canProceed_iff, h.failureMessage_eq_empty_iff]
    message := h.failureMessage_eq }

end Report

end ImageImport.Preflight
