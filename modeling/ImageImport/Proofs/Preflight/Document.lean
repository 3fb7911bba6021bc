/-
# Reports are read back

What a result, the counts and the report write, and that each of them is read as it was written.
-/
import ImageImport.Preflight.Document
import ImageImport.Proofs.Json.Fields

namespace ImageImport.Preflight

open Json

variable (room : Nat)

@[simp] theorem Level.ofName?_name (l : Level) : (name? (str l.name)).bind ofName? = some l := by
  cases l <;> rfl

@[simp] theorem Status.ofName?_name (s : Status) : (name? (str s.name)).bind ofName? = some s := by
  cases s <;> rfl

namespace Result

theorem writes (r : Result) : Writes (room + 1) ["rule_id", "rule_name", "level", "passed", "message", "remediation",
      "arguments"]
    (member "rule_id" (str r.ruleId) ++ member "rule_name" (str r.ruleName) ++ member "level" (str r.level.name) ++
      member "passed" (bool r.passed) ++ member "message" (str r.message) ++
      member "remediation" (nullOr str r.remediation) ++ member "arguments" (list str r.arguments)) :=
  (Writes.member .str).append (.member .str)
    |>.append (.member .str)
    |>.append (.member .bool)
    |>.append (.member .str)
    |>.append (.member (.nullOr (fun _ => .str) _))
    |>.append (.member (.list (fun _ => .str) _))

theorem plain (r : Result) : Plain (room + 2) r.toJson := (writes room r).record

@[simp] theorem ofJson?_toJson (r : Result) : ofJson? r.toJson = some r := by
  have hremediation := toOption?_nullOr toText?_str (fun _ => nofun) r.remediation
  rw [ofJson?, toJson, fields?_record (writes 0 r) (by decide)]
  simp [Fields.required, Fields.nullable, hremediation]

end Result

namespace Summary

theorem writes (s : Summary) : Writes room ["total_count", "passed_count", "failed_count", "info_count", "warning_count",
      "error_count", "critical_count"]
    (member "total_count" (uint64 s.total) ++ member "passed_count" (uint64 s.passed) ++
      member "failed_count" (uint64 s.failed) ++ member "info_count" (uint64 s.info) ++
      member "warning_count" (uint64 s.warning) ++ member "error_count" (uint64 s.error) ++
      member "critical_count" (uint64 s.critical)) :=
  (Writes.member (.uint64 _)).append (.member (.uint64 _))
    |>.append (.member (.uint64 _))
    |>.append (.member (.uint64 _))
    |>.append (.member (.uint64 _))
    |>.append (.member (.uint64 _))
    |>.append (.member (.uint64 _))

theorem plain (s : Summary) : Plain (room + 1) s.toJson := (writes room s).record

@[simp] theorem ofJson?_toJson (s : Summary) : ofJson? s.toJson = some s := by
  rw [ofJson?, toJson, fields?_record (writes 0 s) (by decide)]
  simp [Fields.required]

end Summary

namespace Report

theorem writes (r : Report) : Writes (room + 3) ["results", "overall_status", "summary"]
    (member "results" (list Result.toJson r.results) ++ member "overall_status" (str r.overallStatus.name) ++
      member "summary" r.summary.toJson) :=
  (Writes.member (.list (Result.plain _) _)).append (.member .str) |>.append (.member (Summary.plain _ _))

theorem plain (r : Report) : Plain (room + 4) r.toJson := (writes room r).record

theorem ofJson?_toJson (r : Report) : ofJson? r.toJson = some r := by
  rw [ofJson?, toJson, fields?_record (writes 0 r) (by decide)]
  simp [Fields.required]

end Report

end ImageImport.Preflight
