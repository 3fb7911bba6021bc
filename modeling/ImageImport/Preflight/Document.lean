/-
# Reports as documents

How a pre-flight report (`ValidationReport`) is written and read.
-/
import ImageImport.Json.Schema
import ImageImport.Preflight.Report

namespace ImageImport.Preflight

open Json

/-- A name, written as a string or as the only member of an object that holds nothing. -/
def name? : Json → Option String
  | .text t => t
  | .object [(some name, .null)] => some name
  | _ => none

namespace Level

def name : Level → String
  | info => "info"
  | warning => "warning"
  | error => "error"
  | critical => "critical"

def ofName? : String → Option Level
  | "info" => some info
  | "warning" => some warning
  | "error" => some error
  | "critical" => some critical
  | _ => none

end Level

namespace Status

def name : Status → String
  | passed => "passed"
  | passedWithWarnings => "passed-with-warnings"
  | failed => "failed"

def ofName? : String → Option Status
  | "passed" => some passed
  | "passed-with-warnings" => some passedWithWarnings
  | "failed" => some failed
  | _ => none

end Status

namespace Result

def toJson (r : Result) : Json :=
  record (member "rule_id" (str r.ruleId) ++ member "rule_name" (str r.ruleName) ++
    member "level" (str r.level.name) ++ member "passed" (bool r.passed) ++
    member "message" (str r.message) ++ member "remediation" (nullOr str r.remediation) ++
    member "arguments" (list str r.arguments))

def ofJson? (j : Json) : Option Result := do
  let f ← fields? ["rule_id", "rule_name", "level", "passed", "message", "remediation",
    "arguments"] j
  return {
    ruleId := ← f.required "rule_id" toText?
    ruleName := ← f.required "rule_name" toText?
    level := ← f.required "level" fun j => (name? j).bind Level.ofName?
    passed := ← f.required "passed" toBool?
    message := ← f.required "message" toText?
    remediation := ← f.nullable "remediation" toText?
    arguments := ← f.required "arguments" (toList? toText?) }

end Result

namespace Summary

def toJson (s : Summary) : Json :=
  Json.record (member "total_count" (uint64 s.total) ++ member "passed_count" (uint64 s.passed) ++
    member "failed_count" (uint64 s.failed) ++ member "info_count" (uint64 s.info) ++
    member "warning_count" (uint64 s.warning) ++ member "error_count" (uint64 s.error) ++
    member "critical_count" (uint64 s.critical))

def ofJson? (j : Json) : Option Summary := do
  let f ← fields? ["total_count", "passed_count", "failed_count", "info_count", "warning_count",
    "error_count", "critical_count"] j
  return {
    total := ← f.required "total_count" toUInt64?
    passed := ← f.required "passed_count" toUInt64?
    failed := ← f.required "failed_count" toUInt64?
    info := ← f.required "info_count" toUInt64?
    warning := ← f.required "warning_count" toUInt64?
    error := ← f.required "error_count" toUInt64?
    critical := ← f.required "critical_count" toUInt64? }

end Summary

namespace Report

def toJson (r : Report) : Json :=
  record (member "results" (list Result.toJson r.results) ++
    member "overall_status" (str r.overallStatus.name) ++ member "summary" r.summary.toJson)

def ofJson? (j : Json) : Option Report := do
  let f ← fields? ["results", "overall_status", "summary"] j
  return {
    results := ← f.required "results" (toList? Result.ofJson?)
    overallStatus := ← f.required "overall_status" fun j => (name? j).bind Status.ofName?
    summary := ← f.required "summary" Summary.ofJson? }

end Report

end ImageImport.Preflight
