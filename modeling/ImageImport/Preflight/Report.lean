/-
# The pre-flight report

Each rule yields one result, passed or failed, at a level (`ValidationResult`).  The report
(`ValidationReport`) keeps the results in order, counts them, and has an overall status: failures at level
error or critical block the import, other failures are warnings.
-/
import ImageImport.Dict

namespace ImageImport.Preflight

/-! ## 1. Results -/

/-- How severe it is when a rule fails. -/
inductive Level where
  | info
  | warning
  | error
  | critical
  deriving DecidableEq

/-- A failure at this level blocks the import. -/
def Level.blocks : Level → Bool
  | error | critical => true
  | info | warning => false

/-- The overall verdict. -/
inductive Status where
  | passed
  | passedWithWarnings
  | failed
  deriving DecidableEq

namespace Status

/-- From best to worst. -/
def rank : Status → Nat
  | passed => 0
  | passedWithWarnings => 1
  | failed => 2

/-- The worse of two verdicts. -/
def worst (a b : Status) : Status := if a.rank < b.rank then b else a

end Status

/-- What one rule found. -/
structure Result where
  ruleId : String
  ruleName : String
  level : Level
  passed : Bool
  message : String
  remediation : Option String
  arguments : List String
  deriving DecidableEq

namespace Result

/-- A failure that blocks the import. -/
def isBlocking (r : Result) : Bool := !r.passed && r.level.blocks

/-- The verdict this result alone would give. -/
def status (r : Result) : Status :=
  if r.passed then .passed else if r.level.blocks then .failed else .passedWithWarnings

/-- The failure in words, with what the user should change when that is known. -/
def failureText (r : Result) : String :=
  match r.remediation with
  | some remediation => r.ruleName ++ ": " ++ r.message ++ " (" ++ remediation ++ ")"
  | none => r.ruleName ++ ": " ++ r.message

end Result

/-! ## 2. Counts -/

/-- How many results there are, and of which kind. -/
structure Summary where
  total : UInt64 := 0
  passed : UInt64 := 0
  failed : UInt64 := 0
  info : UInt64 := 0
  warning : UInt64 := 0
  error : UInt64 := 0
  critical : UInt64 := 0
  deriving DecidableEq

/-- Count one more result. -/
def Summary.record (s : Summary) (r : Result) : Summary :=
  let s := { s with total := s.total + 1 }
  let s := if r.passed then { s with passed := s.passed + 1 } else { s with failed := s.failed + 1 }
  match r.level with
  | .info => { s with info := s.info + 1 }
  | .warning => { s with warning := s.warning + 1 }
  | .error => { s with error := s.error + 1 }
  | .critical => { s with critical := s.critical + 1 }

/-! ## 3. The report -/

/-- Every result of one pre-flight run. -/
structure Report where
  results : List Result
  overallStatus : Status
  summary : Summary
  deriving DecidableEq

namespace Report

/-- No result yet. -/
def empty : Report := ⟨[], .passed, {}⟩

/-- Add one result. -/
def addResult (report : Report) (r : Result) : Report where
  results := report.results ++ [r]
  overallStatus := report.overallStatus.worst r.status
  summary := report.summary.record r

/-- The report of a list of results. -/
def ofResults (rs : List Result) : Report := rs.foldl addResult empty

/-- No blocking rule failed. -/
def canProceed (report : Report) : Bool := report.overallStatus != .failed

/-- **The blocking failures in order**, with their remediation. -/
def failureMessage (report : Report) : String :=
  "; ".intercalate ((report.results.filter Result.isBlocking).map Result.failureText)

end Report

end ImageImport.Preflight
