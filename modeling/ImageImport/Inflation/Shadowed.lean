/-
# Inflation with a shadow

A second inflation can run beside the main one, on a disk of its own, to compare the two (`InflaterFacade`).
What is shown in the end is the outcome of the main inflation; the shadow adds a verdict
(`compare_inflations`) and its own time to the fields that report how the inflation went, however it has
ended, also by a crash.

When the main inflation has ended, the shadow has a grace period to end as well.  Then it is cancelled, has
one more period to take notice and one to end, and is abandoned after that (`collect_shadow`).  A shadow that
is told of a failure of the main inflation is waited for until it has answered, and its cancels are not
sheltered: one that crashes crashes the inflation.
-/
import ImageImport.Cell
import ImageImport.Concurrency.Background
import ImageImport.Step
import ImageImport.Platform.Services

namespace ImageImport

/-! ## 1. The verdict -/

/-- How a shadow ended, if it was not abandoned. -/
abbrev ShadowEnding := Option (Except Crash (Except InflationFailure Inflation))

/-- The verdict of two equal inflations. -/
def matchVerdict : String := "true"

/-- Two inflations that both succeeded. -/
def compareDisks (main shadow : Inflation) : String :=
  if !shadow.disk.isAllocated then "Shadow inflater canceled"
  else if main.disk.sizeGb ≠ shadow.disk.sizeGb then "Size mismatch"
  else if main.fields.checksum.isEmpty || shadow.fields.checksum.isEmpty then "Checksum missing"
  else if main.fields.checksum ≠ shadow.fields.checksum then "Content mismatch"
  else matchVerdict

/-- **What the comparison says.** -/
def compareInflations (main : Except InflationFailure Inflation) (shadow : ShadowEnding) : String :=
  match main, shadow with
  | .error _, _ => "Main inflater failed"
  | .ok m, some (.ok (.ok s)) => compareDisks m s
  | .ok _, some (.ok (.error failure)) => "Shadow inflater error: " ++ failure.message
  | .ok _, some (.error crash) => "Shadow inflater error: " ++ crash.text
  | .ok _, none => "Shadow inflater canceled"

/-- How long the shadow took, if it created a disk and succeeded. -/
def shadowTime : ShadowEnding → Option Duration
  | some (.ok (.ok s)) => if s.disk.isAllocated then some s.fields.inflationTime else none
  | _ => none

/-- The fields of the main inflation with what the shadow adds. -/
def InflationFields.withShadow (verdict : String) (shadow : ShadowEnding) (f : InflationFields) :
    InflationFields :=
  { f with matchResult := some verdict, shadowInflationTime := shadowTime shadow }

/-- **The main outcome with what the shadow adds.** -/
def addShadow (verdict : String) (shadow : ShadowEnding) :
    Except InflationFailure Inflation → Except InflationFailure Inflation
  | .ok i => .ok { i with fields := i.fields.withShadow verdict shadow }
  | .error f => .error { f with fields := f.fields.withShadow verdict shadow }

/-! ## 2. The two together -/

/-- An inflation with a shadow.  The cell keeps whether the main one has ended. -/
structure ShadowedInflation (σ : Type) where
  main : Inflater σ
  shadow : Inflater σ
  grace : Duration := .ofSecs 180
  platform : Platform σ
  mainFinished : Cell σ Bool

namespace ShadowedInflation

variable {σ : Type}

/-- A shadow on its way. -/
abbrev ShadowTask (σ : Type) := Activity σ (Except Crash (Except InflationFailure Inflation))

/-- The grace period on the clock. -/
def graceMillis (i : ShadowedInflation σ) : Nat := i.grace.millisCeil

/-- The main inflation to its end, and the shadow told when that was no success. -/
def runMain (i : ShadowedInflation σ) : Activity σ (Except InflationFailure Inflation) := do
  let result ← i.main.inflate
  .update (i.mainFinished.set true)
  if result.isOk then return result
  else
    let _ ← i.shadow.cancel "main inflater failed"
    return result

/-- The last wait for a shadow; what has not ended after it is abandoned. -/
def collectOrAbandon (i : ShadowedInflation σ) (task : ShadowTask σ) : Activity σ ShadowEnding :=
  .within i.graceMillis task

/-- A shadow that has outlived its grace period. -/
def collectLate (i : ShadowedInflation σ) (task : ShadowTask σ) : Activity σ ShadowEnding := do
  i.platform.warn
    ("⏱️ Shadow inflation still running " ++ i.grace.exact ++ " after the main inflater, cancelling it")
  let (rest, _) ← Activity.alongside task
    (.within i.graceMillis (i.shadow.cancel "main inflater finished"))
  i.collectOrAbandon rest

/-- **Wait for the shadow**, and no longer than three grace periods. -/
def collect (i : ShadowedInflation σ) (task : ShadowTask σ) : Activity σ ShadowEnding := do
  match ← Activity.waitedFor i.graceMillis task with
  | .inl ended => return some ended
  | .inr rest => i.collectLate rest

/-- What both have come to. -/
def conclude (i : ShadowedInflation σ) (task : ShadowTask σ)
    (result : Except InflationFailure Inflation) : Activity σ (Except InflationFailure Inflation) := do
  let shadow ← i.collect task
  let verdict := compareInflations result shadow
  if verdict ≠ matchVerdict then
    i.platform.warn ("⚠️ Shadow inflation discrepancy: " ++ verdict)
  return addShadow verdict shadow result

/-- **The inflation**: the main one with its shadow beside it.  When the main one crashes nobody waits
for the shadow any more, and it goes on by itself. -/
def inflate (i : ShadowedInflation σ) : Activity σ (Except InflationFailure Inflation) := do
  match ← Activity.leading i.runMain.caught (Activity.spawned i.shadow.inflate).caught with
  | (task, .ok result) => i.conclude task result
  | (task, .error crash) =>
    .detach (← task.settle).background (.crash crash)

/-- **A cancel reaches both**, and the answer is that of the main inflation.  Once that has ended only the
shadow is stopped, and nothing was interrupted. -/
def cancel (i : ShadowedInflation σ) (reason : String) : Activity σ Bool := do
  if ← Activity.read i.mainFinished.get then
    let _ ← i.shadow.cancel reason
    return false
  else
    let (interrupted, _) ← Activity.both (i.main.cancel reason) (i.shadow.cancel reason)
    return interrupted

/-- The step. -/
def inflater (i : ShadowedInflation σ) : Inflater σ where
  cancel := i.cancel
  traceLogs s := i.main.traceLogs s ++ i.shadow.traceLogs s
  inflate := i.inflate

end ShadowedInflation

end ImageImport
