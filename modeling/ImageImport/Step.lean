/-
# Guarded steps

The parts of an import that take long are steps: work that can be asked to stop, and that keeps
diagnostic lines (`Step`, `Inflater` and `Processor`).  A step runs under the context of its import
(`RunContext`), which ends at a deadline or when the caller cancels.

`runStep` (`run_step`) starts the work as a task of its own and waits for it or for the end of the
context, whichever comes first.  When the context ends first, the step is asked to stop, and the answer
decides whose word counts: a step that says it was interrupted has failed with the error of the
context, and one that says it was not keeps its own outcome.  Either way the task is waited for, and
only then are the diagnostic lines read, so nothing is left running and no line is lost.

Whoever looks at a context finds a cancellation before a deadline (`RunContext.err`).  Whoever waits for its
end and finds both past notices one of the two, and which one is not for the import to say (`RunContext.done`).
-/
import ImageImport.Concurrency.Race
import ImageImport.Inflation.Basic
import ImageImport.Metrics
import ImageImport.Text.Quoted

namespace ImageImport

/-! ## 1. The context -/

/-- **The limits of one import**: an instant at which it is to be over, if it has a timeout, and the
instant at which the caller cancels, if that happens.  `deadlineFirst` picks between the two for whoever waits
and at an instant finds both past. -/
structure RunContext where
  timeout : Option Duration
  deadline : Option Nat
  cancelledAt : Option Nat
  deadlineFirst : Nat → Bool

namespace RunContext

/-- The context of an import that starts `now`.  Instants are numbers, and no deadline is too far away to be
one. -/
def starting (now : Nat) (timeout : Option Duration) (cancelledAt : Option Nat)
    (deadlineFirst : Nat → Bool := fun _ => false) : RunContext where
  timeout
  deadline := timeout.map fun d => now + d.millisCeil
  cancelledAt
  deadlineFirst

/-- The error of a caller's cancellation. -/
def cancelledError : ImportError := .cancelled "the import was cancelled by the caller"

/-- The error of a deadline. -/
def timeoutError (ctx : RunContext) : ImportError := .timeout (ctx.timeout.getD (.ofSecs 0))

/-- An instant that has come. -/
def reached (now : Nat) (instant : Option Nat) : Bool := instant.any fun t => decide (t ≤ now)

/-- **Why the context is over**, if it is; a cancellation counts before the deadline. -/
def err (ctx : RunContext) (now : Nat) : Option ImportError :=
  if reached now ctx.cancelledAt then some cancelledError
  else if reached now ctx.deadline then some ctx.timeoutError
  else none

/-- The instant at which the context is over. -/
def endsAt (ctx : RunContext) : Option Nat := Wake.earlier ctx.cancelledAt ctx.deadline

/-- **What is noticed of a context that is over**: the limit that is past, and of two the one that is
picked. -/
def noticed (ctx : RunContext) (now : Nat) : ImportError :=
  if reached now ctx.deadline && (ctx.deadlineFirst now || !reached now ctx.cancelledAt) then ctx.timeoutError
  else cancelledError

/-- **Wait until the context is over.** -/
def done {σ : Type} (ctx : RunContext) : Activity σ ImportError := do
  Activity.waitOr ⟨fun _ => false, ctx.endsAt⟩ id
  return ctx.noticed (← Activity.clock)

theorem reached_earlier (now : Nat) (a b : Option Nat) :
    reached now (Wake.earlier a b) = (reached now a || reached now b) := Wake.earlier_any_le a b now

/-- A context has an error from the instant on at which it is over. -/
theorem err_isSome (ctx : RunContext) (now : Nat) :
    (ctx.err now).isSome = reached now ctx.endsAt := by
  rw [endsAt, reached_earlier, err]
  cases reached now ctx.cancelledAt <;> cases reached now ctx.deadline <;> rfl

/-- Once over, always over. -/
theorem err_isSome_of_le (ctx : RunContext) {s t : Nat} (h : s ≤ t) (hs : (ctx.err s).isSome) :
    (ctx.err t).isSome := by
  rw [err_isSome] at hs ⊢
  unfold reached at *
  cases hd : ctx.endsAt with
  | none => simp [hd] at hs
  | some d => simp only [hd, Option.any_some, decide_eq_true_eq] at hs ⊢; omega

end RunContext

/-! ## 2. Steps -/

/-- **What every step can be asked.**  `cancel` answers whether the work was interrupted. -/
structure Step (σ : Type) where
  cancel : (reason : String) → Activity σ Bool
  traceLogs : σ → List String

/-- A step that turns a source into a disk. -/
structure Inflater (σ : Type) extends Step σ where
  inflate : Activity σ (Except InflationFailure Inflation)

/-- The kinds of processors. -/
inductive ProcessorKind where
  | metadata
  | bootableDisk
  | dataDisk
  deriving DecidableEq

/-- The name of a kind. -/
def ProcessorKind.name : ProcessorKind → String
  | metadata => "metadata"
  | bootableDisk => "bootable-disk"
  | dataDisk => "data-disk"

/-- Work that has nothing to report: the metrics are given back as they came. -/
def unreported {σ α : Type} (m : Metrics) (work : Activity σ α) : Activity σ (Metrics × α) := do
  return (m, ← work)

/-- **A step that works on a disk and hands it on.**  It is also handed the metrics, and gives them back with
what it has to report, whatever comes of its work. -/
structure Processor (σ : Type) extends Step σ where
  kind : ProcessorKind
  process : PersistentDisk → Metrics → Activity σ (Metrics × Except ImportError PersistentDisk)

/-! ## 3. Running a step -/

/-- Crashes as diagnostics show them. -/
def Crash.text (c : Crash) : String :=
  match c.message with
  | some message => "task <id> panicked with message " ++ Text.quoted message
  | none => "task <id> panicked"

section Run

variable {σ ε α : Type}

/-- What a step is told when the context ends. -/
def cancelReason : ImportError → String
  | .timeout _ => "timed-out"
  | _ => "cancelled"

/-- The error of a step whose task crashed. -/
def crashError (c : Crash) : ImportError := .internal ("step task failed: " ++ c.text)

/-- The outcome of a task that has ended. -/
def taskOutcome (ofError : ImportError → ε) : Except Crash (Except ε α) → Except ε α
  | .ok outcome => outcome
  | .error crash => .error (ofError (crashError crash))

/-- The work does not start when the context is over. -/
def guardedWork (ctx : RunContext) (ofError : ImportError → ε) (work : Activity σ (Except ε α)) :
    Activity σ (Except ε α) := do
  match ctx.err (← Activity.clock) with
  | some e => return .error (ofError e)
  | none => work

/-- The task a step's work runs in. -/
def stepTask (ctx : RunContext) (ofError : ImportError → ε) (work : Activity σ (Except ε α)) :
    Activity σ (Except Crash (Except ε α)) :=
  (Activity.spawned (guardedWork ctx ofError work)).caught

/-- **Ask the step to stop and wait for its task**, which goes on meanwhile. -/
def interrupt (step : Step σ) (ofError : ImportError → ε) (e : ImportError)
    (task : Activity σ (Except Crash (Except ε α))) : Activity σ (Except ε α) := do
  let (rest, interrupted) ← Activity.alongside task (step.cancel (cancelReason e))
  let ended ← rest
  return if interrupted then .error (ofError e) else taskOutcome ofError ended

/-- The task against the context. -/
def runTask (ctx : RunContext) (step : Step σ) (ofError : ImportError → ε)
    (task : Activity σ (Except Crash (Except ε α))) : Activity σ (Except ε α) := do
  match ← Activity.race task ctx.done with
  | .left ended _ => return taskOutcome ofError ended
  | .right rest e => interrupt step ofError e rest

/-- **Run the work of a step under a context.**  Yields its outcome and its diagnostic lines. -/
def runStep (ctx : RunContext) (step : Step σ) (ofError : ImportError → ε)
    (work : Activity σ (Except ε α)) : Activity σ (Except ε α × List String) := do
  let outcome ← runTask ctx step ofError (stepTask ctx ofError work)
  return (outcome, ← Activity.read step.traceLogs)

end Run

end ImageImport
