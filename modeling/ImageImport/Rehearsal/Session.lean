/-
# Rehearsals

What can be played on a scene: requests to an inflater or a processor one after the other, a single
guarded step, a context that is looked at now and then, and whole imports.  Every play is an activity,
so its run says what was answered, when, and what the scene is like in the end.
-/
import ImageImport.Concurrency.Background
import ImageImport.Concurrency.Run
import ImageImport.Rehearsal.Scene

namespace ImageImport.Rehearsal

variable {σ α : Type}

/-- **A rehearsal**: the run of a play from the opening of the scene, with the tasks it leaves behind. -/
def rehearse (w : World) (a : Activity Scene α) : Ending Scene α := a.attended.run (Scene.opening w)

/-! ## 1. Answers with their time -/

/-- An answer, the diagnostic lines behind it, and how long it took. -/
structure Timed (α : Type) where
  answer : α
  logs : List String
  elapsed : Nat

/-- Take the time of an activity. -/
def timed (logs : σ → List String) (a : Activity σ α) : Activity σ (Timed α) := do
  let started ← Activity.clock
  let answer ← a
  let logs ← Activity.read logs
  return { answer, logs, elapsed := (← Activity.clock) - started }

/-- Activities one after the other. -/
def inOrder : List (Activity σ α) → Activity σ (List α)
  | [] => .done []
  | a :: rest => do return (← a) :: (← inOrder rest)

/-- Do something, and at an instant from now something else beside it. -/
def withCancel (a : Activity σ α) (after : Option Nat) (cancel : Activity σ Bool) :
    Activity σ (α × Option Bool) :=
  match after with
  | none => do return (← a, none)
  | some ms => do
    let (answer, cancelled) ← Activity.both a do
      Activity.sleep ms
      cancel
    return (answer, some cancelled)

/-- The context of something that starts now. -/
def contextNow (timeout : Option Duration) (cancelAfter : Option Nat) : Activity σ RunContext := do
  let now ← Activity.clock
  return .starting now timeout (cancelAfter.map (now + ·))

/-! ## 2. Requests to an inflater -/

/-- What an inflater can be asked to do. -/
inductive InflaterRequest where
  | cancel (reason : String)
  | inflate (cancelAfter : Option Nat) (reason : String)
  | guarded (timeout : Option Duration) (cancelAfter : Option Nat)

/-- What an inflater answers. -/
inductive InflaterAnswer where
  | cancelled (interrupted : Bool)
  | inflated (result : Except InflationFailure Inflation) (cancelled : Option Bool)
  | guarded (result : Except InflationFailure Inflation)

/-- One request. -/
def askInflater (i : Inflater σ) : InflaterRequest → Activity σ InflaterAnswer
  | .cancel reason => do return .cancelled (← i.cancel reason)
  | .inflate after reason => do
    let (result, cancelled) ← withCancel i.inflate after (i.cancel reason)
    return .inflated result cancelled
  | .guarded timeout after => do
    let ctx ← contextNow timeout after
    let (result, _) ← runStep ctx i.toStep .ofError i.inflate
    return .guarded result

/-- **Requests to an inflater**, one after the other. -/
def inflaterSession (i : Inflater σ) (requests : List InflaterRequest) :
    Activity σ (List (Timed InflaterAnswer)) :=
  inOrder (requests.map fun r => timed i.traceLogs (askInflater i r))

/-! ## 3. Requests to a processor -/

/-- What a processor can be asked to do. -/
inductive ProcessorRequest where
  | cancel (reason : String)
  | process (cancelAfter : Option Nat) (reason : String)

/-- What a processor answers. -/
inductive ProcessorAnswer where
  | cancelled (interrupted : Bool)
  | processed (result : Except ImportError PersistentDisk) (cancelled : Option Bool)

/-- One request. -/
def askProcessor (p : Processor σ) (disk : PersistentDisk) :
    ProcessorRequest → Activity σ ProcessorAnswer
  | .cancel reason => do return .cancelled (← p.cancel reason)
  | .process after reason => do
    let (result, cancelled) ← withCancel (p.process disk .empty) after (p.cancel reason)
    return .processed result.2 cancelled

/-- **Requests to a processor**, one after the other and all for one disk. -/
def processorSession (p : Processor σ) (disk : PersistentDisk) (requests : List ProcessorRequest) :
    Activity σ (List (Timed ProcessorAnswer)) :=
  inOrder (requests.map fun r => timed p.traceLogs (askProcessor p disk r))

/-! ## 4. Contexts and single steps -/

/-- **Look at a context** at some instants, and then, if asked to, wait for its end. -/
def probe (timeout : Option Duration) (cancelAfter : Option Nat) (instants : List Nat) (await : Bool) :
    Activity σ (List (Option ImportError) × Option ImportError) := do
  let ctx ← contextNow timeout cancelAfter
  let found ← inOrder <| instants.map fun t => do
    Activity.sleepUntil t
    return ctx.err (← Activity.clock)
  if await then return (found, some (← ctx.done)) else return (found, none)

/-- **One guarded step**: its outcome, its lines, and the state of the context afterwards. -/
def guardedStep (a : Actor σ) (timeout : Option Duration) (cancelAfter : Option Nat) :
    Activity σ ((Except ImportError Unit × List String) × Option ImportError) := do
  let ctx ← contextNow timeout cancelAfter
  let ended ← runStep ctx a.step id a.work
  return (ended, ctx.err (← Activity.clock))

/-! ## 5. Imports -/

/-- What checks the arguments in a rehearsal: it takes its time, and fails or not. -/
def scriptedValidator (delay : Nat) (error : Option ImportError) : Preflight.Validator σ := fun _ => do
  Activity.sleep delay
  match error with
  | some e => return .error e
  | none => return .ok ()

/-- What provides the processors in a rehearsal: it keeps the disk it saw, and fails or not. -/
def scriptedProvider (error : Option ImportError) (processors : List (Processor Scene)) :
    ProcessorProvider Scene := fun disk m => do
  .update fun s => { s with provided := s.provided ++ [disk] }
  match error with
  | some e => return (m, .error e)
  | none => return (m, .ok processors)

/-- A planner in a rehearsal: it keeps the disk it saw, and has its answer ready. -/
def scriptedPlanner (answer : Except ImportError ProcessingPlan) : DiskPlanner Scene := fun disk m => do
  .update fun s => { s with provided := s.provided ++ [disk] }
  return (m, answer)

/-- Runs of one importer, one after the other; each may be cancelled after a while. -/
def runImporter (i : Importer σ) (runs : Nat) (cancelAfter : Option Nat) :
    Activity σ (List (Metrics × Except ImportError Unit)) :=
  inOrder <| List.replicate runs do
    let now ← Activity.clock
    i.run (cancelAfter.map (now + ·))

/-- **Put an import together and run it.** -/
def assembleAndRun (p : Platform σ) (cells : Importer.Cells σ) (args : Arguments) (runs : Nat)
    (cancelAfter : Option Nat) :
    Activity σ (Except ImportError (List (Metrics × Except ImportError Unit))) := do
  match ← Importer.assemble p cells args with
  | .error e => return .error e
  | .ok i => return .ok (← runImporter i runs cancelAfter)

end ImageImport.Rehearsal
