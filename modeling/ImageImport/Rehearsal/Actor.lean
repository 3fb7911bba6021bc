/-
# Steps that follow a script

An actor stands in for an inflater or a processor.  It takes its time, can be interrupted or refuse to
be, and then succeeds, fails or crashes, all as its script says; and it keeps what it was asked.
-/
import ImageImport.Cell
import ImageImport.Step

namespace ImageImport.Rehearsal

/-- How the work of an actor ends. -/
inductive Finale where
  | success
  | failure (error : ImportError)
  | crash (message : String)

/-- **What an actor will do.** -/
structure ActorScript where
  delay : Nat := 0
  logs : List String := []
  endLogs : List String := []
  finale : Finale := .success
  onInterrupt : Finale := .failure (.cancelled "step interrupted")
  cancelReturns : Bool := true
  cancelInterrupts : Bool := true
  cancelDelay : Nat := 0
  disk : Option PersistentDisk := none
  fields : InflationFields := {}

/-- **What an actor has done and been asked.** -/
structure ActorState where
  isInterrupted : Bool := false
  trace : List String := []
  runs : Nat := 0
  cancels : List String := []
  inputs : List PersistentDisk := []
  deriving DecidableEq

/-- An actor with its script and the place of its state. -/
structure Actor (σ : Type) where
  script : ActorScript
  cell : Cell σ ActorState

namespace Actor

variable {σ : Type}

/-- A change of its own state. -/
def change (a : Actor σ) (f : ActorState → ActorState) : Activity σ Unit := .update (a.cell.modify f)

/-- More lines. -/
def push (a : Actor σ) (lines : List String) : Activity σ Unit :=
  a.change fun s => { s with trace := s.trace ++ lines }

/-- Has it been interrupted? -/
def interrupted (a : Actor σ) (s : σ) : Bool := (a.cell.get s).isInterrupted

/-- The end of the work. -/
def play : Finale → Activity σ (Except ImportError Unit)
  | .success => .done (.ok ())
  | .failure e => .done (.error e)
  | .crash message => .crash ⟨some message⟩

/-- **The work.** -/
def work (a : Actor σ) : Activity σ (Except ImportError Unit) := do
  a.change fun s => { s with runs := s.runs + 1, trace := s.trace ++ a.script.logs }
  let due := (← Activity.clock) + a.script.delay
  let early ← Activity.read a.interrupted
  Activity.sleepUnless a.interrupted a.script.delay
  if early || ((← Activity.read a.interrupted) && decide ((← Activity.clock) < due)) then
    a.push ["interrupted"]
    play a.script.onInterrupt
  else
    a.push a.script.endLogs
    play a.script.finale

/-- **A cancel** is kept, interrupts if the script says so, and answers what the script says. -/
def cancel (a : Actor σ) (reason : String) : Activity σ Bool := do
  a.change fun s =>
    { s with
      cancels := s.cancels ++ [reason]
      isInterrupted := s.isInterrupted || a.script.cancelInterrupts }
  Activity.sleep a.script.cancelDelay
  return a.script.cancelReturns

/-- What it can be asked. -/
def step (a : Actor σ) : Step σ where
  cancel := a.cancel
  traceLogs s := (a.cell.get s).trace

/-- Its disk. -/
def disk (a : Actor σ) : PersistentDisk := a.script.disk.getD .unknown

/-- The work of an inflater: it yields a disk and fields, also when it fails. -/
def inflate (a : Actor σ) : Activity σ (Except InflationFailure Inflation) := do
  match ← a.work with
  | .ok () => return .ok ⟨a.disk, a.script.fields⟩
  | .error error => return .error { disk := a.disk, fields := a.script.fields, error }

/-- The actor as an inflater. -/
def inflater (a : Actor σ) : Inflater σ := { a.step with inflate := a.inflate }

/-- The work of a processor: it keeps its disk and hands on that of the script, if there is one. -/
def process (a : Actor σ) (input : PersistentDisk) : Activity σ (Except ImportError PersistentDisk) := do
  a.change fun s => { s with inputs := s.inputs ++ [input] }
  match ← a.work with
  | .ok () => return .ok (a.script.disk.getD input)
  | .error error => return .error error

/-- The actor as a processor.  It has nothing to report. -/
def processor (a : Actor σ) : Processor σ :=
  { a.step with kind := .bootableDisk, process := fun disk m => unreported m (a.process disk) }

end Actor

end ImageImport.Rehearsal
