/-
# Running an activity

The clock stands still while anything can act and then jumps to the next instant somebody waits
for.  So a run is a function: of the activity and of the moment at which it starts, by recursion on
the activity.  It ends with a value, with a crash, or *stalled*, when the activity waits for a
condition that nothing is left to bring about and that has no instant of its own.

Main statement: `run_bind`, one activity after the other runs as the first, and then the second
from where the first one ended.
-/
import ImageImport.Concurrency.Activity

namespace ImageImport

/-- How a run ended, and when. -/
inductive Ending (σ α : Type) where
  | returned (value : α) (last : Moment σ)
  | crashed (why : Crash) (last : Moment σ)
  | stalled (last : Moment σ)

namespace Ending

variable {σ α β : Type}

/-- The moment the run ended at. -/
def moment : Ending σ α → Moment σ
  | returned _ m | crashed _ m | stalled m => m

/-- The value, if the run ended with one. -/
def value? : Ending σ α → Option α
  | returned a _ => some a
  | _ => none

/-- Go on from a value; a crash or a stall stays what it is. -/
def andThen (e : Ending σ α) (f : α → Moment σ → Ending σ β) : Ending σ β :=
  match e with
  | returned a m => f a m
  | crashed why m => crashed why m
  | stalled m => stalled m

end Ending

namespace Activity

variable {σ α β : Type}

/-- **The run of an activity from a moment on**, by itself: what it leaves behind does not act, unless
the activity attends to it (`Concurrency/Background.lean`). -/
def run : Activity σ α → Moment σ → Ending σ α
  | done a, m => .returned a m
  | crash why, m => .crashed why m
  | step act next, m => run (next m) { m with state := act m }
  | detach _ next, m => run next m
  | wait wake _ next, m =>
    if wake.ready m.state then run next m
    else match wake.due with
      | some t => run next { m with now := max m.now t }
      | none => .stalled m

/-- **One after the other.** -/
theorem run_bind (a : Activity σ α) (f : α → Activity σ β) (m : Moment σ) :
    (a.bind f).run m = (a.run m).andThen fun x m' => (f x).run m' := by
  induction a generalizing m with
  | done _ => rfl
  | crash _ => rfl
  | step act next ih => exact ih m _
  | detach task next ih => exact ih m
  | wait wake leave next ih =>
    simp only [bind, run]
    split
    · exact ih m
    · split
      · exact ih _
      · rfl

end Activity

end ImageImport
