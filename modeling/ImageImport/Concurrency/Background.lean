/-
# Tasks that nobody waits for

An activity can leave a task to itself (`Activity.detach`): whoever started the task has ended and does
not ask for its value any more.  The task goes on where the clock and the shared state let it, and it ends
unnoticed.

What is left behind acts where the activity waits: `attended` puts it there, and yields an activity that
leaves nothing behind.  When both could go on, the task does; several tasks act in the order in which
they were left.  A task does not hold anybody up, and what it has not done when the activity ends is
not done.
-/
import ImageImport.Concurrency.Activity

namespace ImageImport

/-! ## 1. Tasks together -/

namespace Background

variable {σ : Type}

/-- The second task acts while the first one is `held` at a wait; `resume` lets the first one go on. -/
def besideHeld (wake : Wake σ) (held : Background σ) (resume : Background σ → Background σ) :
    Background σ → Background σ
  | ended => held
  | step act next => step act fun m => besideHeld wake held resume (next m)
  | wait wake' next =>
    wait (wake.either wake') <| step (fun m => m.state) fun m =>
      if wake.holds m then resume (wait wake' next) else besideHeld wake held resume next

/-- **Both tasks**, the first one first. -/
def beside : Background σ → Background σ → Background σ
  | ended, t => t
  | step act next, t => step act fun m => beside (next m) t
  | wait wake next, t => besideHeld wake (wait wake next) (fun t' => beside next t') t

end Background

namespace Activity

variable {σ α : Type}

/-- What an activity does when nobody waits for it. -/
def background : Activity σ α → Background σ
  | done _ => .ended
  | crash _ => .ended
  | step act next => .step act fun m => background (next m)
  | detach task next => task.beside (background next)
  | wait wake _ next => .wait wake (background next)

/-! ## 2. An activity with what it leaves behind -/

/-- The tasks act while the activity is held at a wait; `resume` lets it go on with what is left of
them. -/
def attendedHeld (wake : Wake σ) (leave : σ → σ) (resume : Background σ → Activity σ α) :
    Background σ → Activity σ α
  | .ended => wait wake leave (resume .ended)
  | .step act next => step act fun m => attendedHeld wake leave resume (next m)
  | .wait wake' next =>
    wait (wake'.either wake) leave <| step (fun m => m.state) fun m =>
      if wake'.holds m then attendedHeld wake leave resume next else resume (.wait wake' next)

/-- The activity beside tasks that were left before. -/
def attending (tasks : Background σ) : Activity σ α → Activity σ α
  | done a => done a
  | crash why => crash why
  | step act next => step act fun m => attending tasks (next m)
  | detach task next => attending (tasks.beside task) next
  | wait wake leave next => attendedHeld wake leave (fun tasks' => attending tasks' next) tasks

/-- **The activity with the tasks it leaves behind.** -/
def attended (a : Activity σ α) : Activity σ α := attending .ended a

/-- It leaves no task behind. -/
inductive LeavesNothing : Activity σ α → Prop where
  | done (value : α) : LeavesNothing (done value)
  | crash (why : Crash) : LeavesNothing (crash why)
  | step (act : Moment σ → σ) {next : Moment σ → Activity σ α} (h : ∀ m, LeavesNothing (next m)) :
      LeavesNothing (step act next)
  | wait (wake : Wake σ) (leave : σ → σ) {next : Activity σ α} (h : LeavesNothing next) :
      LeavesNothing (wait wake leave next)

end Activity

end ImageImport
