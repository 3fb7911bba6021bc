/-
# Races

Two activities share the clock by being *raced*: each runs until it waits, a wait of the pair is over
as soon as one of the two waits is, and the race ends when one of the two does.  The winner's value
comes with what is left of the other, so that a race decides nothing about the loser: it may be
continued (`alongside`, `leading`, `both`) or given up (`within`).

The pair is itself an `Activity`, so an interleaving is one tree, and a statement about the tree is
a statement about the interleaving.

Two rules fix the order in which the pair acts.  The left one starts first.  Afterwards, when both
could go on, the left one does.  A task that somebody starts is marked `spawned`: it does not act before
its starter waits, on whichever side it stands.  On the left (`alongside`) what it has done is seen
before its starter goes on; on the right (`leading`) its starter goes on first.
-/
import ImageImport.Concurrency.Activity

namespace ImageImport

/-- How a race ended: whose value it is, and what is left of the other. -/
inductive Race (σ α β : Type) where
  | left (value : α) (rest : Activity σ β)
  | right (rest : Activity σ α) (value : β)

namespace Activity

variable {σ α β : Type}

/-! ## 1. The race -/

/-- The right one acts while the left one is `held` at a wait; `resume` lets the left one go on. -/
def raceHeld (wake : Wake σ) (leave : σ → σ) (held : Activity σ α)
    (resume : Activity σ β → Activity σ (Race σ α β)) :
    Activity σ β → Activity σ (Race σ α β)
  | done b => done (.right held b)
  | crash why => step (fun m => leave m.state) fun _ => crash why
  | step act next => step act fun m => raceHeld wake leave held resume (next m)
  | detach task next => detach task (raceHeld wake leave held resume next)
  | wait wake' leave' next =>
    wait (wake.either wake') (fun s => leave' (leave s)) <| step (fun m => m.state) fun m =>
      if wake.holds m then resume (wait wake' leave' next)
      else raceHeld wake leave held resume next

/-- **Both run until one of them ends.**  If one crashes, the other is given up and the pair
crashes. -/
def race : Activity σ α → Activity σ β → Activity σ (Race σ α β)
  | done a, b => done (.left a b)
  | crash why, b => step (fun m => b.abandon m.state) fun _ => crash why
  | step act next, b => step act fun m => race (next m) b
  | detach task next, b => detach task (race next b)
  | wait wake leave next, b =>
    raceHeld wake leave (wait wake leave next) (fun b' => race next b') b

/-! ## 2. Ways to go on -/

/-- **Run to the end while a task makes progress beside it.**  Yields what is left of the task. -/
def alongside (task : Activity σ α) (a : Activity σ β) : Activity σ (Activity σ α × β) := do
  match ← race task a with
  | .left value rest => return (done value, ← rest)
  | .right rest value => return (rest, value)

/-- **Run to the end with a task behind it**, which makes progress where the first one waits.  Yields
what is left of the task. -/
def leading (a : Activity σ β) (task : Activity σ α) : Activity σ (Activity σ α × β) := do
  match ← race a task with
  | .left value rest => return (rest, value)
  | .right rest value => return (done value, ← rest)

/-- An activity that has not begun: given up before it does, it has nothing to release. -/
def begun (a : Activity σ α) : Activity σ α := step (fun m => m.state) fun _ => a

/-- Both to the end. -/
def both (a : Activity σ α) (b : Activity σ β) : Activity σ (α × β) := do
  match ← race a b.begun with
  | .left value rest => return (value, ← rest)
  | .right rest value => return (← rest, value)

/-- A task, waited for no longer than `ms`: its value, or what is left of it. -/
def waitedFor (ms : Nat) (task : Activity σ α) : Activity σ (α ⊕ Activity σ α) := do
  match ← race task (sleep ms) with
  | .left value _ => return .inl value
  | .right rest () => return .inr rest

/-- **As far as an activity gets at once**: what is left of it at the first wait that is not over. -/
def settle : Activity σ α → Activity σ (Activity σ α)
  | done a => done (done a)
  | crash why => done (crash why)
  | step act next => step act fun m => settle (next m)
  | detach task next => detach task (settle next)
  | wait wake leave next => step (fun m => m.state) fun m =>
    if wake.holds m then settle next else done (wait wake leave next)

/-- An activity that is given up after `ms`. -/
def within (ms : Nat) (a : Activity σ α) : Activity σ (Option α) := do
  match ← waitedFor ms a with
  | .inl value => return some value
  | .inr rest =>
    update rest.abandon
    return none

end Activity

end ImageImport
