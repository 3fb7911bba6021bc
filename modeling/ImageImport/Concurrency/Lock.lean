/-
# A fair lock

Whoever wants the lock draws a ticket and joins the queue; the head of the queue holds the lock.
Leaving the queue is the same act for the holder, for one that waits and for one that gives up
waiting, so a lock is never lost when an activity is abandoned: `holding` leaves exactly once,
wherever the activity under it ends.
-/
import ImageImport.Cell
import ImageImport.Concurrency.Activity

namespace ImageImport

/-- The tickets in order of arrival, and the next one to be drawn. -/
structure Lock where
  queue : List Nat
  fresh : Nat
  deriving DecidableEq, Repr

namespace Lock

/-- Nobody holds it. -/
def free : Lock := ⟨[], 0⟩

/-- Draw a ticket and join the queue. -/
def join (l : Lock) : Nat × Lock := (l.fresh, ⟨l.queue ++ [l.fresh], l.fresh + 1⟩)

/-- Take a ticket out of the queue. -/
def leave (ticket : Nat) (l : Lock) : Lock := { l with queue := l.queue.erase ticket }

/-- The ticket is at the head. -/
def isHeldBy (l : Lock) (ticket : Nat) : Bool := l.queue.head? == some ticket

end Lock

namespace Activity

variable {σ α : Type}

/-- **Run `body` while holding the lock.**  The ticket leaves the queue when the body ends, crashes
or is given up, and also when the wait for the lock is given up. -/
def holding (lock : Cell σ Lock) (body : Activity σ α) : Activity σ α := do
  let ticket ← exchange fun s => ((lock.get s).join.1, lock.set (lock.get s).join.2 s)
  releasing (lock.modify (Lock.leave ticket)) do
    until_ fun s => (lock.get s).isHeldBy ticket
    body

end Activity

end ImageImport
