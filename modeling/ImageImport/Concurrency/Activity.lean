/-
# Activities

An import does several things at once: it inflates a disk, a shadow inflates a second one, a
deadline runs, a caller may cancel.  They all act on one shared state.  This module holds the
calculus they are written in: an `Activity` is a tree of atomic steps on the shared state and of
waits, so that "what may happen next" is data and not an effect.

The tree is well founded -- every branch ends -- and therefore everything below is structural
recursion: there is no fuel, no scheduler table and no activity that spins for ever.  What the tree
can still do is *stall*: a wait whose condition nobody makes true and that has no instant of its own
(`Concurrency/Run.lean` says so in its result).

Nothing here runs anything.  How two activities share the clock is in `Concurrency/Race.lean`; what
the clock does is in `Concurrency/Run.lean`.
-/

namespace ImageImport

/-! ## 1. Moments and wake conditions -/

/-- **What an activity can look at**: the clock, in milliseconds, and the state shared by everything
that runs. -/
structure Moment (σ : Type) where
  now : Nat
  state : σ

/-- **When a waiting activity may go on**: once `ready` holds of the shared state, or once the clock
has reached the instant `due`, if it has one. -/
structure Wake (σ : Type) where
  ready : σ → Bool
  due : Option Nat

namespace Wake

variable {σ : Type}

/-- The earlier of two instants, either of which may be missing. -/
def earlier : Option Nat → Option Nat → Option Nat
  | some a, some b => some (min a b)
  | some a, none => some a
  | none, b => b

/-- The condition is met at this moment. -/
def holds (w : Wake σ) (m : Moment σ) : Bool :=
  w.ready m.state || w.due.any fun t => decide (t ≤ m.now)

/-- Met as soon as one of the two is. -/
def either (v w : Wake σ) : Wake σ where
  ready s := v.ready s || w.ready s
  due := earlier v.due w.due

theorem earlier_any_le (a b : Option Nat) (n : Nat) :
    (earlier a b).any (fun t => decide (t ≤ n)) =
      (a.any (fun t => decide (t ≤ n)) || b.any (fun t => decide (t ≤ n))) := by
  match a, b with
  | none, _ => exact (Bool.false_or _).symm
  | some _, none => exact (Bool.or_false _).symm
  | some a, some b =>
    simp only [earlier, Option.any_some, ← Bool.decide_or]
    exact decide_eq_decide.mpr (by omega)

/-- **`either` is disjunction.** -/
theorem holds_either (v w : Wake σ) (m : Moment σ) :
    (v.either w).holds m = (v.holds m || w.holds m) := by
  simp only [holds, either, earlier_any_le]
  cases v.ready m.state <;> cases w.ready m.state <;> simp

end Wake

/-! ## 2. The tree -/

/-- **A task that nobody waits for**: it has no value, and it is never given up. -/
inductive Background (σ : Type) where
  | ended
  | step (act : Moment σ → σ) (next : Moment σ → Background σ)
  | wait (wake : Wake σ) (next : Background σ)

/-- An activity that blew up, with the text it blew up with when there is one. -/
structure Crash where
  message : Option String
  deriving DecidableEq, Repr

/-- **An activity on the shared state `σ` that yields an `α`.**

`step act next` replaces the state by `act` of the current moment, atomically, and goes on with
`next` of that same moment (the one *before* the replacement).  `wait wake leave next` lets others
run until `wake` holds; an activity that is given up while it waits there applies `leave`, which
releases what it holds.  `detach task next` leaves a task to itself and goes on at once. -/
inductive Activity (σ α : Type) where
  | done (value : α)
  | crash (why : Crash)
  | step (act : Moment σ → σ) (next : Moment σ → Activity σ α)
  | detach (task : Background σ) (next : Activity σ α)
  | wait (wake : Wake σ) (leave : σ → σ) (next : Activity σ α)

namespace Activity

variable {σ α β : Type}

/-- One activity after the other; a crash of the first is the crash of the whole. -/
def bind : Activity σ α → (α → Activity σ β) → Activity σ β
  | done a, f => f a
  | crash why, _ => crash why
  | step act next, f => step act fun m => bind (next m) f
  | detach task next, f => detach task (bind next f)
  | wait wake leave next, f => wait wake leave (bind next f)

instance : Monad (Activity σ) where
  pure := done
  bind := bind

theorem bind_done (a : Activity σ α) : a.bind done = a := by
  induction a with
  | done _ => rfl
  | crash _ => rfl
  | step act next ih => simp only [bind, step.injEq, true_and]; funext m; exact ih m
  | detach task next ih => simp only [bind, ih]
  | wait wake leave next ih => simp only [bind, ih]

theorem bind_assoc {γ : Type} (a : Activity σ α) (f : α → Activity σ β) (g : β → Activity σ γ) :
    (a.bind f).bind g = a.bind fun x => (f x).bind g := by
  induction a with
  | done _ => rfl
  | crash _ => rfl
  | step act next ih => simp only [bind, step.injEq, true_and]; funext m; exact ih m
  | detach task next ih => simp only [bind, ih]
  | wait wake leave next ih => simp only [bind, ih]

instance : LawfulMonad (Activity σ) :=
  LawfulMonad.mk' (Activity σ) (fun a => bind_done a) (fun _ _ => rfl) (fun a f g => bind_assoc a f g)

/-! ## 3. Single steps -/

/-- The current moment; nothing changes. -/
def moment : Activity σ (Moment σ) := step (fun m => m.state) done

/-- The clock. -/
def clock : Activity σ Nat := step (fun m => m.state) fun m => done m.now

/-- One look at the shared state. -/
def read (f : σ → α) : Activity σ α := step (fun m => m.state) fun m => done (f m.state)

/-- One change of the shared state. -/
def update (f : σ → σ) : Activity σ Unit := step (fun m => f m.state) fun _ => done ()

/-- One change that also yields something of the state before it. -/
def exchange (f : σ → α × σ) : Activity σ α :=
  step (fun m => (f m.state).2) fun m => done (f m.state).1

/-! ## 4. Waits

A wait that is already over does not let others run: sleeping no time, or until an instant gone by,
or for a condition that holds, goes straight on. -/

/-- Go on once `wake` holds; on being given up there, apply `leave`. -/
def waitOr (wake : Wake σ) (leave : σ → σ) : Activity σ Unit :=
  step (fun m => m.state) fun m => if wake.holds m then done () else wait wake leave (done ())

/-- Go on once the state satisfies `ready`. -/
def until_ (ready : σ → Bool) : Activity σ Unit := waitOr ⟨ready, none⟩ id

/-- Go on once the clock has reached `t`. -/
def sleepUntil (t : Nat) : Activity σ Unit := waitOr ⟨fun _ => false, some t⟩ id

/-- Go on after `ms` milliseconds. -/
def sleep (ms : Nat) : Activity σ Unit :=
  step (fun m => m.state) fun m => sleepUntil (m.now + ms)

/-- Go on after `ms` milliseconds, or earlier once the state satisfies `ready`. -/
def sleepUnless (ready : σ → Bool) (ms : Nat) : Activity σ Unit :=
  step (fun m => m.state) fun m => waitOr ⟨ready, some (m.now + ms)⟩ id

/-- **A task of its own**: it does not start before whoever starts it first waits. -/
def spawned (a : Activity σ α) : Activity σ α := wait ⟨fun _ => true, none⟩ id a

/-! ## 5. Crashes and giving up -/

/-- A crash becomes a value. -/
def caught : Activity σ α → Activity σ (Except Crash α)
  | done a => done (.ok a)
  | crash why => done (.error why)
  | step act next => step act fun m => caught (next m)
  | detach task next => detach task (caught next)
  | wait wake leave next => wait wake leave (caught next)

/-- What giving the activity up where it stands does to the shared state. -/
def abandon : Activity σ α → σ → σ
  | wait _ leave _ => leave
  | _ => id

/-- **`release` happens exactly once**, however the activity ends: after its value, after its crash,
or when it is given up. -/
def releasing (release : σ → σ) : Activity σ α → Activity σ α
  | done a => step (fun m => release m.state) fun _ => done a
  | crash why => step (fun m => release m.state) fun _ => crash why
  | step act next => step act fun m => releasing release (next m)
  | detach task next => detach task (releasing release next)
  | wait wake leave next => wait wake (fun s => release (leave s)) (releasing release next)

end Activity

end ImageImport
