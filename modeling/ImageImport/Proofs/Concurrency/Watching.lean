/-
# Watching

A run ends with a value and a state; what happened on the way it does not say.  Here it is written down:
`Watched υ κ` is a state with a list of dated notes, and `watching` puts a note before an activity and
another one after it, with the value or the crash it ended with.

What is watched acts on a part of the state of its own (`Activity.on`), so nothing that is watched reads or
writes the notes.  That they change nothing is in `Proofs/Concurrency/Forgetting.lean`.
-/
import ImageImport.Cell
import ImageImport.Proofs.Concurrency.Quiet

namespace ImageImport

variable {σ τ υ κ α β : Type}

/-! ## 1. An activity on a part of the state -/

/-- The whole as a part. -/
def Cell.whole : Cell σ σ where
  get s := s
  set t _ := t

/-- The first part of two. -/
def Cell.fst : Cell (σ × τ) σ where
  get s := s.1
  set t s := (t, s.2)

/-- The second part of two. -/
def Cell.snd : Cell (σ × τ) τ where
  get s := s.2
  set t s := (s.1, t)

/-- A task on a part. -/
def Background.on (c : Cell σ τ) : Background τ → Background σ
  | .ended => .ended
  | .step act next =>
    .step (fun m => c.set (act ⟨m.now, c.get m.state⟩) m.state) fun m =>
      (next ⟨m.now, c.get m.state⟩).on c
  | .wait wake next => .wait ⟨fun s => wake.ready (c.get s), wake.due⟩ (next.on c)

/-- **An activity on a part**: it sees nothing else, and changes nothing else. -/
def Activity.on (c : Cell σ τ) : Activity τ α → Activity σ α
  | .done a => .done a
  | .crash why => .crash why
  | .step act next =>
    .step (fun m => c.set (act ⟨m.now, c.get m.state⟩) m.state) fun m =>
      (next ⟨m.now, c.get m.state⟩).on c
  | .detach task next => .detach (task.on c) (next.on c)
  | .wait wake leave next =>
    .wait ⟨fun s => wake.ready (c.get s), wake.due⟩ (c.modify leave) (next.on c)

/-! ## 2. Notes -/

/-- **A state with what has been noted**, each note with its instant. -/
structure Watched (υ κ : Type) where
  state : υ
  seen : List (Nat × κ)

namespace Watched

/-- What is watched. -/
def inside : Cell (Watched υ κ) υ where
  get s := s.state
  set u s := { s with state := u }

/-- A part of what is watched. -/
def part (c : Cell υ τ) : Cell (Watched υ κ) τ := inside.comp c

/-- One more note. -/
def noted (n : κ) (m : Moment (Watched υ κ)) : Watched υ κ :=
  { m.state with seen := m.state.seen ++ [(m.now, n)] }

end Watched

/-- A task on a part does there what the task does. -/
theorem Background.Keeps.on {l : τ → τ → Prop} {left : σ → σ → Prop} {c : Cell σ τ}
    (h : ∀ s t, l (c.get s) t → left s (c.set t s)) {task : Background τ} (hk : task.Keeps l) :
    (task.on c).Keeps left := by
  induction task with
  | ended => trivial
  | step act next ih =>
    exact fun m => ⟨h _ _ (hk ⟨m.now, c.get m.state⟩).1, ih _ (hk ⟨m.now, c.get m.state⟩).2⟩
  | wait wake next ih => exact ih hk

theorem Background.keeps_any (task : Background σ) : task.Keeps fun _ _ => True := by
  induction task with
  | ended => trivial
  | step act next ih => exact fun m => ⟨trivial, ih m⟩
  | wait wake next ih => exact ih

namespace Activity

/-- Make a note. -/
def note (n : κ) : Activity (Watched υ κ) Unit := step (Watched.noted n) fun _ => done ()

/-- Go on with what an activity ended with. -/
def revive : Except Crash α → Activity σ α
  | .ok value => done value
  | .error why => crash why

/-- **A note when it begins, and one when it ends.** -/
def watching (called : κ) (ended : Except Crash α → κ) (a : Activity (Watched υ κ) α) :
    Activity (Watched υ κ) α := do
  note called
  let r ← a.caught
  note (ended r)
  revive r

/-! Where nothing is left behind, nothing is left behind with notes, or on a part. -/

namespace LeavesNothing

theorem bind {a : Activity σ α} {f : α → Activity σ β} (ha : a.LeavesNothing)
    (hf : ∀ x, (f x).LeavesNothing) : (a.bind f).LeavesNothing := by
  induction ha with
  | done x => exact hf x
  | crash why => exact .crash why
  | step act _ ih => exact .step act ih
  | wait wake leave _ ih => exact .wait wake leave ih

theorem caught {a : Activity σ α} (ha : a.LeavesNothing) : a.caught.LeavesNothing := by
  induction ha with
  | done x => exact .done _
  | crash why => exact .done _
  | step act _ ih => exact .step act ih
  | wait wake leave _ ih => exact .wait wake leave ih

theorem on {c : Cell σ τ} {a : Activity τ α} (ha : a.LeavesNothing) : (a.on c).LeavesNothing := by
  induction ha with
  | done x => exact .done x
  | crash why => exact .crash why
  | step act _ ih => exact .step _ fun m => ih ⟨m.now, c.get m.state⟩
  | wait wake leave _ ih => exact .wait _ _ ih

theorem watching {called : κ} {ended : Except Crash α → κ} {a : Activity (Watched υ κ) α}
    (ha : a.LeavesNothing) : (Activity.watching called ended a).LeavesNothing := by
  refine .step _ fun _ => ha.caught.bind fun r => .step _ fun _ => ?_
  cases r with
  | ok value => exact .done value
  | error why => exact .crash why

theorem waitOr (wake : Wake σ) (leave : σ → σ) : (Activity.waitOr wake leave).LeavesNothing := by
  refine .step _ fun m => ?_
  cases wake.holds m with
  | true => exact .done ()
  | false => exact .wait wake leave (.done ())

theorem sleep (ms : Nat) : (Activity.sleep ms : Activity σ Unit).LeavesNothing := .step _ fun _ => .waitOr _ _

end LeavesNothing

/-! ## 3. The terms of what is watched -/

/-- **An activity on a part** does there what the activity does. -/
theorem Always.on {N₀ : τ → τ → Prop} {N : σ → σ → Prop} {K₀ : Background τ → Prop}
    {K : Background σ → Prop} {p : Except Crash α → Prop} {c : Cell σ τ}
    (hN : ∀ s t, N₀ (c.get s) t → N s (c.set t s)) (hK : ∀ task, K₀ task → K (task.on c))
    {a : Activity τ α} (h : a.Always N₀ K₀ p) : (a.on c).Always N K p := by
  induction a with
  | done v => exact h
  | crash why => exact h
  | step act next ih =>
    exact fun m => ⟨hN _ _ (h ⟨m.now, c.get m.state⟩).1, ih _ (h ⟨m.now, c.get m.state⟩).2⟩
  | detach task next ih => exact ⟨hK _ h.1, ih h.2⟩
  | wait wake leave next ih => exact ⟨fun s => hN _ _ (h.1 _), ih h.2⟩

/-- Whatever the activity does, on a part that may be changed it is quiet. -/
theorem quiet_on {N : σ → σ → Prop} {c : Cell σ τ} (hN : ∀ t s, N s (c.set t s)) (a : Activity τ α) :
    (a.on c).Quiet N fun _ => True :=
  (quiet_any a).on (fun s t _ => hN t s) fun task _ => task.keeps_any.on fun s t _ => hN t s

/-- What is known of all ends of an activity is known of all ends of it with notes. -/
theorem Always.watching {p : Except Crash α → Prop} {called : κ} {ended : Except Crash α → κ}
    {a : Activity (Watched υ κ) α} (h : a.EndsAs p) :
    (Activity.watching called ended a).EndsAs p := by
  have hcaught : a.caught.EndsAs fun r => ∃ r', r = .ok r' ∧ p r' :=
    Always.caught (h.mono (fun _ _ h => h) (fun _ h => h) fun {r} hr => ⟨r, rfl, hr⟩)
  have hrest : (a.caught >>= fun r => note (ended r) >>= fun _ => revive r).Always
      (fun _ _ => True) (fun _ => True) p := by
    refine Always.bind hcaught (fun {r} hr => ?_) ?_
    · obtain ⟨_, heq, hr⟩ := hr
      cases heq
      refine fun _ => ⟨trivial, ?_⟩
      cases r with
      | ok value => exact hr
      | error why => exact hr
    · rintro why ⟨_, heq, -⟩
      cases heq
  exact fun _ => ⟨trivial, hrest⟩

variable {T : Terms (Watched υ κ)} {W : Wake (Watched υ κ) → Moment (Watched υ κ) → Prop}
  {Q : Except Crash α → Moment (Watched υ κ) → Prop}

/-- A watched activity, from the note before it to the note after it. -/
theorem Meets.watching {called : κ} {ended : Except Crash α → κ} {a : Activity (Watched υ κ) α}
    {m : Moment (Watched υ κ)} (hc : T.guar m.state (Watched.noted called m))
    (ha : a.Meets T W (fun r m' => T.guar m'.state (Watched.noted (ended r) m') ∧
      Q r { m' with state := Watched.noted (ended r) m' })
      { m with state := Watched.noted called m }) :
    (Activity.watching called ended a).Meets T W Q m := by
  have hrest : (a.caught >>= fun r => note (ended r) >>= fun _ => revive r).Meets T W Q
      { m with state := Watched.noted called m } := by
    refine Meets.bind (Meets.caught (Meets.weaken id (fun {r m'} h => ?_) ha))
    refine ⟨h.1, ?_⟩
    cases r with
    | ok value => exact h.2
    | error why => exact h.2
  exact ⟨hc, hrest⟩

end Activity

end ImageImport
