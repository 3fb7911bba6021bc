/-
# Activities that end in time

`a.Timely ms` says of an activity that it returns no later than `ms` after it has been entered, whoever acts
meanwhile and whatever they do.  It says nothing of an activity that crashes.

Nothing is asked of what is boxed in: a clock that is raced against it runs down on any terms, also on those of
one of whom nothing is known (`unbound`).  Main statements: `timely_waitedFor`, `timely_within`, and
`timely_alongside_within` for a task that makes progress meanwhile.
-/
import ImageImport.Proofs.Concurrency.Places

namespace ImageImport

variable {σ α β : Type}

namespace Activity

/-! ## 1. What is known on two kinds of terms -/

/-- **What an activity promises on terms that rely on less** it promises too. -/
theorem Meets.and {T T' : Terms σ} {W W' : Wake σ → Moment σ → Prop} {Q Q' : Except Crash α → Moment σ → Prop}
    (hrely : ∀ {s t}, T.rely s t → T'.rely s t) (hinv : ∀ {m}, T.inv m → T'.inv m)
    (hturn : ∀ {m}, T.turn m → T'.turn m) {a : Activity σ α} {m : Moment σ} (h : a.Meets T W Q m)
    (h' : a.Meets T' W' Q' m) : a.Meets T (fun w n => W w n ∧ W' w n) (fun r n => Q r n ∧ Q' r n) m := by
  induction a generalizing m with
  | done v => exact ⟨h, h'⟩
  | crash why => exact ⟨h, h'⟩
  | step act next ih => exact ⟨h.1, ih m h.2 h'.2⟩
  | detach task next ih => exact ⟨h.1, ih h.2 h'.2⟩
  | wait wake leave next ih =>
    obtain ⟨hi, hleave, hnext⟩ := h
    refine ⟨hi, hleave, fun n hr hn hs => ?_⟩
    obtain ⟨hw, hgo⟩ := hnext n hr hn hs
    obtain ⟨hw', hgo'⟩ := h'.2.2 n (hrely hr) (hinv hn) hs
    exact ⟨⟨hw, hw'⟩, fun hh ht => ih (hgo hh ht) (hgo' hh (hturn ht))⟩

/-! ## 2. In time -/

/-- It has returned by the instant, if it returns. -/
def EndsBy (t : Nat) (r : Except Crash α) (m : Moment σ) : Prop := ∀ v, r = .ok v → m.now ≤ t

/-- **Ends in time**: it returns no later than `ms` after it has been entered. -/
def Timely (ms : Nat) (a : Activity σ α) : Prop :=
  ∀ m, a.Meets unbound (fun _ _ => True) (EndsBy (m.now + ms)) m

variable {a : Activity σ α} {ms : Nat}

theorem endsBy_error {why : Crash} {t : Nat} {m : Moment σ} : EndsBy t (.error why : Except Crash α) m := by
  intro v h
  cases h

theorem timely_done (v : α) : (done v : Activity σ α).Timely 0 := fun _ _ _ => Nat.le_refl _

theorem timely_update (f : σ → σ) : (update f).Timely 0 := fun _ => ⟨trivial, fun _ _ => Nat.le_refl _⟩

theorem Timely.mono {ms' : Nat} (ha : a.Timely ms) (h : ms ≤ ms') : a.Timely ms' := by
  refine fun m => Meets.weaken id (fun {r n} hin v hv => ?_) (ha m)
  have hn := hin v hv
  omega

/-- **One after the other**: their times add up. -/
theorem Timely.bind {ms' : Nat} {f : α → Activity σ β} (ha : a.Timely ms) (hf : ∀ v, (f v).Timely ms') :
    (a.bind f).Timely (ms + ms') := by
  refine fun m => Meets.bind (Meets.weaken id (fun {r n} h => ?_) (ha m))
  cases r with
  | error why => exact endsBy_error
  | ok v =>
    refine Meets.weaken id (fun {r n'} h' w hw => ?_) (hf v n)
    have hn := h v rfl
    have hn' := h' w hw
    omega

/-- What promises to be in time is in time on other terms as well. -/
theorem Timely.and {T : Terms σ} {W : Wake σ → Moment σ → Prop} {Q : Except Crash α → Moment σ → Prop}
    (ha : a.Timely ms) {m : Moment σ} (h : a.Meets T W Q m) :
    a.Meets T W (fun r n => Q r n ∧ EndsBy (m.now + ms) r n) m :=
  Meets.weaken And.left id (Meets.and (fun _ => trivial) (fun _ => trivial) (fun _ => trivial) h (ha m))

/-! ## 3. Boxed in -/

theorem unbound_split {WA : Wake σ → Moment σ → Prop} : (unbound : Terms σ).Split unbound unbound WA where
  rely_left := id
  rely_right := id
  across_left := id
  across_right := id
  guar_left := id
  guar_right := id
  left_left := id
  left_right := id
  inv_left _ := Iff.rfl
  inv_right _ := Iff.rfl
  turn_left := id
  turn_right ht _ _ := ht

/-- **A clock runs down in time**, and until then it has not. -/
theorem ready_countdown (ms : Nat) (m : Moment σ) :
    (sleep ms : Activity σ Unit).Ready unbound (fun _ n => n.now ≤ m.now + ms)
      (fun r n => r = .ok () ∧ n.now ≤ m.now + ms) m := by
  refine ⟨fun _ => trivial, fun m' _ _ hs => ⟨trivial, trivial, ?_⟩⟩
  have hnow : m'.now = m.now := hs
  rw [← hnow]
  by_cases hh : (⟨fun _ => false, some (m'.now + ms)⟩ : Wake σ).holds m' = true
  · simp only [hh, if_true]
    exact ⟨rfl, Nat.le_add_right _ _⟩
  · simp only [hh]
    refine ⟨trivial, fun _ => ⟨trivial, id⟩, fun m'' _ _ hspan => ?_⟩
    have hdue : m''.now ≤ max m'.now (m'.now + ms) := hspan.due _ rfl
    rw [Nat.max_eq_right (Nat.le_add_right _ _)] at hdue
    exact ⟨hdue, fun _ _ => ⟨rfl, hdue⟩⟩

/-- **A task is waited for in time**, whatever it is. -/
theorem timely_waitedFor (ms : Nat) (a : Activity σ α) : (waitedFor ms a).Timely ms := by
  intro m
  have hrace := Meets.race (Y := fun n : Moment σ => n.now ≤ m.now + ms) unbound_split (fun h _ => h) id id
    (meets_unbound a m) (Nat.le_add_right _ _) (ready_countdown ms m)
  refine Meets.bind (Meets.weaken (fun _ => trivial) (fun {r n} h => ?_) hrace)
  match r, h with
  | .error why, _ => exact endsBy_error
  | .ok (.left value rest), ⟨_, hin, _⟩ => exact fun _ _ => hin
  | .ok (.right rest ()), ⟨⟨_, hin⟩, _⟩ => exact fun _ _ => hin

/-- **What is given up is given up in time.** -/
theorem timely_within (ms : Nat) (a : Activity σ α) : (within ms a).Timely ms := by
  -- giving it up takes no time
  suffices h : (within ms a).Timely (ms + 0) from h
  refine (timely_waitedFor ms a).bind fun left => ?_
  cases left with
  | inl value => exact timely_done _
  | inr rest => exact (timely_update rest.abandon).bind fun _ => timely_done _

/-- It has not begun to wait: its clock starts when it does. -/
theorem within_stays (ms : Nat) (a : Activity σ α) {m m' : Moment σ} (h : (within ms a).Stays m m') :
    m'.now = m.now := by
  cases a with
  | wait wake leave next => exact h
  | _ => exact h

/-- **What is given up in time is so beside a task** that goes on meanwhile. -/
theorem timely_alongside_within (ms : Nat) (task : Activity σ α) (a : Activity σ β) :
    (alongside task (within ms a)).Timely ms := by
  intro m
  have hready : (within ms a).Ready unbound (fun _ _ => True) (EndsBy (m.now + ms)) m := by
    refine ⟨fun _ => trivial, fun m' _ _ hs => ?_⟩
    rw [← within_stays ms a hs]
    exact timely_within ms a m'
  have hrace := Meets.race (Y := fun _ => True) unbound_split (fun _ _ => trivial) (fun _ => trivial) id
    (meets_unbound task m) trivial hready
  refine Meets.bind (Meets.weaken (fun _ => trivial) (fun {r n} h => ?_) hrace)
  match r, h with
  | .error why, _ => exact endsBy_error
  | .ok (.left value rest), ⟨_, _, hrest⟩ =>
    refine Meets.bind (Meets.weaken id (fun {r n'} hin => ?_) (hrest.meets trivial))
    cases r with
    | error why => exact endsBy_error
    | ok x => exact fun _ _ => hin x rfl
  | .ok (.right rest value), ⟨hin, _⟩ => exact fun _ _ => hin value rfl

end Activity

end ImageImport
