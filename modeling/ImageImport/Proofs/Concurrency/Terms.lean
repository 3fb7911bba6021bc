/-
# Activities and the terms they are on

What can be said of an activity that shares its state with others?  Between two of its waits it is alone,
so its steps can be followed one by one; at a wait everybody else acts.  It therefore lives on *terms*: it
relies on what the others do while it waits, and it guarantees something of what it does itself.

`Activity.Meets T W Q` says of an activity and a moment that from there on it keeps to the terms `T`, that
`W` describes every wait it can be found in, and that it ends as `Q` says.  It is defined by recursion on
the tree, one clause for each constructor, so a statement about an activity is proved by following its
text: `Meets.bind` for one thing after the other, and the lemmas of section 4 for single steps.

How two activities that are on terms with each other share the clock is in
`Proofs/Concurrency/Races.lean`; what follows for a run is in `Proofs/Concurrency/Running.lean`.
-/
import ImageImport.Concurrency.Background
import ImageImport.Concurrency.Race

namespace ImageImport

variable {σ α β : Type}

/-! ## 1. The time a wait takes

A wait is looked at whenever the clock has moved or somebody has acted, and the clock never jumps over an
instant at which a wait would be over. -/

/-- **The moments at which a wait that was entered at `m` may be looked at again.** -/
structure Wake.Spans (w : Wake σ) (m m' : Moment σ) : Prop where
  le : m.now ≤ m'.now
  due : ∀ t, w.due = some t → m'.now ≤ max m.now t
  ready : (∀ s, w.ready s = true) → m'.now = m.now

namespace Wake

variable {v w : Wake σ} {m m' m'' : Moment σ}

theorem Spans.instant (w : Wake σ) (m : Moment σ) (s : σ) : w.Spans m { m with state := s } where
  le := Nat.le_refl _
  due _ _ := Nat.le_max_left _ _
  ready _ := rfl

theorem Spans.trans (h : w.Spans m m') (h' : w.Spans m' m'') : w.Spans m m'' where
  le := Nat.le_trans h.le h'.le
  due t ht := by
    have h1 := h.due t ht
    have h2 := h'.due t ht
    omega
  ready hr := (h'.ready hr).trans (h.ready hr)

/-- A wait for either of two takes no longer than the left one. -/
theorem Spans.of_either_left (h : (v.either w).Spans m m') : v.Spans m m' where
  le := h.le
  due t ht := by
    cases hw : w.due with
    | none => exact h.due t (by simp [either, earlier, ht, hw])
    | some u =>
      have hd : (v.either w).due = some (min t u) := by simp [either, earlier, ht, hw]
      have := h.due _ hd
      omega
  ready hr := h.ready fun s => by simp [either, hr s]

/-- ... and no longer than the right one. -/
theorem Spans.of_either_right (h : (v.either w).Spans m m') : w.Spans m m' where
  le := h.le
  due t ht := by
    cases hv : v.due with
    | none => exact h.due t (by simp [either, earlier, ht, hv])
    | some u =>
      have hd : (v.either w).due = some (min u t) := by simp [either, earlier, ht, hv]
      have := h.due _ hd
      omega
  ready hr := h.ready fun s => by simp [either, hr s]

/-- A wait that has an instant of its own has one for either of two. -/
theorem due_either_right (h : w.due.isSome = true) : (v.either w).due.isSome = true := by
  obtain ⟨t, ht⟩ := Option.isSome_iff_exists.mp h
  cases hv : v.due <;> simp [either, earlier, hv, ht]

theorem due_either_left (h : v.due.isSome = true) : (v.either w).due.isSome = true := by
  obtain ⟨t, ht⟩ := Option.isSome_iff_exists.mp h
  cases hw : w.due <;> simp [either, earlier, hw, ht]

end Wake

/-! ## 2. Terms -/

/-- Every step of the task is one of `left`, from whatever state it is made. -/
def Background.Keeps (left : σ → σ → Prop) : Background σ → Prop
  | .ended => True
  | .step act next => ∀ m, left m.state (act m) ∧ (next m).Keeps left
  | .wait _ next => next.Keeps left

/-- **The terms an activity is on.**  While it waits, the state changes only as `rely` says; what it does
itself is one of `guar`, and what the tasks do that it leaves to themselves is one of `left`.  `inv` holds
wherever everybody waits.  `turn` is what the others leave to it: it is never made to go on elsewhere. -/
structure Terms (σ : Type) where
  rely : σ → σ → Prop
  guar : σ → σ → Prop
  left : σ → σ → Prop
  inv : Moment σ → Prop := fun _ => True
  turn : Moment σ → Prop := fun _ => True
  rely_refl : ∀ s, rely s s
  rely_trans : ∀ {s t u}, rely s t → rely t u → rely s u
  guar_refl : ∀ s, guar s s
  guar_trans : ∀ {s t u}, guar s t → guar t u → guar s u
  left_refl : ∀ s, left s s

/-- `T'` promises no more than `T` does and asks for no less. -/
structure Terms.Covers (T' T : Terms σ) : Prop where
  rely : ∀ {s t}, T'.rely s t → T.rely s t
  guar : ∀ {s t}, T.guar s t → T'.guar s t
  left : ∀ {s t}, T.left s t → T'.left s t
  inv : ∀ m, T.inv m ↔ T'.inv m

/-- **What holds stays**, whenever the state changes as `R` says and time passes. -/
def Stable (R : σ → σ → Prop) (X : Moment σ → Prop) : Prop :=
  ∀ {m m' : Moment σ}, X m → R m.state m'.state → m.now ≤ m'.now → X m'

namespace Background

theorem Keeps.mono {l l' : σ → σ → Prop} (h : ∀ {s t}, l s t → l' s t) {task : Background σ}
    (hk : task.Keeps l) : task.Keeps l' := by
  induction task with
  | ended => trivial
  | step act next ih => exact fun m => ⟨h (hk m).1, ih m (hk m).2⟩
  | wait wake next ih => exact ih hk

theorem Keeps.and {l l' : σ → σ → Prop} {task : Background σ} (h : task.Keeps l) (h' : task.Keeps l') :
    task.Keeps fun s t => l s t ∧ l' s t := by
  induction task with
  | ended => trivial
  | step act next ih => exact fun m => ⟨⟨(h m).1, (h' m).1⟩, ih m (h m).2 (h' m).2⟩
  | wait wake next ih => exact ih h h'

/-- Tasks together do what each of them does. -/
theorem Keeps.beside {left : σ → σ → Prop} (hl : ∀ s, left s s) {t u : Background σ}
    (ht : t.Keeps left) (hu : u.Keeps left) : (t.beside u).Keeps left := by
  induction t generalizing u with
  | ended => exact hu
  | step act next ih => exact fun m => ⟨(ht m).1, ih m (ht m).2 hu⟩
  | wait wake next ih =>
    have held : ∀ {u : Background σ}, u.Keeps left →
        (besideHeld wake (.wait wake next) (fun t' => next.beside t') u).Keeps left := by
      intro u hu
      induction u with
      | ended => exact ht
      | step act rest ihu => exact fun m => ⟨(hu m).1, ihu m (hu m).2⟩
      | wait wake' rest ihu =>
        intro m
        refine ⟨hl _, ?_⟩
        show Keeps left (if wake.holds m = true then _ else _)
        split
        · exact ih ht hu
        · exact ihu hu
    exact held hu

end Background

/-! ## 3. Meeting them -/

namespace Activity

variable {T T' : Terms σ} {W W' : Wake σ → Moment σ → Prop}
  {Q Q' : Except Crash α → Moment σ → Prop} {QB : Except Crash β → Moment σ → Prop}

/-- **From this moment on the activity meets its terms**: its steps keep to `T`, `W` holds wherever it
waits and is looked at, and `Q` where it ends, with a value or with a crash.

What it does when it is given up at a wait is one of its steps, and keeps what holds there. -/
def Meets (T : Terms σ) (W : Wake σ → Moment σ → Prop) (Q : Except Crash α → Moment σ → Prop) :
    Activity σ α → Moment σ → Prop
  | done v, m => Q (.ok v) m
  | crash why, m => Q (.error why) m
  | step act next, m =>
    T.guar m.state (act m) ∧ Meets T W Q (next m) { m with state := act m }
  | detach task next, m => task.Keeps T.left ∧ Meets T W Q next m
  | wait wake leave next, m =>
    T.inv m ∧
      (∀ n, T.guar n.state (leave n.state) ∧ (T.inv n → T.inv { n with state := leave n.state })) ∧
        ∀ m', T.rely m.state m'.state → T.inv m' → wake.Spans m m' →
          W wake m' ∧ (wake.holds m' = true → T.turn m' → Meets T W Q next m')

/-- **One after the other.** -/
theorem Meets.bind {a : Activity σ α} {f : α → Activity σ β} {m : Moment σ}
    (h : a.Meets T W (fun r m' => match r with
      | .ok x => (f x).Meets T W QB m'
      | .error why => QB (.error why) m') m) : (a.bind f).Meets T W QB m := by
  induction a generalizing m with
  | done v => exact h
  | crash why => exact h
  | step act next ih => exact ⟨h.1, ih m h.2⟩
  | detach task next ih => exact ⟨h.1, ih h.2⟩
  | wait wake leave next ih =>
    obtain ⟨hinv, hleave, hnext⟩ := h
    refine ⟨hinv, hleave, fun m' hr hi hs => ?_⟩
    obtain ⟨hW, hgo⟩ := hnext m' hr hi hs
    exact ⟨hW, fun hh ht => ih (hgo hh ht)⟩

/-- **Consequence, with a frame.**  What holds at the start and is kept both by the activity and by those
it relies on may be used wherever the terms, the waits and the end are weakened. -/
theorem Meets.mono {X : Moment σ → Prop} (hT : T'.Covers T) (hguar : Stable T.guar X)
    (hrely : Stable T'.rely X) (hturn : ∀ {m}, X m → T'.turn m → T.turn m)
    (hW : ∀ {w m}, X m → W w m → W' w m) (hQ : ∀ {r m}, X m → Q r m → Q' r m)
    {a : Activity σ α} {m : Moment σ} (hX : X m) (h : a.Meets T W Q m) : a.Meets T' W' Q' m := by
  induction a generalizing m with
  | done v => exact hQ hX h
  | crash why => exact hQ hX h
  | step act next ih => exact ⟨hT.guar h.1, ih m (hguar hX h.1 (Nat.le_refl _)) h.2⟩
  | detach task next ih => exact ⟨h.1.mono hT.left, ih hX h.2⟩
  | wait wake leave next ih =>
    obtain ⟨hinv, hleave, hnext⟩ := h
    refine ⟨(hT.inv _).mp hinv, fun n => ⟨hT.guar (hleave n).1, fun hi => ?_⟩, fun m' hr hi hs => ?_⟩
    · exact (hT.inv _).mp ((hleave n).2 ((hT.inv _).mpr hi))
    · obtain ⟨hw, hgo⟩ := hnext m' (hT.rely hr) ((hT.inv _).mpr hi) hs
      have hX' := hrely hX hr hs.le
      exact ⟨hW hX' hw, fun hh ht => ih hX' (hgo hh (hturn hX' ht))⟩

/-- Consequence for the waits and the end alone. -/
theorem Meets.weaken {a : Activity σ α} {m : Moment σ} (hW : ∀ {w m}, W w m → W' w m)
    (hQ : ∀ {r m}, Q r m → Q' r m) (h : a.Meets T W Q m) : a.Meets T W' Q' m := by
  have hT : T.Covers T := ⟨id, id, id, fun _ => Iff.rfl⟩
  have hX : ∀ R, Stable R fun _ : Moment σ => True := fun _ _ _ _ _ _ => trivial
  exact Meets.mono hT (hX _) (hX _) (fun _ => id) (fun _ => hW) (fun _ => hQ) trivial h

/-- A crash becomes a value. -/
theorem Meets.caught {Q : Except Crash (Except Crash α) → Moment σ → Prop} {a : Activity σ α}
    {m : Moment σ} (h : a.Meets T W (fun r => Q (.ok r)) m) : a.caught.Meets T W Q m := by
  induction a generalizing m with
  | done v => exact h
  | crash why => exact h
  | step act next ih => exact ⟨h.1, ih m h.2⟩
  | detach task next ih => exact ⟨h.1, ih h.2⟩
  | wait wake leave next ih =>
    obtain ⟨hinv, hleave, hnext⟩ := h
    refine ⟨hinv, hleave, fun m' hr hi hs => ?_⟩
    obtain ⟨hW, hgo⟩ := hnext m' hr hi hs
    exact ⟨hW, fun hh ht => ih (hgo hh ht)⟩

/-! ## 4. Single steps -/

theorem Meets.pure {v : α} {m : Moment σ} (h : Q (.ok v) m) :
    (Pure.pure v : Activity σ α).Meets T W Q m := h

theorem Meets.clock_bind {f : Nat → Activity σ β} {m : Moment σ} (h : (f m.now).Meets T W QB m) :
    (clock >>= f).Meets T W QB m := ⟨T.guar_refl _, h⟩

theorem Meets.read_bind {g : σ → α} {f : α → Activity σ β} {m : Moment σ}
    (h : (f (g m.state)).Meets T W QB m) : (read g >>= f).Meets T W QB m := ⟨T.guar_refl _, h⟩

theorem Meets.update_bind {g : σ → σ} {f : Unit → Activity σ β} {m : Moment σ}
    (hg : T.guar m.state (g m.state)) (h : (f ()).Meets T W QB { m with state := g m.state }) :
    (update g >>= f).Meets T W QB m := ⟨hg, h⟩

/-- A wait that is over goes straight on; one that is not is found at `wake`, until it is. -/
theorem Meets.waitOr_bind {wake : Wake σ} {f : Unit → Activity σ β} {m : Moment σ} (hi : T.inv m)
    (hW : ∀ {m'}, T.rely m.state m'.state → T.inv m' → wake.Spans m m' → wake.holds m = false →
      W wake m')
    (h : ∀ {m'}, T.rely m.state m'.state → T.inv m' → wake.Spans m m' → wake.holds m' = true →
      (f ()).Meets T W QB m') : (waitOr wake id >>= f).Meets T W QB m := by
  refine ⟨T.guar_refl _, ?_⟩
  show Meets T W QB (Activity.bind (if wake.holds m = true then done () else _) f) m
  split
  next hh => exact h (T.rely_refl _) hi (Wake.Spans.instant wake m m.state) hh
  next hh =>
    refine ⟨hi, fun n => ⟨T.guar_refl _, id⟩, fun m' hr hi' hs => ⟨hW hr hi' hs (by simpa using hh), ?_⟩⟩
    exact fun hh' _ => h hr hi' hs hh'

end Activity

end ImageImport
