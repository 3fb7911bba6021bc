/-
# What giving up does

An activity that is given up where it waits makes one more change, the one its wait says, and is never heard
of again.  `Releases N p` says of the whole tree that each such change is one of `N`; of its steps it says
nothing, so it is true of an activity that does a lot, if only it is given up without a trace.

So what was known of an activity at its last wait is known after it has been given up there
(`Meets.within_rest`).  The waits of a race that is bounded by a clock are timed here as well: whoever is left
when the clock has run down has been waited for as long as that (`Meets.waitedFor_rest`).
-/
import ImageImport.Concurrency.Lock
import ImageImport.Proofs.Concurrency.TermsOfNotes

namespace ImageImport

variable {σ α β : Type}

namespace Activity

/-! ## 1. The predicate -/

/-- **Every release is one of `N`**, and every end is as `p` says. -/
def Releases (N : σ → σ → Prop) (p : Except Crash α → Prop) : Activity σ α → Prop
  | done v => p (.ok v)
  | crash why => p (.error why)
  | step _ next => ∀ m, (next m).Releases N p
  | detach _ next => next.Releases N p
  | wait _ leave next => (∀ s, N s (leave s)) ∧ next.Releases N p

variable {N : σ → σ → Prop} {p p' : Except Crash α → Prop} {q : Except Crash β → Prop}
  {a : Activity σ α} {b : Activity σ β}

theorem Releases.mono (hp : ∀ {r}, p r → p' r) (h : a.Releases N p) : a.Releases N p' := by
  induction a with
  | done v => exact hp h
  | crash why => exact hp h
  | step act next ih => exact fun m => ih m (h m)
  | detach task next ih => exact ih h
  | wait wake leave next ih => exact ⟨h.1, ih h.2⟩

/-- What is known of all steps and releases is known of the releases. -/
theorem Always.releases {K : Background σ → Prop} (h : a.Always N K p) : a.Releases N p := by
  induction a with
  | done v => exact h
  | crash why => exact h
  | step act next ih => exact fun m => ih m (h m).2
  | detach task next ih => exact ih h.2
  | wait wake leave next ih => exact ⟨h.1, ih h.2⟩

theorem Releases.bind {f : α → Activity σ β} (ha : a.Releases N p)
    (hf : ∀ {v}, p (.ok v) → (f v).Releases N q) (hcrash : ∀ {why}, p (.error why) → q (.error why)) :
    (a.bind f).Releases N q := by
  induction a with
  | done v => exact hf ha
  | crash why => exact hcrash ha
  | step act next ih => exact fun m => ih m (ha m)
  | detach task next ih => exact ih ha
  | wait wake leave next ih => exact ⟨ha.1, ih ha.2⟩

theorem Releases.caught {q : Except Crash (Except Crash α) → Prop} (h : a.Releases N fun r => q (.ok r)) :
    a.caught.Releases N q := by
  induction a with
  | done v => exact h
  | crash why => exact h
  | step act next ih => exact fun m => ih m (h m)
  | detach task next ih => exact ih h
  | wait wake leave next ih => exact ⟨h.1, ih h.2⟩

theorem Releases.spawned (hN : ∀ s, N s s) (h : a.Releases N p) : (spawned a).Releases N p := ⟨hN, h⟩

/-- What is released in any case is released after what the activity releases. -/
theorem Releases.releasing {release : σ → σ} (htrans : ∀ s t u, N s t → N t u → N s u)
    (hrelease : ∀ s, N s (release s)) (h : a.Releases N p) : (releasing release a).Releases N p := by
  induction a with
  | done v => exact fun _ => h
  | crash why => exact fun _ => h
  | step act next ih => exact fun m => ih m (h m)
  | detach task next ih => exact ih h
  | wait wake leave next ih => exact ⟨fun s => htrans _ _ _ (h.1 s) (hrelease _), ih h.2⟩

theorem Releases.abandon (hN : ∀ s, N s s) (h : a.Releases N p) (s : σ) : N s (a.abandon s) := by
  cases a with
  | wait wake leave next => exact h.1 s
  | _ => exact hN s

/-! ## 2. Races -/

/-- How a race of the two ends. -/
def Race.Leaving (N : σ → σ → Prop) (p : Except Crash α → Prop) (q : Except Crash β → Prop) :
    Except Crash (Race σ α β) → Prop
  | .ok (.left value rest) => p (.ok value) ∧ rest.Releases N q
  | .ok (.right rest value) => q (.ok value) ∧ rest.Releases N p
  | .error why => p (.error why) ∨ q (.error why)

theorem Releases.raceHeld (htrans : ∀ s t u, N s t → N t u → N s u) {wake : Wake σ} {leave : σ → σ}
    {next : Activity σ α} {resume : Activity σ β → Activity σ (Race σ α β)}
    (hheld : (wait wake leave next).Releases N p)
    (hresume : ∀ {b}, b.Releases N q → (resume b).Releases N (Race.Leaving N p q))
    (hb : b.Releases N q) :
    (raceHeld wake leave (wait wake leave next) resume b).Releases N (Race.Leaving N p q) := by
  induction b with
  | done v => exact ⟨hb, hheld⟩
  | crash why => exact fun _ => .inr hb
  | step act rest ih => exact fun m => ih m (hb m)
  | detach task rest ih => exact ih hb
  | wait wake' leave' rest ih =>
    refine ⟨fun s => htrans _ _ _ (hheld.1 s) (hb.1 _), fun m => ?_⟩
    show Releases N _ (if wake.holds m = true then _ else _)
    split
    · exact hresume hb
    · exact ih hb.2

/-- **A race releases what the two of it release**, and so does what is left of it. -/
theorem Releases.race (htrans : ∀ s t u, N s t → N t u → N s u) (ha : a.Releases N p) (hb : b.Releases N q) :
    (Activity.race a b).Releases N (Race.Leaving N p q) := by
  induction a generalizing b with
  | done v => exact ⟨ha, hb⟩
  | crash why => exact fun _ => .inl ha
  | step act next ih => exact fun m => ih m (ha m) hb
  | detach task next ih => exact ih ha hb
  | wait wake leave next ih => exact Releases.raceHeld htrans ha (ih ha.2) hb

theorem releases_sleep (hN : ∀ s, N s s) (ms : Nat) :
    (sleep ms : Activity σ Unit).Releases N fun r => r = .ok () :=
  (always_sleep (K := fun _ => True) (q := fun r => r = .ok ()) hN rfl ms).releases

/-- An activity that is given up in time. -/
theorem Releases.within (hN : ∀ s, N s s) (htrans : ∀ s t u, N s t → N t u → N s u) (ms : Nat)
    (hp : ∀ {why}, ¬ p (.error why)) (h : a.Releases N p) :
    (Activity.within ms a).Releases N fun r => ∃ v, r = .ok v := by
  refine Releases.bind (p := fun r => ∃ x, r = .ok x) ?_ (fun {x} _ => ?_) fun ⟨_, hx⟩ => nomatch hx
  · refine (Releases.race htrans h (releases_sleep hN ms)).bind (fun {r} _ => ?_) fun {why} hr => ?_
    · cases r with
      | left value rest => exact ⟨_, rfl⟩
      | right rest u => exact ⟨_, rfl⟩
    · rcases hr with hr | hr
      · exact absurd hr hp
      · cases hr
  · cases x with
    | inl value => exact ⟨_, rfl⟩
    | inr rest => exact fun _ => ⟨_, rfl⟩

/-- **What is released in any case**, on terms that allow it. -/
theorem Meets.releasing {T : Terms σ} {W : Wake σ → Moment σ → Prop} {Q : Except Crash α → Moment σ → Prop}
    {release : σ → σ} (hrelease : ∀ s, T.guar s (release s))
    (hinv : ∀ n, T.inv n → T.inv { n with state := release n.state }) {m : Moment σ}
    (ha : a.Meets T W (fun r m' => Q r { m' with state := release m'.state }) m) :
    (Activity.releasing release a).Meets T W Q m := by
  induction a generalizing m with
  | done v => exact ⟨hrelease _, ha⟩
  | crash why => exact ⟨hrelease _, ha⟩
  | step act next ih => exact ⟨ha.1, ih m ha.2⟩
  | detach task next ih => exact ⟨ha.1, ih ha.2⟩
  | wait wake leave next ih =>
    obtain ⟨hi, hleave, hnext⟩ := ha
    refine ⟨hi, fun n => ⟨T.guar_trans (hleave n).1 (hrelease _), fun h => hinv _ ((hleave n).2 h)⟩, ?_⟩
    intro m' hr hi' hs
    obtain ⟨hW, hgo⟩ := hnext m' hr hi' hs
    exact ⟨hW, fun hh ht => ih (hgo hh ht)⟩

/-- What is known of all ends is known of the one that is reached. -/
theorem Meets.and_releases {T : Terms σ} {W : Wake σ → Moment σ → Prop} {Q : Except Crash α → Moment σ → Prop}
    (h : a.Releases N p) {m : Moment σ} (ha : a.Meets T W Q m) : a.Meets T W (fun r m' => Q r m' ∧ p r) m := by
  induction a generalizing m with
  | done v => exact ⟨ha, h⟩
  | crash why => exact ⟨ha, h⟩
  | step act next ih => exact ⟨ha.1, ih m (h m) ha.2⟩
  | detach task next ih => exact ⟨ha.1, ih h ha.2⟩
  | wait wake leave next ih =>
    obtain ⟨hinv, hleave, hnext⟩ := ha
    refine ⟨hinv, hleave, fun m' hr hi hs => ?_⟩
    obtain ⟨hW, hgo⟩ := hnext m' hr hi hs
    exact ⟨hW, fun hh ht => ih h.2 (hgo hh ht)⟩

/-- Time does not go back. -/
theorem Meets.and_later {T : Terms σ} {W : Wake σ → Moment σ → Prop} {Q : Except Crash α → Moment σ → Prop}
    {m : Moment σ} (ha : a.Meets T W Q m) : a.Meets T W (fun r m' => m.now ≤ m'.now ∧ Q r m') m :=
  have hstays : ∀ R, Stable R fun m' : Moment σ => m.now ≤ m'.now := fun _ _ _ h _ hle => Nat.le_trans h hle
  Meets.mono (X := fun m' => m.now ≤ m'.now) ⟨id, id, id, fun _ => Iff.rfl⟩ (hstays _) (hstays _)
    (fun _ => id) (fun _ => id) (fun hx hq => ⟨hx, hq⟩) (Nat.le_refl _) ha

end Activity

/-! ## 3. What is left of one that was waited for -/

namespace Activity

variable {υ κ ρ : Type} {slot : υ → ρ} {T : Terms (Watched υ κ)}
  {W : Wake (Watched υ κ) → Moment (Watched υ κ) → Prop} {Q : Except Crash α → Moment (Watched υ κ) → Prop}
  {p : Except Crash α → Prop} {q : Except Crash β → Prop} {m : Moment (Watched υ κ)}

theorem Unnoted.all_trans (slot : υ → ρ) (s t u : Watched υ κ) (h : Unnoted slot s t) (h' : Unnoted slot t u) :
    Unnoted slot s u := h.trans h'

/-- **What is left of an activity**: it is at a wait and can go on, and giving it up writes nothing. -/
structure Left (slot : υ → ρ) (T : Terms (Watched υ κ))
    (W : Wake (Watched υ κ) → Moment (Watched υ κ) → Prop) (Q : Except Crash α → Moment (Watched υ κ) → Prop)
    (p : Except Crash α → Prop) (rest : Activity (Watched υ κ) α) (m : Moment (Watched υ κ)) : Prop where
  waits : ∃ wake leave next, rest = wait wake leave next
  ready : rest.Ready T W Q m
  releases : rest.Releases (Unnoted slot) p

/-- A clock that has run down. -/
theorem ready_clock (slot : υ → ρ) (ms : Nat) :
    (sleep ms : Activity (Watched υ κ) Unit).Ready (Terms.aside slot) (fun _ _ => True)
      (fun r m' => r = .ok () ∧ m.now + ms ≤ m'.now) m := by
  refine ⟨fun s => (Terms.aside slot).guar_refl s, fun m' _ _ hs => ⟨⟨rfl, rfl⟩, ⟨rfl, rfl⟩, ?_⟩⟩
  have hnow : m'.now = m.now := hs
  show Meets _ _ _ (if Wake.holds _ _ = true then _ else _) _
  split
  next hh =>
    have hle : m'.now + ms ≤ m'.now := by simpa [Wake.holds] using hh
    exact ⟨rfl, hnow ▸ hle⟩
  next =>
    refine ⟨trivial, fun n => ⟨⟨rfl, rfl⟩, id⟩, fun m'' _ _ _ => ⟨trivial, fun hh _ => ⟨rfl, ?_⟩⟩⟩
    have hle : m'.now + ms ≤ m''.now := by simpa [Wake.holds] using hh
    exact hnow ▸ hle

/-- **Waited for no longer than the clock allows**: what is left has been waited for as long as that. -/
theorem Meets.waitedFor_rest (hT : T.Allows slot) (hW : ∀ {u v m}, W u m → W (u.either v) m)
    (hQ : ∀ {why m}, ¬ Q (.error why) m) (ms : Nat) {a : Activity (Watched υ κ) α} (ha : a.Meets T W Q m)
    (hr : a.Releases (Unnoted slot) p) :
    (Activity.waitedFor ms a).Meets T W (fun r m' => match r with
      | .ok (Sum.inl value) => Q (.ok value) m' ∧ p (.ok value)
      | .ok (Sum.inr rest) => m.now + ms ≤ m'.now ∧ Left slot T W Q p rest m'
      | .error _ => False) m := by
  have hrace := Meets.race (Y := fun _ => True) hT.split_right (fun _ _ => trivial) (fun _ => trivial) id
    ha trivial (ready_clock slot ms)
  have hboth := hrace.and_releases (Releases.race (Unnoted.all_trans slot) hr (releases_sleep (fun _ => ⟨rfl, rfl⟩) ms))
  refine Meets.bind (Meets.weaken (fun {w m'} h => ?_) (fun {r m'} h => ?_) hboth)
  · obtain ⟨u, v, rfl, hu, -⟩ := h
    exact hW hu
  · match r, h with
    | .ok (.left value rest), ⟨⟨hq, _⟩, hp, _⟩ => exact ⟨hq, hp⟩
    | .ok (.right rest ()), ⟨⟨⟨_, hle⟩, hwait, hready⟩, _, hrest⟩ => exact ⟨hle, hwait, hready, hrest⟩
    | .error why, ⟨⟨s, .inl ⟨hq, _⟩⟩, _⟩ => exact absurd hq hQ
    | .error why, ⟨⟨s, .inr ⟨⟨hq, _⟩, _⟩⟩, _⟩ => cases hq

/-- **Given up when the clock has run down**: something is known of the wait where that happened, and nothing
was written there. -/
theorem Meets.within_rest (hT : T.Allows slot) (hW : ∀ {u v m}, W u m → W (u.either v) m)
    (hQ : ∀ {why m}, ¬ Q (.error why) m) (ms : Nat) {a : Activity (Watched υ κ) α} (ha : a.Meets T W Q m)
    (hr : a.Releases (Unnoted slot) p) :
    (Activity.within ms a).Meets T W (fun r m' => match r with
      | .ok (some value) => Q (.ok value) m'
      | .ok none => m.now + ms ≤ m'.now ∧ ∃ w s, W w { m' with state := s } ∧ Unnoted slot s m'.state
      | .error _ => False) m := by
  refine Meets.bind (Meets.weaken id (fun {r m'} h => ?_) (ha.waitedFor_rest hT hW hQ ms hr))
  match r, h with
  | .ok (.inl value), ⟨hq, _⟩ => exact hq
  | .ok (.inr rest), ⟨hle, ⟨wake, leave, next, hwait⟩, hready, hrest⟩ =>
    subst hwait
    exact ⟨hready.1 _, hle, wake, m'.state, (hready.look (hT.inv m')).1, hrest.1 _⟩

/-- **Beside one that writes nothing and may crash**, a task goes on, and what is left of it can go on after that.
`W₁` is what is known of the waits meanwhile. -/
theorem Meets.alongside_blown {W₁ : Wake (Watched υ κ) → Moment (Watched υ κ) → Prop} (hT : T.Allows slot)
    (hW : ∀ {u v m}, W u m → W₁ (u.either v) m) (hW' : ∀ {v m r}, Q (.ok r) m → W₁ v m)
    (hQ : ∀ {why m}, ¬ Q (.error why) m)
    (hstays : ∀ {r}, Stable (Unnoted slot) (Q r) ∧ Stable T.rely (Q r))
    {task : Activity (Watched υ κ) α} {a : Activity (Watched υ κ) β} (ht : task.Meets T W Q m)
    (hr : task.Releases (Unnoted slot) p) (ha : a.Quiet (Unnoted slot) q) :
    (Activity.alongside task a).Meets T W₁ (fun r m' => match r with
      | .ok (rest, _) => rest.Meets T W Q m' ∧ rest.Releases (Unnoted slot) p
      | .error why => q (.error why)) m := by
  have hrace := Meets.race (Y := fun _ => True) hT.split_right (fun _ _ => trivial) (fun _ => trivial) id
    ht trivial ha.ready_aside
  have hleaving := hrace.and_releases (Releases.race (Unnoted.all_trans slot) hr ha.releases)
  have hboth := hleaving.and_always (Always.race_right (fun _ => ⟨rfl, rfl⟩) task ha)
  refine Meets.bind (Meets.weaken (fun {w m'} h => ?_) (fun {r m'} h => ?_) hboth)
  · obtain ⟨u, v, rfl, hu, -⟩ := h
    exact hW hu
  · match r, h with
    | .ok (.left value rest), ⟨⟨⟨hv, _⟩, hp, _⟩, _, hrest⟩ =>
      -- the task has ended, and the other one goes on
      refine Meets.bind (Quiet.meets_unnoted hT hstays.1 hstays.2 hW' (fun {r m''} hx hr => ?_) hrest hv)
      cases r with
      | ok x => exact ⟨hx, hp⟩
      | error why => exact hr
    | .ok (.right rest value), ⟨⟨⟨_, _, hready⟩, _, hrest⟩, _⟩ => exact ⟨hready.meets (hT.inv m'), hrest⟩
    | .error why, ⟨⟨⟨s, .inl ⟨hv, _⟩⟩, _⟩, _⟩ => exact absurd hv hQ
    | .error why, ⟨⟨⟨s, .inr ⟨hv, _⟩⟩, _⟩, _⟩ => exact hv

/-- **Beside one that writes nothing**, a task goes on, and what is left of it can go on after that. -/
theorem Meets.alongside_rest (hT : T.Allows slot) (hW : ∀ {u v m}, W u m → W (u.either v) m)
    (hW' : ∀ {v m r}, Q (.ok r) m → W v m) (hQ : ∀ {why m}, ¬ Q (.error why) m)
    (hstays : ∀ {r}, Stable (Unnoted slot) (Q r) ∧ Stable T.rely (Q r)) (hq : ∀ {why}, ¬ q (.error why))
    {task : Activity (Watched υ κ) α} {a : Activity (Watched υ κ) β} (ht : task.Meets T W Q m)
    (hr : task.Releases (Unnoted slot) p) (ha : a.Quiet (Unnoted slot) q) :
    (Activity.alongside task a).Meets T W (fun r m' => match r with
      | .ok (rest, _) => rest.Meets T W Q m' ∧ rest.Releases (Unnoted slot) p
      | .error _ => False) m := by
  refine Meets.weaken id (fun {r m'} h => ?_) (Meets.alongside_blown hT hW hW' hQ hstays ht hr ha)
  match r, h with
  | .ok (rest, _), h => exact h
  | .error why, h => exact hq h

/-- **With a lock**: what is known before it is asked for is known when it is held, if nobody changes it who
writes nothing. -/
theorem Meets.holding (hT : T.Allows slot) {lock : Cell (Watched υ κ) Lock}
    (hlock : ∀ l s, Unnoted slot s (lock.set l s)) {X : Moment (Watched υ κ) → Prop}
    (hset : Stable (Unnoted slot) X) (hrely : Stable T.rely X) (hW : ∀ {w m}, X m → W w m)
    (hQ : ∀ {r}, Stable (Unnoted slot) (Q r)) {a : Activity (Watched υ κ) α} (hX : X m)
    (ha : ∀ {m'}, X m' → a.Meets T W Q m') : (Activity.holding lock a).Meets T W Q m := by
  have hjoined : Unnoted slot m.state (lock.set (lock.get m.state).join.2 m.state) := hlock _ _
  let m₁ : Moment (Watched υ κ) := ⟨m.now, lock.set (lock.get m.state).join.2 m.state⟩
  have hX₁ : X m₁ := hset hX hjoined (Nat.le_refl _)
  refine ⟨hT.guar hjoined, Meets.releasing (m := m₁) (fun s => hT.guar (hlock _ s)) (fun n _ => hT.inv _) ?_⟩
  refine Meets.waitOr_bind (m := m₁) (hT.inv _) (fun hr _ hs _ => hW (hrely hX₁ hr hs.le)) fun hr _ hs _ => ?_
  exact Meets.weaken id (fun hq => hQ hq (hlock _ _) (Nat.le_refl _)) (ha (hrely hX₁ hr hs.le))

/-- Being given up with a lock, or before it, writes nothing. -/
theorem Releases.holding {lock : Cell (Watched υ κ) Lock} (hlock : ∀ l s, Unnoted slot s (lock.set l s))
    {a : Activity (Watched υ κ) α} (ha : a.Releases (Unnoted slot) p) :
    (Activity.holding lock a).Releases (Unnoted slot) p := by
  have huntil : ∀ ready, (until_ ready : Activity (Watched υ κ) Unit).Releases (Unnoted slot) fun r => r = .ok () :=
    fun ready => (always_waitOr (N := Unnoted slot) (K := fun _ => True) (q := fun r => r = .ok ())
      (fun _ => ⟨rfl, rfl⟩) rfl _).releases
  exact fun _ => Releases.releasing (Unnoted.all_trans slot) (fun s => hlock _ s)
    ((huntil _).bind (fun _ => ha) fun h => nomatch h)

end Activity

/-! ## 4. One with a task behind it -/

namespace Activity

variable {P A B : Terms σ} {WA WB : Wake σ → Moment σ → Prop} {QA : Except Crash α → Moment σ → Prop}
  {QB : Except Crash β → Moment σ → Prop} {N : σ → σ → Prop} {p : Except Crash α → Prop}
  {q : Except Crash β → Prop} {m : Moment σ}

/-- **With a task behind it**, where everybody may act at any time: what is left of the task can go on. -/
theorem Meets.leading_rest (hs : P.Split A B WA) (hinv : ∀ m, P.inv m) (hturn : ∀ {m}, P.turn m → A.turn m)
    (htrans : ∀ s t u, N s t → N t u → N s u) (hQA : ∀ {why m}, ¬ QA (.error why) m)
    (hQB : ∀ {why m}, ¬ QB (.error why) m) (hstays : ∀ {r}, Stable A.guar (QB r) ∧ Stable P.rely (QB r))
    {a : Activity σ α} {task : Activity σ β} (ha : a.Meets A WA QA m) (hra : a.Releases N p)
    (ht : task.Ready B WB QB m) (hr : task.Releases N q) :
    (Activity.leading a task).Meets P (fun _ _ => True) (fun r m' => match r with
      | .ok (rest, value) => QA (.ok value) m' ∧ rest.Meets B WB QB m' ∧ rest.Releases N q
      | .error _ => False) m := by
  have hrace := Meets.race (Y := fun _ => True) hs (fun _ _ => trivial) (fun _ => trivial) id ha trivial ht
  have hboth := hrace.and_releases (Releases.race htrans hra hr)
  refine Meets.bind (Meets.weaken (fun _ => trivial) (fun {r m'} h => ?_) hboth)
  match r, h with
  | .ok (.left value rest), ⟨⟨hv, _, hready⟩, _, hrest⟩ =>
    exact ⟨hv, hready.meets ((hs.inv_right _).mpr (hinv _)), hrest⟩
  | .ok (.right rest value), ⟨⟨hv, _, hready⟩, hq, _⟩ =>
    -- the task has ended, and the one before it goes on
    refine Meets.bind (Meets.weaken id (fun {r m''} h => ?_) (hready.finish hs.covers_left hstays.1 hstays.2
      (fun _ => hturn) (fun _ => (hs.inv_left _).mpr (hinv _)) (fun _ _ => trivial) hv))
    match r, h with
    | .ok x, ⟨hv', hx⟩ => exact ⟨hx, hv', hq⟩
    | .error why, ⟨_, hx⟩ => exact absurd hx hQA
  | .error why, ⟨⟨s, .inl ⟨hx, _⟩⟩, _⟩ => exact absurd hx hQA
  | .error why, ⟨⟨s, .inr ⟨hx, _⟩⟩, _⟩ => exact absurd hx hQB

end Activity

end ImageImport
