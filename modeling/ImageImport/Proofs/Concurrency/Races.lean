/-
# Races of activities that are on terms

Two activities that are raced share the clock and the state.  When each relies on no less than what the
other guarantees, the pair meets terms of its own (`Terms.Split`), and what is known when the race ends is
`Race.Ends`: the winner's value, and that what is left of the other is `Ready` to go on.

`Meets.raceHeld` is the induction on the right activity, while the left one is held at a wait, and
`Meets.race` the induction on the left one; between them they follow the two definitions in
`Concurrency/Race.lean` clause by clause.
-/
import ImageImport.Proofs.Concurrency.Terms

namespace ImageImport

variable {σ α β γ : Type}

/-! ## 1. Terms for two -/

/-- **The terms `P` of a pair**, in which the left one is on `A` and the right one on `B`.  The right one
goes on only where the left one cannot: its wait, described by `WA`, is not over. -/
structure Terms.Split (P A B : Terms σ) (WA : Wake σ → Moment σ → Prop) : Prop where
  rely_left : ∀ {s t}, P.rely s t → A.rely s t
  rely_right : ∀ {s t}, P.rely s t → B.rely s t
  across_left : ∀ {s t}, B.guar s t → A.rely s t
  across_right : ∀ {s t}, A.guar s t → B.rely s t
  guar_left : ∀ {s t}, A.guar s t → P.guar s t
  guar_right : ∀ {s t}, B.guar s t → P.guar s t
  left_left : ∀ {s t}, A.left s t → P.left s t
  left_right : ∀ {s t}, B.left s t → P.left s t
  inv_left : ∀ m, A.inv m ↔ P.inv m
  inv_right : ∀ m, B.inv m ↔ P.inv m
  turn_left : ∀ {m}, P.turn m → A.turn m
  turn_right : ∀ {w m}, P.turn m → WA w m → w.holds m = false → B.turn m

namespace Terms.Split

variable {P A B : Terms σ} {WA : Wake σ → Moment σ → Prop}

theorem covers_left (hs : P.Split A B WA) : P.Covers A :=
  ⟨hs.rely_left, hs.guar_left, hs.left_left, hs.inv_left⟩

theorem covers_right (hs : P.Split A B WA) : P.Covers B :=
  ⟨hs.rely_right, hs.guar_right, hs.left_right, hs.inv_right⟩

end Terms.Split

namespace Activity

variable {T : Terms σ} {W : Wake σ → Moment σ → Prop} {Q : Except Crash α → Moment σ → Prop}

/-! ## 2. What is left of an activity -/

/-- The time an activity lets pass before it acts. -/
def Stays : Activity σ α → Moment σ → Moment σ → Prop
  | wait wake _ _, m, m' => wake.Spans m m'
  | _, m, m' => m'.now = m.now

theorem Stays.instant (a : Activity σ α) (m : Moment σ) (s : σ) : a.Stays m { m with state := s } := by
  cases a with
  | wait wake leave next => exact Wake.Spans.instant wake m s
  | _ => rfl

/-- **Ready to act**: from whatever moment it is let go at, it meets its terms. -/
def Ready (T : Terms σ) (W : Wake σ → Moment σ → Prop) (Q : Except Crash α → Moment σ → Prop)
    (a : Activity σ α) (m : Moment σ) : Prop :=
  (∀ s, T.guar s (a.abandon s)) ∧
    ∀ m', T.rely m.state m'.state → T.inv m' → a.Stays m m' → a.Meets T W Q m'

theorem Ready.step {a : Activity σ α} {m : Moment σ} {s : σ} (h : a.Ready T W Q m)
    (hr : T.rely m.state s) : a.Ready T W Q { m with state := s } := by
  refine ⟨h.1, fun m' hr' hi hs => h.2 m' (T.rely_trans hr hr') hi ?_⟩
  cases a with
  | wait wake leave next => exact (Wake.Spans.instant wake m s).trans hs
  | _ => exact hs

theorem Ready.meets {a : Activity σ α} {m : Moment σ} (h : a.Ready T W Q m) (hi : T.inv m) :
    a.Meets T W Q m := h.2 m (T.rely_refl _) hi (Stays.instant a m m.state)

theorem Ready.later {wake : Wake σ} {leave : σ → σ} {next : Activity σ α} {m m' : Moment σ}
    (h : (wait wake leave next).Ready T W Q m) (hr : T.rely m.state m'.state) (hs : wake.Spans m m') :
    (wait wake leave next).Ready T W Q m' :=
  ⟨h.1, fun m'' hr' hi hs' => h.2 m'' (T.rely_trans hr hr') hi (hs.trans hs')⟩

/-- What is known at a wait that is looked at. -/
theorem Ready.look {wake : Wake σ} {leave : σ → σ} {next : Activity σ α} {m : Moment σ}
    (h : (wait wake leave next).Ready T W Q m) (hi : T.inv m) :
    W wake m ∧ (wake.holds m = true → T.turn m → next.Meets T W Q m) := by
  obtain ⟨-, -, hnext⟩ := h.meets hi
  exact hnext m (T.rely_refl _) hi (Wake.Spans.instant wake m m.state)

/-- A wait that has been entered is ready from then on. -/
theorem Meets.ready {wake : Wake σ} {leave : σ → σ} {next : Activity σ α} {m : Moment σ}
    (h : (wait wake leave next).Meets T W Q m) : (wait wake leave next).Ready T W Q m := by
  obtain ⟨-, hleave, hnext⟩ := h
  refine ⟨fun s => (hleave ⟨m.now, s⟩).1, fun m' hr hi hs => ⟨hi, hleave, fun m'' hr' hi' hs' => ?_⟩⟩
  exact hnext m'' (T.rely_trans hr hr') hi' (hs.trans hs')

/-- **A task of its own** is ready before it has started, and starts at the instant it is left at. -/
theorem ready_spawned {a : Activity σ α} {m : Moment σ}
    (hW : ∀ {w m'}, (∀ s, w.ready s = true) → T.rely m.state m'.state → m'.now = m.now → W w m')
    (h : ∀ {m'}, T.rely m.state m'.state → T.inv m' → m'.now = m.now → T.turn m' →
      a.Meets T W Q m') : (spawned a).Ready T W Q m := by
  refine ⟨fun s => T.guar_refl s, fun m' hr hi hs => ⟨hi, fun n => ⟨T.guar_refl _, id⟩, ?_⟩⟩
  intro m'' hr' hi' hs'
  have hnow : m''.now = m.now := (hs'.ready fun _ => rfl).trans (hs.ready fun _ => rfl)
  have hr'' := T.rely_trans hr hr'
  exact ⟨hW (fun _ => rfl) hr'' hnow, fun _ ht => h hr'' hi' hnow ht⟩

end Activity

/-! ## 3. The race -/

/-- **How a race of the two ends.**  The winner has ended as its terms say; the loser is ready to go on,
and a loser on the left is at a wait.  `Y` is what the waits of the right one say, once it has waited. -/
def Race.Ends (A B : Terms σ) (WA WB : Wake σ → Moment σ → Prop) (Y : Moment σ → Prop)
    (QA : Except Crash α → Moment σ → Prop) (QB : Except Crash β → Moment σ → Prop) :
    Except Crash (Race σ α β) → Moment σ → Prop
  | .ok (.left value rest), m => QA (.ok value) m ∧ Y m ∧ rest.Ready B WB QB m
  | .ok (.right rest value), m =>
    QB (.ok value) m ∧ (∃ wake leave next, rest = .wait wake leave next) ∧ rest.Ready A WA QA m
  | .error why, m => ∃ s, (QA (.error why) { m with state := s } ∧ B.guar s m.state) ∨
      (QB (.error why) { m with state := s } ∧ A.guar s m.state)

/-- A wait of the pair: each is at one of its own. -/
def Wake.OfBoth (WA WB : Wake σ → Moment σ → Prop) (w : Wake σ) (m : Moment σ) : Prop :=
  ∃ u v, w = u.either v ∧ WA u m ∧ WB v m

namespace Activity

variable {P A B : Terms σ} {WA WB : Wake σ → Moment σ → Prop} {Y : Moment σ → Prop}
  {QA : Except Crash α → Moment σ → Prop} {QB : Except Crash β → Moment σ → Prop}
  {QP : Except Crash (Race σ α β) → Moment σ → Prop}

/-- The right one acts while the left one is held. -/
theorem Meets.raceHeld (hs : P.Split A B WA) (hY : ∀ {w m}, WB w m → Y m)
    (hQ : ∀ {r m}, Race.Ends A B WA WB Y QA QB r m → QP r m)
    {wake : Wake σ} {leave : σ → σ} {next : Activity σ α}
    {resume : Activity σ β → Activity σ (Race σ α β)}
    (hresume : ∀ {b m}, next.Meets A WA QA m → Y m → b.Ready B WB QB m →
      (resume b).Meets P (Wake.OfBoth WA WB) QP m)
    {b : Activity σ β} {m : Moment σ} (ha : (wait wake leave next).Ready A WA QA m)
    (hb : b.Meets B WB QB m) :
    (raceHeld wake leave (wait wake leave next) resume b).Meets P (Wake.OfBoth WA WB) QP m := by
  induction b generalizing m with
  | done v => exact hQ ⟨hb, ⟨wake, leave, next, rfl⟩, ha⟩
  | crash why =>
    exact ⟨hs.guar_left (ha.1 m.state), hQ ⟨m.state, .inr ⟨hb, ha.1 m.state⟩⟩⟩
  | step act rest ih =>
    exact ⟨hs.guar_right hb.1, ih m (ha.step (hs.across_left hb.1)) hb.2⟩
  | detach task rest ih => exact ⟨hb.1.mono hs.left_right, ih ha hb.2⟩
  | wait wake' leave' rest ih =>
    have hready : (wait wake' leave' rest).Ready B WB QB m := hb.ready
    obtain ⟨hinv, hleave', -⟩ := hb
    have hP : P.inv m := (hs.inv_right _).mp hinv
    obtain ⟨-, hleave, -⟩ := ha.meets ((hs.inv_left _).mpr hP)
    refine ⟨hP, fun n => ⟨?_, fun hi => ?_⟩, fun m' hr hi hspan => ?_⟩
    · exact P.guar_trans (hs.guar_left (hleave n).1)
        (hs.guar_right (hleave' { n with state := leave n.state }).1)
    · have h1 := (hleave n).2 ((hs.inv_left _).mpr hi)
      exact (hs.inv_right _).mp ((hleave' _).2 ((hs.inv_right _).mpr ((hs.inv_left _).mp h1)))
    · -- both are looked at again, and the left one comes first
      have hl := ha.later (hs.rely_left hr) hspan.of_either_left
      have hl' := hready.later (hs.rely_right hr) hspan.of_either_right
      obtain ⟨hwa, hgo⟩ := hl.look ((hs.inv_left _).mpr hi)
      obtain ⟨hwb, hgo'⟩ := hl'.look ((hs.inv_right _).mpr hi)
      refine ⟨⟨_, _, rfl, hwa, hwb⟩, fun hh ht => ⟨P.guar_refl _, ?_⟩⟩
      show Meets P _ _ (if wake.holds m' = true then _ else _) m'
      split
      next hw => exact hresume (hgo hw (hs.turn_left ht)) (hY hwb) hl'
      next hw =>
        have hw' : wake.holds m' = false := by simpa using hw
        rw [Wake.holds_either, hw', Bool.false_or] at hh
        exact ih hl (hgo' hh (hs.turn_right ht hwa hw'))

/-- **A race of two that are on terms.** -/
theorem Meets.race (hs : P.Split A B WA)
    (hYA : ∀ {m s}, Y m → A.guar m.state s → Y { m with state := s }) (hY : ∀ {w m}, WB w m → Y m)
    (hQ : ∀ {r m}, Race.Ends A B WA WB Y QA QB r m → QP r m)
    {a : Activity σ α} {b : Activity σ β} {m : Moment σ} (ha : a.Meets A WA QA m)
    (hy : Y m) (hb : b.Ready B WB QB m) :
    (race a b).Meets P (Wake.OfBoth WA WB) QP m := by
  induction a generalizing b m with
  | done v => exact hQ ⟨ha, hy, hb⟩
  | crash why =>
    exact ⟨hs.guar_right (hb.1 m.state), hQ ⟨m.state, .inl ⟨ha, hb.1 m.state⟩⟩⟩
  | step act next ih =>
    exact ⟨hs.guar_left ha.1, ih m ha.2 (hYA hy ha.1) (hb.step (hs.across_right ha.1))⟩
  | detach task next ih => exact ⟨ha.1.mono hs.left_left, ih ha.2 hy hb⟩
  | wait wake leave next ih =>
    have hi : P.inv m := (hs.inv_left _).mp ha.1
    exact Meets.raceHeld hs @hY hQ (fun h1 h2 h3 => ih h1 h2 h3) ha.ready
      (hb.meets ((hs.inv_right _).mpr hi))

/-- **The same when the left one is at a wait**: the right one starts. -/
theorem Meets.race_waiting (hs : P.Split A B WA)
    (hYA : ∀ {m s}, Y m → A.guar m.state s → Y { m with state := s }) (hY : ∀ {w m}, WB w m → Y m)
    (hQ : ∀ {r m}, Race.Ends A B WA WB Y QA QB r m → QP r m)
    {wake : Wake σ} {leave : σ → σ} {next : Activity σ α} {b : Activity σ β} {m : Moment σ}
    (ha : (wait wake leave next).Ready A WA QA m) (hb : b.Meets B WB QB m) :
    (Activity.race (wait wake leave next) b).Meets P (Wake.OfBoth WA WB) QP m :=
  Meets.raceHeld hs @hY hQ (fun h1 h2 h3 => Meets.race hs hYA @hY hQ h1 h2 h3) ha hb

/-! ## 4. Going on after a race -/

/-- **What is left of one goes on alone**, and what is known of the other stays, since the one it is
known of has ended. -/
theorem Ready.finish {T T' : Terms σ} {W W' : Wake σ → Moment σ → Prop}
    {Q : Except Crash α → Moment σ → Prop} {X : Moment σ → Prop} (hT : T'.Covers T)
    (hguar : Stable T.guar X) (hrely : Stable T'.rely X) (hturn : ∀ {m}, X m → T'.turn m → T.turn m)
    (hinv : ∀ {m}, X m → T.inv m) (hW : ∀ {w m}, X m → W w m → W' w m) {a : Activity σ α}
    {m : Moment σ} (hX : X m) (h : a.Ready T W Q m) : a.Meets T' W' (fun r m => X m ∧ Q r m) m :=
  Meets.mono hT hguar hrely hturn hW (fun hx hq => ⟨hx, hq⟩) hX (h.meets (hinv hX))

/-- An activity that has not begun is ready when it can begin at that instant. -/
theorem ready_begun {T : Terms σ} {W : Wake σ → Moment σ → Prop} {Q : Except Crash α → Moment σ → Prop}
    {a : Activity σ α} {m : Moment σ}
    (h : ∀ {m'}, T.rely m.state m'.state → m'.now = m.now → a.Meets T W Q m') : a.begun.Ready T W Q m :=
  ⟨fun _ => T.guar_refl _, fun _ hr _ hs => ⟨T.guar_refl _, h hr hs⟩⟩

/-- **Both to the end**, where everybody may act at any time. -/
theorem Meets.both {W : Wake σ → Moment σ → Prop} (hs : P.Split A B WA) (hinv : ∀ m, P.inv m)
    (hturn : ∀ m, B.turn m) (hA : ∀ {r}, Stable B.guar (QA r) ∧ Stable P.rely (QA r))
    (hB : ∀ {r}, Stable A.guar (QB r) ∧ Stable P.rely (QB r))
    (hWA : ∀ {u m}, WA u m → W u m ∧ ∀ v, W (u.either v) m) (hWB : ∀ {v m}, WB v m → W v m)
    {a : Activity σ α} {b : Activity σ β} {m : Moment σ} (ha : a.Meets A WA QA m)
    (hb : ∀ {m'}, B.rely m.state m'.state → m'.now = m.now → b.Meets B WB QB m') :
    (Activity.both a b).Meets P W (fun r m' => match r with
      | .ok (x, y) => QA (.ok x) m' ∧ QB (.ok y) m'
      | .error why => QA (.error why) m' ∨ QB (.error why) m') m := by
  have hrace := Meets.race (Y := fun _ => True) hs (fun _ _ => trivial) (fun _ => trivial) id ha
    trivial (ready_begun hb)
  refine Meets.bind (Meets.weaken (fun {w m'} h => ?_) (fun {r m'} h => ?_) hrace)
  · obtain ⟨u, v, rfl, hu, -⟩ := h
    exact (hWA hu).2 v
  · match r, h with
    | .ok (.left x rest), ⟨hx, _, hrest⟩ =>
      refine Meets.bind (Meets.weaken id (fun {r m''} h => ?_) (hrest.finish hs.covers_right hA.1 hA.2
        (fun _ _ => hturn _) (fun _ => (hs.inv_right _).mpr (hinv _)) (fun _ => hWB) hx))
      cases r with
      | ok y => exact h
      | error why => exact .inr h.2
    | .ok (.right rest y), ⟨hy, _, hrest⟩ =>
      refine Meets.bind (Meets.weaken id (fun {r m''} h => ?_) (hrest.finish hs.covers_left hB.1 hB.2
        (fun _ => hs.turn_left) (fun _ => (hs.inv_left _).mpr (hinv _)) (fun _ h => (hWA h).1) hy))
      cases r with
      | ok x => exact ⟨h.2, h.1⟩
      | error why => exact .inl h.2
    | .error why, ⟨s, .inl ⟨hx, hg⟩⟩ => exact .inl (hA.1 hx hg (Nat.le_refl _))
    | .error why, ⟨s, .inr ⟨hy, hg⟩⟩ => exact .inr (hB.1 hy hg (Nat.le_refl _))

end Activity

end ImageImport
