/-
# Quiet activities

Some of what runs beside an activity is known to do little, whatever the moment and whoever acts
meanwhile: it touches a part of the state that nobody else looks at, or only waits.  `Quiet N p` says so of
the whole tree: every step of it, and every release, is one of `N`, and every end of it is as `p` says.
`EndsAs p` says nothing but how it ends.  Both are cases of `Always`.

Unlike `Meets` it speaks of no moment, so it survives everything that is done to an activity: it is true of
what is left of one that loses a race (`Always.race`), and a quiet one stays quiet when nobody waits for it
any more (`Quiet.background`).  A quiet activity meets all terms that allow its steps (`Quiet.meets`).
-/
import ImageImport.Proofs.Concurrency.Races

namespace ImageImport

variable {σ α β : Type}

/-! ## 1. The predicate -/

namespace Activity

/-- **Every step is one of `N`**, every release too, every task left behind is as `K` says, and every end as
`p` says. -/
def Always (N : σ → σ → Prop) (K : Background σ → Prop) (p : Except Crash α → Prop) : Activity σ α → Prop
  | done v => p (.ok v)
  | crash why => p (.error why)
  | step act next => ∀ m, N m.state (act m) ∧ (next m).Always N K p
  | detach task next => K task ∧ next.Always N K p
  | wait _ leave next => (∀ s, N s (leave s)) ∧ next.Always N K p

/-- **Quiet**: it and the tasks it leaves behind do nothing but `N`. -/
abbrev Quiet (N : σ → σ → Prop) (p : Except Crash α → Prop) (a : Activity σ α) : Prop :=
  a.Always N (Background.Keeps N) p

/-- **Every end of it is as `p` says**, whatever it does till then. -/
abbrev EndsAs (p : Except Crash α → Prop) (a : Activity σ α) : Prop := a.Always (fun _ _ => True) (fun _ => True) p

variable {N N' : σ → σ → Prop} {K K' : Background σ → Prop} {p p' : Except Crash α → Prop}
  {a : Activity σ α} {b : Activity σ β}

theorem Always.mono (hN : ∀ s t, N s t → N' s t) (hK : ∀ task, K task → K' task) (hp : ∀ {r}, p r → p' r)
    (h : a.Always N K p) : a.Always N' K' p' := by
  induction a with
  | done v => exact hp h
  | crash why => exact hp h
  | step act next ih => exact fun m => ⟨hN _ _ (h m).1, ih m (h m).2⟩
  | detach task next ih => exact ⟨hK _ h.1, ih h.2⟩
  | wait wake leave next ih => exact ⟨fun s => hN _ _ (h.1 s), ih h.2⟩

theorem Always.bind {q : Except Crash β → Prop} {f : α → Activity σ β} (ha : a.Always N K p)
    (hf : ∀ {v}, p (.ok v) → (f v).Always N K q) (hcrash : ∀ {why}, p (.error why) → q (.error why)) :
    (a.bind f).Always N K q := by
  induction a with
  | done v => exact hf ha
  | crash why => exact hcrash ha
  | step act next ih => exact fun m => ⟨(ha m).1, ih m (ha m).2⟩
  | detach task next ih => exact ⟨ha.1, ih ha.2⟩
  | wait wake leave next ih => exact ⟨ha.1, ih ha.2⟩

/-- What is caught does not crash. -/
theorem Always.caught {q : Except Crash (Except Crash α) → Prop} (h : a.Always N K fun r => q (.ok r)) :
    a.caught.Always N K q := by
  induction a with
  | done v => exact h
  | crash why => exact h
  | step act next ih => exact fun m => ⟨(h m).1, ih m (h m).2⟩
  | detach task next ih => exact ⟨h.1, ih h.2⟩
  | wait wake leave next ih => exact ⟨h.1, ih h.2⟩

theorem Always.spawned (hN : ∀ s, N s s) (h : a.Always N K p) : (spawned a).Always N K p := ⟨hN, h⟩

theorem Always.abandon (hN : ∀ s, N s s) (h : a.Always N K p) (s : σ) : N s (a.abandon s) := by
  cases a with
  | wait wake leave next => exact h.1 s
  | _ => exact hN s

/-- **What it does when nobody waits for it** is what it would have done. -/
theorem Quiet.background (hN : ∀ s, N s s) (h : a.Quiet N p) : a.background.Keeps N := by
  induction a with
  | done v => trivial
  | crash why => trivial
  | step act next ih => exact fun m => ⟨(h m).1, ih m (h m).2⟩
  | detach task next ih => exact h.1.beside hN (ih h.2)
  | wait wake leave next ih => exact ih h.2

/-- **As far as it gets at once**, and what is left of it. -/
theorem Quiet.settle (hN : ∀ s, N s s) (h : a.Quiet N p) :
    a.settle.Quiet N fun r => ∀ rest, r = .ok rest → rest.Quiet N p := by
  induction a with
  | done v =>
    rintro _ ⟨rfl⟩
    exact h
  | crash why =>
    rintro _ ⟨rfl⟩
    exact h
  | step act next ih => exact fun m => ⟨(h m).1, ih m (h m).2⟩
  | detach task next ih => exact ⟨h.1, ih h.2⟩
  | wait wake leave next ih =>
    refine fun m => ⟨hN _, ?_⟩
    show Always N _ _ (if wake.holds m = true then _ else _)
    split
    · exact ih h.2
    · rintro _ ⟨rfl⟩
      exact h

/-! A wait that may be over, a look and a change. -/

theorem always_waitOr {q : Except Crash Unit → Prop} (hN : ∀ s, N s s) (hq : q (.ok ())) (wake : Wake σ) :
    (waitOr wake id).Always N K q := by
  intro m
  by_cases hh : wake.holds m = true
  · simp only [hh, if_true]
    exact ⟨hN _, hq⟩
  · simp only [hh]
    exact ⟨hN _, hN, hq⟩

theorem always_update {q : Except Crash Unit → Prop} {f : σ → σ} (hf : ∀ s, N s (f s)) (hq : q (.ok ())) :
    (update f).Always N K q := fun _ => ⟨hf _, hq⟩

theorem always_read {f : σ → α} (hN : ∀ s, N s s) (hp : ∀ s, p (.ok (f s))) : (read f).Always N K p :=
  fun _ => ⟨hN _, hp _⟩

theorem always_sleep {q : Except Crash Unit → Prop} (hN : ∀ s, N s s) (hq : q (.ok ())) (ms : Nat) :
    (sleep ms).Always N K q := fun _ => ⟨hN _, always_waitOr hN hq _⟩

end Activity

/-! ## 2. Races -/

/-- **How a race of the two ends**: what is known of the loser is known of what is left of it. -/
def Race.Leaves (N N' : σ → σ → Prop) (K K' : Background σ → Prop) (p : Except Crash α → Prop)
    (q : Except Crash β → Prop) : Except Crash (Race σ α β) → Prop
  | .ok (.left value rest) => p (.ok value) ∧ rest.Always N' K' q
  | .ok (.right rest value) => q (.ok value) ∧ rest.Always N K p
  | .error why => p (.error why) ∨ q (.error why)

namespace Activity

variable {N N' M : σ → σ → Prop} {K K' L : Background σ → Prop} {p : Except Crash α → Prop}
  {q : Except Crash β → Prop} {a : Activity σ α} {b : Activity σ β}

theorem Always.raceHeld (hN : ∀ s t, N s t → M s t) (hN' : ∀ s t, N' s t → M s t)
    (hK' : ∀ task, K' task → L task) (hM : ∀ s, M s s) (htrans : ∀ s t u, M s t → M t u → M s u)
    {wake : Wake σ} {leave : σ → σ} {next : Activity σ α}
    {resume : Activity σ β → Activity σ (Race σ α β)} (hheld : (wait wake leave next).Always N K p)
    (hresume : ∀ {b}, b.Always N' K' q → (resume b).Always M L (Race.Leaves N N' K K' p q))
    (hb : b.Always N' K' q) :
    (raceHeld wake leave (wait wake leave next) resume b).Always M L (Race.Leaves N N' K K' p q) := by
  induction b with
  | done v => exact ⟨hb, hheld⟩
  | crash why => exact fun m => ⟨hN _ _ (hheld.1 _), .inr hb⟩
  | step act rest ih => exact fun m => ⟨hN' _ _ (hb m).1, ih m (hb m).2⟩
  | detach task rest ih => exact ⟨hK' _ hb.1, ih hb.2⟩
  | wait wake' leave' rest ih =>
    refine ⟨fun s => htrans _ _ _ (hN _ _ (hheld.1 s)) (hN' _ _ (hb.1 _)), fun m => ⟨hM _, ?_⟩⟩
    show Always M L _ (if wake.holds m = true then _ else _)
    split
    · exact hresume hb
    · exact ih hb.2

/-- **A race of two of which something is known.** -/
theorem Always.race (hN : ∀ s t, N s t → M s t) (hN' : ∀ s t, N' s t → M s t)
    (hK : ∀ task, K task → L task) (hK' : ∀ task, K' task → L task) (hM : ∀ s, M s s)
    (hrefl : ∀ s, N' s s) (htrans : ∀ s t u, M s t → M t u → M s u) (ha : a.Always N K p)
    (hb : b.Always N' K' q) : (Activity.race a b).Always M L (Race.Leaves N N' K K' p q) := by
  induction a generalizing b with
  | done v => exact ⟨ha, hb⟩
  | crash why => exact fun m => ⟨hN' _ _ (hb.abandon hrefl m.state), .inl ha⟩
  | step act next ih => exact fun m => ⟨hN _ _ (ha m).1, ih m (ha m).2 hb⟩
  | detach task next ih => exact ⟨hK _ ha.1, ih ha.2 hb⟩
  | wait wake leave next ih => exact Always.raceHeld hN hN' hK' hM htrans ha (ih ha.2) hb

/-- **A race of two that are both like that.** -/
theorem Always.race_both (hN : ∀ s, N s s) (htrans : ∀ s t u, N s t → N t u → N s u)
    (ha : a.Always N K p) (hb : b.Always N K q) :
    (Activity.race a b).Always N K (Race.Leaves N N K K p q) :=
  Always.race (fun _ _ => id) (fun _ _ => id) (fun _ => id) (fun _ => id) hN hN htrans ha hb

/-- Any activity is as quiet as that. -/
theorem quiet_any (a : Activity σ α) : a.EndsAs fun _ => True := by
  induction a with
  | done v => trivial
  | crash why => trivial
  | step act next ih => exact fun m => ⟨trivial, ih m⟩
  | detach task next ih => exact ⟨trivial, ih⟩
  | wait wake leave next ih => exact ⟨fun _ => trivial, ih⟩

/-- **Whatever comes before**, the ends are those of what comes after. -/
theorem always_after {q : Except Crash β → Prop} (hcrash : ∀ why, q (.error why)) {f : α → Activity σ β}
    (hf : ∀ v, (f v).EndsAs q) (a : Activity σ α) :
    (a.bind f).EndsAs q :=
  Always.bind (quiet_any a) (fun {v} _ => hf v) fun {why} _ => hcrash why

/-- **What is known of the left one of a race**, whatever the right one is. -/
theorem Always.race_left (ha : a.Always N K p) (b : Activity σ β) :
    (Activity.race a b).EndsAs
      (Race.Leaves N (fun _ _ => True) K (fun _ => True) p fun _ => True) :=
  Always.race (fun _ _ _ => trivial) (fun _ _ _ => trivial) (fun _ _ => trivial) (fun _ _ => trivial)
    (fun _ => trivial) (fun _ => trivial) (fun _ _ _ _ _ => trivial) ha (quiet_any b)

/-- **What is known of the right one**, whatever the left one is. -/
theorem Always.race_right (hN : ∀ s, N s s) (a : Activity σ α) (hb : b.Always N K q) :
    (Activity.race a b).EndsAs
      (Race.Leaves (fun _ _ => True) N (fun _ => True) K (fun _ => True) q) :=
  Always.race (fun _ _ _ => trivial) (fun _ _ _ => trivial) (fun _ _ => trivial) (fun _ _ => trivial)
    (fun _ => trivial) hN (fun _ _ _ _ _ => trivial) (quiet_any a) hb

/-- What is left of one that has been waited for long enough. -/
theorem Always.waitedFor (ms : Nat) (h : a.Always N K p) :
    (Activity.waitedFor ms a).EndsAs fun r => match r with
      | .ok (Sum.inr rest) => rest.Always N K p
      | _ => True := by
  refine (h.race_left (sleep ms)).bind (fun {r} hr => ?_) fun _ => trivial
  cases r with
  | left value rest => trivial
  | right rest u => exact hr.2

/-! ## 3. On terms -/

section

variable {T : Terms σ} {W : Wake σ → Moment σ → Prop} {Q : Except Crash α → Moment σ → Prop}

/-- **A quiet one meets all terms that allow its steps**, and keeps what its steps and the others keep. -/
theorem Quiet.meets {X : Moment σ → Prop} (hguar : ∀ {s t}, N s t → T.guar s t)
    (hleft : ∀ {s t}, N s t → T.left s t)
    (hinv : ∀ {m s}, N m.state s → T.inv m → T.inv { m with state := s })
    (hset : ∀ {m s}, X m → N m.state s → X { m with state := s }) (hrely : Stable T.rely X)
    (hX : ∀ {m}, X m → T.inv m) (hW : ∀ {w m}, X m → W w m) (hQ : ∀ {r m}, X m → p r → Q r m)
    (ha : a.Quiet N p) {m : Moment σ} (h : X m) : a.Meets T W Q m := by
  induction a generalizing m with
  | done v => exact hQ h ha
  | crash why => exact hQ h ha
  | step act next ih => exact ⟨hguar (ha m).1, ih m (ha m).2 (hset h (ha m).1)⟩
  | detach task next ih => exact ⟨ha.1.mono hleft, ih ha.2 h⟩
  | wait wake leave next ih =>
    refine ⟨hX h, fun n => ⟨hguar (ha.1 _), hinv (ha.1 _)⟩, fun m' hr hi hs => ?_⟩
    have h' := hrely h hr hs.le
    exact ⟨hW h', fun _ _ => ih ha.2 h'⟩

/-- **As far as a quiet one gets at once**, nobody else acts, and what is left of it is quiet. -/
theorem Quiet.settle_meets {X : Moment σ → Prop} {QA : Except Crash (Activity σ α) → Moment σ → Prop}
    (hguar : ∀ {s t}, N s t → T.guar s t) (hleft : ∀ {s t}, N s t → T.left s t)
    (hset : ∀ {m s}, X m → N m.state s → X { m with state := s })
    (hQ : ∀ {rest m}, X m → rest.Quiet N p → QA (.ok rest) m) (ha : a.Quiet N p) {m : Moment σ}
    (h : X m) : a.settle.Meets T W QA m := by
  induction a generalizing m with
  | done v => exact hQ h ha
  | crash why => exact hQ h ha
  | step act next ih => exact ⟨hguar (ha m).1, ih m (ha m).2 (hset h (ha m).1)⟩
  | detach task next ih => exact ⟨ha.1.mono hleft, ih ha.2 h⟩
  | wait wake leave next ih =>
    refine ⟨T.guar_refl _, ?_⟩
    show Meets T W QA (if wake.holds m = true then _ else _) m
    split
    · exact ih ha.2 h
    · exact hQ h ha

/-- What is known of all ends is known of the one that is reached. -/
theorem Meets.and_always (h : a.Always N K p) {m : Moment σ} (ha : a.Meets T W Q m) :
    a.Meets T W (fun r m' => Q r m' ∧ p r) m := by
  induction a generalizing m with
  | done v => exact ⟨ha, h⟩
  | crash why => exact ⟨ha, h⟩
  | step act next ih => exact ⟨ha.1, ih m (h m).2 ha.2⟩
  | detach task next ih => exact ⟨ha.1, ih h.2 ha.2⟩
  | wait wake leave next ih =>
    obtain ⟨hinv, hleave, hnext⟩ := ha
    refine ⟨hinv, hleave, fun m' hr hi hs => ?_⟩
    obtain ⟨hW, hgo⟩ := hnext m' hr hi hs
    exact ⟨hW, fun hh ht => ih h.2 (hgo hh ht)⟩

end

end Activity

end ImageImport
