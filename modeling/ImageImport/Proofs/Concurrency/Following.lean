/-
# Following

Somebody who acts beside an activity changes when it is looked at and in which order, even if the two share
nothing.  So an activity with company does not mirror the same activity alone: it waits in more places, and
what happens at one instant happens in another order.  But it *follows* it: seen through `view` it makes the
same steps, and where the one alone would go on, the one with company goes on at that instant.

`Follows view D a' a m` says so of the activity `a'`, which has company and is looked at from the moment `m`
on, and of `a`, which is alone.  It stops where `a` ends, and `D` says of that place how `a` has ended and
what is left of `a'`.  The company may be anybody who is quiet for what is seen (`Quiet`).

Sections 2 and 3 take the relation through what activities are put together from; section 4 puts company
beside an activity, on either side, and section 5 lets two activities race that both have company.  What
follows for a run is in `Proofs/Concurrency/Independence.lean`.
-/
import ImageImport.Proofs.Concurrency.Forgetting

namespace ImageImport

variable {σ σ' α α' β β' γ γ' : Type}

/-! ## 1. The relation -/

/-- Nothing has changed that can be seen. -/
def Unseen (view : σ' → σ) (s t : σ') : Prop := view t = view s

theorem Unseen.refl (view : σ' → σ) (s : σ') : Unseen view s s := rfl

theorem Unseen.through {view : σ' → σ} {m : Moment σ'} {s : σ'} (h : Unseen view m.state s) :
    Moment.through view ⟨m.now, s⟩ = m.through view := congrArg (Moment.mk m.now) h

namespace Activity

/-- **`a'` follows `a` from the moment `m` on**, until `a` ends; `D` says what is left of `a'` there.

Where `a` waits, `a'` waits too, and no longer.  When the wait of `a'` is over, either that of `a` is over
too and both go on (`go`), or only the company does. -/
inductive Follows (view : σ' → σ) (D : Except Crash α → Activity σ' α' → Moment σ' → Prop) :
    Activity σ' α' → Activity σ α → Moment σ' → Prop where
  | ended {x : α} {a' : Activity σ' α'} {m : Moment σ'} (h : D (.ok x) a' m) : Follows view D a' (.done x) m
  | blown {why : Crash} {a' : Activity σ' α'} {m : Moment σ'} (h : D (.error why) a' m) :
      Follows view D a' (.crash why) m
  | quiet {act : Moment σ' → σ'} {next : Moment σ' → Activity σ' α'} {a : Activity σ α} {m : Moment σ'}
      (hact : Unseen view m.state (act m)) (hnext : Follows view D (next m) a ⟨m.now, act m⟩) :
      Follows view D (.step act next) a m
  | step {act' : Moment σ' → σ'} {act : Moment σ → σ} {next' : Moment σ' → Activity σ' α'}
      {next : Moment σ → Activity σ α} {m : Moment σ'} (hact : view (act' m) = act (m.through view))
      (hnext : Follows view D (next' m) (next (m.through view)) ⟨m.now, act' m⟩) :
      Follows view D (.step act' next') (.step act next) m
  | aside {task : Background σ'} {next' : Activity σ' α'} {a : Activity σ α} {m : Moment σ'}
      (htask : task.Keeps (Unseen view)) (hnext : Follows view D next' a m) :
      Follows view D (.detach task next') a m
  | wait {wake' : Wake σ'} {wake : Wake σ} {leave' : σ' → σ'} {leave : σ → σ} {next' : Activity σ' α'}
      {next : Activity σ α} {m : Moment σ'} (go : Moment σ' → Bool)
      (hwake : ∀ n : Moment σ', wake.holds (n.through view) = true → wake'.holds n = true)
      (hleave : ∀ s, view (leave' s) = leave (view s))
      (hgo : ∀ n : Moment σ', go n = true → wake.holds (n.through view) = true)
      (hnext : ∀ n, go n = true → Follows view D next' next n)
      (hstay : ∀ n, wake'.holds n = true → go n = false →
        Follows view D next' (.wait wake leave next) n) :
      Follows view D (.wait wake' leave' next') (.wait wake leave next) m

variable {view : σ' → σ} {D : Except Crash α → Activity σ' α' → Moment σ' → Prop}
  {E : Except Crash β → Activity σ' β' → Moment σ' → Prop}
  {F : Except Crash γ → Activity σ' γ' → Moment σ' → Prop} {m : Moment σ'}

/-- Nothing is left of `a'` but its value. -/
def Exactly (R : α' → α → Prop) : Except Crash α → Activity σ' α' → Moment σ' → Prop
  | .ok x, a', _ => ∃ x', a' = .done x' ∧ R x' x
  | .error why, a', _ => a' = .crash why

/-! ## 2. One thing after the other -/

/-- **Sequencing**, on both sides.  What follows begins with what is left of the first activity. -/
theorem Follows.bind {a' : Activity σ' α'} {a : Activity σ α} {f' : α' → Activity σ' β'}
    {f : α → Activity σ β} (h : Follows view D a' a m)
    (hok : ∀ {x b' n}, D (.ok x) b' n → Follows view E (b'.bind f') (f x) n)
    (herr : ∀ {why b' n}, D (.error why) b' n → Follows view E (b'.bind f') (.crash why) n) :
    Follows view E (a'.bind f') (a.bind f) m := by
  induction h with
  | ended h => exact hok h
  | blown h => exact herr h
  | quiet hact _ ih => exact .quiet hact ih
  | step hact _ ih => exact .step hact ih
  | aside htask _ ih => exact .aside htask ih
  | wait go hwake hleave hgo _ _ ihnext ihstay => exact .wait go hwake hleave hgo ihnext ihstay

/-- What was followed to its end is followed further. -/
theorem Follows.andThen {a' : Activity σ' α'} {a : Activity σ α} {f' : α' → Activity σ' β'}
    {E : Except Crash α → Activity σ' β' → Moment σ' → Prop} (h : Follows view D a' a m)
    (hD : ∀ {r b' n}, D r b' n → Follows view E (b'.bind f') (revive r) n) :
    Follows view E (a'.bind f') a m := by
  have hbind := h.bind (f := Activity.done) (fun hd => hD hd) fun hd => hD hd
  rwa [bind_done] at hbind

/-- What is left of `a'`, with what comes then, follows what comes after `a`. -/
def Onward (view : σ' → σ) (E : Except Crash β → Activity σ' β' → Moment σ' → Prop)
    (f' : α' → Activity σ' β') (f : α → Activity σ β) :
    Except Crash α → Activity σ' α' → Moment σ' → Prop
  | .ok x, b', n => Follows view E (b'.bind f') (f x) n
  | .error why, b', _ => b' = .crash why

theorem Follows.onward {a' : Activity σ' α'} {a : Activity σ α} {f' : α' → Activity σ' β'}
    {f : α → Activity σ β} (hE : ∀ {why n}, E (.error why) (.crash why) n)
    (h : Follows view (Onward view E f' f) a' a m) : Follows view E (a'.bind f') (a.bind f) m := by
  refine h.bind (fun hd => hd) fun {why b' n} hd => ?_
  cases hd
  exact .blown hE

/-- What is caught, on both sides. -/
theorem Follows.caught {a' : Activity σ' α'} {a : Activity σ α}
    {E : Except Crash (Except Crash α) → Activity σ' (Except Crash α') → Moment σ' → Prop}
    (h : Follows view D a' a m) (hD : ∀ {r b' n}, D r b' n → E (.ok r) b'.caught n) :
    Follows view E a'.caught a.caught m := by
  induction h with
  | ended h => exact .ended (hD h)
  | blown h => exact .ended (hD h)
  | quiet hact _ ih => exact .quiet hact ih
  | step hact _ ih => exact .step hact ih
  | aside htask _ ih => exact .aside htask ih
  | wait go hwake hleave hgo _ _ ihnext ihstay => exact .wait go hwake hleave hgo ihnext ihstay

/-- What is caught and revived is what it was. -/
theorem caught_revive (a : Activity σ α) : a.caught.bind revive = a := by
  induction a with
  | done x => rfl
  | crash why => rfl
  | step act next ih =>
    simp only [Activity.caught, Activity.bind, Activity.step.injEq, true_and]
    funext m
    exact ih m
  | detach task next ih => simp only [Activity.caught, Activity.bind, ih]
  | wait wake leave next ih => simp only [Activity.caught, Activity.bind, ih]

/-! ## 3. Where nobody else is -/

/-- A wait for the same thing. -/
theorem Follows.wait_through {wake : Wake σ} {leave' : σ' → σ'} {leave : σ → σ}
    {next' : Activity σ' α'} {next : Activity σ α} (hleave : ∀ s, view (leave' s) = leave (view s))
    (hnext : ∀ n, Follows view D next' next n) :
    Follows view D (.wait (wake.through view) leave' next') (.wait wake leave next) m := by
  refine .wait (fun n => wake.holds (n.through view)) (fun _ h => h) hleave (fun _ h => h)
    (fun n _ => hnext n) fun n h hgo => ?_
  rw [Wake.holds_through, hgo] at h
  cases h

theorem Follows.spawned {a' : Activity σ' α'} {a : Activity σ α} (h : ∀ n, Follows view D a' a n) :
    Follows view D (Activity.spawned a') (Activity.spawned a) m := by
  show Follows view D (.wait (Wake.through view ⟨fun _ => true, none⟩) id a') (.wait ⟨_, none⟩ id a) m
  exact Follows.wait_through (fun _ => rfl) h

/-- **What is mirrored is followed**, if it leaves nothing behind. -/
theorem Mirrors.follows {C : Prop} {R : α' → α → Prop} {a' : Activity σ' α'} {a : Activity σ α}
    (h : Mirrors view C R a' a) (ha : a.LeavesNothing) (m : Moment σ') :
    Follows view (Exactly R) a' a m := by
  induction h generalizing m with
  | done h => exact .ended ⟨_, rfl, h⟩
  | crash _ => exact .blown rfl
  | quiet hact _ ih => exact .quiet (hact m) (ih m ha _)
  | step hact _ ih =>
    cases ha with
    | step _ hrest => exact .step (hact m) (ih m (hrest _) _)
  | detach _ _ _ => cases ha
  | wait hwake hleave _ ih =>
    subst hwake
    cases ha with
    | wait _ _ hrest => exact Follows.wait_through hleave (ih hrest)

/-! ## 4. With company

What goes on after the race is given by `K`.  When the company has ended, what is left of the activity goes on
alone. -/

section Company

variable {N : σ' → σ' → Prop} {p : Except Crash γ' → Prop} {f : α → Activity σ β}

/-- **Company behind**: `c` acts where `a'` waits. -/
theorem Follows.ahead {K : Race σ' α' γ' → Activity σ' β'} {g : γ' → α' → Activity σ' β'}
    (hp : ∀ {why}, ¬ p (.error why)) (hK : ∀ rest v, K (.right rest v) = rest.bind (g v))
    (hboth : ∀ {r b' c n}, D r b' n → c.Quiet (Unseen view) p →
      Follows view E ((race b' c).bind K) ((revive r).bind f) n)
    (halone : ∀ {r b' v n}, D r b' n → p (.ok v) → Follows view E (b'.bind (g v)) ((revive r).bind f) n)
    {a' : Activity σ' α'} {a : Activity σ α} {c : Activity σ' γ'} (h : Follows view D a' a m)
    (hc : c.Quiet (Unseen view) p) : Follows view E ((race a' c).bind K) (a.bind f) m := by
  induction h generalizing c with
  | ended h => exact hboth h hc
  | blown h => exact hboth h hc
  | quiet hact _ ih => exact .quiet hact (ih hc)
  | step hact _ ih => exact .step hact (ih hc)
  | aside htask _ ih => exact .aside htask (ih hc)
  | @wait wake' wake leave' leave next' next m go hwake hleave hgo hnext hstay ihnext ihstay =>
    -- `a'` is held at its wait, and the company acts
    induction c generalizing m with
    | done v =>
      show Follows view E (K (.right _ v)) _ m
      rw [hK]
      refine Follows.bind (.wait (m := m) go hwake hleave hgo hnext hstay) (fun hd => ?_) fun hd => ?_
      · exact halone hd hc
      · exact halone hd hc
    | crash why => exact absurd hc hp
    | step act rest ih => exact .quiet (hc m).1 (ih m (hc m).2)
    | detach task rest ih => exact .aside hc.1 (ih hc.2)
    | wait v leaveC rest ih =>
      refine .wait go (fun n hn => ?_) (fun s => ?_) hgo (fun n hn => ?_) fun n hn hno => ?_
      · rw [Wake.holds_either, hwake n hn, Bool.true_or]
      · exact (hc.1 (leave' s)).trans (hleave s)
      · refine .quiet rfl ?_
        simp only [hwake n (hgo n hn), if_true]
        exact ihnext n hn hc
      · refine .quiet rfl ?_
        by_cases hw : wake'.holds n = true
        · simp only [hw, if_true]
          exact ihstay n hw hno hc
        · simp only [hw]
          exact ih hc.2

/-- The company is held at its wait, and `a'` acts. -/
theorem Follows.behindHeld {K : Race σ' γ' α' → Activity σ' β'} {v : Wake σ'} {leaveC : σ' → σ'}
    {rest : Activity σ' γ'} (hleaveC : ∀ s, Unseen view s (leaveC s))
    (hboth : ∀ {r b' n}, D r b' n →
      Follows view E ((race (.wait v leaveC rest) b').bind K) ((revive r).bind f) n)
    (hrest : ∀ {b' : Activity σ' α'} {b : Activity σ α}, (∀ n, Follows view D b' b n) →
      ∀ n, Follows view E ((race rest b').bind K) (b.bind f) n)
    {a' : Activity σ' α'} {a : Activity σ α} (h : Follows view D a' a m) :
    Follows view E ((race (.wait v leaveC rest) a').bind K) (a.bind f) m := by
  induction h with
  | ended h => exact hboth h
  | blown h => exact hboth h
  | quiet hact _ ih => exact .quiet hact ih
  | step hact _ ih => exact .step hact ih
  | aside htask _ ih => exact .aside htask ih
  | @wait wake' wake leave' leave next' next m go hwake hleave hgo hnext hstay ihnext ihstay =>
    refine .wait (fun n => !v.holds n && go n) (fun n hn => ?_) (fun s => ?_) (fun n hn => ?_)
      (fun n hn => ?_) fun n hn hno => ?_
    · rw [Wake.holds_either, hwake n hn, Bool.or_true]
    · rw [← hleaveC s]
      exact hleave (leaveC s)
    · simp only [Bool.and_eq_true] at hn
      exact hgo n hn.2
    · simp only [Bool.and_eq_true, Bool.not_eq_true'] at hn
      refine .quiet rfl ?_
      simp only [hn.1]
      exact ihnext n hn.2
    · refine .quiet rfl ?_
      by_cases hv : v.holds n = true
      · simp only [hv, if_true]
        exact hrest (fun n' => .wait go hwake hleave hgo hnext hstay) n
      · simp only [hv, Bool.not_false, Bool.true_and] at hno
        rw [Wake.holds_either] at hn
        simp only [hv]
        exact ihstay n (by simpa [hv] using hn) hno

/-- **Company in front**: `a'` acts where `c` waits. -/
theorem Follows.behind {K : Race σ' γ' α' → Activity σ' β'} {g : γ' → α' → Activity σ' β'}
    (hp : ∀ {why}, ¬ p (.error why)) (hK : ∀ v rest, K (.left v rest) = rest.bind (g v))
    (hboth : ∀ {r b' v leaveC rest n}, D r b' n → (Activity.wait v leaveC rest).Quiet (Unseen view) p →
      Follows view E ((race (.wait v leaveC rest) b').bind K) ((revive r).bind f) n)
    (halone : ∀ {r b' v n}, D r b' n → p (.ok v) → Follows view E (b'.bind (g v)) ((revive r).bind f) n)
    {c : Activity σ' γ'} (hc : c.Quiet (Unseen view) p) {a' : Activity σ' α'} {a : Activity σ α}
    (h : ∀ n, Follows view D a' a n) (m : Moment σ') :
    Follows view E ((race c a').bind K) (a.bind f) m := by
  induction c generalizing a' a m with
  | done v =>
    show Follows view E (K (.left v a')) _ m
    rw [hK]
    refine Follows.bind (h m) (fun hd => ?_) fun hd => ?_
    · exact halone hd hc
    · exact halone hd hc
  | crash why => exact absurd hc hp
  | step act rest ih => exact .quiet (hc m).1 (ih m (hc m).2 h _)
  | detach task rest ih => exact .aside hc.1 (ih hc.2 h m)
  | wait v leaveC rest ih =>
    exact Follows.behindHeld hc.1 (fun hd => hboth hd hc) (fun hb n => ih hc.2 hb n) (h m)

end Company

/-! ## 5. Races of two that both have company -/

section Races

variable {DB : Except Crash β → Activity σ' β' → Moment σ' → Prop}
  {E : Except Crash (Race σ α β) → Activity σ' (Race σ' α' β') → Moment σ' → Prop}
  {N : σ' → σ' → Prop} {K : Background σ' → Prop} {p : Except Crash β' → Prop}

/-- The right ones act while the left ones are held. -/
theorem Follows.raceHeld {wake' : Wake σ'} {wake : Wake σ} {leave' : σ' → σ'} {leave : σ → σ}
    {next' : Activity σ' α'} {next : Activity σ α} {go : Moment σ' → Bool}
    (hwake : ∀ n : Moment σ', wake.holds (n.through view) = true → wake'.holds n = true)
    (hleave : ∀ s, view (leave' s) = leave (view s))
    (hgo : ∀ n : Moment σ', go n = true → wake.holds (n.through view) = true)
    (hnext : ∀ {b' : Activity σ' β'} {b : Activity σ β}, b'.Always N K p → (∀ n, Follows view DB b' b n) →
      ∀ n, go n = true → Follows view E (race next' b') (race next b) n)
    (hstay : ∀ {b' : Activity σ' β'} {b : Activity σ β}, b'.Always N K p → (∀ n, Follows view DB b' b n) →
      ∀ n, wake'.holds n = true → go n = false →
        Follows view E (race next' b') (race (.wait wake leave next) b) n)
    (hright : ∀ {y b' n}, DB (.ok y) b' n →
      Follows view E (race (.wait wake' leave' next') b') (.done (.right (.wait wake leave next) y)) n)
    (hcrash : ∀ {why b' n}, DB (.error why) b' n → b' = .crash why)
    (hE : ∀ {why n}, E (.error why) (.crash why) n)
    {b' : Activity σ' β'} {b : Activity σ β} (hq : b'.Always N K p) (h : Follows view DB b' b m) :
    Follows view E (race (.wait wake' leave' next') b') (race (.wait wake leave next) b) m := by
  induction h with
  | ended h => exact hright h
  | blown h =>
    rw [hcrash h]
    exact .step (hleave _) (.blown hE)
  | quiet hact _ ih => exact .quiet hact (ih (hq _).2)
  | step hact _ ih => exact .step hact (ih (hq _).2)
  | aside htask _ ih => exact .aside htask (ih hq.2)
  | @wait v' v leaveB' leaveB rest' rest m goB hwakeB hleaveB hgoB hnextB hstayB ihnext ihstay =>
    -- the left ones come first, whoever of them can go on
    refine .wait (fun n => if wake'.holds n = true then go n else goB n) (fun n hn => ?_) (fun s => ?_)
      (fun n hn => ?_) (fun n hn => ?_) fun n hn hno => ?_
    · rw [Wake.holds_either, Bool.or_eq_true] at hn ⊢
      exact hn.imp (hwake n) (hwakeB n)
    · exact (hleaveB _).trans (congrArg leaveB (hleave s))
    · rw [Wake.holds_either, Bool.or_eq_true]
      by_cases hw : wake'.holds n = true
      · exact .inl (hgo n (by simpa [hw] using hn))
      · exact .inr (hgoB n (by simpa [hw] using hn))
    · refine .step rfl ?_
      by_cases hw : wake'.holds n = true
      · have hn' : go n = true := by simpa [hw] using hn
        simp only [hw, hgo n hn', if_true]
        exact hnext hq (fun n' => .wait goB hwakeB hleaveB hgoB hnextB hstayB) n hn'
      · have hw' : wake.holds (n.through view) ≠ true := fun h => hw (hwake n h)
        simp only [hw, hw']
        exact ihnext n (by simpa [hw] using hn) hq.2
    · refine .quiet rfl ?_
      by_cases hw : wake'.holds n = true
      · simp only [hw, if_true] at hno ⊢
        exact hstay hq (fun n' => .wait goB hwakeB hleaveB hgoB hnextB hstayB) n hw hno
      · rw [Wake.holds_either] at hn
        simp only [hw] at hno ⊢
        exact ihstay n (by simpa [hw] using hn) hno hq.2

/-- **A race.**  The left ones do not crash, and the right ones crash in the same place. -/
theorem Follows.race {a' : Activity σ' α'} {a : Activity σ α} (hD : ∀ {why b' n}, ¬ D (.error why) b' n)
    (hleft : ∀ {x b' c' c n}, D (.ok x) b' n → c'.Always N K p → (∀ n, Follows view DB c' c n) →
      Follows view E (Activity.race b' c') (.done (.left x c)) n)
    (hright : ∀ {wake' wake leave' leave next' next y c' n},
      (∀ n, Follows view D (.wait wake' leave' next') (.wait wake leave next) n) → DB (.ok y) c' n →
      Follows view E (Activity.race (.wait wake' leave' next') c')
        (.done (.right (.wait wake leave next) y)) n)
    (hcrash : ∀ {why c' n}, DB (.error why) c' n → c' = .crash why)
    (hE : ∀ {why n}, E (.error why) (.crash why) n)
    (h : Follows view D a' a m) {b' : Activity σ' β'} {b : Activity σ β} (hq : b'.Always N K p)
    (hb : ∀ n, Follows view DB b' b n) :
    Follows view E (Activity.race a' b') (Activity.race a b) m := by
  induction h generalizing b' b with
  | ended h => exact hleft h hq hb
  | blown h => exact absurd h hD
  | quiet hact _ ih => exact .quiet hact (ih hq hb)
  | step hact _ ih => exact .step hact (ih hq hb)
  | aside htask _ ih => exact .aside htask (ih hq hb)
  | @wait wake' wake leave' leave next' next m go hwake hleave hgo hnext hstay ihnext ihstay =>
    exact Follows.raceHeld hwake hleave hgo (fun hq hb n hn => ihnext n hn hq hb)
      (fun hq hb n hn hno => ihstay n hn hno hq hb)
      (hright fun n => .wait go hwake hleave hgo hnext hstay) hcrash hE hq (hb m)

end Races

/-! ## 6. On a part, and watched -/

section Watched

variable {υ κ ω ω' : Type} {P : ω → ω' → Prop} {ended : σ → Prop}

theorem Follows.mono {E : Except Crash α → Activity σ' α' → Moment σ' → Prop} {a' : Activity σ' α'}
    {a : Activity σ α} (hD : ∀ {r b' n}, D r b' n → E r b' n) (h : Follows view D a' a m) :
    Follows view E a' a m := by
  induction h with
  | ended h => exact .ended (hD h)
  | blown h => exact .blown (hD h)
  | quiet hact _ ih => exact .quiet hact ih
  | step hact _ ih => exact .step hact ih
  | aside htask _ ih => exact .aside htask ih
  | wait go hwake hleave hgo _ _ ihnext ihstay => exact .wait go hwake hleave hgo ihnext ihstay

/-- What is left on a part is left of what acts there. -/
def OnPart (c : Cell υ σ') (D : Except Crash α → Activity σ' α' → Moment σ' → Prop) :
    Except Crash α → Activity υ α' → Moment υ → Prop :=
  fun r b n => ∃ b', b = b'.on c ∧ D r b' ⟨n.now, c.get n.state⟩

theorem Unseen.on (c : Cell υ σ') (s : υ) (t : σ') (h : Unseen view (c.get s) t) :
    Unseen (fun s => view (c.get s)) s (c.set t s) := by
  show view (c.get (c.set t s)) = view (c.get s)
  rw [c.get_set]
  exact h

/-- What is quiet stays so on a part. -/
theorem Quiet.on_part (c : Cell υ σ') {p : Except Crash α → Prop} {a : Activity σ' α}
    (h : a.Quiet (Unseen view) p) : (a.on c).Quiet (Unseen fun s => view (c.get s)) p :=
  Always.on (Unseen.on c) (fun _ hk => hk.on (Unseen.on c)) h

/-- **On a part**, where the rest is not seen. -/
theorem Follows.on (c : Cell υ σ') {a' : Activity σ' α'} {a : Activity σ α} {n : Moment υ}
    (h : Follows view D a' a ⟨n.now, c.get n.state⟩) :
    Follows (fun s => view (c.get s)) (OnPart c D) (a'.on c) a n := by
  generalize hm : (⟨n.now, c.get n.state⟩ : Moment σ') = m at h
  induction h generalizing n with
  | ended h =>
    subst hm
    exact .ended ⟨_, rfl, h⟩
  | blown h =>
    subst hm
    exact .blown ⟨_, rfl, h⟩
  | quiet hact _ ih =>
    subst hm
    exact .quiet (Unseen.on c _ _ hact) (ih (by rw [c.get_set]))
  | step hact _ ih =>
    subst hm
    refine .step ?_ (ih (by rw [c.get_set]))
    show view (c.get (c.set _ n.state)) = _
    rw [c.get_set]
    exact hact
  | aside htask _ ih => exact .aside (htask.on (Unseen.on c)) (ih hm)
  | wait go hwake hleave hgo _ _ ihnext ihstay =>
    refine .wait (fun n => go ⟨n.now, c.get n.state⟩) (fun n hn => hwake ⟨n.now, c.get n.state⟩ hn)
      (fun s => ?_) (fun n hn => hgo _ hn) (fun n hn => ihnext _ hn rfl)
      fun n hn hno => ihstay ⟨n.now, c.get n.state⟩ hn hno rfl
    show view (c.get (c.modify _ s)) = _
    rw [c.get_modify]
    exact hleave _

/-- **Company that lingers**: what is left, when the one alone has ended with `x`, is company, and then the
value is one that is shown for `x`.  Where the one alone has crashed, nothing is left. -/
def Lingers (view : σ' → σ) (ended : σ → Prop) (P : ω → ω' → Prop) :
    Except Crash ω → Activity σ' ω' → Moment σ' → Prop
  | .ok x, b', n => ended (view n.state) ∧ b'.Quiet (Unseen view) fun r => ∃ y, r = .ok y ∧ P x y
  | .error why, b', _ => b' = .crash why

/-- **Notes are company too**, where they are not seen. -/
theorem Follows.watching (c : Cell υ σ') {called : κ} {noted : Except Crash ω' → κ}
    {a' : Activity σ' ω'} {a : Activity σ ω} (h : ∀ n, Follows view (Lingers view ended P) a' a n)
    (n : Moment (Watched υ κ)) :
    Follows (fun s => view ((Watched.part c).get s))
      (Lingers (fun s => view ((Watched.part c).get s)) ended P)
      (Activity.watching called noted (a'.on (Watched.part c))) a n := by
  have hnote : ∀ (k : κ) (n : Moment (Watched υ κ)),
      Unseen (fun s => view ((Watched.part c).get s)) n.state (Watched.noted k n) := fun _ _ => rfl
  refine .quiet (hnote _ _) ?_
  rw [← caught_revive a]
  have hcaught : Follows (fun s => view ((Watched.part c).get s))
      (fun r b n => ∃ r', r = .ok r' ∧ ∃ b', b = b'.caught ∧
        OnPart (Watched.part c) (Lingers view ended P) r' b' n)
      (a'.on (Watched.part c)).caught a.caught ⟨n.now, Watched.noted called n⟩ :=
    (Follows.on (Watched.part c) (h _)).caught fun {r b' n} hd => ⟨r, rfl, b', rfl, hd⟩
  refine hcaught.bind ?_ ?_
  · rintro r b n ⟨r', hr, b', rfl, b₀, rfl, hd⟩
    cases hr
    cases r with
    | ok x =>
      refine .ended ⟨hd.1, ?_⟩
      refine Always.bind (Always.caught (q := fun r => ∃ y, r = .ok (.ok y) ∧ P x y)
        ((Quiet.on_part (Watched.part c) hd.2).mono (fun _ _ h => h) (fun _ h => h) ?_)) ?_ ?_
      · rintro r ⟨y, rfl, hy⟩
        exact ⟨y, rfl, hy⟩
      · rintro _ ⟨y, heq, hy⟩
        cases heq
        exact fun n => ⟨hnote _ _, y, rfl, hy⟩
      · rintro why ⟨y, heq, -⟩
        cases heq
    | error why =>
      cases hd
      exact .quiet (hnote _ _) (.blown rfl)
  · rintro why b n ⟨r', hr, -⟩
    cases hr

end Watched

end Activity

end ImageImport
