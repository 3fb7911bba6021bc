/-
# An inflation with a shadow follows the main inflation

To the main inflation its shadow is company: it acts beside it, on what is its own.  Main statements:
`inflate_follows` and `cancel_follows`, an inflation with a shadow follows the main inflation alone, and so do
their cancels.  When the main inflation has ended, only company is left, and what is shown in the end is what
the main inflation has ended with, compared with the shadow (`Compared`).

All of it is for a main inflation that leaves no task behind, and a shadow whose cancels do not crash: the
facade waits for them, and a crash there is a crash of its own.
-/
import ImageImport.Inflation.Shadowed
import ImageImport.Proofs.Step.FollowsTask

namespace ImageImport

open Activity

variable {σ σ' α β : Type} {view : σ' → σ}

/-! ## 1. Quiet company -/

section Quiet

variable {N : σ → σ → Prop} {p : Except Crash α → Prop} {q : Except Crash β → Prop}

/-- What is left of a quiet task that has been waited for long enough. -/
def QuietOrEnded (N : σ → σ → Prop) (p : Except Crash α → Prop) :
    Except Crash (α ⊕ Activity σ α) → Prop
  | .ok (.inl v) => p (.ok v)
  | .ok (.inr rest) => rest.Quiet N p
  | .error why => p (.error why)

theorem quiet_waitedFor (hN : ∀ s, N s s) (htrans : ∀ s t u, N s t → N t u → N s u) (ms : Nat)
    {task : Activity σ α} (h : task.Quiet N p) : (waitedFor ms task).Quiet N (QuietOrEnded N p) := by
  have hsleep : (sleep ms : Activity σ Unit).Quiet N fun r => r = .ok () :=
    always_sleep (q := fun r => r = .ok ()) hN rfl ms
  refine (Always.race_both hN htrans h hsleep).bind (fun {r} hr => ?_) fun {why} hr => ?_
  · match r, hr with
    | .left v _, ⟨hv, _⟩ => exact hv
    | .right rest _, ⟨_, hrest⟩ => exact hrest
  · rcases hr with hr | hr
    · exact hr
    · cases hr

theorem quiet_within (hN : ∀ s, N s s) (htrans : ∀ s t u, N s t → N t u → N s u) (ms : Nat)
    {a : Activity σ α} (hp : ∀ {why}, ¬ p (.error why)) (h : a.Quiet N p) :
    (within ms a).Quiet N fun r => ∃ v, r = .ok v := by
  refine (quiet_waitedFor hN htrans ms h).bind (fun {r} hr => ?_) fun hr => absurd hr hp
  cases r with
  | inl v => exact ⟨_, rfl⟩
  | inr rest => exact fun m => ⟨Always.abandon hN hr m.state, _, rfl⟩

theorem quiet_alongside (hN : ∀ s, N s s) (htrans : ∀ s t u, N s t → N t u → N s u)
    {task : Activity σ α} {a : Activity σ β} (hp : ∀ {why}, ¬ p (.error why))
    (hq : ∀ {why}, ¬ q (.error why)) (ht : task.Quiet N p) (ha : a.Quiet N q) :
    (alongside task a).Quiet N fun r => ∃ rest v, r = .ok (rest, v) ∧ rest.Quiet N p := by
  refine (Always.race_both hN htrans ht ha).bind (fun {r} hr => ?_) fun {why} hr => ?_
  · match r, hr with
    | .left v rest, ⟨hv, hrest⟩ =>
      exact hrest.bind (fun _ => ⟨_, _, rfl, hv⟩) fun hcrash => absurd hcrash hq
    | .right rest v, ⟨_, hrest⟩ => exact ⟨_, _, rfl, hrest⟩
  · exact (hr.elim hp hq).elim

end Quiet

/-! ## 2. The main inflation alone -/

/-- **The main inflation alone**, which notes in the cell that it has ended. -/
def loneInflate (main : Inflater σ) (ended : Cell σ Bool) :
    Activity σ (Except InflationFailure Inflation) := do
  let result ← main.inflate
  .update (ended.set true)
  return result

/-- **Its cancel**: once the inflation has ended, nothing was interrupted. -/
def loneCancel (main : Inflater σ) (ended : Cell σ Bool) (reason : String) : Activity σ Bool := do
  if ← Activity.read ended.get then return false else main.cancel reason

/-- **What makes a shadow company.**  Seen through `view` there is the main inflation and whether it has ended;
the shadow, and what is written to the log, is not seen. -/
structure ShadowedInflation.Beside (view : σ' → σ) (i : ShadowedInflation σ') (main : Inflater σ)
    (ended : Cell σ Bool) : Prop where
  mainInflate : Mirrors view True Eq i.main.inflate main.inflate
  mainCancel : ∀ reason, Mirrors view True Eq (i.main.cancel reason) (main.cancel reason)
  inflateTidy : main.inflate.LeavesNothing
  cancelTidy : ∀ reason, (main.cancel reason).LeavesNothing
  get : ∀ s, i.mainFinished.get s = ended.get (view s)
  set : ∀ b s, view (i.mainFinished.set b s) = ended.set b (view s)
  shadowInflate : i.shadow.inflate.Quiet (Unseen view) fun _ => True
  shadowCancel : ∀ reason, (i.shadow.cancel reason).Quiet (Unseen view) fun r => ∃ b, r = .ok b
  log : ∀ severity line s, Unseen view s (i.platform.log severity line s)

/-- **What is shown for what the main inflation has ended with.** -/
def Compared (result shown : Except InflationFailure Inflation) : Prop :=
  ∃ shadow, shown = addShadow (compareInflations result shadow) shadow result

namespace ShadowedInflation

variable {i : ShadowedInflation σ'} {main : Inflater σ} {ended : Cell σ Bool} {m : Moment σ'}

/-- A shadow on its way does not crash, whatever it ends with. -/
def Shadowing (view : σ' → σ) (task : ShadowTask σ') : Prop :=
  task.Quiet (Unseen view) fun r => ∃ v, r = .ok v

theorem unseen_trans (s t u : σ') (h : Unseen view s t) (h' : Unseen view t u) : Unseen view s u :=
  h'.trans h

/-! ## 3. When the main inflation has ended -/

theorem Beside.quiet_collect (h : i.Beside view main ended) {task : ShadowTask σ'}
    (ht : Shadowing view task) : (i.collect task).Quiet (Unseen view) fun r => ∃ v, r = .ok v := by
  have hcrash : ∀ {β : Type} {why : Crash}, ¬ ∃ v : β, Except.error why = Except.ok v := by
    rintro β why ⟨v, hv⟩
    cases hv
  refine (quiet_waitedFor (Unseen.refl view) unseen_trans _ ht).bind (fun {r} hr => ?_)
    fun hr => absurd hr hcrash
  cases r with
  | inl v => exact ⟨_, rfl⟩
  | inr rest =>
    -- the shadow has outlived its grace period, and is told
    refine fun m => ⟨h.log _ _ _, ?_⟩
    show Quiet (Unseen view) _ ((alongside rest (within _ _)).bind _)
    refine Always.bind (quiet_alongside (Unseen.refl view) unseen_trans hcrash hcrash hr
      (quiet_within (Unseen.refl view) unseen_trans _ hcrash (h.shadowCancel _))) ?_ ?_
    · rintro _ ⟨rest', v, heq, hrest'⟩
      cases heq
      exact quiet_within (Unseen.refl view) unseen_trans _ hcrash hrest'
    · rintro why ⟨_, _, heq, -⟩
      cases heq

theorem Beside.quiet_conclude (h : i.Beside view main ended) {task : ShadowTask σ'}
    (ht : Shadowing view task) (result : Except InflationFailure Inflation) :
    (i.conclude task result).Quiet (Unseen view) fun r => ∃ shown, r = .ok shown ∧ Compared result shown := by
  refine (h.quiet_collect ht).bind (fun {shadow} _ => ?_) fun hcrash => ?_
  · by_cases hv : compareInflations result shadow ≠ matchVerdict
    · rw [if_pos hv]
      exact fun m => ⟨h.log _ _ _, _, rfl, shadow, rfl⟩
    · rw [if_neg hv]
      exact ⟨_, rfl, shadow, rfl⟩
  · obtain ⟨v, hv⟩ := hcrash
    cases hv

/-- **The shadow is left to itself** at the instant at which the main inflation crashes. -/
theorem settle_follows {E : Except Crash α → Activity σ' β → Moment σ' → Prop} {why : Crash}
    (hE : ∀ n, E (.error why) (.crash why) n) {task : ShadowTask σ'} (ht : Shadowing view task) :
    Follows view E (task.settle.bind fun rest => Activity.detach rest.background (Activity.crash why))
      (Activity.crash why) m := by
  induction task generalizing m with
  | done v => exact .aside trivial (.blown (hE _))
  | crash why' =>
    obtain ⟨v, hv⟩ := ht
    cases hv
  | step act next ih => exact .quiet (ht m).1 (ih m (ht m).2)
  | detach task next ih => exact .aside ht.1 (ih ht.2)
  | wait wake leave next ih =>
    refine .quiet rfl ?_
    by_cases hh : wake.holds m = true
    · simp only [hh, if_true]
      exact ih ht.2
    · simp only [hh]
      exact .aside (Quiet.background (Unseen.refl view) ht) (.blown (hE _))

/-! ## 4. The inflation -/

/-- What is left of the main inflation when it has ended: telling the shadow, if it has failed. -/
def MainRest (view : σ' → σ) (ended : Cell σ Bool) :
    Except Crash (Except InflationFailure Inflation) →
      Activity σ' (Except InflationFailure Inflation) → Moment σ' → Prop
  | .ok x, b', m => ended.get (view m.state) = true ∧ b'.Quiet (Unseen view) fun r => r = .ok x
  | .error why, b', _ => b' = .crash why

theorem Beside.runMain_follows (h : i.Beside view main ended) :
    Follows view (MainRest view ended) i.runMain (loneInflate main ended) m := by
  refine (h.mainInflate.follows h.inflateTidy m).bind (fun {x b' n} hd => ?_) fun {why b' n} hd => ?_
  · obtain ⟨_, rfl, rfl⟩ := hd
    refine .step (h.set true _) (.ended ⟨?_, ?_⟩)
    · show ended.get (view (i.mainFinished.set true n.state)) = true
      rw [h.set, ended.get_set]
    · show Quiet (Unseen view) _ (ite _ _ _)
      split
      · exact rfl
      · refine Always.bind (h.shadowCancel _) (fun _ => rfl) fun hcrash => ?_
        obtain ⟨_, hb⟩ := hcrash
        cases hb
  · cases hd
    exact .blown rfl

/-- The same when it is caught. -/
def CaughtRest (view : σ' → σ) (ended : Cell σ Bool) :
    Except Crash (Except Crash (Except InflationFailure Inflation)) →
      Activity σ' (Except Crash (Except InflationFailure Inflation)) → Moment σ' → Prop
  | .ok (.ok x), b', m => ended.get (view m.state) = true ∧ b'.Quiet (Unseen view) fun r => r = .ok (.ok x)
  | .ok (.error why), b', _ => b' = .done (.error why)
  | .error _, _, _ => False

/-- What is left of the main inflation and the shadow when the main inflation has ended. -/
def LeadRest (view : σ' → σ) (ended : Cell σ Bool) :
    Except Crash (Except Crash (Except InflationFailure Inflation)) →
      Activity σ' (ShadowTask σ' × Except Crash (Except InflationFailure Inflation)) → Moment σ' → Prop
  | .ok (.ok x), b', m => ended.get (view m.state) = true ∧
      b'.Quiet (Unseen view) fun r => ∃ task, r = .ok (task, .ok x) ∧ Shadowing view task
  | .ok (.error why), b', _ => ∃ task, b' = .done (task, .error why) ∧ Shadowing view task
  | .error _, _, _ => False

/-- Whoever of the two has ended first, the main inflation is waited for. -/
def joinLeading : Race σ' β α → Activity σ' (Activity σ' α × β)
  | .left value rest => .done (rest, value)
  | .right rest value => rest.bind fun w => .done (.done value, w)

theorem leading_eq (a : Activity σ' β) (task : Activity σ' α) :
    leading a task = (race a task).bind joinLeading := by
  unfold leading
  congr 1

theorem Beside.leading_follows (h : i.Beside view main ended) :
    Follows view (LeadRest view ended)
      (leading i.runMain.caught (Activity.spawned i.shadow.inflate).caught)
      (loneInflate main ended).caught m := by
  have hmain : Follows view (CaughtRest view ended) i.runMain.caught (loneInflate main ended).caught m := by
    refine h.runMain_follows.caught fun {r b' n} hd => ?_
    match r, hd with
    | .ok x, ⟨hended, hq⟩ =>
      refine ⟨hended, Always.caught (hq.mono (fun _ _ hs => hs) (fun _ hk => hk) ?_)⟩
      rintro r rfl
      rfl
    | .error why, hd =>
      cases hd
      rfl
  have hshadow : Shadowing view (Activity.spawned i.shadow.inflate).caught :=
    Always.caught (Always.spawned (Unseen.refl view)
      (h.shadowInflate.mono (fun _ _ hs => hs) (fun _ hk => hk) fun {r} _ => ⟨r, rfl⟩))
  have hahead := hmain.ahead (f := Activity.done) (E := LeadRest view ended) (K := joinLeading)
    (g := fun v w => .done (.done v, w)) (p := fun r => ∃ v, r = .ok v) ?_ (fun _ _ => rfl) ?_ ?_ hshadow
  · rw [bind_done] at hahead
    rw [leading_eq]
    exact hahead
  · rintro why ⟨v, hv⟩
    cases hv
  · -- the main inflation ends with its shadow on its way
    intro r b' c n hd hc
    match r, hd with
    | .ok (.ok x), ⟨hended, hq⟩ =>
      refine .ended ⟨hended, (hq.race_both (Unseen.refl view) unseen_trans hc).bind (fun {r} hr => ?_)
        fun {why} hr => ?_⟩
      · match r, hr with
        | .left value rest, ⟨hv, hrest⟩ =>
          cases hv
          exact ⟨rest, rfl, hrest⟩
        | .right rest v, ⟨hv, hrest⟩ =>
          refine Always.bind hrest (fun {w} hw => ?_) fun hw => ?_
          · cases hw
            exact ⟨_, rfl, hv⟩
          · cases hw
      · rcases hr with hv | ⟨_, hv⟩
        · cases hv
        · cases hv
    | .ok (.error why), hd =>
      cases hd
      exact .ended ⟨c, rfl, hc⟩
  · -- the main inflation ends when its shadow has
    intro r b' v n hd hv
    match r, hd with
    | .ok (.ok x), ⟨hended, hq⟩ =>
      refine .ended ⟨hended, Always.bind hq (fun {w} hw => ?_) fun hw => ?_⟩
      · cases hw
        exact ⟨_, rfl, hv⟩
      · cases hw
    | .ok (.error why), hd =>
      cases hd
      exact .ended ⟨_, rfl, hv⟩

/-- **An inflation with a shadow follows the main inflation alone.** -/
theorem Beside.inflate_follows (h : i.Beside view main ended) :
    Follows view (Lingers view (fun s => ended.get s = true) Compared) i.inflate
      (loneInflate main ended) m := by
  rw [← caught_revive (loneInflate main ended)]
  refine h.leading_follows.bind (fun {r b' n} hd => ?_) fun hd => hd.elim
  match r, hd with
  | .ok x, ⟨hended, hq⟩ =>
    refine .ended ⟨hended, Always.bind hq ?_ ?_⟩
    · rintro _ ⟨task, heq, htask⟩
      cases heq
      exact h.quiet_conclude htask x
    · rintro why ⟨_, heq, -⟩
      cases heq
  | .error why, hd =>
    obtain ⟨task, rfl, htask⟩ := hd
    exact settle_follows (fun _ => rfl) htask

/-! ## 5. The cancel -/

/-- The answer of the main inflation, when both have answered. -/
def joinBoth : Race σ' Bool Bool → Activity σ' Bool
  | .left i rest => rest.bind fun _ => .done i
  | .right rest _ => rest

theorem both_eq (a b : Activity σ' Bool) :
    (both a b >>= fun x => Activity.done x.1) = (race a b.begun).bind joinBoth := by
  simp only [both, Bind.bind, bind_assoc]
  congr 1
  funext x
  cases x with
  | left i rest =>
    simp only [bind_assoc]
    rfl
  | right rest i =>
    simp only [bind_assoc]
    exact bind_done rest

/-- **The cancel of an inflation with a shadow follows that of the main inflation alone.** -/
theorem Beside.cancel_follows (h : i.Beside view main ended) (reason : String) :
    Follows view (CancelRest view) (i.cancel reason) (loneCancel main ended reason) m := by
  have hcancel : ∀ n, Follows view (CancelRest view)
      (both (i.main.cancel reason) (i.shadow.cancel reason) >>= fun x => Activity.done x.1)
      (main.cancel reason) n := by
    intro n
    have hshadow : (i.shadow.cancel reason).begun.Quiet (Unseen view) fun r => ∃ b, r = .ok b :=
      fun m => ⟨rfl, h.shadowCancel reason⟩
    have hahead := ((h.mainCancel reason).follows (h.cancelTidy reason) n).ahead (f := Activity.done)
      (E := CancelRest view) (K := joinBoth) (g := fun _ i => .done i) ?_ ?_ ?_ ?_ hshadow
    · rw [bind_done] at hahead
      rw [both_eq]
      exact hahead
    · rintro why ⟨b, hb⟩
      cases hb
    · intro rest v
      exact (bind_done rest).symm
    · -- the main inflation has answered, and its shadow is waited for
      intro r b' c n hd hc
      cases r with
      | ok i =>
        obtain ⟨i', rfl, hi⟩ := hd
        subst hi
        have hrest : (c.bind fun _ => Activity.done i').Quiet (Unseen view) fun r => r = .ok i' := by
          refine Always.bind hc (fun _ => rfl) fun hb => ?_
          obtain ⟨_, hb⟩ := hb
          cases hb
        exact .ended (.of_quiet hrest)
      | error why =>
        cases hd
        exact .quiet (hc.abandon (Unseen.refl view) _) (.blown rfl)
    · intro r b' v n hd _
      cases r with
      | ok i =>
        obtain ⟨_, rfl, rfl⟩ := hd
        exact .ended (.of_quiet rfl)
      | error why =>
        cases hd
        exact .blown rfl
  refine .step rfl ?_
  show Follows view (CancelRest view) (if i.mainFinished.get m.state = true then _ else _)
    (if ended.get (view m.state) = true then _ else _) m
  rw [h.get]
  split
  · refine .ended (.of_quiet (Always.bind (h.shadowCancel reason) (fun _ => rfl) fun hb => ?_))
    obtain ⟨_, hb⟩ := hb
    cases hb
  · exact hcancel m

/-- **Once the inflation has ended, nothing was interrupted.** -/
theorem loneCancel_refuses {n : Moment σ} (hn : ended.get n.state = true) (reason : String) :
    Instantly false (loneCancel main ended reason) n := by
  refine .step rfl ?_
  show Instantly false (if ended.get n.state = true then _ else _) n
  rw [if_pos hn]
  exact .done

end ShadowedInflation

end ImageImport
