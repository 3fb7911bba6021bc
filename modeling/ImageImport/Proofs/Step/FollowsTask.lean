/-
# A guarded task with company follows the task

A task and its cancel that both have company are raced with the context, and with each other, in the same way
as the two alone.  Main statement: `endTask_follows`, what the whole ends with is what the two alone end with,
and when they have ended it is only the company that goes on.

One thing can happen that cannot happen to the two alone: the task is at its end and its company is not, and
the step is asked to stop.  Then the answer has to be that nothing was interrupted (`refuses`), and it makes
no difference.
-/
import ImageImport.Proofs.Concurrency.Independence
import ImageImport.Proofs.Step.Outcome

namespace ImageImport

open Activity

variable {σ σ' β β' : Type} {view : σ' → σ}

/-! ## 1. What is left -/

/-- **What is left of a task with company** when the task has ended with `v`: its value; or company, and then
`ended` is true of what is seen, and the value is the one that is shown for `v`. -/
def TaskRest (view : σ' → σ) (ended : σ → Prop) (Shows : β → β' → Prop) :
    Except Crash β → Activity σ' β' → Moment σ' → Prop
  | .ok v, b', m => (∃ v', b' = .done v' ∧ Shows v v') ∨
      (ended (view m.state) ∧ b'.Quiet (Unseen view) fun r => ∃ v', r = .ok v' ∧ Shows v v')
  | .error _, _, _ => False

/-- What is left of a cancel with company when it has answered. -/
abbrev CancelRest (view : σ' → σ) : Except Crash Bool → Activity σ' Bool → Moment σ' → Prop :=
  Lingers view (fun _ => True) Eq

/-- The same end, but that a step may have been asked in vain. -/
def SameEnd (Shows : β → β' → Prop) (x : TaskEnd β) (x' : TaskEnd β') : Prop :=
  Shows x.1 x'.1 ∧ (x'.2 = x.2 ∨ (x.2 = none ∧ ∃ e, x'.2 = some (e, false)))

/-- What is left when the task has been brought to its end. -/
def EndRest (view : σ' → σ) (Shows : β → β' → Prop) :
    Except Crash (TaskEnd β) → Activity σ' (TaskEnd β') → Moment σ' → Prop
  | .ok x, b', m => b'.Meets (Terms.unseen view) (fun _ _ => True)
      (fun r _ => ∃ x', r = .ok x' ∧ SameEnd Shows x x') m
  | .error why, b', _ => b' = .crash why

variable {ended : σ → Prop} {Shows : β → β' → Prop} {p : Except Crash β' → Prop} {v : β}

theorem CancelRest.of_quiet {i : Bool} {b' : Activity σ' Bool} {m : Moment σ'}
    (h : b'.Quiet (Unseen view) fun r => r = .ok i) : CancelRest view (.ok i) b' m := by
  refine ⟨trivial, h.mono (fun _ _ hs => hs) (fun _ hk => hk) ?_⟩
  rintro r rfl
  exact ⟨i, rfl, rfl⟩

theorem CancelRest.quiet {i : Bool} {b' : Activity σ' Bool} {m : Moment σ'}
    (h : CancelRest view (.ok i) b' m) : b'.Quiet (Unseen view) fun r => r = .ok i := by
  refine h.2.mono (fun _ _ hs => hs) (fun _ hk => hk) ?_
  rintro r ⟨_, rfl, rfl⟩
  rfl

/-- Either way it is quiet. -/
theorem TaskRest.quiet {b' : Activity σ' β'} {m : Moment σ'} (h : TaskRest view ended Shows (.ok v) b' m) :
    b'.Quiet (Unseen view) fun r => ∃ v', r = .ok v' ∧ Shows v v' := by
  rcases h with ⟨v', rfl, hv⟩ | ⟨-, hq⟩
  · exact ⟨v', rfl, hv⟩
  · exact hq

/-- What is quiet and ends so is what may be left. -/
theorem EndRest.of_quiet {x : TaskEnd β} {b' : Activity σ' (TaskEnd β')} {m : Moment σ'}
    (h : b'.Quiet (Unseen view) fun r => ∃ x', r = .ok x' ∧ SameEnd Shows x x') :
    EndRest view Shows (.ok x) b' m := h.meets_unseen

/-! ## 2. Asked to stop -/

section

variable {cancel' : String → Activity σ' Bool} {cancel : String → Activity σ Bool}

/-- **Where only company is left of the task**, the step is asked in vain. -/
theorem endAsked_refused (habandon : ∀ reason s, Unseen view s ((cancel' reason).abandon s))
    (hrefuse : ∀ reason {n : Moment σ'}, ended (view n.state) → (cancel' reason).Meets (Terms.unseen view)
      (fun _ _ => True) (fun r _ => r = .ok false) n)
    {rest : Activity σ' β'} (hq : rest.Quiet (Unseen view) fun r => ∃ v', r = .ok v' ∧ Shows v v')
    (e : ImportError) {m : Moment σ'} (hm : ended (view m.state)) :
    (endAsked cancel' e rest).Meets (Terms.unseen view) (fun _ _ => True)
      (fun r _ => ∃ x', r = .ok x' ∧ SameEnd Shows (v, none) x') m := by
  have hcancel : (cancel' (cancelReason e)).Ready (Terms.unseen view) (fun _ _ => True)
      (fun r _ => r = .ok false) m := by
    refine ⟨habandon _, fun n hn _ _ => hrefuse _ ?_⟩
    rw [show view n.state = view m.state from hn]
    exact hm
  have hrace := Meets.race (Y := fun _ => True) Terms.unseen_split (fun _ _ => trivial)
    (fun _ => trivial) id hq.meets_unseen trivial hcancel
  refine Meets.bind (Meets.weaken (fun _ => trivial) (fun {r n} h => ?_) hrace)
  match r, h with
  | .ok (.left v' rest), ⟨⟨_, hv, hshows⟩, _, hrest⟩ =>
    cases hv
    refine Meets.bind (Meets.weaken id (fun {r _} hr => ?_) (hrest.meets trivial))
    cases hr
    exact ⟨_, rfl, hshows, .inr ⟨rfl, e, rfl⟩⟩
  | .ok (.right rest i), ⟨hi, _, hrest⟩ =>
    cases hi
    refine Meets.bind (Meets.weaken id (fun {r _} hr => ?_) (hrest.meets trivial))
    obtain ⟨v', rfl, hshows⟩ := hr
    exact ⟨_, rfl, hshows, .inr ⟨rfl, e, rfl⟩⟩
  | .error why, ⟨s, .inl ⟨⟨_, hv, _⟩, _⟩⟩ => cases hv
  | .error why, ⟨s, .inr ⟨hi, _⟩⟩ => cases hi

/-- Two that are quiet end quietly together. -/
theorem join_quiet {task : Activity σ' β'} {c : Activity σ' Bool} {i : Bool} (e : ImportError)
    (htask : task.Quiet (Unseen view) fun r => ∃ v', r = .ok v' ∧ Shows v v')
    (hc : c.Quiet (Unseen view) fun r => r = .ok i) :
    ((race task c).bind (joinAsked e)).Quiet (Unseen view) fun r =>
      ∃ x', r = .ok x' ∧ SameEnd Shows (v, some (e, i)) x' := by
  have htrans : ∀ s t u : σ', Unseen view s t → Unseen view t u → Unseen view s u :=
    fun _ _ _ h h' => h'.trans h
  refine (htask.race_both (Unseen.refl view) htrans hc).bind (fun {r} hr => ?_) fun {why} hr => ?_
  · match r, hr with
    | .left v' rest, ⟨⟨_, hv, hshows⟩, hrest⟩ =>
      cases hv
      refine Always.bind hrest (fun hi => ?_) fun hi => ?_
      · cases hi
        exact ⟨_, rfl, hshows, .inl rfl⟩
      · cases hi
    | .right rest i', ⟨hi, hrest⟩ =>
      cases hi
      refine Always.bind hrest (fun {v'} hv => ?_) fun hv => ?_
      · obtain ⟨_, hv', hshows⟩ := hv
        cases hv'
        exact ⟨_, rfl, hshows, .inl rfl⟩
      · obtain ⟨_, hv', -⟩ := hv
        cases hv'
  · rcases hr with ⟨_, hv, -⟩ | hi
    · cases hv
    · cases hi

/-- **Where the task is at work**, both have company to the end. -/
theorem endAsked_follows {task' : Activity σ' β'} {task : Activity σ β}
    (hcancel : ∀ reason n, Follows view (CancelRest view) (cancel' reason) (cancel reason) n)
    (htask : ∀ n, Follows view (TaskRest view ended Shows) task' task n) (e : ImportError)
    (m : Moment σ') :
    Follows view (EndRest view Shows) (endAsked cancel' e task') (endAsked cancel e task) m := by
  refine Follows.onward rfl (Follows.race (fun h => h) ?_ ?_ (fun h => h) rfl (htask m) (quiet_any _)
    (hcancel _))
  · -- the task has ended first, and the cancel goes on with company in front
    intro v b' c' c n hb _ hc
    refine .ended (Follows.behind (g := fun v' i => .done (v', some (e, i))) ?_ (fun _ _ => rfl) ?_ ?_
      hb.quiet hc n)
    · rintro why ⟨v', hv, -⟩
      cases hv
    · intro r d' u leaveC rest n hd htask
      cases r with
      | ok i => exact .ended (.of_quiet (join_quiet e htask (CancelRest.quiet hd)))
      | error why =>
        cases hd
        exact .quiet (htask.1 _) (.blown rfl)
    · rintro r d' v' n hd ⟨_, hv, hshows⟩
      cases hv
      cases r with
      | ok i =>
        refine .ended (.of_quiet (Always.bind (CancelRest.quiet hd) (fun hi => ?_) fun hi => ?_))
        · cases hi
          exact ⟨_, rfl, hshows, .inl rfl⟩
        · cases hi
      | error why =>
        cases hd
        exact .blown rfl
  · -- the cancel has answered first, and the task goes on with company behind
    intro wake' wake leave' leave next' next i c' n ht hi
    refine .ended (Follows.ahead (g := fun i v' => .done (v', some (e, i))) ?_ (fun _ _ => rfl) ?_ ?_
      (ht n) (CancelRest.quiet hi))
    · intro why hcrash
      cases hcrash
    · intro r d' c n hd hc
      cases r with
      | ok v => exact .ended (.of_quiet (join_quiet e hd.quiet hc))
      | error why => exact hd.elim
    · intro r d' i' n hd hi'
      cases hi'
      cases r with
      | ok v =>
        refine .ended (.of_quiet (Always.bind hd.quiet (fun {v'} hv => ?_) fun hv => ?_))
        · obtain ⟨_, hv', hshows⟩ := hv
          cases hv'
          exact ⟨_, rfl, hshows, .inl rfl⟩
        · obtain ⟨_, hv', -⟩ := hv
          cases hv'
      | error why => exact hd.elim

/-! ## 3. Under a context -/

theorem done_leavesNothing (ctx : RunContext) : (ctx.done : Activity σ ImportError).LeavesNothing :=
  .bind (.waitOr _ _) fun _ => .step _ fun _ => .done _

theorem done_quiet (view : σ' → σ) (ctx : RunContext) :
    (ctx.done : Activity σ' ImportError).Quiet (Unseen view) fun r => ∃ e, r = .ok e := by
  have hwait : (waitOr ⟨fun _ => false, ctx.endsAt⟩ id : Activity σ' Unit).Quiet (Unseen view)
      fun r => r = .ok () := always_waitOr (q := fun r => r = .ok ()) (Unseen.refl view) rfl _
  refine hwait.bind (fun _ m => ⟨rfl, _, rfl⟩) fun hcrash => ?_
  cases hcrash

/-- **A task under a context, with company.**  `cancel'` has to answer that nothing was interrupted when the
task has ended. -/
theorem endTask_follows (ctx : RunContext) {task' : Activity σ' β'} {task : Activity σ β}
    (habandon : ∀ reason s, Unseen view s ((cancel' reason).abandon s))
    (hrefuses : ∀ reason {n : Moment σ}, ended n.state → Instantly false (cancel reason) n)
    (hcancel : ∀ reason n, Follows view (CancelRest view) (cancel' reason) (cancel reason) n)
    (htask : ∀ n, Follows view (TaskRest view ended Shows) task' task n) (m : Moment σ') :
    Follows view (EndRest view Shows) (endTask ctx cancel' task') (endTask ctx cancel task) m := by
  have hrefuse : ∀ reason {n : Moment σ'}, ended (view n.state) →
      (cancel' reason).Meets (Terms.unseen view) (fun _ _ => True) (fun r _ => r = .ok false) n :=
    fun reason n hn => (hcancel reason n).meets_unseen (hrefuses reason hn) fun hd => (CancelRest.quiet hd).meets_unseen
  have hmirrors : Mirrors view True Eq (ctx.done : Activity σ' ImportError) ctx.done := done_mirrors ctx
  have hdone := hmirrors.follows (done_leavesNothing ctx)
  refine Follows.onward rfl (Follows.race (fun h => h) ?_ ?_ (fun h => h) rfl (htask m)
    (done_quiet view ctx) hdone)
  · -- the task has ended in time, and its company may be caught by the end of the context
    intro v b' c' c n hb hc _
    refine .ended (.ended ?_)
    rcases hb with ⟨v', rfl, hshows⟩ | ⟨hended, hq⟩
    · exact ⟨_, rfl, hshows, .inl rfl⟩
    · have htrans : ∀ s t u : σ', Unseen view s t → Unseen view t u → Unseen view s u :=
        fun _ _ _ h h' => h'.trans h
      have hrace := Quiet.meets_unseen (m := n) (hq.race_both (Unseen.refl view) htrans hc)
      refine Meets.bind (Meets.weaken id (fun {r n'} hr => ?_) hrace.and_unseen)
      match r, hr with
      | .ok (.left v' rest), ⟨⟨⟨_, hv, hshows⟩, _⟩, _⟩ =>
        cases hv
        exact ⟨_, rfl, hshows, .inl rfl⟩
      | .ok (.right rest e), ⟨⟨_, hrest⟩, hsame⟩ =>
        exact endAsked_refused habandon hrefuse hrest e (by rw [hsame]; exact hended)
      | .error why, ⟨.inl ⟨_, hv, _⟩, _⟩ => cases hv
      | .error why, ⟨.inr ⟨_, he⟩, _⟩ => cases he
  · -- the context is over, and the step is asked
    intro wake' wake leave' leave next' next e c' n ht he
    obtain ⟨_, rfl, rfl⟩ := he
    exact .ended (endAsked_follows hcancel ht _ n)

end

/-! ## 4. The task of a step -/

section

variable {ε α ω : Type} {P : ω → Except ε α → Prop} {ctx : RunContext} {ofError : ImportError → ε}

/-- **The task of work that is alone.**  It says which error the context is over with when the work must not
start. -/
def loneTask (ctx : RunContext) (work : Activity σ ω) : Activity σ (Except Crash (ImportError ⊕ ω)) :=
  Activity.caught <| Activity.spawned <| Activity.clock.bind fun now =>
    match ctx.err now with
    | some e => .done (.inl e)
    | none => work.bind fun x => .done (.inr x)

/-- What the task of a step ends with, for what the one alone does. -/
def ShowsTask (ofError : ImportError → ε) (P : ω → Except ε α → Prop) :
    Except Crash (ImportError ⊕ ω) → Except Crash (Except ε α) → Prop
  | .ok (.inl e), r' => r' = .ok (.error (ofError e))
  | .ok (.inr x), r' => ∃ y, r' = .ok y ∧ P x y
  | .error why, r' => r' = .error why

theorem stepTask_follows {work' : Activity σ' (Except ε α)} {work : Activity σ ω}
    (hwork : ∀ n, Follows view (Lingers view ended P) work' work n) (m : Moment σ') :
    Follows view (TaskRest view ended (ShowsTask ofError P)) (stepTask ctx ofError work')
      (loneTask ctx work) m := by
  -- before it is caught
  have hguarded : ∀ n, Follows view (fun r b' n => TaskRest view ended (ShowsTask ofError P) (.ok r) b'.caught n)
      (guardedWork ctx ofError work') (Activity.clock.bind fun now =>
        match ctx.err now with
        | some e => .done (.inl e)
        | none => work.bind fun x => .done (.inr x)) n := by
    intro n
    refine .step rfl ?_
    show Follows view _ (match ctx.err n.now with
      | some e => _
      | none => _) (match ctx.err n.now with
      | some e => _
      | none => _) n
    cases ctx.err n.now with
    | some e => exact .ended (.inl ⟨_, rfl, rfl⟩)
    | none =>
      have hbind : Follows view
          (fun r b' n => TaskRest view ended (ShowsTask ofError P) (.ok r) b'.caught n)
          (work'.bind Activity.done) (work.bind fun x => .done (.inr x)) n :=
        (hwork n).bind (fun {x b' n'} hd => ?_) fun {why b' n'} hd => ?_
      · rwa [bind_done] at hbind
      · rw [bind_done]
        refine .ended (.inr ⟨hd.1, Always.caught (hd.2.mono (fun _ _ h => h) (fun _ h => h) ?_)⟩)
        rintro r ⟨y, rfl, hy⟩
        exact ⟨_, rfl, y, rfl, hy⟩
      · rw [hd]
        exact .blown (.inl ⟨_, rfl, rfl⟩)
  exact (Follows.spawned hguarded).caught fun hd => hd

end

end ImageImport
