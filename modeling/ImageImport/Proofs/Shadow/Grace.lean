/-
# The grace period of a shadow

Main statement: `shadow_grace`, over every run of an inflation with a shadow that nobody cancels.  Once the shadow
has been handed over to its grace period, the run returns within three such periods, with the outcome of the main
inflation and what the shadow adds to it.  A shadow is handed over when the main inflation has succeeded, or, when
it has failed, when the shadow has answered the cancel it was sent for that.

So three periods after the main inflation is what bounds a run whose main inflation succeeds.  Nothing bounds one
whose main inflation fails: that one cancel is waited for without a clock, while the same cancel is boxed in when
the shadow takes too long (`failure_outlasts_grace`).

That the waits are boxed is known on any terms (`collect_timely`); what is noted meanwhile is proved on those of the
task, as in `Proofs/Shadow/Guarded.lean`, and the two are put together by `Timely.and`.
-/
import ImageImport.Proofs.Concurrency.Releasing
import ImageImport.Proofs.Concurrency.Timely
import ImageImport.Proofs.Shadow.Outcome
import ImageImport.Rehearsal.Scene

namespace ImageImport

open Activity
open Watched (Adds)

variable {σ τ : Type}

/-! ## 1. The waits are boxed -/

namespace ShadowedInflation

/-- **A shadow is waited for no longer than three grace periods**, whatever it does and whoever acts meanwhile. -/
theorem collect_timely (i : ShadowedInflation σ) (task : ShadowTask σ) :
    (i.collect task).Timely (3 * i.graceMillis) := by
  have hlate : ∀ rest, (i.collectLate rest).Timely (0 + (i.graceMillis + i.graceMillis)) := fun rest =>
    (timely_update _).bind fun _ => (timely_alongside_within _ rest _).bind fun left =>
      timely_within i.graceMillis left.1
  have hcollect : (i.collect task).Timely (i.graceMillis + (0 + (i.graceMillis + i.graceMillis))) :=
    (timely_waitedFor i.graceMillis task).bind fun ended => match ended with
      | .inl ended => (timely_done (some ended)).mono (Nat.zero_le _)
      | .inr rest => hlate rest
  exact hcollect.mono (by omega)

end ShadowedInflation

/-! ## 2. What is noted -/

namespace ShadowedHistory

/-- **The shadow has been handed over** to its grace period at the instant `c`: the main inflation has ended at `t`
with a result, and if that was a failure the shadow was told so at once, and has answered at `c`. -/
structure HandedOver (h : ShadowedHistory) (start t c : Nat) (result : Except InflationFailure Inflation) :
    Prop where
  main : h.work = [(start, .started ()), (t, .ended (.ok result))]
  le : t ≤ c
  succeeded : result.isOk = true → c = t
  failed : result.isOk = false →
    (t, .told mainFailed) ∈ h ∧ ∃ answer, (c, .obeyed mainFailed (.ok answer)) ∈ h

/-- The main inflation has crashed, or a cancel of the shadow has. -/
def Lost (why : Crash) (h : ShadowedHistory) : Prop :=
  (∃ t, (t, .main (.ended (.error why))) ∈ h) ∨ h.Blown why

variable {p : ShadowedNote → Prop} {s s' : ShadowedParts.Noted τ}

theorem mem_of_mem_work {h : ShadowedHistory} {n : Nat × StepNote Unit (Except InflationFailure Inflation)}
    (hn : n ∈ h.work) : (n.1, .main n.2) ∈ h := mem_ofMain.mp (StepHistory.mem_ofWork.mp hn).1

theorem HandedOver.extend {start t c : Nat} {result : Except InflationFailure Inflation}
    (h : HandedOver s.seen start t c result) (hp : ∀ n, p n → ¬ n.OfWork) (ha : Adds p s s') :
    HandedOver s'.seen start t c result where
  main := (work_of_adds hp ha).trans h.main
  le := h.le
  succeeded := h.succeeded
  failed hno :=
    have ⟨htold, answer, hobeyed⟩ := h.failed hno
    ⟨ha.mem htold, answer, ha.mem hobeyed⟩

theorem Lost.extend {why : Crash} (h : Lost why s.seen) (ha : Adds p s s') : Lost why s'.seen := by
  rcases h with ⟨t, ht⟩ | ⟨t, ht⟩ | ⟨t, reason, ht⟩
  · exact .inl ⟨t, ha.mem ht⟩
  · exact .inr (.inl ⟨t, ha.mem ht⟩)
  · exact .inr (.inr ⟨t, reason, ha.mem ht⟩)

end ShadowedHistory

namespace ShadowedParts

open ShadowedHistory (work HandedOver Lost)

variable (parts : ShadowedParts τ) (rest : Platform (Noted τ))

/-- How the main inflation ends in the task: the shadow is handed over, at that instant. -/
def Hands (start : Nat) (r : Except Crash (Except InflationFailure Inflation)) (m : Moment (Noted τ)) : Prop :=
  match r with
  | .ok result => ∃ t, HandedOver m.state.seen start t m.now result
  | .error why => Lost why m.state.seen

theorem work_stable {p : ShadowedNote → Prop} {R : Noted τ → Noted τ → Prop}
    {h : StepHistory Unit (Except InflationFailure Inflation)} (hp : ∀ n, p n → ¬ n.OfWork)
    (hR : ∀ {s t}, R s t → Adds p s t) : Stable R fun m : Moment (Noted τ) => work m.state.seen = h :=
  fun hw hr _ => (ShadowedHistory.work_of_adds hp (hR hr)).trans hw

/-- **The main inflation to its end**, and the shadow handed over. -/
theorem runMain_hands {m : Moment (Noted τ)} (hnone : work m.state.seen = []) :
    (parts.watched rest).runMain.Meets taskTerms (fun _ _ => True) (Hands m.now) m := by
  have hmain : (parts.watched rest).main.inflate.Meets taskTerms (fun _ _ => True)
      (fun r m' => work m'.state.seen = [(m.now, .started ()), (m'.now, .ended r)]) m :=
    Meets.mono (X := fun _ => True) (task_covers fun n hn => hn.ofTask) (fun _ _ _ => trivial)
      (fun _ _ _ => trivial) (fun _ _ => trivial) (fun _ _ => trivial) (fun _ => id) trivial
      (parts.main_meets rest hnone)
  refine Meets.bind (Meets.weaken id (fun {r m₁} hwork => ?_) hmain)
  cases r with
  | error why =>
    have hmem : (m₁.now, StepNote.ended (.error why)) ∈ work m₁.state.seen := by
      rw [hwork]
      simp
    exact .inl ⟨_, ShadowedHistory.mem_of_mem_work hmem⟩
  | ok result =>
    refine Meets.update_bind (.of_seen_eq rfl) ?_
    show Meets _ _ _ (ite _ _ _) _
    split
    next hok => exact ⟨m₁.now, hwork, Nat.le_refl _, fun _ => rfl, fun hno => by simp [hok] at hno⟩
    next hok =>
      -- the cancel is waited for, without a clock
      let m₂ : Moment (Noted τ) := ⟨m₁.now, (parts.watched rest).mainFinished.set true m₁.state⟩
      have htold : ((parts.watched rest).shadow.cancel mainFailed).Meets taskTerms (fun _ _ => True)
          (fun r n => work n.state.seen = [(m.now, .started ()), (m₁.now, .ended (.ok result))] ∧
            m₁.now ≤ n.now ∧ (m₁.now, .told mainFailed) ∈ n.state.seen ∧
              (n.now, .obeyed mainFailed r) ∈ n.state.seen) m₂ :=
        Meets.mono (task_covers fun n hn => hn.ofTask (.inl rfl)) (work_stable (fun n hn => hn.not_ofWork) And.left)
          (work_stable (fun n hn => not_ofWork_of_not_ofTask hn) And.left) (fun _ _ => trivial)
          (fun _ _ => trivial) (fun hx hq => ⟨hx, hq⟩) hwork (parts.told_noted rest mainFailed m₂).and_later
      refine Meets.bind (Meets.weaken id (fun {r n} h => ?_) htold)
      obtain ⟨hwork', hle, htold', hobeyed⟩ := h
      cases r with
      | ok answer =>
        exact ⟨m₁.now, hwork', hle, fun hyes => absurd hyes hok, fun _ => ⟨htold', answer, hobeyed⟩⟩
      | error why => exact .inr (.inr ⟨_, _, hobeyed⟩)

/-- How the inflation ends: with the result of the main one, within three grace periods. -/
def Concludes (start : Nat) (r : Except Crash (Except InflationFailure Inflation)) (m : Moment (Noted τ)) : Prop :=
  match r with
  | .ok outcome => ∃ result t c, HandedOver m.state.seen start t c result ∧ c ≤ m.now ∧
      m.now ≤ c + 3 * parts.grace.millisCeil ∧
      ∃ shadow, outcome = addShadow (compareInflations result shadow) shadow result
  | .error why => Lost why m.state.seen

/-- **From where the shadow is handed over** to the end. -/
theorem conclude_timely {start t : Nat} {result : Except InflationFailure Inflation}
    {task : ShadowedInflation.ShadowTask (Noted τ)} (ht : Shadowing task) {m : Moment (Noted τ)}
    (hm : HandedOver m.state.seen start t m.now result) :
    ((parts.watched rest).conclude task result).Meets taskTerms (fun _ _ => True)
      (parts.Concludes start) m := by
  have hstays : ∀ {p : ShadowedNote → Prop} {R : Noted τ → Noted τ → Prop},
      (∀ n, p n → ¬ n.OfWork) → (∀ {s t}, R s t → Adds p s t) →
      Stable R fun n : Moment (Noted τ) => HandedOver n.state.seen start t m.now result :=
    fun hp hR _ _ h hr _ => h.extend hp (hR hr)
  have hcollect : ((parts.watched rest).collect task).Meets taskTerms (fun _ _ => True)
      (fun r n => HandedOver n.state.seen start t m.now result ∧ Blames mainFinished r n) m :=
    Meets.mono (task_covers fun n hn => hn.ofTask (.inr rfl)) (hstays (fun n hn => hn.not_ofWork) And.left)
      (hstays (fun n hn => not_ofWork_of_not_ofTask hn) And.left) (fun _ _ => trivial) (fun _ _ => trivial)
      (fun hx hq => ⟨hx, hq⟩) hm (parts.collect_meets rest ht m)
  have htimely := ((parts.watched rest).collect_timely task).and hcollect.and_later
  refine Meets.bind (Meets.weaken id (fun {r n} h => ?_) htimely)
  obtain ⟨⟨hle, hhanded, hblames⟩, hin⟩ := h
  cases r with
  | error why =>
    obtain ⟨u, hu⟩ := blames_error.mp hblames
    exact .inr (.inr ⟨u, _, hu⟩)
  | ok shadow =>
    have hends : parts.Concludes start (.ok (addShadow (compareInflations result shadow) shadow result)) n :=
      ⟨result, t, m.now, hhanded, hle, hin shadow rfl, shadow, rfl⟩
    show Meets _ _ _ (ite _ _ _) n
    split
    · exact Meets.update_bind (.of_seen_eq rfl) hends
    · exact hends

/-- **The inflation with its shadow**, from its start. -/
theorem inflate_timely {m : Moment (Noted τ)} (hnone : work m.state.seen = []) :
    (parts.watched rest).inflate.Meets taskTerms (fun _ _ => True) (parts.Concludes m.now) m := by
  have hshadow : Shadowing (spawned (parts.watched rest).shadow.inflate).caught :=
    Always.caught (Always.spawned (fun _ => ⟨rfl, rfl⟩)
      ((quiet_part slot_fst parts.shadow.inflate).mono (fun _ _ h => h) (fun _ h => h) fun {r} _ => ⟨r, rfl⟩))
  have hmain : (parts.watched rest).runMain.caught.Meets taskTerms (fun _ _ => True)
      (fun r m' => ∃ r', r = .ok r' ∧ Hands m.now r' m') m :=
    Meets.caught (Meets.weaken id (fun hq => ⟨_, rfl, hq⟩) (parts.runMain_hands rest hnone))
  refine Meets.bind (Meets.weaken id (fun {r m'} h => ?_) (Meets.leading Terms.allows_writing not_caught
    (fun {why n n'} hq => by obtain ⟨_, hq, -⟩ := hq; cases hq) (fun _ => trivial) hmain hshadow))
  match r, h with
  | .error why, h =>
    obtain ⟨_, h, -⟩ := h
    cases h
  | .ok (task, .ok result), ⟨⟨_, heq, hends⟩, htask⟩ =>
    cases heq
    obtain ⟨t, hhanded⟩ := hends
    exact parts.conclude_timely rest htask hhanded
  | .ok (task, .error why), ⟨⟨_, heq, hends⟩, htask⟩ =>
    cases heq
    -- nobody waits for the shadow any more
    have hlost : Lost why m'.state.seen := hends
    refine Meets.bind (htask.settle_meets (T := taskTerms) (X := fun n : Moment (Noted τ) => Lost why n.state.seen)
      (fun hu => .of_seen_eq hu.1) id (fun hx hu => ?_) (fun {left n} hx hleft => ?_) hlost)
    · exact hx.extend (p := fun _ => False) (.of_seen_eq hu.1)
    · exact ⟨hleft.background fun _ => ⟨rfl, rfl⟩, hx⟩

/-! ## 3. Every run -/

/-- The task alone. -/
theorem whole_covers : (Terms.whole Prod.snd : Terms (Noted τ)).Covers taskTerms where
  rely h := ⟨.of_seen_eq h.1, h.2⟩
  guar _ := trivial
  left := id
  inv _ := Iff.rfl

/-- **How a run of an inflation with a shadow ends** that nobody cancels.  It returns in time; or the main inflation
has crashed, or a cancel of the shadow; or one of the two does not come back, the main inflation or a shadow that
has been told of its failure. -/
def GraceOutcome (start : Nat) : Ending (Noted τ) (Except InflationFailure Inflation) → Prop
  | .returned outcome m => parts.Concludes start (.ok outcome) m
  | .crashed why m => Lost why m.state.seen
  | .stalled m => work m.state.seen = [(start, .started ())] ∨ ShadowedHistory.Deaf mainFailed m.state.seen

/-- **A shadow has three grace periods**, from where it is handed over.  Whatever the two inflations do, to their
common state and to each other: the run with notes ends as `GraceOutcome` says, and seen without the notes it is the
run of the inflation. -/
theorem shadow_grace (parts : ShadowedParts τ) (rest' : Platform (Noted τ)) (rest : Platform (τ × Bool))
    (m : Moment τ) :
    let watched := (parts.watched rest').inflate.attended.run ⟨m.now, ⟨(m.state, false), []⟩⟩
    parts.GraceOutcome m.now watched ∧
      Ending.Alike Watched.state Eq watched
        ((parts.inflation rest).inflate.attended.run ⟨m.now, (m.state, false)⟩) := by
  intro watched
  refine ⟨?_, (inflate_mirrors (parts.watched_mirrors rest' rest)).run_attended _⟩
  have hfresh : Fresh (⟨(m.state, false), []⟩ : Noted τ) := ⟨rfl, rfl, fun t r hn => nomatch hn⟩
  -- where it waits is known of the guarded inflation in a context that is never over
  have hlive : (RunContext.starting m.now none none).err m.now = none := rfl
  have hwaits := parts.inflate_meets rest' hlive (m := ⟨m.now, ⟨(m.state, false), []⟩⟩) rfl hfresh
  have hboth := Meets.and id id id hwaits
    (parts.inflate_timely rest' (m := ⟨m.now, ⟨(m.state, false), []⟩⟩) rfl)
  have hmeets := Meets.mono (X := fun _ => True) whole_covers (fun _ _ _ => trivial) (fun _ _ _ => trivial)
    (fun _ => id) (fun _ => id) (fun _ => id) trivial hboth
  have hsat := hmeets.run_attended (Terms.whole_closed _ _)
  show parts.GraceOutcome m.now watched
  cases hrun : watched with
  | returned outcome last =>
    rw [show Activity.run _ _ = _ from hrun] at hsat
    exact hsat.2
  | crashed why last =>
    rw [show Activity.run _ _ = _ from hrun] at hsat
    exact hsat.2
  | stalled last =>
    rw [show Activity.run _ _ = _ from hrun] at hsat
    obtain ⟨w, ⟨hw, -⟩, hh, hnone⟩ := hsat
    cases hw with
    | fresh now ready fresh => simp [Wake.holds, ready] at hh
    | running live started flag => exact .inl started
    | collecting live le finished ends =>
      refine .inr (ends.resolve_left fun hdue => ?_)
      rw [hnone] at hdue
      cases hdue

/-! ## 4. A failure is not boxed in -/

section Rehearsed

open Rehearsal

/-- A main inflation that fails after 10 ms, with a shadow that takes a second to answer a cancel. -/
def slowToStop : ShadowedParts Scene where
  main := (Scene.actor 0 { delay := 10, finale := .failure (.inflation "main broke") }).inflater
  shadow := (Scene.actor 1 { delay := 30000, cancelDelay := 1000 }).inflater
  grace := .ofMillis 50
  log := (Scene.platform .none).log

/-- **A shadow that is told of a failure has all the time it wants.**  Its grace period is 50 ms, the main inflation
has failed at 10, and the run returns at 1010. -/
theorem failure_outlasts_grace :
    ¬ ∀ (parts : ShadowedParts Scene) (rest : Platform (Noted Scene)) (m : Moment Scene) (t : Nat)
        (result outcome : Except InflationFailure Inflation) (last : Moment (Noted Scene)),
        (parts.watched rest).inflate.attended.run ⟨m.now, ⟨(m.state, false), []⟩⟩ = .returned outcome last →
          (t, .main (.ended (.ok result))) ∈ last.state.seen → last.now ≤ t + 3 * parts.grace.millisCeil := by
  intro hall
  let rest : Platform (Noted Scene) := World.platform (Watched.part (Cell.fst.comp Scene.worldCell)) .none
  obtain ⟨result, outcome, last, hrun, hmain, hnow⟩ : ∃ result outcome last,
      (slowToStop.watched rest).inflate.attended.run ⟨0, ⟨((Scene.opening {}).state, false), []⟩⟩ =
          .returned outcome last ∧
        work last.state.seen = [(0, .started ()), (10, .ended (.ok result))] ∧ last.now = 1010 :=
    ⟨_, _, _, rfl, rfl, rfl⟩
  have hended : (10, ShadowedNote.main (.ended (.ok result))) ∈ last.state.seen := by
    have hmem : (10, StepNote.ended (.ok result)) ∈ work last.state.seen := by
      rw [hmain]
      simp
    exact ShadowedHistory.mem_of_mem_work hmem
  have hle : last.now ≤ 10 + 3 * 50 := hall slowToStop rest (Scene.opening {}) 10 result outcome last hrun hended
  omega

end Rehearsed

end ShadowedParts

end ImageImport
