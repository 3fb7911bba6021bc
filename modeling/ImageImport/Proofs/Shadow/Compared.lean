/-
# What the comparison with a shadow says

An inflation with a shadow returns what the main inflation has ended with.  Two of its fields are the
comparison's: a verdict, and how long the shadow took.

Main statement: `inflate_compares`, over every run and every grace period.  The outcome is the main result but for
these two, and they are read off how the shadow has ended (`Comparison`): by itself, whichever way and at whatever
point of the wait for it, or not at all (`Ran`).

The shadow writes its own notes here, outside of those of the inflation, so what the comparison was told can be
checked against what the shadow did.  Nobody else writes them, and so the wait for the shadow can be followed with
nothing known of anybody else (sections 2 and 3).  That the main inflation decides the rest is known without the
notes of the shadow, and a run with them is a run without them.
-/
import ImageImport.Proofs.Disks.History
import ImageImport.Proofs.Inflation.Quiet
import ImageImport.Proofs.Shadow.Grace

namespace ImageImport

open Activity

variable {σ τ α : Type}

/-! ## 1. The comparison -/

/-- **Two inflations of the same content**: there is a disk of the shadow, of the same size, and there are two
checksums, which are the same. -/
structure Inflation.Matches (main shadow : Inflation) : Prop where
  allocated : shadow.disk.uri ≠ ""
  size : main.disk.sizeGb = shadow.disk.sizeGb
  checksummed : main.fields.checksum ≠ "" ∧ shadow.fields.checksum ≠ ""
  checksum : main.fields.checksum = shadow.fields.checksum

/-- **The outcome is the result** but for the two fields of the comparison. -/
inductive KeepsMain : Except InflationFailure Inflation → Except InflationFailure Inflation → Prop where
  | ok {i : Inflation} (verdict : Option String) (time : Option Duration) :
      KeepsMain (.ok i)
        (.ok { i with fields := { i.fields with matchResult := verdict, shadowInflationTime := time } })
  | error {f : InflationFailure} (verdict : Option String) (time : Option Duration) :
      KeepsMain (.error f)
        (.error { f with fields := { f.fields with matchResult := verdict, shadowInflationTime := time } })

/-- **The outcome of a main inflation compared with a shadow.** -/
structure Comparison (result : Except InflationFailure Inflation) (shadow : ShadowEnding)
    (outcome : Except InflationFailure Inflation) : Prop where
  keeps : KeepsMain result outcome
  /-- There is a verdict, and it says that the two are equal exactly when they are. -/
  verdict : ∃ v, (Inflation.left outcome).fields.matchResult = some v ∧
    (v = "true" ↔ ∃ i s, result = .ok i ∧ shadow = some (.ok (.ok s)) ∧ i.Matches s)
  time : ∀ d, (Inflation.left outcome).fields.shadowInflationTime = some d ↔
    ∃ s, shadow = some (.ok (.ok s)) ∧ s.disk.uri ≠ "" ∧ d = s.fields.inflationTime

theorem isAllocated_iff {d : PersistentDisk} : d.isAllocated = true ↔ d.uri ≠ "" := by
  simp [PersistentDisk.isAllocated]

/-- **The verdict on two disks** is read off the first difference, and there is none when they match. -/
theorem compareDisks_iff {main shadow : Inflation} : compareDisks main shadow = "true" ↔ main.Matches shadow := by
  unfold compareDisks matchVerdict
  constructor
  · intro h
    split at h
    · simp at h
    next hallocated =>
      split at h
      · simp at h
      next hsize =>
        split at h
        · simp at h
        next hsummed =>
          split at h
          · simp at h
          next hsum =>
            simp only [Bool.not_eq_true', Bool.not_eq_false, isAllocated_iff] at hallocated
            simp only [Bool.or_eq_true, String.isEmpty_iff, not_or] at hsummed
            exact ⟨hallocated, Decidable.not_not.mp hsize, hsummed, Decidable.not_not.mp hsum⟩
  · rintro ⟨hallocated, hsize, ⟨hmain, hshadow⟩, hsum⟩
    have hthere := isAllocated_iff.mpr hallocated
    rw [hsum] at hmain
    simp [hthere, hsize, hsum, hshadow]

/-- No wording of an error is the verdict of two equal disks. -/
theorem compareInflations_iff {result : Except InflationFailure Inflation} {shadow : ShadowEnding} :
    compareInflations result shadow = "true" ↔
      ∃ i s, result = .ok i ∧ shadow = some (.ok (.ok s)) ∧ i.Matches s := by
  have hworded : ∀ text, "Shadow inflater error: " ++ text ≠ "true" := by
    intro text h
    have hchars := congrArg String.toList h
    rw [String.toList_append] at hchars
    exact absurd (congrArg List.head? hchars) (by simp)
  rcases result with f | i
  · have hfailed : compareInflations (.error f) shadow = "Main inflater failed" := by cases shadow <;> rfl
    simp [hfailed]
  · rcases shadow with _ | why | failure | s
    · have hgone : compareInflations (.ok i) none = "Shadow inflater canceled" := rfl
      simp [hgone]
    · have hcrashed : compareInflations (.ok i) (some (.error why)) = "Shadow inflater error: " ++ why.text := rfl
      simp [hcrashed, hworded]
    · have hfailed : compareInflations (.ok i) (some (.ok (.error failure))) =
          "Shadow inflater error: " ++ failure.message := rfl
      simp [hfailed, hworded]
    · have hdisks : compareInflations (.ok i) (some (.ok (.ok s))) = compareDisks i s := rfl
      simp [hdisks, compareDisks_iff]

theorem shadowTime_iff {shadow : ShadowEnding} {d : Duration} : shadowTime shadow = some d ↔
    ∃ s, shadow = some (.ok (.ok s)) ∧ s.disk.uri ≠ "" ∧ d = s.fields.inflationTime := by
  rcases shadow with _ | why | failure | s
  · simp [shadowTime]
  · simp [shadowTime]
  · simp [shadowTime]
  · have hown : shadowTime (some (.ok (.ok s))) = some d ↔ s.disk.uri ≠ "" ∧ d = s.fields.inflationTime := by
      rw [shadowTime, ← isAllocated_iff]
      split
      next hthere => simp [hthere, eq_comm]
      next hthere => simp [hthere]
    simp [hown]

/-- **What the comparison adds.** -/
theorem comparison_addShadow (result : Except InflationFailure Inflation) (shadow : ShadowEnding) :
    Comparison result shadow (addShadow (compareInflations result shadow) shadow result) where
  keeps := by
    cases result with
    | ok i => exact .ok _ _
    | error f => exact .error _ _
  verdict := by
    refine ⟨compareInflations result shadow, ?_, compareInflations_iff⟩
    cases result <;> rfl
  time d := by
    rw [← shadowTime_iff]
    cases result <;> rfl

/-! What is compared of the main result can be seen in the outcome. -/

theorem KeepsMain.ok_iff {result outcome : Except InflationFailure Inflation} (h : KeepsMain result outcome)
    {s : Inflation} : (∃ i, result = .ok i ∧ i.Matches s) ↔ ∃ o, outcome = .ok o ∧ o.Matches s := by
  cases h with
  | @ok i verdict time =>
    constructor
    · rintro ⟨_, heq, hallocated, hsize, hsummed, hsum⟩
      cases heq
      exact ⟨_, rfl, hallocated, hsize, hsummed, hsum⟩
    · rintro ⟨_, heq, hallocated, hsize, hsummed, hsum⟩
      cases heq
      exact ⟨i, rfl, hallocated, hsize, hsummed, hsum⟩
  | error verdict time => simp

/-- **The comparison knows the main result by its outcome alone.** -/
theorem Comparison.of_keeps {result result' outcome : Except InflationFailure Inflation} {shadow : ShadowEnding}
    (h : Comparison result shadow outcome) (hk : KeepsMain result' outcome) : Comparison result' shadow outcome where
  keeps := hk
  verdict := by
    obtain ⟨v, hv, htrue⟩ := h.verdict
    have hsame : ∀ s, (∃ i, result = .ok i ∧ i.Matches s) ↔ ∃ i, result' = .ok i ∧ i.Matches s :=
      fun s => h.keeps.ok_iff.trans hk.ok_iff.symm
    refine ⟨v, hv, htrue.trans ?_⟩
    constructor
    · rintro ⟨i, s, hi, hs, hmatches⟩
      obtain ⟨i', hi', hmatches'⟩ := (hsame s).mp ⟨i, hi, hmatches⟩
      exact ⟨i', s, hi', hs, hmatches'⟩
    · rintro ⟨i, s, hi, hs, hmatches⟩
      obtain ⟨i', hi', hmatches'⟩ := (hsame s).mpr ⟨i, hi, hmatches⟩
      exact ⟨i', s, hi', hs, hmatches'⟩
  time := h.time

/-! ## 2. The notes of the shadow -/

/-- What is noted of a shadow. -/
inductive ShadowNote where
  | started
  | ended (r : Except Crash (Except InflationFailure Inflation))

/-- What has been noted of it, each note with its instant. -/
abbrev ShadowHistory := List (Nat × ShadowNote)

/-- **How the shadow has ended**, by its notes: it has ended with what its last note says, and else it has not ended,
whether it was abandoned on the way or before it could start. -/
inductive ShadowHistory.Ran : ShadowHistory → ShadowEnding → Prop where
  | never : Ran [] none
  | abandoned {t : Nat} : Ran [(t, .started)] none
  | ended {t t' : Nat} {r : Except Crash (Except InflationFailure Inflation)} :
      Ran [(t, .started), (t', .ended r)] (some r)

open ShadowHistory (Ran)

namespace ShadowedInflation

/-- **The inflation with notes of its shadow.** -/
def noting (i : ShadowedInflation σ) : ShadowedInflation (Watched σ ShadowNote) where
  main := { i.main.toStep.on Watched.inside with inflate := i.main.inflate.on Watched.inside }
  shadow :=
    { i.shadow.toStep.on Watched.inside with
      inflate := .watching .started .ended (i.shadow.inflate.on Watched.inside) }
  grace := i.grace
  platform := i.platform.watched
  mainFinished := Watched.part i.mainFinished

theorem noting_mirrors (i : ShadowedInflation σ) : i.noting.Mirrors Watched.state i where
  main := ⟨fun _ => mirrors_inside _, fun _ => rfl⟩
  mainInflate := mirrors_inside _
  shadow := ⟨fun _ => mirrors_inside _, fun _ => rfl⟩
  shadowInflate := .watching (mirrors_inside _)
  grace := rfl
  log _ _ _ := rfl
  get _ := rfl
  set _ _ := rfl

section Noted

variable (i : ShadowedInflation σ)

/-- Nothing is noted. -/
abbrev NotNoted : Watched σ ShadowNote → Watched σ ShadowNote → Prop := Unnoted fun _ => ()

/-- The terms: nobody else notes anything. -/
abbrev terms : Terms (Watched σ ShadowNote) := .whole fun _ => ()

/-- The shadow has not ended. -/
abbrev Awaited (_ : Wake (Watched σ ShadowNote)) (m : Moment (Watched σ ShadowNote)) : Prop := Ran m.state.seen none

/-- How the task of the shadow ends. -/
def TaskRan (r : Except Crash (Except Crash (Except InflationFailure Inflation)))
    (m : Moment (Watched σ ShadowNote)) : Prop := ∃ ended, r = .ok ended ∧ Ran m.state.seen (some ended)

/-- **A shadow on its way**, and its notes so far. -/
structure OnItsWay (task : ShadowTask (Watched σ ShadowNote)) (m : Moment (Watched σ ShadowNote)) : Prop where
  meets : task.Meets terms Awaited TaskRan m
  releases : task.Releases NotNoted ShadowedParts.Caught

theorem taskRan_error {why : Crash} {m : Moment (Watched σ ShadowNote)} : ¬ TaskRan (.error why) m := by
  rintro ⟨_, h, -⟩
  cases h

theorem taskRan_stable (r : Except Crash (Except Crash (Except InflationFailure Inflation))) :
    Stable NotNoted (TaskRan (σ := σ) r) := by
  rintro m m' ⟨ended, hr, hran⟩ hu -
  exact ⟨ended, hr, hu.1 ▸ hran⟩

/-- Nobody else notes anything. -/
theorem noting_quiet (a : Activity σ α) : (a.on (Watched.inside : Cell (Watched σ ShadowNote) σ)).Quiet NotNoted
    fun _ => True := quiet_on (fun _ _ => ⟨rfl, rfl⟩) a

/-- **The shadow**, between its two notes. -/
theorem shadow_meets {m : Moment (Watched σ ShadowNote)} (hm : m.state.seen = []) :
    i.noting.shadow.inflate.Meets terms Awaited
      (fun r m' => ∃ t, m'.state.seen = [(m.now, .started), (t, .ended r)]) m := by
  have hstarted : (Watched.noted .started m).seen = [(m.now, ShadowNote.started)] := by
    rw [Watched.noted, hm]
    rfl
  refine Meets.watching trivial ((noting_quiet i.shadow.inflate).meets_unnoted Terms.allows_whole
    (X := fun m' => m'.state.seen = [(m.now, ShadowNote.started)]) ?_ ?_ ?_ ?_ hstarted)
  · exact fun h hu _ => hu.1.trans h
  · exact fun h hu _ => hu.1.trans h
  · intro w m' hs
    exact (hs ▸ .abandoned : Ran m'.state.seen none)
  · intro r m' hs _
    refine ⟨trivial, m'.now, ?_⟩
    rw [Watched.noted, hs]
    rfl

theorem shadow_releases : i.noting.shadow.inflate.Releases NotNoted fun _ => True := by
  have hcaught : (i.shadow.inflate.on (Watched.inside : Cell (Watched σ ShadowNote) σ)).caught.Releases NotNoted
      fun _ => True := Releases.caught ((noting_quiet i.shadow.inflate).releases.mono fun _ => trivial)
  refine fun _ => Releases.bind (a := (i.shadow.inflate.on Watched.inside).caught) hcaught (fun {r} _ => ?_)
    fun _ => trivial
  intro m'
  cases r <;> trivial

/-- **The main inflation with the shadow behind it.** -/
theorem leading_meets {m : Moment (Watched σ ShadowNote)} (hm : m.state.seen = []) :
    (leading i.noting.runMain.caught (spawned i.noting.shadow.inflate).caught).Meets terms (fun _ _ => True)
      (fun r m' => match r with
        | .ok (task, _) => OnItsWay task m'
        | .error _ => False) m := by
  have hrunMain : i.noting.runMain.Quiet NotNoted fun _ => True :=
    runMain_quiet (noting_quiet i.main.inflate) (fun reason => noting_quiet (i.shadow.cancel reason)) fun _ => ⟨rfl, rfl⟩
  have hmain : i.noting.runMain.caught.Quiet NotNoted ShadowedParts.Caught :=
    Always.caught (hrunMain.mono (fun _ _ h => h) (fun _ h => h) fun {r} _ => ⟨r, rfl⟩)
  have hready : (spawned i.noting.shadow.inflate).caught.Ready terms Awaited TaskRan m := by
    refine ready_spawned (fun {w n} _ hr _ => ?_) fun {n} hr _ _ _ => ?_
    · exact (hr.1.trans hm ▸ .never : Ran n.state.seen none)
    · refine Meets.caught (Meets.weaken id (fun {r n'} h => ?_) (i.shadow_meets (hr.1.trans hm)))
      obtain ⟨t, hseen⟩ := h
      exact ⟨r, rfl, hseen ▸ .ended⟩
  have hreleases : (spawned i.noting.shadow.inflate).caught.Releases NotNoted ShadowedParts.Caught :=
    Releases.caught (Releases.spawned (fun _ => ⟨rfl, rfl⟩) (i.shadow_releases.mono fun _ => ⟨_, rfl⟩))
  have hends : i.noting.runMain.caught.Meets (.aside fun _ => ()) (fun _ _ => True)
      (fun r _ => ShadowedParts.Caught r) m :=
    hmain.meets_unnoted (X := fun _ => True) Terms.allows_aside (fun _ _ _ => trivial) (fun _ _ _ => trivial)
      (fun _ => trivial) (fun _ => id) trivial
  refine Meets.weaken id (fun {r m'} h => ?_) (Meets.leading_rest Terms.allows_whole.split_left (fun _ => trivial)
    (fun _ => trivial) (Unnoted.all_trans _) ShadowedParts.not_caught taskRan_error
    (fun {r} => ⟨taskRan_stable r, taskRan_stable r⟩) hends hmain.releases hready hreleases)
  match r, h with
  | .ok (task, _), ⟨_, hmeets, hreleases⟩ => exact ⟨hmeets, hreleases⟩

/-! ## 3. The wait for the shadow -/

/-- What is collected is how the shadow has ended. -/
def Collected (r : Except Crash ShadowEnding) (m : Moment (Watched σ ShadowNote)) : Prop :=
  ∀ shadow, r = .ok shadow → Ran m.state.seen shadow

theorem collected_error {why : Crash} {m : Moment (Watched σ ShadowNote)} : Collected (.error why) m := by
  intro _ h
  cases h

theorem collected_ok {shadow : ShadowEnding} {m : Moment (Watched σ ShadowNote)} :
    Collected (.ok shadow) m ↔ Ran m.state.seen shadow := by
  constructor
  · exact fun h => h shadow rfl
  · rintro h _ heq
    cases heq
    exact h

variable {task : ShadowTask (Watched σ ShadowNote)} {m : Moment (Watched σ ShadowNote)}

/-- **The last wait**: what is given up has not ended. -/
theorem collectOrAbandon_meets (ht : OnItsWay task m) :
    (i.noting.collectOrAbandon task).Meets terms (fun _ _ => True) Collected m := by
  refine Meets.weaken (fun _ => trivial) (fun {r m'} h => ?_) (ht.meets.within_rest Terms.allows_whole (fun h => h)
    taskRan_error i.noting.graceMillis ht.releases)
  match r, h with
  | .ok (some ended), ⟨_, heq, hran⟩ =>
    cases heq
    exact collected_ok.mpr hran
  | .ok none, ⟨_, _, s, hran, hu⟩ =>
    have hnone : Ran s.seen none := hran
    exact collected_ok.mpr (hu.1 ▸ hnone)

/-- **A shadow that is late** is told so, and waited for once more. -/
theorem collectLate_meets (hmeets : task.Ready terms Awaited TaskRan m)
    (hreleases : task.Releases NotNoted ShadowedParts.Caught) :
    (i.noting.collectLate task).Meets terms (fun _ _ => True) Collected m := by
  have hcancel : (within i.noting.graceMillis (i.noting.shadow.cancel "main inflater finished")).Quiet NotNoted
      fun _ => True :=
    uniform_any.within (fun _ => ⟨rfl, rfl⟩) (Unnoted.all_trans _) _ (noting_quiet (i.shadow.cancel _))
  refine Meets.update_bind trivial ?_
  have hlogged : ∀ s, NotNoted s (i.noting.platform.log .warn
      ("⏱️ Shadow inflation still running " ++ i.noting.grace.exact ++ " after the main inflater, cancelling it") s) :=
    fun _ => ⟨rfl, rfl⟩
  have htask := (hmeets.step (hlogged m.state)).meets trivial
  refine Meets.bind (Meets.weaken id (fun {r m'} h => ?_) (htask.alongside_blown Terms.allows_whole
    (fun _ => trivial) (fun _ => trivial) taskRan_error (fun {r} => ⟨taskRan_stable r, taskRan_stable r⟩) hreleases
    hcancel))
  match r, h with
  | .ok (rest, _), ⟨hmeets, hreleases⟩ => exact i.collectOrAbandon_meets ⟨hmeets, hreleases⟩
  | .error why, _ => exact collected_error

/-- **The wait for the shadow.** -/
theorem collect_meets (ht : OnItsWay task m) :
    (i.noting.collect task).Meets terms (fun _ _ => True) Collected m := by
  refine Meets.bind (Meets.weaken (fun _ => trivial) (fun {r m'} h => ?_) (ht.meets.waitedFor_rest Terms.allows_whole
    (fun h => h) taskRan_error i.noting.graceMillis ht.releases))
  match r, h with
  | .ok (.inl ended), ⟨⟨_, heq, hran⟩, _⟩ =>
    cases heq
    exact collected_ok.mpr hran
  | .ok (.inr rest), ⟨_, hleft⟩ => exact i.collectLate_meets hleft.ready hleft.releases

/-- How the inflation ends when the main one has returned: with its result compared with what became of the shadow. -/
def Concluded (result : Except InflationFailure Inflation) (r : Except Crash (Except InflationFailure Inflation))
    (m : Moment (Watched σ ShadowNote)) : Prop :=
  ∀ outcome, r = .ok outcome → ∃ shadow, Ran m.state.seen shadow ∧ Comparison result shadow outcome

theorem conclude_meets (ht : OnItsWay task m) (result : Except InflationFailure Inflation) :
    (i.noting.conclude task result).Meets terms (fun _ _ => True) (Concluded result) m := by
  refine Meets.bind (Meets.weaken id (fun {r m'} h => ?_) (i.collect_meets ht))
  cases r with
  | error why =>
    intro _ hcrash
    cases hcrash
  | ok shadow =>
    have hends : ∀ m'', NotNoted m'.state m''.state → Concluded result
        (.ok (addShadow (compareInflations result shadow) shadow result)) m'' := by
      intro m'' hu _ heq
      cases heq
      have hran := collected_ok.mp h
      exact ⟨shadow, hu.1 ▸ hran, comparison_addShadow result shadow⟩
    show Meets _ _ _ (ite _ _ _) m'
    split
    · exact Meets.update_bind trivial (Meets.pure (hends _ ⟨rfl, rfl⟩))
    · exact Meets.pure (hends _ ⟨rfl, rfl⟩)

/-- **What a run returns is compared with how the shadow has ended.**  When the main inflation crashes nobody waits
for the shadow, which writes its notes where it likes; but then nothing is returned. -/
theorem returned_compared (m : Moment σ) {outcome : Except InflationFailure Inflation}
    {last : Moment (Watched σ ShadowNote)}
    (hrun : i.noting.inflate.attended.run ⟨m.now, ⟨m.state, []⟩⟩ = .returned outcome last) :
    ∃ result shadow, Ran last.state.seen shadow ∧ Comparison result shadow outcome := by
  obtain ⟨p, hleads, rfl⟩ := leads_of_attended hrun
  obtain ⟨⟨task, main⟩, q, htask, hrest⟩ := leads_bind.mp hleads
  have hnone : (Place.start (σ := Watched σ ShadowNote) ⟨m.now, ⟨m.state, []⟩⟩).tasks.Keeps terms.left := trivial
  obtain ⟨hway, hkeeps⟩ := Meets.leads (Terms.whole_closed _ _) hnone (i.leading_meets rfl) htask
  cases main with
  | ok result =>
    obtain ⟨hends, -⟩ := Meets.leads (Terms.whole_closed _ _) hkeeps (i.conclude_meets hway result) hrest
    exact ⟨result, hends outcome rfl⟩
  | error why =>
    obtain ⟨left, q', -, hcrash⟩ := leads_bind.mp hrest
    cases hcrash

end Noted

end ShadowedInflation

/-! ## 4. Every run -/

namespace ShadowedParts

open ShadowedHistory (work Lost Deaf)

variable (parts : ShadowedParts τ)

/-- How the run ends, by the notes of the main inflation alone. -/
def MainOutcome (start : Nat) : Ending (Noted τ) (Except InflationFailure Inflation) → Prop
  | .returned outcome m => ∃ t result,
      work m.state.seen = [(start, .started ()), (t, .ended (.ok result))] ∧ KeepsMain result outcome
  | .crashed why m => Lost why m.state.seen
  | .stalled m => work m.state.seen = [(start, .started ())] ∨ Deaf mainFailed m.state.seen

theorem run_main (rest : Platform (Noted τ)) (m : Moment τ) :
    MainOutcome m.now ((parts.watched rest).inflate.attended.run ⟨m.now, ⟨(m.state, false), []⟩⟩) := by
  have hfresh : Fresh (⟨(m.state, false), []⟩ : Noted τ) := ⟨rfl, rfl, fun t r hn => nomatch hn⟩
  -- where it waits is known of the guarded inflation in a context that is never over
  have hlive : (RunContext.starting m.now none none).err m.now = none := rfl
  have hwaits := parts.inflate_meets rest hlive (m := ⟨m.now, ⟨(m.state, false), []⟩⟩) rfl hfresh
  have hends := parts.inflate_timely rest (m := ⟨m.now, ⟨(m.state, false), []⟩⟩) rfl
  have hmeets := Meets.mono (X := fun _ => True) whole_covers (fun _ _ _ => trivial) (fun _ _ _ => trivial)
    (fun _ => id) (fun _ => id) (fun _ => id) trivial (Meets.and id id id hwaits hends)
  have hsat := hmeets.run_attended (Terms.whole_closed _ _)
  cases hrun : (parts.watched rest).inflate.attended.run ⟨m.now, ⟨(m.state, false), []⟩⟩ with
  | returned outcome last =>
    rw [hrun] at hsat
    obtain ⟨-, result, t, c, hhanded, -, -, shadow, rfl⟩ := hsat
    exact ⟨t, result, hhanded.main, (comparison_addShadow result shadow).keeps⟩
  | crashed why last =>
    rw [hrun] at hsat
    exact hsat.2
  | stalled last =>
    rw [hrun] at hsat
    obtain ⟨w, ⟨hw, -⟩, hh, hnone⟩ := hsat
    cases hw with
    | fresh now ready fresh => simp [Wake.holds, ready] at hh
    | running live started flag => exact .inl started
    | collecting live le finished ends =>
      refine .inr (ends.resolve_left fun hdue => ?_)
      rw [hnone] at hdue
      cases hdue

/-- **How a run ends** that nobody cancels.  It returns what the main inflation has ended with, compared with how
the shadow has ended; or the main inflation has crashed, or a cancel of the shadow; or one of the two does not come
back, the main inflation or a shadow that has been told of its failure. -/
def ComparedOutcome (start : Nat) :
    Ending (Watched (Noted τ) ShadowNote) (Except InflationFailure Inflation) → Prop
  | .returned outcome m => ∃ t result shadow,
      work m.state.state.seen = [(start, .started ()), (t, .ended (.ok result))] ∧ Ran m.state.seen shadow ∧
        Comparison result shadow outcome
  | .crashed why m => Lost why m.state.state.seen
  | .stalled m => work m.state.state.seen = [(start, .started ())] ∨ Deaf mainFailed m.state.state.seen

/-- What both runs say of one run. -/
theorem comparedOutcome {start : Nat} {run : Ending (Watched (Noted τ) ShadowNote) (Except InflationFailure Inflation)}
    {seen : Ending (Noted τ) (Except InflationFailure Inflation)} (hmain : MainOutcome start seen)
    (halike : Ending.Alike Watched.state Eq run seen)
    (hshadow : ∀ outcome last, run = .returned outcome last →
      ∃ result shadow, Ran last.state.seen shadow ∧ Comparison result shadow outcome) :
    ComparedOutcome start run := by
  cases run with
  | returned outcome last =>
    cases seen with
    | returned outcome' last' =>
      obtain ⟨rfl, rfl⟩ := halike
      obtain ⟨t, result, hwork, hkeeps⟩ := hmain
      obtain ⟨_, shadow, hran, hcompared⟩ := hshadow outcome last rfl
      exact ⟨t, result, shadow, hwork, hran, hcompared.of_keeps hkeeps⟩
    | crashed why last' => cases halike
    | stalled last' => cases halike
  | crashed why last =>
    cases seen with
    | returned outcome' last' => cases halike
    | crashed why' last' =>
      obtain ⟨rfl, rfl⟩ := halike
      exact hmain
    | stalled last' => cases halike
  | stalled last =>
    cases seen with
    | returned outcome' last' => cases halike
    | crashed why' last' => cases halike
    | stalled last' =>
      cases halike
      exact hmain

/-- **An inflation with a shadow returns what the main inflation has ended with**, and the verdict on the two.
Whatever they do, to their common state and to each other, and however long the grace period is: the run with notes
of both ends as `ComparedOutcome` says, and seen without the notes it is the run of the inflation. -/
theorem inflate_compares (parts : ShadowedParts τ) (rest' : Platform (Noted τ)) (rest : Platform (τ × Bool))
    (m : Moment τ) :
    let watched := (parts.watched rest').noting.inflate.attended.run ⟨m.now, ⟨⟨(m.state, false), []⟩, []⟩⟩
    ComparedOutcome m.now watched ∧
      Ending.Alike (fun s => s.state.state) Eq watched
        ((parts.inflation rest).inflate.attended.run ⟨m.now, (m.state, false)⟩) := by
  intro watched
  -- without the notes of the shadow it is the run of which the main inflation is known
  have halike := (inflate_mirrors (parts.watched rest').noting_mirrors).run_attended
    ⟨m.now, ⟨⟨(m.state, false), []⟩, []⟩⟩
  have hplain := (inflate_mirrors (parts.watched_mirrors rest' rest)).run_attended ⟨m.now, ⟨(m.state, false), []⟩⟩
  constructor
  · refine comparedOutcome (parts.run_main rest' m) halike fun outcome last hrun => ?_
    exact (parts.watched rest').returned_compared ⟨m.now, ⟨(m.state, false), []⟩⟩ hrun
  · exact halike.trans hplain

end ShadowedParts

end ImageImport
