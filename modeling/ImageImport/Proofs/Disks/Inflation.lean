/-
# What an inflation leaves behind

When an inflation has come to its end, with or without a shadow, the notes of the main one are those of its
workflow, which has come back, and what it has left refers to the disk that the workflow keeps; and the shadow
has deleted its own disk, or was abandoned two grace periods later (`inflate_leaves`).

The main inflation and its shadow note different calls, so each of them can be followed by itself: the main
one in section 1, the shadow in `Proofs/Disks/Shadow.lean`.  Section 2 puts the two together, and section 3
follows the facade while it waits for the shadow and, in the end, gives it up.
-/
import ImageImport.Proofs.Disks.Shadow
import ImageImport.Proofs.Shadow.FollowsMain

namespace ImageImport

open Activity DiskHistory

variable {υ ρ α : Type} {slot : υ → ρ} {args : Arguments} {m m' : Moment (Watched υ DiskNote)}

/-- The cells of inflations hold neither notes nor what inflation has left. -/
structure InflationCells.Apart (slot : υ → ρ) (cells : InflationCells (Watched υ DiskNote)) : Prop where
  worker : ∀ t s, Unnoted slot s (cells.worker.set t s)
  direct : ∀ t s, Unnoted slot s (cells.direct.set t s)
  mainFinished : ∀ t s, Unnoted slot s (cells.mainFinished.set t s)

/-! ## 1. The main inflation -/

/-- The terms of the main inflation: beside it the shadow makes its calls. -/
abbrev mainTerms (args : Arguments) (slot : υ → ρ) : Terms (Watched υ DiskNote) :=
  .calling DiskCall.byMain (fun n => n.call.byShadow args.diskUri = true) slot

/-- What the main inflation has noted. -/
abbrev mainNotes (m : Moment (Watched υ DiskNote)) : DiskHistory := ofMain m.state.seen

/-- **The main inflation has ended**, and refers to its disk as `uri`: there was no workflow to run, or it has
come back. -/
inductive MainDone (args : Arguments) (uri : String) (m : Moment (Watched υ DiskNote)) : Prop where
  | nothing (notes : mainNotes m = []) (none : uri = "")
  | ran {σ : Type} (i : WorkerInflation σ) {w : Workflow} {t t' : Nat} (args_eq : i.args = args)
      (workflow : i.workflow = .ok w)
      (notes : mainNotes m = [(t, .called (.run w)), (t', .answered (.run w))]) (le : t' ≤ m.now)
      (kept : uri = args.diskUri)

/-- What is known of the main inflation depends on its notes. -/
theorem MainDone.of_notes {uri : String} (h : MainDone args uri m) (hnotes : mainNotes m' = mainNotes m)
    (hnow : m.now ≤ m'.now) : MainDone args uri m' := by
  cases h with
  | nothing notes none => exact .nothing (hnotes.trans notes) none
  | ran i args_eq workflow notes le kept =>
    exact .ran i args_eq workflow (hnotes.trans notes) (Nat.le_trans le hnow) kept

theorem mainDone_stable (args : Arguments) (uri : String) (slot : υ → ρ) :
    Stable (Unnoted slot) (MainDone (υ := υ) args uri) ∧ Stable (mainTerms args slot).rely (MainDone args uri) :=
  ⟨fun h hu hle => h.of_notes (congrArg ofMain hu.1) hle,
    fun h hr hle => h.of_notes (about_of_adds (fun _ hn => not_byMain_of_byShadow args.diskUri hn) hr) hle⟩

/-- How the main inflation ends. -/
def MainEnds (args : Arguments) (r : Except Crash (Except InflationFailure Inflation))
    (m : Moment (Watched υ DiskNote)) : Prop :=
  ∃ result, r = .ok result ∧ MainDone args (Inflation.left result).disk.uri m

section Noted

variable {p : Platform (Watched υ DiskNote)} (hp : p.Answers (Unnoted slot)) {cells : InflationCells (Watched υ DiskNote)}
  (hcells : cells.Apart slot) {source : Source} {inspection : Option Inspection}

theorem allows_main : (mainTerms args slot).Allows slot := Terms.allows_noting

/-- What is left refers to the inflated disk, whatever came of the workflow. -/
theorem WorkerInflation.left_outcome {σ : Type} (i : WorkerInflation σ) (ran : Except WorkflowError Unit)
    (time : Duration) (console : SerialConsole) :
    (Inflation.left (i.outcome ran time console)).disk.uri = i.args.diskUri := by
  cases ran with
  | error e => rfl
  | ok u =>
    show (i.describedDisk console).uri = _
    unfold describedDisk
    cases i.source <;> rfl

include hp hcells

/-- **The worker's inflation** runs its workflow, if it has one. -/
theorem WorkerInflation.inflate_meets (hm : mainNotes m = []) :
    (cells.byWorker p.noting args source inspection).inflate.Meets (mainTerms args slot) (fun _ _ => True)
      (MainEnds args) m := by
  let i := cells.byWorker p.noting args source inspection
  show (inflate i).Meets _ _ _ m
  unfold inflate
  cases hw : i.workflow with
  | error e => exact ⟨_, rfl, .nothing hm rfl⟩
  | ok w =>
    have hcall : (DiskCall.run w).byMain = true := by
      rcases isInflation_of_workflow hw with hname | hname <;> simp [DiskCall.byMain, hname]
    have hrun := hp.runWorkflow w (fun s => (cells.worker.get s).isCancelled) i.record
      fun _ _ s => hcells.worker _ s
    refine Meets.clock_bind (Meets.bind (Meets.weaken (fun _ => trivial) (fun {r m'} h => ?_) (noting_meets
      (fun _ hn => not_byMain_of_byShadow args.diskUri hn) hcall hrun hm)))
    obtain ⟨⟨ran, rfl⟩, t, hle, hnotes⟩ := h
    have hfinish := hcells.worker { i.cell.get m'.state with finished := true } m'.state
    refine Meets.update_bind (allows_main.guar hfinish) (Meets.clock_bind (Meets.read_bind (Meets.pure ⟨_, rfl, ?_⟩)))
    rw [i.left_outcome]
    exact .ran i rfl hw ((congrArg ofMain hfinish.1).trans hnotes) hle rfl

/-- Giving it up writes nothing. -/
theorem WorkerInflation.inflate_releases :
    (cells.byWorker p.noting args source inspection).inflate.Releases (Unnoted slot) Returns := by
  unfold inflate
  cases (cells.byWorker p.noting args source inspection).workflow with
  | error e => exact returns_ok _
  | ok w =>
    have hrun := hp.runWorkflow w (fun s => (cells.worker.get s).isCancelled)
      (cells.byWorker p.noting args source inspection).record fun _ _ s => hcells.worker _ s
    intro started
    show Releases _ _ (Activity.bind (noting (.run w) _) _)
    exact Releases.bind (noting_releases hrun) (fun _ _ _ _ => returns_ok _) fun h => absurd h not_returns

omit hp in
/-- A cancel touches no disk. -/
theorem WorkerInflation.cancel_calm : (cells.byWorker p.noting args source inspection).cancel.Calm slot :=
  cancel_quiet uniform_returns (fun _ => ⟨rfl, rfl⟩) hcells.worker

end Noted

/-! ## 2. The two together -/

/-- Nothing but notes of the one and of the other. -/
theorem inflation_split {WA : Wake (Watched υ DiskNote) → Moment (Watched υ DiskNote) → Prop} :
    (Terms.whole slot).Split (mainTerms args slot) (shadowTerms args slot) WA where
  rely_left h := allows_main.rely h
  rely_right h := DirectInflation.allows_shadow.rely h
  across_left h := h.1
  across_right h := h.1
  guar_left _ := trivial
  guar_right _ := trivial
  left_left := id
  left_right := id
  inv_left _ := Iff.rfl
  inv_right _ := Iff.rfl
  turn_left _ := trivial
  turn_right _ _ _ := trivial

/-- How the shadow ends: everything is paid. -/
def ShadowEnds (args : Arguments) (r : Except Crash α) (m : Moment (Watched υ DiskNote)) : Prop :=
  Returns r ∧ (shadowNotes args m).Paid

theorem shadowEnds_safe {r : Except Crash α} (h : ShadowEnds args r m) : Safe args m := .inl h.2

theorem shadowEnds_stable (slot : υ → ρ) (r : Except Crash α) :
    Stable (Unnoted slot) (ShadowEnds (υ := υ) args r) ∧ Stable (shadowTerms args slot).rely (ShadowEnds args r) :=
  ⟨fun h hu hle => ⟨h.1, (shadowNotes_stable args slot Paid).1 h.2 hu hle⟩,
    fun h hr hle => ⟨h.1, (shadowNotes_stable args slot Paid).2 h.2 hr hle⟩⟩

section Noted

variable {p : Platform (Watched υ DiskNote)} (hp : p.Answers (Unnoted slot)) {cells : InflationCells (Watched υ DiskNote)}
  (hcells : cells.Apart slot) {source : Source} {inspection : Option Inspection}

include hp hcells

/-- **The main inflation to its end**; the shadow hears of a failure. -/
theorem runMain_meets (hm : mainNotes m = []) :
    (cells.shadowed p.noting args source inspection).runMain.Meets (mainTerms args slot) (fun _ _ => True)
      (MainEnds args) m := by
  refine Meets.bind (Meets.weaken id (fun {r m'} h => ?_) (WorkerInflation.inflate_meets hp hcells hm))
  obtain ⟨result, rfl, hdone⟩ := h
  have hset := hcells.mainFinished true m'.state
  have hdone' : MainDone args _ ⟨m'.now, cells.mainFinished.set true m'.state⟩ :=
    (mainDone_stable args _ slot).1 hdone hset (Nat.le_refl _)
  refine Meets.update_bind (allows_main.guar hset) ?_
  show Meets _ _ _ (if result.isOk = true then _ else _) _
  split
  · exact ⟨_, rfl, hdone'⟩
  · have hstays := mainDone_stable args (Inflation.left result).disk.uri slot
    refine Meets.bind (Quiet.meets_unnoted allows_main hstays.1 hstays.2 (fun _ => trivial) (fun {r n} hx hr => ?_)
      (DirectInflation.cancel_calm hp hcells.direct _) hdone')
    obtain ⟨v, rfl⟩ := hr
    exact ⟨_, rfl, hx⟩

theorem runMain_releases :
    (cells.shadowed p.noting args source inspection).runMain.Releases (Unnoted slot) Returns := by
  refine Releases.bind (WorkerInflation.inflate_releases hp hcells) (fun {result} _ => ?_)
    fun h => absurd h not_returns
  refine fun _ => ?_
  show Releases _ _ (if result.isOk = true then _ else _)
  split
  · exact returns_ok _
  · exact Releases.bind (DirectInflation.cancel_calm hp hcells.direct _).releases (fun _ => returns_ok _)
      fun h => absurd h not_returns

/-- The shadow on its way. -/
abbrev OnItsWay (args : Arguments) (slot : υ → ρ) (task : ShadowedInflation.ShadowTask (Watched υ DiskNote))
    (m : Moment (Watched υ DiskNote)) : Prop :=
  task.Meets (shadowTerms args slot) (fun _ => Safe args) (ShadowEnds args) m ∧ task.Releases (Unnoted slot) Returns

/-- **The main inflation with the shadow behind it.** -/
theorem leading_meets (hid : args.PlainId) (hm : m.state.seen = []) :
    (leading (cells.shadowed p.noting args source inspection).runMain.caught
      (spawned (cells.shadowed p.noting args source inspection).shadow.inflate).caught).Meets (.whole slot)
      (fun _ _ => True) (fun r m' => match r with
        | .ok (task, r) => MainEnds args r m' ∧ OnItsWay args slot task m'
        | .error _ => False) m := by
  have hshadow : shadowNotes args m = [] := by rw [shadowNotes, hm]; rfl
  have hnone := shadowNotes_stable args slot fun h => h = []
  have hready : (spawned (cells.shadowed p.noting args source inspection).shadow.inflate).caught.Ready
      (shadowTerms args slot) (fun _ => Safe args) (ShadowEnds args) m := by
    refine ready_spawned (fun {w n} _ hr hn => ?_) fun {n} hr _ hn _ => ?_
    · refine .inl ?_
      have hsame : shadowNotes args n = [] := hnone.2 hshadow hr (Nat.le_of_eq hn.symm)
      rw [hsame]
      exact paid_nil
    · refine Meets.caught (Meets.weaken id (fun {r n'} h => ⟨returns_ok _, h.2⟩)
        (DirectInflation.inflate_pays hp hcells.direct hid (hnone.2 hshadow hr (Nat.le_of_eq hn.symm))))
  have hmain : (cells.shadowed p.noting args source inspection).runMain.caught.Meets (mainTerms args slot)
      (fun _ _ => True) (fun r m' => ∃ r', r = .ok r' ∧ MainEnds args r' m') m :=
    Meets.caught (Meets.weaken id (fun h => ⟨_, rfl, h⟩) (runMain_meets hp hcells (by rw [mainNotes, hm]; rfl)))
  refine Meets.weaken id (fun {r m'} h => ?_) (Meets.leading_rest inflation_split (fun _ => trivial) (fun _ => trivial)
    (Unnoted.all_trans slot) (fun ⟨_, h, _⟩ => nomatch h) (fun h => not_returns h.1)
    (fun {r} => ⟨fun h hr => (shadowEnds_stable slot r).2 h hr.1, (shadowEnds_stable slot r).1⟩) hmain
    (Releases.caught ((runMain_releases hp hcells).mono fun _ => returns_ok _)) hready
    (Releases.caught (Releases.spawned (fun _ => ⟨rfl, rfl⟩)
      ((DirectInflation.inflate_releases hp hcells.direct).mono fun _ => returns_ok _))))
  match r, h with
  | .ok (task, r), ⟨⟨r', heq, hends⟩, htask⟩ =>
    cases heq
    exact ⟨hends, htask⟩

/-! ## 3. Waiting for the shadow -/

/-- **How the wait for the shadow ends**: it has paid, or it was abandoned when it had been waited for long
enough. -/
def Collected (args : Arguments) (m₀ m : Moment (Watched υ DiskNote)) : Prop :=
  (shadowNotes args m).Paid ∨ (shadowNotes args m).Owes ∧ m₀.now + patience ≤ m.now

omit hp hcells in
/-- The grace period is three minutes. -/
theorem graceMillis_shadowed : (cells.shadowed p.noting args source inspection).graceMillis = 180000 := by
  show (Duration.ofSecs 180).millisCeil = 180000
  decide

omit hp hcells in
/-- The last wait. -/
theorem collectOrAbandon_meets {task : ShadowedInflation.ShadowTask (Watched υ DiskNote)}
    (ht : OnItsWay args slot task m) {m₀ : Moment (Watched υ DiskNote)} (hle : m₀.now + 180000 ≤ m.now) :
    ((cells.shadowed p.noting args source inspection).collectOrAbandon task).Meets (shadowTerms args slot)
      (fun _ => Safe args) (fun r m' => Returns r ∧ Collected args m₀ m') m := by
  refine Meets.weaken id (fun {r m'} h => ?_) (ht.1.within_rest DirectInflation.allows_shadow (fun h => h)
    (fun h => not_returns h.1) _ ht.2)
  match r, h with
  | .ok (some v), h => exact ⟨returns_ok _, .inl h.2⟩
  | .ok none, ⟨hlate, _, s, hsafe, hu⟩ =>
    have hnow : m.now + 180000 ≤ m'.now := by rwa [graceMillis_shadowed] at hlate
    refine ⟨returns_ok _, hsafe.imp (fun h => ?_) fun h => ⟨?_, ?_⟩⟩
    · exact (shadowNotes_stable args slot Paid).1 h hu (Nat.le_refl _)
    · exact (shadowNotes_stable args slot Owes).1 h hu (Nat.le_refl _)
    · show m₀.now + 360000 ≤ m'.now
      omega

/-- **A shadow that is late** is told so, and waited for once more. -/
theorem collectLate_meets {task : ShadowedInflation.ShadowTask (Watched υ DiskNote)}
    (ht : task.Ready (shadowTerms args slot) (fun _ => Safe args) (ShadowEnds args) m)
    (hr : task.Releases (Unnoted slot) Returns) {m₀ : Moment (Watched υ DiskNote)}
    (hle : m₀.now + 180000 ≤ m.now) :
    ((cells.shadowed p.noting args source inspection).collectLate task).Meets (shadowTerms args slot)
      (fun _ => Safe args) (fun r m' => Returns r ∧ Collected args m₀ m') m := by
  let i := cells.shadowed p.noting args source inspection
  have hlog := hp.log .warn ("⏱️ Shadow inflation still running " ++ i.grace.exact ++
    " after the main inflater, cancelling it") m.state
  have hcancel : (within i.graceMillis (i.shadow.cancel "main inflater finished")).Calm slot :=
    quiet_within (fun _ => ⟨rfl, rfl⟩) (Unnoted.all_trans slot) _ not_returns
      (DirectInflation.cancel_calm hp hcells.direct _)
  refine Meets.update_bind (DirectInflation.allows_shadow.guar hlog) ?_
  have hmeets := (ht.step (DirectInflation.allows_shadow.rely hlog)).meets trivial
  refine Meets.bind (Meets.weaken id (fun {r m'} h => ?_) (hmeets.alongside_rest DirectInflation.allows_shadow
    (fun h => h) shadowEnds_safe (fun h => not_returns h.1) (fun {r} => shadowEnds_stable slot r) not_returns hr
    hcancel).and_later)
  match r, h with
  | .ok (rest, _), ⟨hnow, hrest⟩ => exact collectOrAbandon_meets hrest (Nat.le_trans hle hnow)

/-- **The wait for the shadow.** -/
theorem collect_meets {task : ShadowedInflation.ShadowTask (Watched υ DiskNote)} (ht : OnItsWay args slot task m) :
    ((cells.shadowed p.noting args source inspection).collect task).Meets (shadowTerms args slot)
      (fun _ => Safe args) (fun r m' => Returns r ∧ Collected args m m') m := by
  refine Meets.bind (Meets.weaken id (fun {r m'} h => ?_) (ht.1.waitedFor_rest DirectInflation.allows_shadow
    (fun h => h) (fun h => not_returns h.1) _ ht.2))
  match r, h with
  | .ok (.inl v), ⟨h, _⟩ => exact ⟨returns_ok _, .inl h.2⟩
  | .ok (.inr rest), ⟨hle, hleft⟩ =>
    rw [graceMillis_shadowed] at hle
    exact collectLate_meets hp hcells hleft.ready hleft.releases hle

/-! ## 4. The whole -/

/-- **What an inflation leaves behind** that has ended and refers to its disk as `uri`. -/
structure Inflated (args : Arguments) (uri : String) (m : Moment (Watched υ DiskNote)) : Prop where
  main : MainDone args uri m
  shadow : (shadowNotes args m).Paid ∨ (shadowNotes args m).Owes ∧
    ∀ t c, (t, .answered c) ∈ mainNotes m → t + patience ≤ m.now

omit hp hcells in
theorem Inflated.of_unnoted {uri : String} (h : Inflated args uri m) (hu : Unnoted slot m.state m'.state)
    (hle : m.now ≤ m'.now) : Inflated args uri m' where
  main := (mainDone_stable args uri slot).1 h.main hu hle
  shadow := by
    have hmain : mainNotes m' = mainNotes m := congrArg ofMain hu.1
    have hshadow : shadowNotes args m' = shadowNotes args m := congrArg (ofShadow args.diskUri) hu.1
    rw [hmain, hshadow]
    exact h.shadow.imp id fun h => ⟨h.1, fun t c hn => Nat.le_trans (h.2 t c hn) hle⟩

/-- How an inflation ends. -/
def Leaves (args : Arguments) (r : Except Crash (Except InflationFailure Inflation))
    (m : Moment (Watched υ DiskNote)) : Prop :=
  ∃ result, r = .ok result ∧ Inflated args (Inflation.left result).disk.uri m

omit hp hcells in
/-- What has come back has done so by now. -/
theorem MainDone.answered_le {uri : String} (h : MainDone args uri m) {t : Nat} {c : DiskCall}
    (hn : (t, .answered c) ∈ mainNotes m) : t ≤ m.now := by
  cases h with
  | nothing notes none =>
    rw [notes] at hn
    cases hn
  | ran i args_eq workflow notes le kept =>
    rw [notes] at hn
    rcases List.mem_cons.mp hn with hn | hn
    · cases hn
    · cases List.mem_singleton.mp hn
      exact le

omit hp hcells in
/-- The comparison does not change the disk. -/
theorem left_addShadow (verdict : String) (shadow : ShadowEnding) (result : Except InflationFailure Inflation) :
    (Inflation.left (addShadow verdict shadow result)).disk = (Inflation.left result).disk := by
  cases result <;> rfl

/-- **The end of the two**, when the main inflation has come to its own. -/
theorem conclude_meets {result : Except InflationFailure Inflation}
    (hm : MainDone args (Inflation.left result).disk.uri m)
    {task : ShadowedInflation.ShadowTask (Watched υ DiskNote)} (ht : OnItsWay args slot task m) :
    ((cells.shadowed p.noting args source inspection).conclude task result).Meets (.whole slot) (fun _ _ => True)
      (Leaves args) m := by
  have hcovers : (Terms.whole slot : Terms (Watched υ DiskNote)).Covers (shadowTerms args slot) :=
    ⟨DirectInflation.allows_shadow.rely, fun _ => trivial, id, fun _ => Iff.rfl⟩
  have hguar : Stable (shadowTerms args slot).guar fun m' => mainNotes m' = mainNotes m ∧ m.now ≤ m'.now :=
    fun h hr hle => ⟨(about_of_adds (fun _ hn => not_byMain_of_byShadow args.diskUri hn) hr.1).trans h.1,
      Nat.le_trans h.2 hle⟩
  have hrely : Stable (Unnoted slot) fun m' => mainNotes m' = mainNotes m ∧ m.now ≤ m'.now :=
    fun h hr hle => ⟨(congrArg ofMain hr.1).trans h.1, Nat.le_trans h.2 hle⟩
  have hcollect : ((cells.shadowed p.noting args source inspection).collect task).Meets (.whole slot)
      (fun _ _ => True) (fun r m' => (mainNotes m' = mainNotes m ∧ m.now ≤ m'.now) ∧ Returns r ∧ Collected args m m') m :=
    Meets.mono (X := fun m' => mainNotes m' = mainNotes m ∧ m.now ≤ m'.now) hcovers hguar hrely (fun _ => id)
      (fun _ _ => trivial) (fun hx hq => ⟨hx, hq⟩) ⟨rfl, Nat.le_refl _⟩ (collect_meets hp hcells ht)
  refine Meets.bind (Meets.weaken id (fun {r m'} h => ?_) hcollect)
  obtain ⟨⟨hnotes, hle⟩, ⟨shadow, rfl⟩, hcollected⟩ := h
  have hdone : Inflated args (Inflation.left (addShadow (compareInflations result shadow) shadow result)).disk.uri m' := by
    rw [left_addShadow]
    refine ⟨hm.of_notes hnotes hle, hcollected.imp id fun h => ⟨h.1, fun t c hn => ?_⟩⟩
    rw [hnotes] at hn
    exact Nat.le_trans (Nat.add_le_add_right (hm.answered_le hn) _) h.2
  show Meets _ _ _ (ite _ _ _) m'
  split
  · exact ⟨trivial, _, rfl, hdone.of_unnoted (hp.log _ _ _) (Nat.le_refl _)⟩
  · exact ⟨_, rfl, hdone⟩

/-- **The inflation with its shadow.** -/
theorem shadowed_leaves (hid : args.PlainId) (hm : m.state.seen = []) :
    (cells.shadowed p.noting args source inspection).inflate.Meets (.whole slot) (fun _ _ => True) (Leaves args) m := by
  refine Meets.bind (Meets.weaken id (fun {r m'} h => ?_) (leading_meets hp hcells hid hm))
  match r, h with
  | .ok (task, .ok result), ⟨⟨_, heq, hdone⟩, htask⟩ =>
    cases heq
    exact conclude_meets hp hcells hdone htask
  | .ok (task, .error why), ⟨⟨_, heq, _⟩, _⟩ => cases heq

/-- **An inflation leaves no disk behind** but the one it refers to. -/
theorem inflaterFor_leaves (hid : args.PlainId) (hm : m.state.seen = []) :
    (cells.inflaterFor p.noting args source inspection).inflate.Meets (.whole slot) (fun _ _ => True)
      (Leaves args) m := by
  unfold InflationCells.inflaterFor
  split
  · exact shadowed_leaves hp hcells hid hm
  · have hcovers : (Terms.whole slot : Terms (Watched υ DiskNote)).Covers (mainTerms args slot) :=
      ⟨allows_main.rely, fun _ => trivial, id, fun _ => Iff.rfl⟩
    have hguar : Stable (mainTerms args slot).guar fun m' => shadowNotes args m' = [] :=
      fun h hr _ => (shadowNotes_stable args slot fun h => h = []).2 h hr.1 ‹_›
    have hmain : mainNotes m = [] := by rw [mainNotes, hm]; rfl
    have hshadow : shadowNotes args m = [] := by rw [shadowNotes, hm]; rfl
    refine Meets.mono hcovers hguar (shadowNotes_stable args slot fun h => h = []).1 (fun _ => id)
      (fun _ _ => trivial) (fun {r m'} hx hq => ?_) hshadow (WorkerInflation.inflate_meets hp hcells hmain)
    obtain ⟨result, rfl, hdone⟩ := hq
    refine ⟨result, rfl, hdone, .inl ?_⟩
    have hnone : shadowNotes args m' = [] := hx
    rw [hnone]
    exact paid_nil

/-- **The cancel of an inflation** touches no disk. -/
theorem inflaterFor_cancel (reason : String) :
    ((cells.inflaterFor p.noting args source inspection).cancel reason).Calm slot := by
  have hworker : (cells.byWorker p.noting args source inspection).cancel.Calm slot :=
    WorkerInflation.cancel_calm hcells
  unfold InflationCells.inflaterFor
  split
  · refine Calm.bind .read fun finished => ?_
    have hshadow : ((cells.byService p.noting args source.path).cancel reason).Calm slot :=
      DirectInflation.cancel_calm hp hcells.direct reason
    cases finished with
    | true => exact Calm.bind hshadow fun _ => .done _
    | false => exact Calm.bind (Calm.both hworker hshadow) fun _ => .done _
  · exact hworker

end Noted

end ImageImport
