/-
# The disk of the shadow

Whatever comes of an inflation by the compute service, it deletes the disk it has created
(`DirectInflation.inflate_pays`): after a creation that fails, a cancel, an object that cannot be measured and
a checksum that fails or takes too long.  Wherever it waits in between, it is within a call that has not come
back, or everything is paid (`Safe`), and being given up there it writes nothing
(`DirectInflation.inflate_releases`).

The proof follows the text of `Inflation/Direct.lean`.  It starts without notes, so the first call is the
creation, and nothing else is created after that (`DiskHistory.Opened`).
-/
import ImageImport.Proofs.Disks.Calm
import ImageImport.Proofs.Disks.Kept
import ImageImport.Proofs.Inflation.Quiet

namespace ImageImport

open Activity DiskHistory

variable {υ ρ α : Type}

/-! ## 1. Calls of the shadow -/

/-- The deletion of the shadow's disk is not that of the inflated one. -/
theorem shadowName_ne_diskUri (id : String) (args : Arguments) : "shadow-disk-" ++ id ≠ args.diskUri := by
  intro h
  have hchars := congrArg String.toList h
  simp [Arguments.diskUri, Resource.zonalDiskUri, String.toList_append] at hchars

theorem not_byShadow_of_byMain (uri : String) {c : DiskCall} (h : c.byMain = true) : c.byShadow uri = false := by
  cases c with
  | run w =>
    simp only [DiskCall.byMain, Bool.or_eq_true, beq_iff_eq] at h
    rcases h with h | h <;> simp [DiskCall.byShadow, h, DirectInflation.checksumName]
  | _ => cases h

theorem not_byMain_of_byShadow (uri : String) {c : DiskCall} (h : c.byShadow uri = true) : c.byMain = false := by
  cases hc : c.byMain with
  | false => rfl
  | true => exact h.symm.trans (not_byShadow_of_byMain uri hc)

/-- The terms of the shadow: beside it the main inflation makes its calls. -/
abbrev shadowTerms (args : Arguments) (slot : υ → ρ) : Terms (Watched υ DiskNote) :=
  .calling (DiskCall.byShadow args.diskUri) (fun n => n.call.byMain = true) slot

/-- What the shadow has noted. -/
abbrev shadowNotes (args : Arguments) (m : Moment (Watched υ DiskNote)) : DiskHistory :=
  ofShadow args.diskUri m.state.seen

/-- **Where the shadow waits**, it has paid or is within a call. -/
def Safe (args : Arguments) (m : Moment (Watched υ DiskNote)) : Prop :=
  (shadowNotes args m).Paid ∨ (shadowNotes args m).Owes

/-- Nobody else changes what the shadow has noted. -/
theorem shadowNotes_stable (args : Arguments) (slot : υ → ρ) (X : DiskHistory → Prop) :
    Stable (Unnoted slot) (fun m : Moment (Watched υ DiskNote) => X (shadowNotes args m)) ∧
      Stable (shadowTerms args slot).rely fun m => X (shadowNotes args m) := by
  refine ⟨fun {m m'} hx hu _ => ?_, fun {m m'} hx hr _ => ?_⟩
  · have hsame : shadowNotes args m' = shadowNotes args m := congrArg (ofShadow args.diskUri) hu.1
    show X (shadowNotes args m')
    rw [hsame]
    exact hx
  · have hsame : shadowNotes args m' = shadowNotes args m :=
      about_of_adds (fun n hn => not_byShadow_of_byMain args.diskUri hn) hr
    show X (shadowNotes args m')
    rw [hsame]
    exact hx

variable {p : Platform (Watched υ DiskNote)} {cells : InflationCells (Watched υ DiskNote)} {args : Arguments}
  {file : String} {slot : υ → ρ} {m : Moment (Watched υ DiskNote)}

/-- **A call of the shadow.** -/
theorem shadowCall_meets {c : DiskCall} (hc : c.byShadow args.diskUri = true) {q : Except Crash α → Prop}
    {a : Activity (Watched υ DiskNote) α} (ha : a.Quiet (Unnoted slot) q) {h : DiskHistory}
    (hm : shadowNotes args m = h) :
    (a.noting c).Meets (shadowTerms args slot) (fun _ m' => shadowNotes args m' = h ++ [(m.now, .called c)])
      (fun r m' => q r ∧ ∃ t, t ≤ m'.now ∧
        shadowNotes args m' = h ++ [(m.now, .called c), (t, .answered c)]) m :=
  noting_meets (fun _ hn => not_byShadow_of_byMain args.diskUri hn) hc ha hm

/-- **A call while the disk is there.** -/
theorem opened_meets {project zone : String} {disk : Disk} {c : DiskCall} (hc : c.byShadow args.diskUri = true)
    (hcreate : ∀ project zone disk, c ≠ .create project zone disk) (hdelete : ¬ c.IsDelete)
    {a : Activity (Watched υ DiskNote) α} (ha : a.Calm slot) (hm : (shadowNotes args m).Opened project zone disk) :
    (a.noting c).Meets (shadowTerms args slot)
      (fun _ m' => (shadowNotes args m').Opened project zone disk ∧ (shadowNotes args m').Owes)
      (fun r m' => Returns r ∧ (shadowNotes args m').Opened project zone disk) m := by
  refine Meets.weaken (fun {_ m'} hw => ?_) (fun {r m'} hq => ?_)
    (shadowCall_meets hc ha rfl)
  · rw [hw]
    exact ⟨hm.append fun n hn => by cases List.mem_singleton.mp hn; exact hcreate, _, _, c, rfl, hdelete⟩
  · obtain ⟨hr, t, -, hnotes⟩ := hq
    rw [hnotes]
    refine ⟨hr, hm.append fun n hn => ?_⟩
    rcases List.mem_cons.mp hn with rfl | hn
    · exact hcreate
    · cases List.mem_singleton.mp hn
      exact hcreate

/-! ## 2. The inflation -/

namespace DirectInflation

/-- The workflow that checksums a disk has its name. -/
theorem name_of_checksumWorkflow {σ : Type} {d : DirectInflation σ} {w : Workflow} (h : d.checksumWorkflow = .ok w) :
    w.name = checksumName := by
  rw [Workflow.eq_substitute_of_build h]
  rfl

section Noted

variable (hp : p.Answers (Unnoted slot)) (hcell : ∀ t s, Unnoted slot s (cells.direct.set t s))

/-- The disk is there, and everything that was asked for has come back. -/
def StillThere (d : DirectInflation (Watched υ DiskNote)) (r : Except Crash α) (m : Moment (Watched υ DiskNote)) :
    Prop := Returns r ∧ (shadowNotes d.args m).Opened d.args.project d.args.zone d.request

/-- The terms of the shadow allow what nobody notes. -/
theorem allows_shadow : (shadowTerms args slot).Allows slot := Terms.allows_noting

include hp hcell

/-- **The disk is checksummed**, in time or not. -/
theorem checksum_meets (started : Nat) (disk : PersistentDisk)
    (hm : (shadowNotes args m).Opened args.project args.zone (cells.byService p.noting args file).request) :
    ((cells.byService p.noting args file).checksum started disk).Meets (shadowTerms args slot)
      (fun _ => Safe args) (StillThere (cells.byService p.noting args file)) m := by
  unfold checksum
  cases hw : (cells.byService p.noting args file).checksumWorkflow with
  | error e => exact ⟨returns_ok _, hm⟩
  | ok w =>
    have hcall : (DiskCall.run w).byShadow args.diskUri = true := by
      simp [DiskCall.byShadow, name_of_checksumWorkflow hw]
    have hrecord : ∀ inst line s, Unnoted slot s ((cells.byService p.noting args file).record inst line s) :=
      fun _ _ s => hcell _ s
    have hrun := hp.runWorkflow w (fun s => (cells.direct.get s).isCancelled) _ hrecord
    have hmeets := opened_meets hcall (fun _ _ _ h => nomatch h) (fun ⟨_, _, _, h⟩ => nomatch h) hrun hm
    refine Meets.bind (Meets.weaken ?_ (fun {r m'} h => ?_) (hmeets.within_rest allows_shadow
      (fun h => h) (fun h => not_returns h.1) checksumTimeout.millisCeil (noting_releases hrun)))
    · exact fun h => .inr h.2
    · have hopened : ∃ v, r = .ok v ∧ (shadowNotes args m').Opened args.project args.zone
          (cells.byService p.noting args file).request := by
        match r, h with
        | .ok (some v), ⟨_, h⟩ => exact ⟨_, rfl, h⟩
        | .ok none, ⟨_, _, s, ⟨h, _⟩, hu⟩ =>
          exact ⟨_, rfl, (shadowNotes_stable args slot (Opened _ _ _)).1 h hu (Nat.le_refl _)⟩
      obtain ⟨v, rfl, hopened⟩ := hopened
      exact Meets.clock_bind (Meets.read_bind (Meets.pure ⟨returns_ok _, hopened⟩))

/-- **The object is measured**, and then the disk is checksummed. -/
theorem measure_meets (started : Nat)
    (hm : (shadowNotes args m).Opened args.project args.zone (cells.byService p.noting args file).request) :
    ((cells.byService p.noting args file).measure started).Meets (shadowTerms args slot) (fun _ => Safe args)
      (StillThere (cells.byService p.noting args file)) m := by
  unfold measure
  cases Source.parseStoragePath (cells.byService p.noting args file).sourceFile with
  | error e => exact ⟨returns_ok _, hm⟩
  | ok path =>
    have hmeets := opened_meets (c := .measure path.1 path.2) rfl (fun _ _ _ h => nomatch h)
      (fun ⟨_, _, _, h⟩ => nomatch h) (hp.objectSize path.1 path.2) hm
    refine Meets.bind (Meets.bind (Meets.weaken (fun h => .inr h.2) (fun {r m'} h => ?_) hmeets))
    obtain ⟨⟨v, rfl⟩, hopened⟩ := h
    cases v with
    | error e => exact ⟨returns_ok _, hopened⟩
    | ok bytes => exact checksum_meets hp hcell started _ hopened

/-- **The disk is created**, and then whatever comes. -/
theorem createAndChecksum_meets (hm : shadowNotes args m = []) :
    (cells.byService p.noting args file).createAndChecksum.Meets (shadowTerms args slot) (fun _ => Safe args)
      (StillThere (cells.byService p.noting args file)) m := by
  let d := cells.byService p.noting args file
  have hcall : (DiskCall.create args.project args.zone d.request).byShadow args.diskUri = true := rfl
  have hmeets := shadowCall_meets hcall (hp.createDisk args.project args.zone d.request) hm
  refine Meets.clock_bind (Meets.bind (Meets.bind (Meets.weaken (fun {_ m'} h => ?_) (fun {r m'} h => ?_) hmeets)))
  · refine .inr ?_
    rw [h]
    exact ⟨_, _, _, rfl, fun ⟨_, _, _, h⟩ => nomatch h⟩
  · obtain ⟨⟨v, rfl⟩, t, -, hnotes⟩ := h
    have hopened : (shadowNotes args m').Opened args.project args.zone d.request :=
      ⟨m.now, t, [], hnotes, fun _ hn => nomatch hn⟩
    cases v with
    | error e => exact ⟨returns_ok _, hopened⟩
    | ok u =>
      -- a cancel that came before this has left its reason
      let m₁ : Moment (Watched υ DiskNote) :=
        ⟨m'.now, cells.direct.modify (fun t => { t with pending := none }) m'.state⟩
      have hu : Unnoted slot m'.state m₁.state := hcell _ _
      have hopened₁ : (shadowNotes args m₁).Opened args.project args.zone d.request :=
        (shadowNotes_stable args slot (Opened _ _ _)).1 hopened hu (Nat.le_refl _)
      refine ⟨allows_shadow.guar hu, ?_⟩
      show Meets _ _ _ (Activity.bind (Activity.done (cells.direct.get m'.state).pending) _) m₁
      cases hpending : (cells.direct.get m'.state).pending with
      | some reason => exact ⟨returns_ok _, hopened₁⟩
      | none => exact measure_meets hp hcell m.now hopened₁

omit hcell in
/-- **The disk is deleted**, and its deletion asked for when the wait for it begins. -/
theorem deleteDisk_meets (hid : args.PlainId)
    (hm : (shadowNotes args m).Opened args.project args.zone (cells.byService p.noting args file).request) :
    (cells.byService p.noting args file).deleteDisk.Meets (shadowTerms args slot) (fun _ => Safe args)
      (fun r m' => Returns r ∧ (shadowNotes args m').Paid) m := by
  let d := cells.byService p.noting args file
  have hcall : (DiskCall.delete args.project args.zone d.diskName).byShadow args.diskUri = true :=
    bne_iff_ne.mpr (shadowName_ne_diskUri args.executionId args)
  have hpaid : ∀ {l t}, (t, DiskNote.called (.delete args.project args.zone d.diskName)) ∈ l →
      (∀ n ∈ l, n.2.call = .delete args.project args.zone d.diskName) → (shadowNotes args m ++ l).Paid := by
    intro l t hmem hl
    refine (hm.append fun n hn project zone disk h => ?_).paid hid.name_shadowDisk (List.mem_append_right _ hmem)
    rw [hl n hn] at h
    cases h
  refine Meets.bind (Meets.weaken (fun {_ m'} h => ?_) (fun {r m'} h => ?_)
    (shadowCall_meets hcall (hp.deleteDisk args.project args.zone d.diskName) rfl))
  · refine .inl ?_
    rw [h]
    exact hpaid (List.mem_singleton_self _) (List.forall_mem_singleton.mpr rfl)
  · obtain ⟨⟨v, rfl⟩, t, -, hnotes⟩ := h
    have hdone : (shadowNotes args m').Paid := by
      rw [hnotes]
      refine hpaid (List.mem_cons_self ..) fun n hn => ?_
      rcases List.mem_cons.mp hn with rfl | hn
      · rfl
      · cases List.mem_singleton.mp hn
        rfl
    cases v with
    | ok u => exact ⟨returns_ok _, hdone⟩
    | error e =>
      show Meets _ _ _ (if e.isNotFound = true then _ else _) m'
      split
      · exact ⟨returns_ok _, hdone⟩
      · have hu := hp.log .warn ("⚠️ Failed to delete shadow disk " ++ d.diskName ++ ": " ++ e.text) m'.state
        exact ⟨allows_shadow.guar hu, ⟨_, rfl⟩, (shadowNotes_stable args slot Paid).1 hdone hu (Nat.le_refl _)⟩

/-- **Whatever comes of it, the inflation pays**: the disk it has created is deleted. -/
theorem inflate_pays (hid : args.PlainId) (hm : shadowNotes args m = []) :
    (cells.byService p.noting args file).inflate.Meets (shadowTerms args slot) (fun _ => Safe args)
      (fun r m' => Returns r ∧ (shadowNotes args m').Paid) m := by
  have hnone := shadowNotes_stable args slot fun h => h = []
  have hsafe : ∀ {m' : Moment (Watched υ DiskNote)}, shadowNotes args m' = [] → Safe args m' := by
    intro m' h
    refine .inl ?_
    rw [h]
    exact paid_nil
  have hpaid : ∀ {r : Except Crash (Except InflationFailure Inflation)}, Stable (Unnoted slot) fun m' =>
      Returns r ∧ (shadowNotes args m').Paid := by
    intro r n n' ⟨hr, hpaid⟩ hu hle
    exact ⟨hr, (shadowNotes_stable args slot Paid).1 hpaid hu hle⟩
  have hlock : ∀ l s, Unnoted slot s ((cells.byService p.noting args file).lock.set l s) := fun _ s => hcell _ s
  refine Meets.holding (Q := fun r m' => Returns r ∧ (shadowNotes args m').Paid) allows_shadow hlock
    hnone.1 hnone.2 hsafe hpaid hm fun h => ?_
  refine Meets.bind (Meets.weaken id (fun {r m'} h => ?_) (createAndChecksum_meets hp hcell h))
  obtain ⟨⟨v, rfl⟩, hopened⟩ := h
  refine Meets.bind (Meets.weaken id (fun {r n} h => ?_) (deleteDisk_meets hp hid hopened))
  obtain ⟨⟨u, rfl⟩, hdone⟩ := h
  exact ⟨returns_ok _, hdone⟩

/-! ## 3. Being given up -/

omit hp hcell in
/-- A call that stops at a fault is given up like the call. -/
theorem releases_andThen {ε γ δ : Type} {c : DiskCall} {a : Activity (Watched υ DiskNote) (Except ε γ)}
    {g : ε → InflationFailure} {f : γ → Activity (Watched υ DiskNote) (Except InflationFailure δ)}
    (ha : a.Calm slot) (hf : ∀ v, (f v).Releases (Unnoted slot) Returns) :
    (((a.noting c).mapFault g).andThen f).Releases (Unnoted slot) Returns := by
  refine Releases.bind (p := Returns) (Releases.bind (noting_releases ha) (fun {r} _ => returns_ok _)
    fun h => absurd h not_returns) (fun {r} _ => ?_) fun h => absurd h not_returns
  cases r with
  | ok v => exact hf v
  | error e => exact returns_ok _

theorem checksum_releases (started : Nat) (disk : PersistentDisk) :
    ((cells.byService p.noting args file).checksum started disk).Releases (Unnoted slot) Returns := by
  unfold checksum
  cases (cells.byService p.noting args file).checksumWorkflow with
  | error e => exact returns_ok _
  | ok w =>
    have hrun := hp.runWorkflow w (fun s => (cells.direct.get s).isCancelled)
      (cells.byService p.noting args file).record fun _ _ s => hcell _ s
    refine Releases.bind (Releases.within (fun _ => ⟨rfl, rfl⟩) (Unnoted.all_trans slot) _
      not_returns (noting_releases hrun)) (fun _ => ?_) fun h => absurd h not_returns
    exact fun _ _ => returns_ok _

theorem createAndChecksum_releases :
    (cells.byService p.noting args file).createAndChecksum.Releases (Unnoted slot) Returns := by
  refine fun m => releases_andThen (hp.createDisk ..) fun _ s => ?_
  show Releases _ _ (Activity.bind (Activity.done (cells.direct.get s.state).pending) _)
  cases (cells.direct.get s.state).pending with
  | some reason => exact returns_ok _
  | none =>
    show Releases _ _ (measure _ _)
    unfold measure
    cases Source.parseStoragePath (cells.byService p.noting args file).sourceFile with
    | error e => exact returns_ok _
    | ok path => exact releases_andThen (hp.objectSize ..) fun _ => checksum_releases hp hcell _ _

/-- **Giving the inflation up writes nothing**, wherever that happens. -/
theorem inflate_releases :
    (cells.byService p.noting args file).inflate.Releases (Unnoted slot) Returns := by
  have hlock : ∀ l s, Unnoted slot s ((cells.byService p.noting args file).lock.set l s) := fun _ s => hcell _ s
  refine Releases.holding hlock (Releases.bind (createAndChecksum_releases hp hcell)
    (fun _ => ?_) fun h => absurd h not_returns)
  refine Releases.bind (p := Returns) (Releases.bind (noting_releases (hp.deleteDisk ..))
    (fun {r} _ => ?_) fun h => absurd h not_returns) (fun _ => returns_ok _) fun h => absurd h not_returns
  cases r with
  | ok u => exact returns_ok _
  | error e =>
    show Releases _ _ (if e.isNotFound = true then _ else _)
    split
    · exact returns_ok _
    · exact fun _ => returns_ok _

/-! ## 4. The cancel -/

/-- **A cancel touches no disk.** -/
theorem cancel_calm (reason : String) : ((cells.byService p.noting args file).cancel reason).Calm slot :=
  cancel_quiet uniform_returns (fun _ => ⟨rfl, rfl⟩) (Unnoted.all_trans slot) hcell hp.getDisk reason

end Noted

end DirectInflation

end ImageImport
