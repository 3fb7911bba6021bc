/-
# Cancels of an inflation by the compute service

An inflation by the compute service holds its lock from before it creates its disk until the disk has been deleted,
and a cancel verifies the deletion with the lock.  This module follows the two through their texts
(`toldInflate_abides`, `toldCancel_abides`) and puts together what is true of one inflation and any number of cancels,
whoever makes the next move and however much time passes in between.

Main statement: `cancels_orderly`.  A verification never falls between the creation of the disk and its deletion; a
cancel answers once the inflation is over that it has found under way; it leaves one line in the trace, and says yes if
the disk was not found; and where a reason is left before the check, the inflation ends empty, with no object measured
and no checksum started.  Nobody waits for the lock for ever: where nobody can go on all have ended, or the platform
has not answered a call, and a fair run comes there.
-/
import ImageImport.Proofs.Concurrency.Settling
import ImageImport.Proofs.Disks.Calm
import ImageImport.Proofs.Inflation.Account
import ImageImport.Proofs.Rehearsal.World
import ImageImport.Rehearsal.Scene

namespace ImageImport

open Activity

variable {σ ι : Type} [DecidableEq ι]

namespace DirectInflation

variable {d : DirectInflation σ} {reason : ι → String} {q : ∀ {α : Type}, Except Crash α → Prop}
  {s : Told σ (Deed ι)} {t : Nat} {mine : List (Deed ι)}

/-! ## 1. A cancel -/

variable (q reason) in
/-- **What a party has told when it answers so.** -/
def Settles : (who : Party ι) → Except Crash who.Answer → List (Deed ι) → Prop
  | .inflation, .ok result, mine => .deleted ∈ mine ∧ ∀ p, .checks (some p) ∈ mine → result = .ok {}
  | .cancel i, .ok gone, mine => ∃ answer, .finds i answer ∈ mine ∧ gone = (verdict (reason i) answer).1
  | who, .error why, _ => q (.error why : Except Crash who.Answer)

/-- A reason is left, unless one is pending. -/
theorem issues_does (i : ι) (s : Told σ (Deed ι)) (hs : d.Faithful reason s) :
    d.Does reason (.issues i) (d.cell.modify (DirectState.requestCancel (reason i))) s := by
  constructor
  · rw [d.cell.get_modify]
    exact hs.lock
  · simp only [d.cell.get_modify, DirectState.requestCancel, pendingAfter]
  · simp only [d.cell.get_modify, DirectState.requestCancel, Deed.line?, Option.toList_none, List.append_nil]

/-- What is pending is taken. -/
theorem checks_does (p : Option String) (s : Told σ (Deed ι)) (hs : d.Faithful reason s) :
    d.Does reason (.checks p) (d.cell.modify fun u => { u with pending := none }) s := by
  constructor
  · rw [d.cell.get_modify]
    exact hs.lock
  · simp only [d.cell.get_modify, pendingAfter]
  · simp only [d.cell.get_modify, Deed.line?, Option.toList_none, List.append_nil]

/-- A line is left. -/
theorem finds_does (i : ι) (answer : Except ApiError Disk) (s : Told σ (Deed ι)) (hs : d.Faithful reason s) :
    d.Does reason (.finds i answer) (d.cell.modify (DirectState.push (verdict (reason i) answer).2)) s := by
  constructor
  · rw [d.cell.get_modify]
    exact hs.lock
  · simp only [d.cell.get_modify, DirectState.push, pendingAfter]
  · simp only [d.cell.get_modify, DirectState.push, Deed.line?, Option.toList_some]

/-- **A cancel abides by its terms.** -/
theorem toldCancel_abides (hq : Uniform q)
    (hget : (d.platform.getDisk d.args.project d.args.zone d.diskName).Quiet d.Spares q) {i : ι}
    (h : d.Outside reason (.cancel i) [] s) :
    (d.toldCancel reason i).Abides (d.terms reason (.cancel i)) (d.Stalls (.cancel i))
      (d.Over reason (.cancel i) (Settles reason q (.cancel i))) s := by
  refine Abides.bind (Abides.update fun s' hr => ?_)
  have hthere := h.later hr
  have hallowed : Allowed reason s'.story (.issues i) := by
    refine .of_outside ?_ rfl
    rw [lastOf, Deed.doer, hthere.mine]
    exact .issues i
  obtain ⟨hguar, hissued⟩ := Outside.change (n := .issues i) hthere hallowed (issues_does i s' hthere.faithful)
  refine ⟨hguar, fun s'' hr' => (hissued.later hr').holdingTold (.joins_cancel i) fun t u hholds => ?_⟩
  refine Holds.telling_bind (n := .looks i) hholds (.looks i) (.inl rfl) fun u hlooks => ?_
  refine Abides.bind (Abides.weaken id (fun {r v} hv => ?_) (hlooks.call rfl hget))
  obtain ⟨hthere', hr⟩ := hv
  cases r with
  | error why => exact ⟨_, _, hthere', hq.crash hr, rfl, by simp [Deed.rank]⟩
  | ok answer =>
    refine Abides.bind (Abides.update fun v' hv' => ?_)
    have hstill := hthere'.later hv'
    obtain ⟨hguar', hfound⟩ := Holds.change (n := .finds i answer) hstill (.finds i answer) rfl
      (fun p hp => by cases hp) (finds_does i answer v' hstill.faithful)
    refine ⟨hguar', fun w hw w' hw' => ?_⟩
    have hsettles : Settles reason q (.cancel i) (.ok (verdict (reason i) answer).1)
        ([] ++ [.issues i] ++ [.joins (.cancel i)] ++ [.looks i] ++ [.finds i answer]) := ⟨answer, by simp, rfl⟩
    exact ⟨_, _, (hfound.later hw).later hw', hsettles, rfl, by simp [Deed.rank]⟩

/-! ## 2. The inflation -/

variable (d reason q) in
/-- **Where the disk has been created**, or nearly: the inflation has something to clean up, and if it has taken a
reason its result is empty. -/
def Created (t : Nat) (r : Except Crash (Except InflationFailure Inflation)) (s : Told σ (Deed ι)) : Prop :=
  ∃ mine n, d.Holds reason t .inflation (mine ++ [n]) s ∧ n.doer = .inflation ∧ 2 ≤ n.rank ∧ n.rank < 6 ∧ match r with
    | .ok result => ∀ p, .checks (some p) ∈ mine ++ [n] → result = .ok {}
    | .error why => q (.error why : Except Crash (Except InflationFailure Inflation))

/-- It has, if it has told nothing but that. -/
theorem Holds.created {n : Deed ι} {r : Except Crash (Except InflationFailure Inflation)}
    (h : d.Holds reason t .inflation (mine ++ [n]) s) (hd : n.doer = .inflation) (h2 : 2 ≤ n.rank) (h6 : n.rank < 6)
    (hnone : ∀ p, .checks (some p) ∉ mine ++ [n])
    (hr : ∀ why, r = .error why → q (.error why : Except Crash (Except InflationFailure Inflation))) :
    d.Created reason q t r s := by
  refine ⟨mine, n, h, hd, h2, h6, ?_⟩
  cases r with
  | ok result => exact fun p hp => absurd hp (hnone p)
  | error why => exact hr why rfl

variable (hq : Uniform q) (hp : d.platform.Does d.Spares q)

include hq hp

theorem toldChecksum_abides (started : Nat) (disk : PersistentDisk) (hnone : ∀ p, .checks (some p) ∉ mine)
    (h : d.Holds reason t .inflation (mine ++ [.measures]) s) :
    (d.toldChecksum started disk).Abides (d.terms reason .inflation) (d.Stalls .inflation)
      (d.Created reason q t) s := by
  unfold toldChecksum
  cases d.checksumWorkflow with
  | error cause =>
    intro s' hr
    refine (h.later hr).created rfl (by simp [Deed.rank]) (by simp [Deed.rank]) (by simpa using hnone) fun why hwhy => ?_
    cases hwhy
  | ok w =>
    refine Holds.telling_bind (n := .checksums) h ?_ (.inl rfl) fun u hu => ?_
    · rw [List.getLast?_concat]
      exact .checksums
    have hquiet := checksum_quiet hq Spares.refl (fun _ _ _ => Spares.trans) hp record_spares started disk
    refine Abides.weaken id (fun {r v} hv => ?_) (hu.call rfl hquiet)
    refine hv.1.created rfl (by simp [Deed.rank]) (by simp [Deed.rank]) (by simpa using hnone) fun why hwhy => ?_
    exact hwhy ▸ hv.2

omit hp in
/-- **A call that may fail**: a fault is the result, and with a value the inflation goes on. -/
theorem Holds.andThen_abides {β : Type} {n : Deed ι} {a : Activity σ (Except InflationFailure β)}
    {f : β → Activity (Told σ (Deed ι)) (Except InflationFailure Inflation)}
    (h : d.Holds reason t .inflation (mine ++ [n]) s) (hd : n.doer = .inflation) (hcall : n.isCall = true)
    (h6 : n.rank < 6) (hnone : ∀ p, .checks (some p) ∉ mine ++ [n]) (ha : a.Quiet d.Spares q)
    (hf : ∀ v s', d.Holds reason t .inflation (mine ++ [n]) s' →
      (f v).Abides (d.terms reason .inflation) (d.Stalls .inflation) (d.Created reason q t) s') :
    ((a.on Told.inside).andThen f).Abides (d.terms reason .inflation) (d.Stalls .inflation)
      (d.Created reason q t) s := by
  have h2 : 2 ≤ n.rank := by cases n <;> simp [Deed.isCall, Deed.rank] at hcall ⊢
  refine Abides.bind (Abides.weaken id (fun {r v} hv => ?_) (h.call hcall ha))
  obtain ⟨hthere, hr⟩ := hv
  cases r with
  | error why =>
    refine hthere.created hd h2 h6 hnone fun why' heq => ?_
    cases heq
    exact hq.crash hr
  | ok answer =>
    cases answer with
    | error fault => exact fun v' hv' => (hthere.later hv').created hd h2 h6 hnone fun why heq => by cases heq
    | ok value => exact hf value v hthere

theorem toldMeasure_abides (started : Nat) (hnone : ∀ p, .checks (some p) ∉ mine)
    (h : d.Holds reason t .inflation (mine ++ [.checks none]) s) :
    (d.toldMeasure started).Abides (d.terms reason .inflation) (d.Stalls .inflation) (d.Created reason q t) s := by
  unfold toldMeasure
  cases Source.parseStoragePath d.sourceFile with
  | error e =>
    intro s' hr
    refine (h.later hr).created rfl (by simp [Deed.rank]) (by simp [Deed.rank]) (by simpa using hnone) fun why hwhy => ?_
    cases hwhy
  | ok path =>
    refine Holds.telling_bind (n := .measures) h ?_ (.inl rfl) fun u hu => ?_
    · rw [List.getLast?_concat]
      exact .measures
    have hquiet : Quiet d.Spares q ((d.platform.objectSize path.1 path.2).mapFault fun e =>
        InflationFailure.ofError (.api e)) := hq.mapFault (hp.objectSize ..)
    refine hu.andThen_abides hq rfl rfl (by simp [Deed.rank]) (by simpa using hnone) hquiet fun bytes v hthere => ?_
    exact toldChecksum_abides hq hp started _ (by simpa using hnone) hthere

theorem toldCreate_abides (h : d.Holds reason t .inflation [.joins .inflation] s) :
    d.toldCreate.Abides (d.terms reason .inflation) (d.Stalls .inflation) (d.Created reason q t) s := by
  refine Abides.bind (Abides.clock fun started s' hr => ?_)
  refine Holds.telling_bind (n := .creates) (h.later hr) .creates (.inl rfl) fun u hu => ?_
  have hquiet : Quiet d.Spares q ((d.platform.createDisk d.args.project d.args.zone d.request).mapFault fun e =>
      InflationFailure.ofError (.api e)) := hq.mapFault (hp.createDisk ..)
  refine hu.andThen_abides hq rfl rfl (by simp [Deed.rank]) (by simp) hquiet fun _ v hthere => ?_
  -- the disk is there, and what is pending is taken
  refine Abides.bind (Abides.exchange fun v' hv' => ?_)
  have hstill := hthere.later hv'
  obtain ⟨hguar, hchecked⟩ := Holds.change (n := .checks (d.cell.get v'.state).pending) hstill (.checks _) rfl
    (fun p hp => by cases hp; rfl) (checks_does _ v' hstill.faithful)
  refine ⟨hguar, fun w hw => ?_⟩
  have hlast := hchecked.later hw
  generalize (d.cell.get v'.state).pending = pending at hlast
  cases pending with
  | none => exact toldMeasure_abides hq hp started (by simp) hlast
  | some p =>
    exact fun w' hw' => ⟨_, _, hlast.later hw', rfl, by simp [Deed.rank], by simp [Deed.rank], fun _ _ => rfl⟩

/-- **The inflation abides by its terms.** -/
theorem toldInflate_abides (h : d.Outside reason .inflation [] s) :
    d.toldInflate.Abides (d.terms reason .inflation) (d.Stalls .inflation)
      (d.Over reason .inflation (Settles reason q .inflation)) s := by
  refine h.holdingTold .joins_inflation fun t u hholds => ?_
  refine Abides.bind (Abides.weaken id (fun {r v} hv => ?_) (toldCreate_abides hq hp hholds))
  obtain ⟨mine, n, hcreated, hdoer, h2, h6, hr⟩ := hv
  have hinside : n.inside = true := by cases n <;> simp [Deed.inside, Deed.rank] at h2 ⊢
  cases r with
  | error why => exact ⟨mine, n, hcreated, hr, hinside, by omega⟩
  | ok result =>
    refine Holds.telling_bind (n := .deletes) hcreated ?_ (.inl rfl) fun v hv => ?_
    · rw [List.getLast?_concat]
      exact .deletes hdoer h2 h6
    refine Abides.bind (Abides.weaken id (fun {r w} hw => ?_) (hv.call rfl (deleteDisk_quiet hq hp)))
    cases r with
    | error why => exact ⟨_, _, hw.1, hq.crash hw.2, rfl, by simp [Deed.rank]⟩
    | ok _ =>
      refine Holds.telling_bind (n := .deleted) hw.1 ?_ (.inr rfl) fun w hdeleted w' hw' => ?_
      · rw [List.getLast?_concat]
        exact .deleted
      have hsettles : Settles reason q .inflation (.ok result) (mine ++ [n] ++ [.deletes] ++ [.deleted]) := by
        refine ⟨by simp, fun p hp => hr p ?_⟩
        simpa using hp
      exact ⟨_, _, hdeleted.later hw', hsettles, rfl, by simp [Deed.rank]⟩

omit hq hp

/-! ## 3. All of them -/

variable (q) in
/-- **Somebody is in a call of the platform, or all of them have ended.** -/
def Rests {τ : Type} (h : List (Deed ι)) (rest : ∀ who : Party ι, Activity τ who.Answer) : Prop :=
  (∃ who n, lastOf who h = some n ∧ n.isCall = true) ∨
    ∀ who, (∃ v, rest who = .done v) ∨ ∃ why, rest who = .crash why ∧ q (.error why : Except Crash who.Answer)

variable (d reason q) in
/-- **What is true of one inflation and its cancels** wherever they have got to. -/
structure Orderly (c : Crew (Told σ (Deed ι)) (Party.Answer : Party ι → Type)) : Prop where
  /-- Nothing that a cancel does with the lock falls between the call that creates the disk and the answer to the one
  that deletes it. -/
  apart : ∀ {i n}, n.doer = .cancel i → n.inside = true →
    ¬ [.creates, n, .deletes].Sublist c.moment.state.story ∧ ¬ [.creates, n, .deleted].Sublist c.moment.state.story
  /-- Nor does anything of the inflation fall between a look of a cancel and the answer to it. -/
  whole : ∀ {i answer n}, n.doer = .inflation → n.inside = true →
    ¬ [.looks i, n, .finds i answer].Sublist c.moment.state.story
  /-- If the inflation has called for the disk before a cancel does something with the lock, it is over by then. -/
  behind : ∀ {i n}, n.doer = .cancel i → n.inside = true → [.creates, n].Sublist c.moment.state.story →
    [.leaves .inflation, n].Sublist c.moment.state.story
  /-- And so it is if it has merely come before the cancel. -/
  turn : ∀ {i n}, n.doer = .cancel i → n.inside = true → n ∈ c.moment.state.story →
    [.joins .inflation, .joins (.cancel i)].Sublist c.moment.state.story →
    [.leaves .inflation, n].Sublist c.moment.state.story
  /-- An inflation that has answered is over, and the deletion of its disk has been answered before. -/
  cleans : ∀ {result}, c.rest .inflation = .done result →
    [.deleted, .leaves .inflation].Sublist c.moment.state.story
  /-- The trace has a line for everything that a cancel has found, with the reason of that cancel. -/
  trace : (d.cell.get c.moment.state.state).trace = c.moment.state.story.filterMap (Deed.line? reason)
  /-- A cancel finds something at most once. -/
  once : ∀ i, c.moment.state.story.countP (Deed.isFindOf i) ≤ 1
  /-- A cancel that has answered has found something, once, and says yes exactly if the disk was not found. -/
  answers : ∀ {i gone}, c.rest (.cancel i) = .done gone → ∃ answer,
    [.finds i answer, .leaves (.cancel i)].Sublist c.moment.state.story ∧
    c.moment.state.story.countP (Deed.isFindOf i) = 1 ∧
    (gone = true ↔ ∃ e, answer = .error e ∧ e.isNotFound = true)
  /-- If a cancel has left its reason before the check, the check finds a reason, nothing is measured and nothing is
  checksummed, and the result is empty. -/
  skips : ∀ {i p}, [.issues i, .checks p].Sublist c.moment.state.story → p.isSome = true ∧
    .measures ∉ c.moment.state.story ∧ .checksums ∉ c.moment.state.story ∧
    ∀ result, c.rest .inflation = .done result → result = .ok {}
  /-- If nobody can make a move, somebody is in a call of the platform, or all of them have ended. -/
  rests : c.Idle → Rests q c.moment.state.story c.rest

/-- What everybody keeps to. -/
abbrev Keeping (d : DirectInflation σ) (reason : ι → String) (q : ∀ {α : Type}, Except Crash α → Prop)
    (c : Crew (Told σ (Deed ι)) (Party.Answer : Party ι → Type)) : Prop :=
  c.Keeping (d.terms reason) (d.Continues reason fun _ => False) d.Stalls fun who =>
    d.Over reason who (Settles reason q who)

variable {c : Crew (Told σ (Deed ι)) (Party.Answer : Party ι → Type)}

/-- **At the start everybody keeps to the terms**, and nothing is told yet. -/
theorem toldCrew_keeping (hq : Uniform q) (hp : d.platform.Does d.Spares q) {start : Moment σ}
    (hfresh : d.cell.get start.state = {}) :
    Keeping d reason q (d.toldCrew reason start) ∧ d.Faithful reason (d.toldCrew reason start).moment.state := by
  have hfaithful : d.Faithful reason ⟨start.state, []⟩ := by
    constructor <;> simp [hfresh, Lineup.lock, Lock.free, pendingOf, Proper.nil]
  refine ⟨⟨fun who => ?_, by simp [toldCrew]⟩, hfaithful⟩
  cases who with
  | inflation => exact toldInflate_abides hq hp ⟨hfaithful, rfl⟩
  | cancel i => exact toldCancel_abides hq (hp.getDisk ..) ⟨hfaithful, rfl⟩

/-- What a party has told comes before that it leaves. -/
theorem Outside.before_leaves {who : Party ι} {n : Deed ι} (h : d.Outside reason who (mine ++ [.leaves who]) s)
    (hn : n ∈ mine) : [n, .leaves who].Sublist s.story := by
  have hown : (own who s.story).Sublist s.story := List.filter_sublist
  rw [h.mine] at hown
  exact (pair_snoc.mpr (.inr ⟨hn, rfl⟩)).trans hown

theorem Over.leaves {who : Party ι} {P : Except Crash who.Answer → List (Deed ι) → Prop} {r : Except Crash who.Answer}
    (h : d.Over reason who P r s) : .leaves who ∈ s.story := by
  obtain ⟨mine, houtside, -⟩ := h
  exact (mem_own.mp (houtside.mine ▸ List.mem_append_right mine (List.mem_singleton_self _))).1

/-- A member that has answered is over. -/
theorem Keeping.over (h : Keeping d reason q c) {who : Party ι} {v : who.Answer} (hv : c.rest who = .done v) :
    d.Over reason who (Settles reason q who) (.ok v) c.moment.state := by
  have habides := h.members who
  rw [hv] at habides
  exact habides _ ((d.terms reason who).rely_refl _)

/-- **Nobody waits for the lock for ever.** -/
theorem Keeping.rests (h : Keeping d reason q c) (hs : d.Faithful reason c.moment.state) (hidle : c.Idle) :
    Rests q c.moment.state.story c.rest := by
  refine or_iff_not_imp_left.mpr fun hcalls => ?_
  -- whoever has not ended has a ticket, and waits in vain
  have hstands : ∀ who, ((∃ v, c.rest who = .done v) ∨
      ∃ why, c.rest who = .crash why ∧ q (.error why : Except Crash who.Answer)) ∧ .leaves who ∈ c.moment.state.story ∨
      ∃ t, (t, who) ∈ (lineup c.moment.state.story).queue ∧ (lineup c.moment.state.story).lock.isHeldBy t = false := by
    intro who
    have hhow := (h.members who).stands (hidle who)
    generalize c.rest who = rest at hhow
    cases hhow with
    | @ended v hover => exact .inl ⟨.inl ⟨v, rfl⟩, hover.leaves⟩
    | @crashed why hover =>
      obtain ⟨mine, houtside, hsettles⟩ := id hover
      exact .inl ⟨.inr ⟨why, rfl, by cases who <;> exact hsettles⟩, hover.leaves⟩
    | @waits wake leave next hstalls hholds =>
      rcases hstalls with hcall | ⟨t, hmem, hready⟩
      · exact absurd ⟨who, hcall⟩ hcalls
      · refine .inr ⟨t, hmem, ?_⟩
        simp only [Wake.holds, Bool.or_eq_false_iff] at hholds
        rw [← hs.lock, ← hholds.1, hready]
        rfl
  intro who
  rcases hstands who with ⟨hended, -⟩ | ⟨t, hmem, -⟩
  · exact hended
  -- but the one at the head of the queue is not kept waiting
  exfalso
  cases hqueue : (lineup c.moment.state.story).queue with
  | nil =>
    rw [hqueue] at hmem
    cases hmem
  | cons x rest =>
    have hqueued := hs.proper.queued
    have hhead : (x.1, x.2) ∈ (lineup c.moment.state.story).queue := hqueue ▸ List.mem_cons_self
    rcases hstands x.2 with ⟨-, hleft⟩ | ⟨t', hmem', hheld⟩
    · exact (hqueued.members hhead).2 hleft
    · rw [hqueue, List.mem_cons] at hmem'
      rcases hmem' with heq | hin
      · have hticket : x.1 = t' := (congrArg Prod.fst heq).symm
        simp [Lock.isHeldBy, Lineup.lock, hqueue, hticket] at hheld
      · have hparties := hqueued.parties
        rw [hqueue, List.pairwise_cons] at hparties
        exact hparties.1 _ hin rfl

/-- **What everybody keeps to comes to order.** -/
theorem Keeping.orderly (h : Keeping d reason q c) (hs : d.Faithful reason c.moment.state) : Orderly d reason q c where
  apart {i n} hn hi := by
    have hd : Party.inflation ≠ n.doer := by simp [hn]
    exact ⟨hs.proper.nothing_between (a := .creates) rfl hi rfl hd,
      hs.proper.nothing_between (a := .creates) rfl hi rfl hd⟩
  whole {i answer n} hn hi := by
    have hd : Party.cancel i ≠ n.doer := by simp [hn]
    exact hs.proper.nothing_between (a := .looks i) rfl hi rfl hd
  behind {i n} hn hi hsub := by
    have hd : Party.inflation ≠ n.doer := by simp [hn]
    exact hs.proper.left_of_inside (a := .creates) hsub rfl hi hd
  turn {i n} hn hi hmem hsub := hs.proper.left_of_joined (hn ▸ hsub) hmem hi
  cleans {result} hv := by
    obtain ⟨mine, houtside, hdeleted, -⟩ := h.over hv
    exact houtside.before_leaves hdeleted
  trace := hs.trace
  once i := hs.proper.countP_finds_le i
  answers {i gone} hv := by
    obtain ⟨mine, houtside, answer, hfinds, rfl⟩ := h.over hv
    have hsub := houtside.before_leaves hfinds
    refine ⟨answer, hsub, ?_, ?_⟩
    · have hpos : 0 < c.moment.state.story.countP (Deed.isFindOf i) :=
        List.countP_pos_iff.mpr ⟨_, hsub.subset List.mem_cons_self, by simp [Deed.isFindOf]⟩
      have hle := hs.proper.countP_finds_le i
      omega
    · cases answer with
      | ok disk => simp [verdict]
      | error e => cases he : e.isNotFound <;> simp [verdict, he]
  skips {i p} hsub := by
    have hmem : Deed.checks p ∈ c.moment.state.story := hsub.subset (by simp)
    have hsome : p.isSome = true := (hs.proper.check_finds hmem).mpr ⟨i, hsub⟩
    have hnone : Deed.checks none ∉ c.moment.state.story := by
      intro hin
      have heq := hs.proper.eq_of_rank hmem hin rfl rfl
      cases heq
      cases hsome
    refine ⟨hsome, fun hin => hnone (hs.proper.check_of_measures (.inl hin)),
      fun hin => hnone (hs.proper.check_of_measures (.inr hin)), fun result hv => ?_⟩
    obtain ⟨mine, houtside, -, hempty⟩ := h.over hv
    obtain ⟨reason', rfl⟩ := Option.isSome_iff_exists.mp hsome
    have hown : Deed.checks (some reason') ∈ mine ++ [.leaves .inflation] := houtside.mine ▸ mem_own.mpr ⟨hmem, rfl⟩
    exact hempty _ ((List.mem_append.mp hown).resolve_right (by simp))
  rests := h.rests hs

/-- What is true of the crew that tells its story is true of the one it is seen as. -/
theorem Rests.seen {h : List (Deed ι)} {c' : Crew σ (Party.Answer : Party ι → Type)} (hrests : Rests q h c.rest)
    (hseen : Crew.Seen Told.state c c') : Rests q h c'.rest := by
  refine hrests.imp id fun hall who => ?_
  have hmirrors := (hseen.rest who).mirrors
  generalize c'.rest who = rest at hmirrors
  rcases hall who with ⟨v, hv⟩ | ⟨why, hwhy, hcrash⟩
  · rw [hv] at hmirrors
    cases hmirrors
    exact .inl ⟨_, rfl⟩
  · rw [hwhy] at hmirrors
    cases hmirrors
    exact .inr ⟨why, rfl, hcrash⟩

/-- **One inflation and any number of cancels**, whoever makes the next move.  Everything is in order at any time; what
they do without their story is what they do with it; and if there are finitely many, and nobody who can go on is left
standing for ever, they all end or the platform leaves a call unanswered. -/
theorem cancels_orderly (hq : Uniform q) (hp : d.platform.Does d.Spares q) {start : Moment σ}
    (hfresh : d.cell.get start.state = {}) :
    (∀ c, Crew.Reaches (d.toldCrew reason start) c → Orderly d reason q c) ∧
      (∀ c, Crew.Reaches (d.crew reason start) c →
        ∃ c', Crew.Reaches (d.toldCrew reason start) c' ∧ Crew.Seen Told.state c' c) ∧
      ∀ [Fintype ι] (run : Nat → Crew σ (Party.Answer : Party ι → Type)), run 0 = d.crew reason start →
        (∀ n, Crew.Step (run n) (run (n + 1))) → Crew.Fair run → ∃ n, ∀ k, n ≤ k →
          ∃ c', Crew.Reaches (d.toldCrew reason start) c' ∧ Crew.Seen Told.state c' (run k) ∧
            Rests q c'.moment.state.story (run k).rest := by
  have hseen : ∀ c, Crew.Reaches (d.crew reason start) c →
      ∃ c', Crew.Reaches (d.toldCrew reason start) c' ∧ Crew.Seen Told.state c' c := fun c =>
    (toldCrew_seen start).reaches
  have horderly : ∀ c, Crew.Reaches (d.toldCrew reason start) c → Orderly d reason q c := by
    intro c hrun
    obtain ⟨hkeeping, hfaithful⟩ : Keeping d reason q (d.toldCrew reason start) ∧
        d.Faithful reason (d.toldCrew reason start).moment.state := toldCrew_keeping hq hp hfresh
    have hguar : ∀ {who : Party ι} {s t : Told σ (Deed ι)}, d.Faithful reason s → (d.terms reason who).guar s t →
        d.Faithful reason t := fun hs hg => (hg hs).1
    have hleft : ∀ {s t : Told σ (Deed ι)}, d.Faithful reason s → d.Continues reason (fun _ => False) s t →
        d.Faithful reason t := fun hs hl => (hl hs).1
    obtain ⟨hkeeping', hfaithful'⟩ := Crew.Keeping.reaches terms_onTerms hguar hleft hkeeping hfaithful hrun
    exact Keeping.orderly hkeeping' hfaithful'
  refine ⟨horderly, hseen, fun run hstart hsteps hfair => ?_⟩
  obtain ⟨n, hn⟩ := Crew.rests hsteps hfair
  refine ⟨n, fun k hk => ?_⟩
  have hrun : Crew.Reaches (d.crew reason start) (run k) := hstart ▸ Crew.reaches_of_steps hsteps k
  obtain ⟨c', hrun', hsees⟩ := hseen _ hrun
  exact ⟨c', hrun', hsees, ((horderly c' hrun').rests (hsees.idle (hn k hk))).seen hsees⟩

section Rehearsed

open Rehearsal

/-- An inflation on a platform that answers every call at once. -/
def prompt : DirectInflation Scene where
  args := { executionId := "1" }
  sourceFile := "gs://bucket/object"
  platform := Scene.platform .none
  cell := Scene.directCell

/-- The inflation calls for its disk, a cancel leaves its reason and joins, the inflation ends, and then the cancel. -/
def earlyCancel : List (Party Unit) :=
  List.replicate 5 .inflation ++ List.replicate 2 (.cancel ()) ++ List.replicate 11 .inflation ++
    List.replicate 8 (.cancel ())

theorem prompt_does : prompt.platform.Does prompt.Spares Returns :=
  World.platform_does uniform_returns Spares.refl (fun _ _ _ => Spares.trans) (fun _ _ => ⟨rfl, rfl, rfl⟩) .none

/-- **A cancel comes early**, and the inflation ends empty. -/
theorem cancels_orderly_early : ∃ c,
    Crew.Reaches (prompt.toldCrew (fun _ : Unit => "too late") (Scene.opening {})) c ∧
      Orderly prompt (fun _ => "too late") Returns c ∧
      [.issues (), .checks (some "too late")].Sublist c.moment.state.story ∧
      c.rest .inflation = .done (.ok {}) ∧ c.rest (.cancel ()) = .done true := by
  obtain ⟨c, hplay, hstory, hresult, hanswer⟩ : ∃ c,
      Crew.play earlyCancel (prompt.toldCrew (fun _ => "too late") (Scene.opening {})) = some c ∧
        c.moment.state.story = [.joins .inflation, .creates, .issues (), .joins (.cancel ()), .checks (some "too late"),
          .deletes, .deleted, .leaves .inflation, .looks (), .finds () (.error (World.noDisk prompt.diskName)),
          .leaves (.cancel ())] ∧
        c.rest .inflation = .done (.ok {}) ∧ c.rest (.cancel ()) = .done true := ⟨_, rfl, rfl, rfl, rfl⟩
  have hrun := Crew.reaches_of_play hplay
  refine ⟨c, hrun, (cancels_orderly uniform_returns prompt_does rfl).1 c hrun, ?_, hresult, hanswer⟩
  rw [hstory]
  exact .cons _ (.cons _ (.cons_cons _ (.cons _ (.cons_cons _ (List.nil_sublist _)))))

end Rehearsed

end DirectInflation

end ImageImport
