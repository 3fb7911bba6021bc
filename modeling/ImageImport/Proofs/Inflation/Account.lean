/-
# An inflation and its cancels, with their story

`Proofs/Inflation/Protocol.lean` says which stories of one inflation and any number of cancels there are.  Here the
inflation and the cancel are written down with their deeds (`toldInflate`, `toldCancel`), each deed in the move that
does it, and do otherwise what they do without (`toldCrew_seen`).

Each party is on terms with the others (`terms`): the story stays proper and keeps to what the lock, the pending reason
and the trace hold (`Faithful`), and nobody tells what another does.  Section 4 follows a party through its text.  What
is known at each point is which deeds of its own it has told so far, all of them in their order, and whether its ticket
is in the queue (`Queues`) or at the head of it (`Holds`); the others can change nothing of that.
-/
import ImageImport.Proofs.Concurrency.CrewStories
import ImageImport.Proofs.Import.Simulation
import ImageImport.Proofs.Inflation.Protocol
import ImageImport.Proofs.Inflation.Quiet

namespace ImageImport

open Activity

variable {σ ι β γ : Type}

/-! ## 1. Who answers what -/

/-- What a party answers. -/
abbrev Party.Answer : Party ι → Type
  | inflation => Except InflationFailure Inflation
  | cancel _ => Bool

namespace DirectInflation

variable (d : DirectInflation σ) (reason : ι → String)

/-- **One inflation and a cancel for each of the reasons.** -/
def crew (start : Moment σ) : Crew σ (Party.Answer : Party ι → Type) where
  moment := start
  rest
    | .inflation => d.inflate
    | .cancel i => d.cancel (reason i)

/-! ## 2. With their deeds -/

/-- Checksum a disk. -/
def toldChecksum (started : Nat) (disk : PersistentDisk) :
    Activity (Told σ (Deed ι)) (Except InflationFailure Inflation) :=
  match d.checksumWorkflow with
  | .error cause => .done (.error (.ofError (.workflow cause)))
  | .ok _ => do
    telling .checksums
    (d.checksum started disk).on Told.inside

/-- Measure the object of the source and checksum the disk. -/
def toldMeasure (started : Nat) : Activity (Told σ (Deed ι)) (Except InflationFailure Inflation) :=
  match Source.parseStoragePath d.sourceFile with
  | .error e => .done (.error (.ofError e))
  | .ok (bucket, object) => do
    telling .measures
    (((d.platform.objectSize bucket object).mapFault fun e => InflationFailure.ofError (.api e)).on Told.inside).andThen
      fun bytes => d.toldChecksum started (d.createdDisk bytes)

/-- Take the pending reason, if there is one. -/
def toldTake : Activity (Told σ (Deed ι)) (Option String) :=
  .exchange fun s =>
    ((d.cell.get s.state).pending,
      Told.change (.checks (d.cell.get s.state).pending) (d.cell.modify fun t => { t with pending := none }) s)

/-- Create the disk and checksum it. -/
def toldCreate : Activity (Told σ (Deed ι)) (Except InflationFailure Inflation) := do
  let started ← Activity.clock
  telling .creates
  (((d.platform.createDisk d.args.project d.args.zone d.request).mapFault fun e =>
      InflationFailure.ofError (.api e)).on Told.inside).andThen fun () => do
    match ← d.toldTake with
    | some _ => return .ok {}
    | none => d.toldMeasure started

/-- **The inflation.** -/
def toldInflate : Activity (Told σ (Deed ι)) (Except InflationFailure Inflation) :=
  holdingTold d.lock (.joins .inflation) (.leaves .inflation) do
    let result ← d.toldCreate
    telling .deletes
    d.deleteDisk.on Told.inside
    telling .deleted
    return result

/-- **The cancel.** -/
def toldCancel (i : ι) : Activity (Told σ (Deed ι)) Bool := do
  .update (Told.change (.issues i) (d.cell.modify (DirectState.requestCancel (reason i))))
  holdingTold d.lock (.joins (.cancel i)) (.leaves (.cancel i)) do
    telling (.looks i)
    let found ← (d.platform.getDisk d.args.project d.args.zone d.diskName).on Told.inside
    .update (Told.change (.finds i found) (d.cell.modify (DirectState.push (verdict (reason i) found).2)))
    return (verdict (reason i) found).1

/-- **The crew that tells its story**, of which nothing has been told yet. -/
def toldCrew (start : Moment σ) : Crew (Told σ (Deed ι)) (Party.Answer : Party ι → Type) where
  moment := ⟨start.now, start.state, []⟩
  rest
    | .inflation => d.toldInflate
    | .cancel i => d.toldCancel reason i

variable {d reason}

theorem mirrors_toldChecksum (started : Nat) (disk : PersistentDisk) :
    Mirrors Told.state True Eq (d.toldChecksum (ι := ι) started disk) (d.checksum started disk) := by
  unfold toldChecksum
  cases hw : d.checksumWorkflow with
  | error cause =>
    unfold checksum
    rw [hw]
    exact .done rfl
  | ok w => exact .telling (mirrors_told _)

theorem mirrors_toldMeasure (started : Nat) :
    Mirrors Told.state True Eq (d.toldMeasure (ι := ι) started) (d.measure started) := by
  unfold toldMeasure measure
  cases Source.parseStoragePath d.sourceFile with
  | error e => exact .done rfl
  | ok path => exact .telling (.andThen (mirrors_told _) fun _ => mirrors_toldChecksum _ _)

theorem mirrors_toldCreate : Mirrors Told.state True Eq (d.toldCreate (ι := ι)) d.createAndChecksum := by
  refine Mirrors.bind .clock ?_
  rintro started _ rfl
  refine .telling (.andThen (mirrors_told _) fun _ => Mirrors.bind (R := Eq) (.exchange (fun _ => rfl) fun _ => rfl) ?_)
  rintro pending _ rfl
  cases pending with
  | some reason => exact .done rfl
  | none => exact mirrors_toldMeasure started

/-- The inflation does what it does without its deeds. -/
theorem mirrors_toldInflate : Mirrors Told.state True Eq (d.toldInflate (ι := ι)) d.inflate := by
  refine .holdingTold (Mirrors.bind mirrors_toldCreate ?_)
  rintro result _ rfl
  exact .telling (Mirrors.bind (mirrors_told _) fun _ => .telling (.done rfl))

/-- A cancel does. -/
theorem mirrors_toldCancel (i : ι) : Mirrors Told.state True Eq (d.toldCancel reason i) (d.cancel (reason i)) := by
  refine Mirrors.bind (R := Eq) .change fun _ => .holdingTold (.telling (Mirrors.bind (mirrors_told _) ?_))
  rintro found _ rfl
  exact Mirrors.bind (R := Eq) .change fun _ => .done rfl

/-- **The crew is seen of the one that tells its story.** -/
theorem toldCrew_seen (start : Moment σ) : Crew.Seen Told.state (d.toldCrew reason start) (d.crew reason start) where
  moment := rfl
  rest
    | .inflation => ⟨mirrors_toldInflate, nofun, nofun⟩
    | .cancel i => ⟨mirrors_toldCancel i, nofun, nofun⟩
  tasks := .nil

/-! ## 3. The terms -/

variable [DecidableEq ι]

variable (d reason) in
/-- **A story that is proper and true**: of the lock, of what is pending, and of the trace. -/
structure Faithful (s : Told σ (Deed ι)) : Prop where
  proper : Proper reason s.story
  lock : (d.cell.get s.state).lock = (lineup s.story).lock
  pending : (d.cell.get s.state).pending = pendingOf reason s.story
  trace : (d.cell.get s.state).trace = s.story.filterMap (Deed.line? reason)

variable (d reason) in
/-- **The story stays faithful, and goes on** with deeds of some of the parties. -/
def Continues (who : Party ι → Prop) (s t : Told σ (Deed ι)) : Prop :=
  d.Faithful reason s → d.Faithful reason t ∧ ∃ l, t.story = s.story ++ l ∧ ∀ n ∈ l, who n.doer

theorem Continues.refl {who : Party ι → Prop} (s : Told σ (Deed ι)) : d.Continues reason who s s :=
  fun hs => ⟨hs, [], by simp, by simp⟩

theorem Continues.trans {who : Party ι → Prop} {s t u : Told σ (Deed ι)} (h : d.Continues reason who s t)
    (h' : d.Continues reason who t u) : d.Continues reason who s u := by
  intro hs
  obtain ⟨ht, l, hl, hwho⟩ := h hs
  obtain ⟨hu, l', hl', hwho'⟩ := h' ht
  refine ⟨hu, l ++ l', by rw [hl', hl, List.append_assoc], fun n hn => ?_⟩
  exact (List.mem_append.mp hn).elim (hwho n) (hwho' n)

theorem Continues.mono {who who' : Party ι → Prop} {s t : Told σ (Deed ι)} (hwho : ∀ w, who w → who' w)
    (h : d.Continues reason who s t) : d.Continues reason who' s t := by
  intro hs
  obtain ⟨ht, l, hl, hl'⟩ := h hs
  exact ⟨ht, l, hl, fun n hn => hwho _ (hl' n hn)⟩

variable (d reason) in
/-- **The terms of a party**: it tells its own deeds, the others theirs, and what is left to itself tells nothing. -/
def terms (who : Party ι) : Terms (Told σ (Deed ι)) where
  rely := d.Continues reason fun w => w ≠ who
  guar := d.Continues reason fun w => w = who
  left := d.Continues reason fun _ => False
  rely_refl := .refl
  rely_trans := .trans
  guar_refl := .refl
  guar_trans := .trans
  left_refl := .refl

/-- The parties are on terms with each other. -/
theorem terms_onTerms : Crew.OnTerms (d.terms reason) (d.Continues reason fun _ => False) where
  across {i j s t} hij h := by
    have hcontinues : d.Continues reason (fun w => w = i) s t := h
    exact hcontinues.mono fun w hw => hw ▸ hij
  left h := h
  tasks {i s t} h := by
    have hothers : d.Continues reason (fun w => w ≠ i) s t := Continues.mono (fun _ hw => hw.elim) h
    exact hothers

/-! ## 4. Following a party -/

variable {who : Party ι} {mine : List (Deed ι)} {s s' : Told σ (Deed ι)} {t : Nat}

variable (d reason) in
/-- **A party that has told this much**, and stands outside. -/
structure Outside (who : Party ι) (mine : List (Deed ι)) (s : Told σ (Deed ι)) : Prop where
  faithful : d.Faithful reason s
  mine : own who s.story = mine

variable (d reason) in
/-- **A party in the queue.** -/
structure Queues (t : Nat) (who : Party ι) (mine : List (Deed ι)) (s : Told σ (Deed ι)) : Prop
    extends d.Outside reason who mine s where
  queued : (t, who) ∈ (lineup s.story).queue

variable (d reason) in
/-- **A party that holds the lock.** -/
structure Holds (t : Nat) (who : Party ι) (mine : List (Deed ι)) (s : Told σ (Deed ι)) : Prop
    extends d.Outside reason who mine s where
  head : (lineup s.story).queue.head? = some (t, who)

/-! The others change nothing of that. -/

theorem Outside.later (h : d.Outside reason who mine s) (hr : (d.terms reason who).rely s s') :
    d.Outside reason who mine s' := by
  obtain ⟨hs', l, hl, hothers⟩ := hr h.faithful
  exact ⟨hs', by rw [hl, own_append who _ hothers, h.mine]⟩

theorem Queues.later (h : d.Queues reason t who mine s) (hr : (d.terms reason who).rely s s') :
    d.Queues reason t who mine s' := by
  obtain ⟨hs', l, hl, hothers⟩ := hr h.faithful
  refine ⟨h.toOutside.later hr, ?_⟩
  have hproper := hs'.proper
  rw [hl] at hproper ⊢
  exact hproper.queue_append hothers h.queued

theorem Holds.later (h : d.Holds reason t who mine s) (hr : (d.terms reason who).rely s s') :
    d.Holds reason t who mine s' := by
  obtain ⟨hs', l, hl, hothers⟩ := hr h.faithful
  refine ⟨h.toOutside.later hr, ?_⟩
  have hproper := hs'.proper
  rw [hl] at hproper ⊢
  exact hproper.head_append hothers h.head

/-! One deed. -/

/-- What a deed has to do for the story to stay true. -/
structure Does (d : DirectInflation σ) (reason : ι → String) (n : Deed ι) (f : σ → σ) (s : Told σ (Deed ι)) : Prop where
  lock : (d.cell.get (f s.state)).lock = ((lineup s.story).after n).lock
  pending : (d.cell.get (f s.state)).pending = pendingAfter reason (d.cell.get s.state).pending n
  trace : (d.cell.get (f s.state)).trace = (d.cell.get s.state).trace ++ (n.line? reason).toList

theorem Faithful.change {n : Deed ι} {f : σ → σ} (hs : d.Faithful reason s) (hn : Allowed reason s.story n)
    (hf : d.Does reason n f s) : d.Faithful reason (Told.change n f s) where
  proper := .snoc hs.proper hn
  lock := by simpa using hf.lock
  pending := by simpa [hs.pending] using hf.pending
  trace := by
    have hline : [n].filterMap (Deed.line? reason) = (n.line? reason).toList := by
      cases hn : n.line? reason <;> simp [hn]
    simpa [hs.trace, hline] using hf.trace

/-- **A deed that is next**, of a party that has told this much. -/
theorem Outside.change {n : Deed ι} {f : σ → σ} (h : d.Outside reason n.doer mine s) (hn : Allowed reason s.story n)
    (hf : d.Does reason n f s) :
    (d.terms reason n.doer).guar s (Told.change n f s) ∧ d.Outside reason n.doer (mine ++ [n]) (Told.change n f s) := by
  have hs' := h.faithful.change hn hf
  refine ⟨fun _ => ⟨hs', [n], rfl, by simp⟩, hs', ?_⟩
  rw [Told.change_story, own_snoc, if_pos rfl, h.mine]

/-- **A deed inside**, of a party that stays there. -/
theorem Holds.change {n : Deed ι} {f : σ → σ} (h : d.Holds reason t n.doer mine s) (hnext : Deed.Next mine.getLast? n)
    (hstays : (lineup s.story).after n = lineup s.story)
    (hchecks : ∀ p, n = .checks p → p = (d.cell.get s.state).pending) (hf : d.Does reason n f s) :
    (d.terms reason n.doer).guar s (Told.change n f s) ∧ d.Holds reason t n.doer (mine ++ [n]) (Told.change n f s) := by
  have hallowed : Allowed reason s.story n := by
    refine ⟨?_, fun _ => ?_, fun p hp => ?_⟩
    · rwa [lastOf, h.mine]
    · rw [Lineup.holder, h.head]
      rfl
    · rw [hchecks p hp, h.faithful.pending]
  obtain ⟨hguar, houtside⟩ := h.toOutside.change hallowed hf
  refine ⟨hguar, houtside, ?_⟩
  rw [Told.change_story, lineup_snoc, hstays, h.head]

/-! Deeds that only the story tells of. -/

theorem Holds.tell {n : Deed ι} (h : d.Holds reason t n.doer mine s) (hnext : Deed.Next mine.getLast? n)
    (hplain : n.isCall = true ∨ n = .deleted) :
    (d.terms reason n.doer).guar s (Told.tell n s) ∧ d.Holds reason t n.doer (mine ++ [n]) (Told.tell n s) := by
  have hnothing : (∀ l : Lineup ι, l.after n = l) ∧ (∀ p, pendingAfter reason p n = p) ∧ n.line? reason = none ∧
      ∀ p, n ≠ .checks p := by
    cases n <;> simp [Deed.isCall, Lineup.after, pendingAfter, Deed.line?] at hplain ⊢
  obtain ⟨hafter, hpending, hline, hchecks⟩ := hnothing
  refine h.change (f := id) hnext (hafter _) (fun p hp => absurd hp (hchecks p)) ⟨?_, ?_, ?_⟩
  · rw [hafter, id, h.faithful.lock]
  · rw [hpending, id]
  · simp [hline]

variable {W : Wake (Told σ (Deed ι)) → Told σ (Deed ι) → Prop} {QC : Except Crash γ → Told σ (Deed ι) → Prop}

theorem Holds.telling_bind {n : Deed ι} {f : Unit → Activity (Told σ (Deed ι)) γ} (h : d.Holds reason t n.doer mine s)
    (hnext : Deed.Next mine.getLast? n) (hplain : n.isCall = true ∨ n = .deleted)
    (hf : ∀ s', d.Holds reason t n.doer (mine ++ [n]) s' → (f ()).Abides (d.terms reason n.doer) W QC s') :
    (telling n >>= f).Abides (d.terms reason n.doer) W QC s := by
  refine Abides.bind (Abides.update fun s' hr => ?_)
  obtain ⟨hguar, htold⟩ := (h.later hr).tell hnext hplain
  exact ⟨hguar, fun s'' hr' => hf s'' (htold.later hr')⟩

/-! Calls. -/

variable (d) in
/-- **What the platform leaves alone**: the lock, the pending reason, and the trace. -/
structure Spares (s t : σ) : Prop where
  lock : (d.cell.get t).lock = (d.cell.get s).lock
  pending : (d.cell.get t).pending = (d.cell.get s).pending
  trace : (d.cell.get t).trace = (d.cell.get s).trace

theorem Spares.refl (s : σ) : d.Spares s s := ⟨rfl, rfl, rfl⟩

theorem Spares.trans {s t u : σ} (h : d.Spares s t) (h' : d.Spares t u) : d.Spares s u :=
  ⟨h'.lock.trans h.lock, h'.pending.trans h.pending, h'.trace.trans h.trace⟩

/-- A line of the worker is recorded in the console. -/
theorem record_spares (inst line : String) (s : σ) : d.Spares s (d.record inst line s) := by
  constructor <;> simp only [record, d.cell.get_modify]

theorem Faithful.spared {s s' : Told σ (Deed ι)} (hs : d.Faithful reason s) (h : d.Spares s.state s'.state)
    (hstory : s'.story = s.story) : d.Faithful reason s' := by
  constructor
  · exact hstory ▸ hs.proper
  · rw [h.lock, hs.lock, hstory]
  · rw [h.pending, hs.pending, hstory]
  · rw [h.trace, hs.trace, hstory]

variable (d) in
/-- **Where a party is found that cannot go on**: in a call, or in the queue. -/
def Stalls (who : Party ι) (wake : Wake (Told σ (Deed ι))) (s : Told σ (Deed ι)) : Prop :=
  (∃ n, lastOf who s.story = some n ∧ n.isCall = true) ∨
    ∃ t, (t, who) ∈ (lineup s.story).queue ∧ wake.ready s = (d.lock.get s.state).isHeldBy t

variable {q : ∀ {α : Type}, Except Crash α → Prop}

/-- **A call** leaves the party where it is. -/
theorem Holds.call {a : Activity σ β} {n : Deed ι} (h : d.Holds reason t who (mine ++ [n]) s) (hn : n.isCall = true)
    (ha : a.Quiet d.Spares q) :
    (a.on Told.inside).Abides (d.terms reason who) (d.Stalls who)
      (fun r s' => d.Holds reason t who (mine ++ [n]) s' ∧ q r) s := by
  let N : Told σ (Deed ι) → Told σ (Deed ι) → Prop := fun s s' => d.Spares s.state s'.state ∧ s'.story = s.story
  have hquiet : (a.on (Told.inside (κ := Deed ι))).Quiet N q := by
    have hN : ∀ (s : Told σ (Deed ι)) (u : σ), d.Spares (Told.inside.get s) u → N s (Told.inside.set u s) :=
      fun _ _ hu => ⟨hu, rfl⟩
    exact Always.on hN (fun task htask => htask.on hN) ha
  have hcontinues : ∀ {s s' : Told σ (Deed ι)}, N s s' → ∀ w : Party ι → Prop, d.Continues reason w s s' :=
    fun hN w hs => ⟨hs.spared hN.1 hN.2, [], by simp [hN.2], by simp⟩
  have hstays : ∀ {s s' : Told σ (Deed ι)}, d.Holds reason t who (mine ++ [n]) s → N s s' →
      d.Holds reason t who (mine ++ [n]) s' :=
    fun hs hN => ⟨⟨hs.faithful.spared hN.1 hN.2, hN.2 ▸ hs.mine⟩, hN.2 ▸ hs.head⟩
  refine Quiet.abides (X := d.Holds reason t who (mine ++ [n])) (fun hN => hcontinues hN fun w => w = who)
    (fun hN => hcontinues hN fun _ => False) hstays Holds.later (fun hs => ?_) (fun hs hr => ⟨hs, hr⟩) hquiet h
  exact .inl ⟨n, by rw [lastOf, hs.mine, List.getLast?_concat], hn⟩

/-! The lock. -/

variable (d reason) in
/-- **The end of what a party does inside**: it has done something, and what it has told fits its answer. -/
def Ends (t : Nat) (who : Party ι) (P : Except Crash β → List (Deed ι) → Prop) (r : Except Crash β)
    (s : Told σ (Deed ι)) : Prop :=
  ∃ mine n, d.Holds reason t who (mine ++ [n]) s ∧ P r (mine ++ [n]) ∧ n.inside = true ∧ n.rank < 8

variable (d reason) in
/-- **The end of a party.** -/
def Over (who : Party ι) (P : Except Crash β → List (Deed ι) → Prop) (r : Except Crash β)
    (s : Told σ (Deed ι)) : Prop := ∃ mine, d.Outside reason who (mine ++ [.leaves who]) s ∧ P r mine

theorem get_lock_modify (f : Lock → Lock) (s : σ) :
    d.cell.get (d.lock.modify f s) = { d.cell.get s with lock := f (d.cell.get s).lock } := by
  simp only [Cell.modify, lock, d.cell.get_set]

/-- A ticket is drawn. -/
theorem Outside.join (h : d.Outside reason who mine s) (hnext : Deed.Next mine.getLast? (.joins who)) :
    let s' := Told.change (.joins who) (fun u => d.lock.set (d.lock.get u).join.2 u) s
    (d.terms reason who).guar s s' ∧ d.Queues reason (d.lock.get s.state).join.1 who (mine ++ [.joins who]) s' := by
  have hlock := h.faithful.lock
  have hget : d.cell.get (d.lock.set (d.lock.get s.state).join.2 s.state) =
      { d.cell.get s.state with lock := (d.cell.get s.state).lock.join.2 } := get_lock_modify (fun l => l.join.2) _
  have hjoined : (d.cell.get s.state).lock.join.2 = ((lineup s.story).after (.joins who)).lock := by
    rw [hlock]
    simp [Lock.join, Lineup.lock, Lineup.after]
  have hallowed : Allowed reason s.story (.joins who) := by
    refine .of_outside ?_ rfl
    rwa [lastOf, Deed.doer, h.mine]
  have hdoes : d.Does reason (.joins who) (fun u => d.lock.set (d.lock.get u).join.2 u) s := by
    constructor
    · simp only [hget, hjoined]
    · simp only [hget, pendingAfter]
    · simp only [hget, Deed.line?, Option.toList_none, List.append_nil]
  obtain ⟨hguar, houtside⟩ := Outside.change (n := .joins who) h hallowed hdoes
  refine ⟨hguar, houtside, ?_⟩
  have hticket : (d.lock.get s.state).join.1 = (lineup s.story).fresh := by
    show (d.cell.get s.state).lock.fresh = _
    rw [hlock, Lineup.lock]
  simp [hticket, Lineup.after]

/-- The ticket is given back. -/
theorem Ends.leave {P : Except Crash β → List (Deed ι) → Prop} {r : Except Crash β} (h : d.Ends reason t who P r s) :
    let s' := Told.change (.leaves who) (d.lock.modify (Lock.leave t)) s
    (d.terms reason who).guar s s' ∧ d.Over reason who P r s' := by
  obtain ⟨mine, n, hholds, hP, hinside, hrank⟩ := h
  have hdoer : n.doer = who := (mem_own.mp (hholds.mine ▸ List.mem_append_right mine (List.mem_singleton_self n))).2
  have hnext : Deed.Next (mine ++ [n]).getLast? (.leaves who) := by
    rw [List.getLast?_concat, ← hdoer]
    exact .leaves hinside hrank
  have hallowed : Allowed reason s.story (.leaves who) := by
    refine ⟨?_, fun _ => ?_, fun p hp => ?_⟩
    · rwa [lastOf, Deed.doer, hholds.mine]
    · rw [Lineup.holder, hholds.head]
      rfl
    · cases hp
  have hdoes : d.Does reason (.leaves who) (d.lock.modify (Lock.leave t)) s := by
    constructor
    · rw [get_lock_modify, ← Lineup.lock_leave hholds.head, hholds.faithful.lock]
    · simp only [get_lock_modify, pendingAfter]
    · simp only [get_lock_modify, Deed.line?, Option.toList_none, List.append_nil]
  obtain ⟨hguar, houtside⟩ := Outside.change (n := .leaves who) hholds.toOutside hallowed hdoes
  exact ⟨hguar, _, houtside, hP⟩

/-- **With the lock**: a party that has joined waits until it holds the lock, and gives it back in the end. -/
theorem Outside.holdingTold {body : Activity (Told σ (Deed ι)) β} {P : Except Crash β → List (Deed ι) → Prop}
    (h : d.Outside reason who mine s) (hnext : Deed.Next mine.getLast? (.joins who))
    (hbody : ∀ t s', d.Holds reason t who (mine ++ [.joins who]) s' →
      body.Abides (d.terms reason who) (d.Stalls who) (d.Ends reason t who P) s') :
    (holdingTold d.lock (.joins who) (.leaves who) body).Abides (d.terms reason who) (d.Stalls who)
      (d.Over reason who P) s := by
  refine Abides.bind (Abides.exchange fun s' hr => ?_)
  obtain ⟨hguar, hqueues⟩ := (h.later hr).join hnext
  refine ⟨hguar, fun s'' hr' => Abides.releasing (Abides.bind (Abides.until (fun u hu => ?_) ?_))⟩
  · exact .inr ⟨_, ((hqueues.later hr').later hu).queued, rfl⟩
  · intro u hu hheld u' hu'
    have hthere := (hqueues.later hr').later hu
    have hholds : d.Holds reason (d.lock.get s'.state).join.1 who (mine ++ [.joins who]) u := by
      refine ⟨hthere.toOutside, hthere.faithful.proper.head_of_held hthere.queued ?_⟩
      rw [← hthere.faithful.lock]
      exact hheld
    refine Abides.weaken id (fun {r v} hends => ?_) (hbody _ u' (hholds.later hu'))
    obtain ⟨hguar', mine', houtside, hP⟩ := hends.leave
    exact ⟨hguar', fun v' hv => ⟨mine', houtside.later hv, hP⟩⟩

end DirectInflation

end ImageImport
