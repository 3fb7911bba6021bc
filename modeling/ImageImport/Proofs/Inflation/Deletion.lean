/-
# The disk of an inflation by the compute service is deleted

Any number of inflations and cancels may be under way at once, and the compute service may answer each call as it likes.
What every one of them calls for is noted (`notedCallers`), and changes nothing of what they do.

Main statement: `shadow_disk_deleted`.  Whatever happens, an inflation that has returned has called for its disk once,
then for the deletion of that disk once, and for nothing else (`script`).  Its result is settled before it calls for the
deletion: had the deletion gone any other way, everything would have come to the same moment, and from there the
inflation can yield nothing else (`SettledBefore`).

There are many ways through an inflation, but only one place where they all come together, and that is where the
deletion is called for.  `conclude` is what is left of an inflation there.
-/
import ImageImport.Proofs.Concurrency.AlikeUntilParting
import ImageImport.Proofs.Concurrency.CrewStories
import ImageImport.Proofs.Import.Simulation
import ImageImport.Proofs.Inflation.Quiet
import ImageImport.Rehearsal.World

namespace ImageImport

open Activity
open Rehearsal (ComputeCall)

variable {σ ι κ τ β : Type}

/-! ## 1. Calls of the compute service -/

/-- A call is made, and it has come back. -/
inductive ComputeNote where
  | called (call : ComputeCall)
  | answered (call : ComputeCall)

/-- An activity with a note of who begins it, and one of its end. -/
def Activity.calling (who : τ) (call : ComputeCall) (a : Activity (Watched σ (τ × ComputeNote)) β) :
    Activity (Watched σ (τ × ComputeNote)) β := .watching (who, .called call) (fun _ => (who, .answered call)) a

/-- **The platform with notes of every call of the compute service.** -/
def Platform.calling (who : τ) (p : Platform (Watched σ (τ × ComputeNote))) :
    Platform (Watched σ (τ × ComputeNote)) :=
  { p with
    createDisk := fun project zone disk =>
      (p.createDisk project zone disk).calling who (.createDisk project zone disk)
    getDisk := fun project zone name => (p.getDisk project zone name).calling who (.getDisk project zone name)
    deleteDisk := fun project zone disk =>
      (p.deleteDisk project zone disk).calling who (.deleteDisk project zone disk)
    updateDiskMetadata := fun project zone name update =>
      (p.updateDiskMetadata project zone name update).calling who (.updateDiskMetadata project zone name update)
    createImage := fun project image => (p.createImage project image).calling who (.createImage project image)
    getImage := fun project name => (p.getImage project name).calling who (.getImage project name) }

/-- **What has been noted of one caller**, in order. -/
def Watched.own [DecidableEq τ] (who : τ) (s : Watched σ (τ × ComputeNote)) : List ComputeNote :=
  s.seen.filterMap fun n => if n.2.1 = who then some n.2.2 else none

/-- Who calls: an inflation, or a cancel. -/
inductive Caller (ι κ : Type) where
  | inflates (i : ι)
  | cancels (k : κ)
  deriving DecidableEq

/-- What a caller answers. -/
abbrev Caller.Answer : Caller ι κ → Type
  | inflates _ => Except InflationFailure Inflation
  | cancels _ => Bool

namespace DirectInflation

/-- The state with the notes of all callers. -/
abbrev Noted (σ ι κ : Type) := Watched σ (Caller ι κ × ComputeNote)

/-! ## 2. Inflations and cancels -/

/-- A deletion, as the compute service carries it out. -/
abbrev Deletion (σ : Type) := (project zone disk : String) → Call σ Unit

/-- The inflation where disks are deleted otherwise. -/
def deletingBy (d : DirectInflation σ) (deletion : Deletion σ) : DirectInflation σ :=
  { d with platform := { d.platform with deleteDisk := deletion } }

/-- The inflation with notes of its calls. -/
def notedBy (d : DirectInflation σ) (who : τ) : DirectInflation (Watched σ (τ × ComputeNote)) where
  args := d.args
  sourceFile := d.sourceFile
  platform := d.platform.watched.calling who
  cell := Watched.part d.cell

variable (d : DirectInflation σ) (deletions : ι → Deletion σ) (reason : κ → String) (start : Moment σ)

/-- **Any number of inflations and cancels.**  Each inflation has its own way in which its disk is deleted. -/
def callers : Crew σ (Caller.Answer : Caller ι κ → Type) where
  moment := start
  rest
    | .inflates i => (d.deletingBy (deletions i)).inflate
    | .cancels k => d.cancel (reason k)

/-- **The same with notes**, of which there are none yet. -/
def notedCallers : Crew (Noted σ ι κ) (Caller.Answer : Caller ι κ → Type) where
  moment := ⟨start.now, ⟨start.state, []⟩⟩
  rest
    | .inflates i => ((d.deletingBy (deletions i)).notedBy (.inflates i : Caller ι κ)).inflate
    | .cancels k => (d.notedBy (.cancels k : Caller ι κ)).cancel (reason k)

/-- The call for the disk. -/
def creation : ComputeCall := .createDisk d.args.project d.args.zone d.request

/-- The call for the deletion of that disk. -/
def deletion : ComputeCall := .deleteDisk d.args.project d.args.zone d.request.name

/-- **All that a caller ever calls for.** -/
def script : Caller ι κ → List ComputeNote
  | .inflates _ => [.called d.creation, .answered d.creation, .called d.deletion, .answered d.deletion]
  | .cancels _ =>
    [.called (.getDisk d.args.project d.args.zone d.request.name),
      .answered (.getDisk d.args.project d.args.zone d.request.name)]

variable {d deletions reason start}

theorem calling_mirrors (p : Platform σ) (who : τ) : (p.watched.calling who).Mirrors Watched.state p where
  createDisk _ _ _ := .watching (p.watched_mirrors.createDisk ..)
  getDisk _ _ _ := .watching (p.watched_mirrors.getDisk ..)
  deleteDisk _ _ _ := .watching (p.watched_mirrors.deleteDisk ..)
  updateDiskMetadata _ _ _ _ := .watching (p.watched_mirrors.updateDiskMetadata ..)
  createImage _ _ := .watching (p.watched_mirrors.createImage ..)
  getImage _ _ := .watching (p.watched_mirrors.getImage ..)
  openReader := p.watched_mirrors.openReader
  objectSize := p.watched_mirrors.objectSize
  inspect := p.watched_mirrors.inspect
  runWorkflow := p.watched_mirrors.runWorkflow
  log _ _ _ := rfl
  files := rfl

/-- **The notes change nothing.** -/
theorem notedCallers_seen :
    Crew.Seen Watched.state (d.notedCallers deletions reason start) (d.callers deletions reason start) where
  moment := rfl
  rest who := by
    have hcell : Cell.Mirrors Watched.state (Watched.part d.cell : Cell (Noted σ ι κ) _) d.cell :=
      ⟨fun _ => rfl, fun _ _ => rfl⟩
    cases who with
    | inflates i =>
      exact ⟨directInflate_mirrors (calling_mirrors (d.deletingBy (deletions i)).platform _) d.args hcell d.sourceFile,
        nofun, nofun⟩
    | cancels k =>
      exact ⟨directCancel_mirrors (calling_mirrors d.platform _) d.args hcell d.sourceFile (reason k), nofun, nofun⟩
  tasks := .nil

/-! ## 3. The text of an inflation -/

/-- What an inflation does when its disk has been created, or has not. -/
def afterwards (d : DirectInflation σ) (started : Nat) (answer : Except ApiError Unit) :
    Activity σ (Except InflationFailure Inflation) :=
  (done (answer.mapError fun e => InflationFailure.ofError (.api e))).andThen fun () => do
    match ← d.takePending with
    | some _ => return .ok {}
    | none => d.measure started

theorem createAndChecksum_eq (d : DirectInflation σ) : d.createAndChecksum = clock.bind fun started =>
    (d.platform.createDisk d.args.project d.args.zone d.request).bind (d.afterwards started) :=
  congrArg clock.bind (funext fun _ => bind_assoc _ _ _)

/-- **What is left of an inflation** once its result is there, and it holds the lock with its ticket. -/
def conclude (d : DirectInflation σ) (ticket : Nat) (result : Except InflationFailure Inflation) :
    Activity σ (Except InflationFailure Inflation) :=
  releasing (d.lock.modify (Lock.leave ticket)) do
    d.deleteDisk
    return result

/-- Nothing else comes of it. -/
theorem conclude_yieldsOnly (d : DirectInflation σ) (ticket : Nat) (result : Except InflationFailure Inflation) :
    (d.conclude ticket result).YieldsOnly result := by
  have hdeletes : d.deleteDisk.EndsAs fun _ => True := quiet_any _
  refine Always.releasing (fun _ _ _ _ _ => trivial) (fun _ => trivial) (Always.bind hdeletes (fun _ => ?_) ?_)
  · rintro _ ⟨⟩
    rfl
  · rintro why - w ⟨⟩

/-- **An inflation goes the same way however its disk is deleted**, up to where it calls for that. -/
theorem inflate_together (d : DirectInflation σ) (other : Deletion σ) :
    Together
      (fun a b => ∃ ticket result, a = d.conclude ticket result ∧ b = (d.deletingBy other).conclude ticket result)
      d.inflate (d.deletingBy other).inflate := by
  refine Together.bind _ fun ticket => Together.releasing_bind _ fun _ => Together.releasing_bind _ fun result => ?_
  exact .parted ⟨ticket, result, rfl, rfl⟩

/-! ## 4. Following a caller -/

/-- No note is made. -/
def Unsaid (s t : Noted σ ι κ) : Prop := t.seen = s.seen

/-- What the platform does is not noted by itself. -/
theorem watched_unsaid (p : Platform σ) : (p.watched : Platform (Noted σ ι κ)).Does Unsaid fun _ => True where
  createDisk _ _ _ := quiet_on (fun _ _ => rfl) _
  getDisk _ _ _ := quiet_on (fun _ _ => rfl) _
  deleteDisk _ _ _ := quiet_on (fun _ _ => rfl) _
  updateDiskMetadata _ _ _ _ := quiet_on (fun _ _ => rfl) _
  createImage _ _ := quiet_on (fun _ _ => rfl) _
  getImage _ _ := quiet_on (fun _ _ => rfl) _
  openReader _ _ := quiet_on (fun _ _ => rfl) _
  objectSize _ _ := quiet_on (fun _ _ => rfl) _
  inspect _ := quiet_on (fun _ _ => rfl) _
  runWorkflow _ _ _ _ := quiet_on (fun _ _ => rfl) _
  log _ _ _ := rfl

section Following

variable [DecidableEq ι] [DecidableEq κ]

variable (d) in
/-- **The terms of a caller**: it makes its own notes and nobody else's, and calls for nothing that is not in its
script; what is left to itself makes none. -/
def noting (who : Caller ι κ) : Terms (Noted σ ι κ) where
  rely s t := t.own who = s.own who
  guar s t := (∀ other, other ≠ who → t.own other = s.own other) ∧
    (s.own who <+: d.script who → t.own who <+: d.script who)
  left s t := ∀ other, t.own other = s.own other
  rely_refl _ := rfl
  rely_trans h h' := h'.trans h
  guar_refl _ := ⟨fun _ _ => rfl, id⟩
  guar_trans h h' := ⟨fun other ho => (h'.1 other ho).trans (h.1 other ho), fun hs => h'.2 (h.2 hs)⟩
  left_refl _ _ := rfl

/-- The callers are on terms with each other. -/
theorem noting_onTerms :
    Crew.OnTerms (d.noting : Caller ι κ → Terms (Noted σ ι κ)) fun s t => ∀ other, t.own other = s.own other where
  across hij h := h.1 _ hij.symm
  left h := h
  tasks h := h _

variable {who : Caller ι κ} {mine : List ComputeNote} {s t : Noted σ ι κ}
  {P : Except Crash β → List ComputeNote → Prop}

theorem Unsaid.own (h : Unsaid s t) (who : Caller ι κ) : t.own who = s.own who := by
  rw [Watched.own, h, Watched.own]

theorem Unsaid.guar (h : Unsaid s t) : (d.noting who).guar s t :=
  ⟨fun other _ => h.own other, fun hs => h.own who ▸ hs⟩

theorem own_noted (who other : Caller ι κ) (n : ComputeNote) (m : Moment (Noted σ ι κ)) :
    (Watched.noted (who, n) m).own other = if who = other then m.state.own other ++ [n] else m.state.own other := by
  by_cases h : who = other <;> simp [Watched.own, Watched.noted, h]

/-- **One note** of a caller, as its script has it. -/
theorem noted_guar {n : ComputeNote} {m : Moment (Noted σ ι κ)} (h : m.state.own who = mine)
    (hscript : mine ++ [n] <+: d.script who) :
    (d.noting who).guar m.state (Watched.noted (who, n) m) ∧ (Watched.noted (who, n) m).own who = mine ++ [n] := by
  have hown : (Watched.noted (who, n) m).own who = mine ++ [n] := by rw [own_noted, if_pos rfl, h]
  refine ⟨⟨fun other hother => ?_, fun _ => hown ▸ hscript⟩, hown⟩
  rw [own_noted, if_neg hother.symm]

variable (d who) in
/-- **From here on the caller keeps to its terms**, and ends as `P` says of its end and its notes. -/
abbrev Keeps (P : Except Crash β → List ComputeNote → Prop) (a : Activity (Noted σ ι κ) β) (s : Noted σ ι κ) : Prop :=
  a.Abides (d.noting who) (fun _ _ => True) (fun r t => P r (t.own who)) s

/-- Without a note nothing is noted. -/
theorem keeps_unsaid {p : Except Crash β → Prop} {a : Activity (Noted σ ι κ) β} (ha : a.Quiet Unsaid p)
    (h : s.own who = mine) : d.Keeps who (fun r notes => notes = mine ∧ p r) a s := by
  have hrely : ∀ {s t : Noted σ ι κ}, s.own who = mine → (d.noting who).rely s t → t.own who = mine :=
    fun hs hr => Eq.trans hr hs
  exact Quiet.abides (X := fun s => s.own who = mine) Unsaid.guar Unsaid.own (fun hs hu => (hu.own who).trans hs) hrely
    (fun _ => trivial) (fun hs hr => ⟨hs, hr⟩) ha h

/-- **A call**, from the note before it to the note after it. -/
theorem keeps_calling (call : ComputeCall) {a : Activity (Noted σ ι κ) β} (ha : a.Quiet Unsaid fun _ => True) (h : s.own who = mine)
    (hscript : mine ++ [.called call, .answered call] <+: d.script who) :
    d.Keeps who (fun _ notes => notes = mine ++ [.called call, .answered call]) (a.calling who call) s := by
  have hsplit : mine ++ [.called call, .answered call] = mine ++ [.called call] ++ [.answered call] := by simp
  rw [hsplit] at hscript ⊢
  intro m hm
  obtain ⟨hguar, hcalled⟩ := noted_guar (m := m) (Eq.trans hm h) (List.IsPrefix.trans ⟨_, rfl⟩ hscript)
  have hcaught : a.caught.Quiet Unsaid fun r => ∃ end', r = .ok end' :=
    Always.caught (ha.mono (fun _ _ h => h) (fun _ h => h) fun {r} _ => ⟨r, rfl⟩)
  have hrest : d.Keeps who (fun _ notes => notes = mine ++ [.called call] ++ [.answered call])
      (a.caught >>= fun r => note (who, .answered call) >>= fun _ => revive r)
      (Watched.noted (who, .called call) m) := by
    refine Abides.bind (Abides.weaken id (fun {r s'} hs' => ?_) (keeps_unsaid hcaught hcalled))
    obtain ⟨hmine, end', rfl⟩ := hs'
    intro n hn
    obtain ⟨hguar', hanswered⟩ := noted_guar (m := n) (Eq.trans hn hmine) hscript
    refine ⟨hguar', ?_⟩
    cases end' with
    | ok value => exact fun u hu => Eq.trans hu hanswered
    | error why => exact fun u hu => Eq.trans hu hanswered
  exact ⟨hguar, hrest⟩

/-- **With a lock**, which nothing is noted of. -/
theorem keeps_holding {lock : Cell (Noted σ ι κ) Lock} (hlock : ∀ l s, Unsaid s (lock.set l s))
    {body : Activity (Noted σ ι κ) β} (h : s.own who = mine)
    (hbody : ∀ s : Noted σ ι κ, s.own who = mine → d.Keeps who P body s) : d.Keeps who P (holding lock body) s := by
  refine Abides.bind (Abides.exchange fun s₁ h₁ => ⟨(hlock _ _).guar, fun s₂ h₂ => ?_⟩)
  have hmine : s₂.own who = mine := Eq.trans h₂ (((hlock _ _).own who).trans (Eq.trans h₁ h))
  refine Abides.releasing (Abides.bind (Abides.until (fun _ _ => trivial) fun s₃ h₃ _ s₄ h₄ => ?_))
  have hmine' : s₄.own who = mine := Eq.trans h₄ (Eq.trans h₃ hmine)
  refine Abides.weaken id (fun {r s₅} hP => ?_) (hbody s₄ hmine')
  -- the lock is given back
  have hback : ∀ ticket, Unsaid s₅ (lock.modify (Lock.leave ticket) s₅) := fun _ => hlock _ _
  refine ⟨(hback _).guar, fun s₆ h₆ => ?_⟩
  have hsame : s₆.own who = s₅.own who := Eq.trans h₆ ((hback _).own who)
  rwa [hsame]

/-! Its text. -/

variable {i : ι} {k : κ}

omit [DecidableEq ι] [DecidableEq κ] in
/-- The object is measured and the disk checksummed without a call of the compute service. -/
theorem measure_unsaid (who : Caller ι κ) (started : Nat) :
    ((d.notedBy who).measure started).Quiet Unsaid fun _ => True := by
  let plain : DirectInflation (Noted σ ι κ) :=
    { args := d.args, sourceFile := d.sourceFile, platform := d.platform.watched, cell := Watched.part d.cell }
  have hsame : (d.notedBy who).measure started = plain.measure started := rfl
  rw [hsame]
  have htrans : ∀ s t u : Noted σ ι κ, Unsaid s t → Unsaid t u → Unsaid s u := fun _ _ _ h h' => Eq.trans h' h
  have hcell : ∀ t s, Unsaid s (plain.cell.set t s) := fun _ _ => rfl
  have hplain : plain.platform.Does Unsaid fun _ => True := watched_unsaid _
  exact measure_quiet uniform_any (fun s : Noted σ ι κ => (rfl : Unsaid s s)) htrans hplain hcell started

omit [DecidableEq ι] [DecidableEq κ] in
/-- Nor is any made after the creation. -/
theorem afterwards_unsaid (who : Caller ι κ) (started : Nat) (answer : Except ApiError Unit) :
    ((d.notedBy who).afterwards started answer).Quiet Unsaid fun _ => True := by
  refine uniform_any.andThen (uniform_any.done _) fun _ => uniform_any.bind (uniform_any.exchange fun _ => rfl) ?_
  intro pending
  cases pending with
  | some reason => exact uniform_any.done _
  | none => exact measure_unsaid who started

omit [DecidableEq ι] [DecidableEq κ] in
/-- What is done with the lock is not noted. -/
theorem lock_unsaid (who : Caller ι κ) (l : Lock) (s : Noted σ ι κ) : Unsaid s ((d.notedBy who).lock.set l s) := rfl

variable (d) in
/-- The notes of the creation. -/
def created : List ComputeNote := [.called d.creation, .answered d.creation]

/-- **Up to the deletion** an inflation calls for its disk and for nothing else. -/
theorem keeps_create (h : s.own (.inflates i) = []) :
    d.Keeps (.inflates i : Caller ι κ) (fun r notes => ∀ result, r = .ok result → notes = d.created)
      (d.notedBy (.inflates i)).createAndChecksum s := by
  rw [createAndChecksum_eq]
  refine Abides.bind (Abides.clock fun started s₁ h₁ => ?_)
  have hcall := keeps_calling (d := d) d.creation
    ((watched_unsaid d.platform).createDisk d.args.project d.args.zone d.request) (Eq.trans h₁ h) ⟨_, rfl⟩
  refine Abides.bind (Abides.weaken id (fun {r s₂} h₂ => ?_) hcall)
  cases r with
  | error why => exact fun result hr => nomatch hr
  | ok answer =>
    exact Abides.weaken id (fun hkept _ _ => hkept.1) (keeps_unsaid (afterwards_unsaid _ started answer) h₂)

/-- **The deletion**, whatever the result. -/
theorem keeps_delete (result : Except InflationFailure Inflation) (h : s.own (.inflates i) = d.created) :
    d.Keeps (.inflates i : Caller ι κ) (fun r notes => ∀ v, r = .ok v → notes = d.script (.inflates i : Caller ι κ))
      ((d.notedBy (.inflates i : Caller ι κ)).deleteDisk >>= fun _ => pure result) s := by
  have hcall := keeps_calling (d := d) d.deletion
    ((watched_unsaid d.platform).deleteDisk d.args.project d.args.zone d.diskName) h ⟨[], rfl⟩
  refine Abides.bind (Abides.bind (Abides.weaken id (fun {r s₂} h₂ => ?_) hcall))
  cases r with
  | error why => exact fun v hv => nomatch hv
  | ok answer =>
    refine Abides.weaken id (fun {r s₃} h₃ => ?_) (keeps_unsaid (p := fun _ => True) ?_ h₂)
    · cases r with
      | error why => exact fun v hv => nomatch hv
      | ok u => exact fun t ht v _ => Eq.trans ht h₃.1
    -- at most a line is left in the log
    · cases answer with
      | ok u => exact uniform_any.done _
      | error e =>
        show Quiet Unsaid _ (if e.isNotFound = true then _ else _)
        split
        · exact uniform_any.done _
        · exact uniform_any.update fun _ => rfl

/-- **An inflation keeps to its terms**, and when it returns it has called for all that it calls for. -/
theorem keeps_inflate (h : s.own (.inflates i) = []) :
    d.Keeps (.inflates i : Caller ι κ) (fun r notes => ∀ v, r = .ok v → notes = d.script (.inflates i : Caller ι κ))
      (d.notedBy (.inflates i : Caller ι κ)).inflate s := by
  refine keeps_holding (lock_unsaid _) h fun s' hs' => ?_
  refine Abides.bind (Abides.weaken id (fun {r s₂} h₂ => ?_) (keeps_create hs'))
  cases r with
  | error why => exact fun v hv => nomatch hv
  | ok result => exact keeps_delete result (h₂ result rfl)

/-- **A cancel keeps to its terms.** -/
theorem keeps_cancel (reason : String) (h : s.own (.cancels k) = []) :
    d.Keeps (.cancels k : Caller ι κ) (fun r notes => ∀ v, r = .ok v → notes = d.script (.cancels k : Caller ι κ))
      ((d.notedBy (.cancels k : Caller ι κ)).cancel reason) s := by
  have hrequest : ∀ s : Noted σ ι κ, Unsaid s ((Watched.part d.cell).modify (DirectState.requestCancel reason) s) :=
    fun _ => rfl
  refine Abides.bind (Abides.update fun s₁ h₁ => ⟨(hrequest s₁).guar, fun s₂ h₂ => ?_⟩)
  have hnone : s₂.own (.cancels k) = [] := Eq.trans h₂ (((hrequest s₁).own _).trans (Eq.trans h₁ h))
  refine keeps_holding (d := d) (P := fun r notes => ∀ v, r = .ok v → notes = d.script (.cancels k : Caller ι κ))
    (lock_unsaid (.cancels k)) hnone fun s₃ h₃ => ?_
  have hcall := keeps_calling (d := d) (.getDisk d.args.project d.args.zone d.request.name)
    ((watched_unsaid d.platform).getDisk d.args.project d.args.zone d.diskName) h₃ (List.prefix_refl _)
  refine Abides.bind (Abides.weaken id (fun {r s₄} h₄ => ?_) hcall)
  cases r with
  | error why => exact fun v hv => nomatch hv
  | ok found =>
    refine Abides.weaken id (fun h₅ _ _ => h₅.1) (keeps_unsaid (p := fun _ => True) ?_ h₄)
    exact uniform_any.bind (uniform_any.update fun _ => rfl) fun _ => uniform_any.done _

/-! ## 5. All of them -/

/-- **At the start everybody keeps to the terms.** -/
theorem notedCallers_keeping : (d.notedCallers deletions reason start).Keeping d.noting
    (fun s t => ∀ who : Caller ι κ, t.own who = s.own who) (fun _ _ _ => True)
    fun who r s => ∀ v, r = .ok v → s.own who = d.script who where
  members who := by
    cases who with
    | inflates i => exact keeps_inflate (d := d.deletingBy (deletions i)) rfl
    | cancels k => exact keeps_cancel (reason k) rfl
  tasks := by simp [notedCallers]

omit [DecidableEq ι] [DecidableEq κ] in
/-- Only the deletion is called for after the creation. -/
theorem eq_created (h : mine ++ [.called d.deletion] <+: d.script (.inflates i : Caller ι κ)) : mine = d.created := by
  obtain ⟨rest, hrest⟩ := h
  match mine with
  | [] => simp [script, creation, deletion] at hrest
  | [_] => simp [script] at hrest
  | [_, _] =>
    simp only [script, List.cons_append, List.cons.injEq] at hrest
    rw [hrest.1, hrest.2.1, created]
  | [_, _, _] => simp [script] at hrest
  | _ :: _ :: _ :: _ :: _ => simp [script] at hrest

variable (d deletions reason start) in
/-- **The result was settled before the deletion was called for.**  Had the deletion of this inflation gone any other
way, everything would have come to the same moment, when it has not been called for yet; and from there the inflation
can yield no other result. -/
def SettledBefore (i : ι) (result : Except InflationFailure Inflation)
    (c : Crew (Noted σ ι κ) (Caller.Answer : Caller ι κ → Type)) : Prop :=
  ∀ other : Deletion σ, ∃ c₀ c₁, Crew.Reaches (d.notedCallers deletions reason start) c₀ ∧ Crew.Reaches c₀ c ∧
    Crew.Reaches (d.notedCallers (Function.update deletions i other) reason start) c₁ ∧
    c₁.moment = c₀.moment ∧ c₁.tasks = c₀.tasks ∧ (∀ who, who ≠ .inflates i → c₁.rest who = c₀.rest who) ∧
    c₀.moment.state.own (.inflates i) = d.created ∧
    ∀ c₂ result', Crew.Reaches c₁ c₂ → c₂.rest (.inflates i) = .done result' → result' = result

variable (d deletions reason start) in
/-- **What is true of inflations and cancels** wherever they have got to. -/
structure CleansUp (c : Crew (Noted σ ι κ) (Caller.Answer : Caller ι κ → Type)) : Prop where
  /-- Nobody has called for anything that is not in its script, or in another order. -/
  follows : ∀ who, c.moment.state.own who <+: d.script who
  /-- An inflation that has returned has called for its disk, and for the deletion of that disk, once each. -/
  deletes : ∀ {i result}, c.rest (.inflates i) = .done result →
    c.moment.state.own (.inflates i) = d.script (.inflates i : Caller ι κ)
  /-- How the deletion went has changed nothing in the result. -/
  settled : ∀ {i result}, c.rest (.inflates i) = .done result → d.SettledBefore deletions reason start i result c

variable {c : Crew (Noted σ ι κ) (Caller.Answer : Caller ι κ → Type)}

/-- **A run keeps to the terms.** -/
theorem keeping_of_reaches (hrun : Crew.Reaches (d.notedCallers deletions reason start) c) :
    (c.Keeping d.noting (fun s t => ∀ who : Caller ι κ, t.own who = s.own who) (fun _ _ _ => True)
      fun who r s => ∀ v, r = .ok v → s.own who = d.script who) ∧ ∀ who, c.moment.state.own who <+: d.script who := by
  have hguar : ∀ {who : Caller ι κ} {s t : Noted σ ι κ}, (∀ w, s.own w <+: d.script w) → (d.noting who).guar s t →
      ∀ w, t.own w <+: d.script w := by
    intro who s t hs hg w
    by_cases hw : w = who
    · subst hw
      exact hg.2 (hs w)
    · rw [hg.1 w hw]
      exact hs w
  have hleft : ∀ {s t : Noted σ ι κ}, (∀ w, s.own w <+: d.script w) → (∀ who, t.own who = s.own who) →
      ∀ w, t.own w <+: d.script w := fun hs hl w => hl w ▸ hs w
  exact Crew.Keeping.reaches noting_onTerms hguar hleft notedCallers_keeping (fun _ => List.nil_prefix) hrun

/-- **Whoever has returned** has called for all that it calls for. -/
theorem script_of_returned {who : Caller ι κ} {answer : who.Answer}
    (hrun : Crew.Reaches (d.notedCallers deletions reason start) c) (hend : c.rest who = .done answer) :
    c.moment.state.own who = d.script who := by
  have habides := (keeping_of_reaches hrun).1.members who
  rw [hend] at habides
  exact habides c.moment.state rfl answer rfl

/-- **Where an inflation is about to conclude**, it has created its disk and not called for the deletion. -/
theorem created_of_conclude {ticket : Nat} {result : Except InflationFailure Inflation}
    (hrun : Crew.Reaches (d.notedCallers deletions reason start) c)
    (hrest : c.rest (.inflates i) =
      ((d.deletingBy (deletions i)).notedBy (.inflates i : Caller ι κ)).conclude ticket result) :
    c.moment.state.own (.inflates i) = d.created := by
  obtain ⟨hkeeping, hscript⟩ := keeping_of_reaches hrun
  have habides := hkeeping.members (.inflates i)
  rw [hrest] at habides
  -- the next note it makes is that of the deletion
  obtain ⟨⟨-, hguar⟩, -⟩ := habides c.moment rfl
  have hnext : (Watched.noted (.inflates i, .called d.deletion) c.moment).own (.inflates i) <+:
      d.script (.inflates i : Caller ι κ) := hguar (hscript _)
  rw [own_noted, if_pos rfl] at hnext
  exact eq_created hnext

/-- **No way in which the deletion goes changes a result.** -/
theorem settledBefore {result : Except InflationFailure Inflation}
    (hrun : Crew.Reaches (d.notedCallers deletions reason start) c) (hend : c.rest (.inflates i) = .done result) :
    d.SettledBefore deletions reason start i result c := by
  intro other
  let inflation : DirectInflation (Noted σ ι κ) := (d.deletingBy (deletions i)).notedBy (.inflates i : Caller ι κ)
  let otherwise : Deletion (Noted σ ι κ) :=
    ((d.deletingBy other).notedBy (.inflates i : Caller ι κ)).platform.deleteDisk
  have hstart : Crew.Abreast (.inflates i)
      (fun a b => ∃ ticket result, a = inflation.conclude ticket result ∧
        b = (inflation.deletingBy otherwise).conclude ticket result)
      (d.notedCallers deletions reason start) (d.notedCallers (Function.update deletions i other) reason start) := by
    refine ⟨rfl, rfl, fun who hwho => ?_, ?_⟩
    · cases who with
      | inflates j =>
        have hj : j ≠ i := fun heq => hwho (heq ▸ rfl)
        simp only [notedCallers, Function.update_of_ne hj]
      | cancels k => rfl
    · have htogether := inflate_together inflation otherwise
      simp only [notedCallers, Function.update_self]
      exact htogether
  obtain ⟨c₀, c₁, hto, hfrom, hother, habreast, ticket, result', hrest, hrest'⟩ := hstart.parted hrun hend
  -- where it is about to conclude, there is one result that it can yield
  have hyields : (c₀.rest (.inflates i)).YieldsOnly result' := by
    rw [hrest]
    exact conclude_yieldsOnly _ _ _
  have hyields' : (c₁.rest (.inflates i)).YieldsOnly result' := by
    rw [hrest']
    exact conclude_yieldsOnly _ _ _
  have hsame : result = result' := by
    have hlast := Crew.yieldsOnly_reaches (i := .inflates i) hyields hfrom
    rw [hend] at hlast
    exact hlast result rfl
  subst hsame
  refine ⟨c₀, c₁, hto, hfrom, hother, habreast.moment, habreast.tasks, habreast.others,
    created_of_conclude hto hrest, fun c₂ result' hrun' hend' => ?_⟩
  have hlast := Crew.yieldsOnly_reaches (i := .inflates i) hyields' hrun'
  rw [hend'] at hlast
  exact hlast result' rfl

/-- **The disk is deleted whenever an inflation returns**, and how the deletion goes changes nothing in what it returns.
This is so of any number of inflations and cancels, whoever makes the next move, and however the platform answers their
calls; and what they do with their calls noted is what they do without. -/
theorem shadow_disk_deleted (d : DirectInflation σ) (deletions : ι → Deletion σ) (reason : κ → String)
    (start : Moment σ) :
    (∀ c, Crew.Reaches (d.notedCallers deletions reason start) c → d.CleansUp deletions reason start c) ∧
      ∀ c, Crew.Reaches (d.callers deletions reason start) c →
        ∃ c', Crew.Reaches (d.notedCallers deletions reason start) c' ∧ Crew.Seen Watched.state c' c := by
  refine ⟨fun c hrun => ?_, fun c hrun => notedCallers_seen.reaches hrun⟩
  exact ⟨(keeping_of_reaches hrun).2, fun hend => script_of_returned hrun hend, fun hend => settledBefore hrun hend⟩

end Following

end DirectInflation

end ImageImport
