/-
# What an inflation does besides its calls

An inflation makes its calls and keeps a little state of its own.  So where the calls of the platform do nothing
but `N`, and writing that state is one of `N` as well, the whole inflation does nothing but `N`, and its cancel
neither (`inflate_quiet`, `cancel_quiet`).
-/
import ImageImport.Inflation.Choice
import ImageImport.Proofs.Concurrency.Uniform

namespace ImageImport

open Activity

variable {σ : Type} {N : σ → σ → Prop} {q : ∀ {α : Type}, Except Crash α → Prop}

/-! ## 1. By a worker -/

namespace WorkerInflation

variable {i : WorkerInflation σ}

theorem inflate_quiet (hq : Uniform q) (hN : ∀ s, N s s) (hp : i.platform.Does N q)
    (hcell : ∀ t s, N s (i.cell.set t s)) : i.inflate.Quiet N q := by
  unfold inflate
  cases i.workflow with
  | error cause => exact hq.done _
  | ok w =>
    refine hq.bind (hq.clock hN) fun _ => hq.bind (hp.runWorkflow w _ _ fun _ _ s => hcell _ s) fun _ => ?_
    refine hq.bind (hq.update fun s => hcell _ s) fun _ => hq.bind (hq.clock hN) fun _ => ?_
    exact hq.bind (hq.read hN) fun _ => hq.done _

theorem cancel_quiet (hq : Uniform q) (hN : ∀ s, N s s) (hcell : ∀ t s, N s (i.cell.set t s)) :
    i.cancel.Quiet N q := by
  refine hq.exchange fun s => ?_
  show N s (ite _ _ _ : Bool × σ).2
  split
  · exact hN s
  · exact hcell _ s

end WorkerInflation

/-! ## 2. By the compute service -/

namespace DirectInflation

variable {i : DirectInflation σ} (hq : Uniform q) (hN : ∀ s, N s s) (htrans : ∀ s t u, N s t → N t u → N s u)
  (hp : i.platform.Does N q)

include hq hN htrans hp

/-- Of the state only the console is written. -/
theorem checksum_quiet (hrecord : ∀ inst line s, N s (i.record inst line s)) (started : Nat) (disk : PersistentDisk) :
    (i.checksum started disk).Quiet N q := by
  unfold checksum
  cases i.checksumWorkflow with
  | error cause => exact hq.done _
  | ok w =>
    have hrun := hp.runWorkflow w (fun s => (i.cell.get s).isCancelled) i.record hrecord
    refine hq.bind (hq.within hN htrans _ hrun) fun _ => hq.bind (hq.clock hN) fun _ => ?_
    exact hq.bind (hq.read hN) fun _ => hq.done _

variable (hcell : ∀ t s, N s (i.cell.set t s))

include hcell

theorem measure_quiet (started : Nat) : (i.measure started).Quiet N q := by
  unfold measure
  cases Source.parseStoragePath i.sourceFile with
  | error e => exact hq.done _
  | ok path =>
    have hsum := checksum_quiet hq hN htrans hp (fun _ _ s => hcell _ s) started
    exact hq.andThen (hq.mapFault (hp.objectSize ..)) fun _ => hsum _

theorem createAndChecksum_quiet : i.createAndChecksum.Quiet N q := by
  refine hq.bind (hq.clock hN) fun started => hq.andThen (hq.mapFault (hp.createDisk ..)) fun _ => ?_
  refine hq.bind (hq.exchange fun s => hcell _ s) fun pending => ?_
  cases pending with
  | some reason => exact hq.done _
  | none => exact measure_quiet hq hN htrans hp hcell started

omit hN htrans hcell in
theorem deleteDisk_quiet : i.deleteDisk.Quiet N q := by
  refine hq.bind (hp.deleteDisk ..) fun answer => ?_
  cases answer with
  | ok _ => exact hq.done _
  | error e =>
    show Quiet N q (if e.isNotFound = true then _ else _)
    split
    · exact hq.done _
    · exact hq.update fun s => hp.log _ _ s

theorem inflate_quiet : i.inflate.Quiet N q :=
  hq.holding hN htrans (fun _ s => hcell _ s)
    (hq.bind (createAndChecksum_quiet hq hN htrans hp hcell) fun _ =>
      hq.bind (deleteDisk_quiet hq hp) fun _ => hq.done _)

omit hp in
theorem cancel_quiet (hget : ∀ project zone name, (i.platform.getDisk project zone name).Quiet N q)
    (reason : String) : (i.cancel reason).Quiet N q := by
  refine hq.bind (hq.update fun s => hcell _ s) fun _ => hq.holding hN htrans (fun _ s => hcell _ s) ?_
  exact hq.bind (hget ..) fun _ => hq.bind (hq.update fun s => hcell _ s) fun _ => hq.done _

end DirectInflation

/-! ## 3. The shadow in the hands of the main inflation -/

namespace ShadowedInflation

variable {i : ShadowedInflation σ} (hq : Uniform q) (hN : ∀ s, N s s) (htrans : ∀ s t u, N s t → N t u → N s u)
  (hcancel : ∀ reason, (i.shadow.cancel reason).Quiet N q) (hlog : ∀ severity line s, N s (i.platform.log severity line s))

include hq hN htrans hcancel hlog

theorem collect_quiet {task : ShadowTask σ} (ht : task.Quiet N q) : (i.collect task).Quiet N q := by
  refine Always.bind (hq.waitedFor hN htrans _ ht) (fun {r} hr => ?_) fun hr => hq.crash hr.1
  cases r with
  | inl v => exact hq.done _
  | inr rest =>
    -- the shadow has outlived its grace period, and is told
    refine hq.bind (hq.update fun s => hlog _ _ s) fun _ => ?_
    refine Always.bind (hq.alongside hN htrans (hr.2 rest rfl) (hq.within hN htrans _ (hcancel _)))
      (fun {r} hr => ?_) fun hr => hq.crash hr.1
    exact hq.within hN htrans _ (hr.2 _ _ rfl)

theorem conclude_quiet {task : ShadowTask σ} (ht : task.Quiet N q) (result : Except InflationFailure Inflation) :
    (i.conclude task result).Quiet N q := by
  refine hq.bind (collect_quiet hq hN htrans hcancel hlog ht) fun shadow => ?_
  show Quiet N q (ite _ _ _)
  split
  · exact hq.bind (hq.update fun s => hlog _ _ s) fun _ => hq.done _
  · exact hq.done _

end ShadowedInflation

/-! ## 4. Both inflations -/

/-- **All that an inflation with a shadow is put together from** does nothing but `N`. -/
structure ShadowedInflation.Does (N : σ → σ → Prop) (i : ShadowedInflation σ) : Prop where
  mainInflate : i.main.inflate.Quiet N fun _ => True
  mainCancel : ∀ reason, (i.main.cancel reason).Quiet N fun _ => True
  shadowInflate : i.shadow.inflate.Quiet N fun _ => True
  shadowCancel : ∀ reason, (i.shadow.cancel reason).Quiet N fun _ => True
  log : ∀ severity line s, N s (i.platform.log severity line s)
  flag : ∀ b s, N s (i.mainFinished.set b s)

namespace ShadowedInflation

variable {i : ShadowedInflation σ}

theorem runMain_quiet (hmain : i.main.inflate.Quiet N fun _ => True)
    (hcancel : ∀ reason, (i.shadow.cancel reason).Quiet N fun _ => True) (hflag : ∀ s, N s (i.mainFinished.set true s)) :
    i.runMain.Quiet N fun _ => True := by
  refine uniform_any.bind hmain fun result => uniform_any.bind (uniform_any.update hflag) fun _ => ?_
  show Quiet N _ (ite _ _ _)
  split
  · exact uniform_any.done _
  · exact uniform_any.bind (hcancel _) fun _ => uniform_any.done _

theorem Does.inflate (hN : ∀ s, N s s) (htrans : ∀ s t u, N s t → N t u → N s u) (h : i.Does N) :
    i.inflate.Quiet N fun _ => True := by
  have hmain : i.runMain.caught.Quiet N fun _ => True :=
    Always.caught (runMain_quiet h.mainInflate h.shadowCancel (h.flag true))
  have hshadow : (spawned i.shadow.inflate).caught.Quiet N fun _ => True :=
    Always.caught (Always.spawned hN h.shadowInflate)
  refine Always.bind (uniform_any.leading hN htrans hmain hshadow) (fun {r} hr => ?_) fun _ => trivial
  obtain ⟨task, result⟩ := r
  have htask : task.Quiet N fun _ => True := hr.2 _ _ rfl
  cases result with
  | ok result => exact conclude_quiet uniform_any hN htrans h.shadowCancel h.log htask result
  | error why =>
    -- nobody waits for the shadow any more
    refine Always.bind (htask.settle hN) (fun {rest} hrest => ?_) fun _ => trivial
    exact ⟨Quiet.background hN (hrest _ rfl), trivial⟩

theorem Does.cancel (hN : ∀ s, N s s) (htrans : ∀ s t u, N s t → N t u → N s u) (h : i.Does N) (reason : String) :
    (i.cancel reason).Quiet N fun _ => True := by
  refine uniform_any.bind (uniform_any.read hN) fun ended => ?_
  show Quiet N _ (ite _ _ _)
  split
  · exact uniform_any.bind (h.shadowCancel reason) fun _ => uniform_any.done _
  · exact uniform_any.bind (uniform_any.both hN htrans (h.mainCancel reason) (h.shadowCancel reason)) fun _ =>
      uniform_any.done _

end ShadowedInflation

end ImageImport
