/-
# Platforms that follow a script

The calls of a world take their time and come back (`World.call_quiet`), and they touch nothing but the world.  So
its platform does whatever can be done by changing the world alone (`World.platform_does`).
-/
import ImageImport.Proofs.Concurrency.Uniform
import ImageImport.Rehearsal.World

namespace ImageImport.Rehearsal

open Activity

variable {σ α : Type} {N : σ → σ → Prop} {q : ∀ {α : Type}, Except Crash α → Prop} {cell : Cell σ World}

/-- A call of a world takes its time and comes back. -/
theorem World.call_quiet (hq : Uniform q) (hrefl : ∀ s, N s s) (hcell : ∀ w s, N s (cell.set w s)) (m : Method)
    (note : World → World) (act : World → Except ApiError α × World) : (World.call cell m note act).Quiet N q := by
  refine hq.bind (hq.exchange fun _ => hcell _ _) fun x => ?_
  refine hq.bind (always_sleep hrefl (hq.ok ()) x.2) fun _ => ?_
  cases x.1 with
  | some e => exact hq.done _
  | none => exact hq.exchange fun _ => hcell _ _

/-- A workflow that follows a script comes back. -/
theorem World.follow_quiet (hq : Uniform q) (hrefl : ∀ s, N s s) (htrans : ∀ s t u, N s t → N t u → N s u)
    (script : WorkflowScript) (name : String) (isCancelled : σ → Bool) {record : String → String → σ → σ}
    (hrecord : ∀ inst line s, N s (record inst line s)) :
    (World.follow script name isCancelled record).Quiet N q := by
  have hlines : ∀ lines, (World.printLines record lines).Quiet N q := by
    intro lines
    refine hq.update fun s => ?_
    induction lines generalizing s with
    | nil => exact hrefl s
    | cons l lines ih => exact htrans _ _ _ (hrecord l.1 l.2 s) (ih _)
  have hsleep : ∀ g : σ → Bool, (Activity.sleepUnless g script.delay).Quiet N q :=
    fun g _ => ⟨hrefl _, always_waitOr hrefl (hq.ok ()) _⟩
  refine hq.bind (hlines script.lines) fun _ => hq.bind (hq.read hrefl) fun early => ?_
  split
  · exact hq.done _
  refine hq.bind (hq.clock hrefl) fun _ => hq.bind (hsleep _) fun _ => hq.bind (hq.read hrefl) fun noticed =>
    hq.bind (hq.clock hrefl) fun _ => ?_
  split
  · exact hq.done _
  refine hq.bind (hlines script.lateLines) fun _ => ?_
  cases script.error with
  | some e => exact hq.done _
  | none => exact hq.done _

-- the calls are told apart by their arguments
seal World.call

/-- **The platform of a world** answers every call, and touches nothing but the world. -/
theorem World.platform_does (hq : Uniform q) (hrefl : ∀ s, N s s) (htrans : ∀ s t u, N s t → N t u → N s u)
    (hcell : ∀ w s, N s (cell.set w s)) (files : Files) : (World.platform cell files).Does N q := by
  have hcall : ∀ {α : Type} (m : Method) (note : World → World) (act : World → Except ApiError α × World),
      (World.call cell m note act).Quiet N q := World.call_quiet hq hrefl hcell
  unfold World.platform
  exact
    { createDisk := fun _ _ _ => hcall _ _ _
      getDisk := fun _ _ _ => hcall _ _ _
      deleteDisk := fun _ _ _ => hcall _ _ _
      updateDiskMetadata := fun _ _ _ _ => hcall _ _ _
      createImage := fun _ _ => hcall _ _ _
      getImage := fun _ _ => hcall _ _ _
      openReader := fun _ _ => hcall _ _ _
      objectSize := fun _ _ => hcall _ _ _
      inspect := fun _ => hq.andThen (hq.mapFault (hcall _ _ _)) fun _ => hq.done _
      runWorkflow := fun _ _ _ hrecord =>
        hq.bind (hq.exchange fun _ => hcell _ _) fun _ => World.follow_quiet hq hrefl htrans _ _ _ hrecord
      log := fun _ _ _ => hcell _ _ }

end ImageImport.Rehearsal
