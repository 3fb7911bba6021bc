/-
# The scene of a rehearsal

The shared state of a rehearsal: the world, the state of every part of an import, and the state of any
number of actors.  Each of them is a cell of the scene, and no two cells overlap.
-/
import ImageImport.Import
import ImageImport.Rehearsal.Actor
import ImageImport.Rehearsal.World

namespace ImageImport.Rehearsal

/-- **Everything that can change during a rehearsal.** -/
structure Scene where
  world : World
  worker : WorkerState := {}
  direct : DirectState := {}
  mainFinished : Bool := false
  translation : TranslationState := {}
  left : Recorded := {}
  actors : Nat → ActorState := fun _ => {}
  provided : List PersistentDisk := []

namespace Scene

/-! ## 1. Cells -/

def worldCell : Cell Scene World where
  get := world
  set w s := { s with world := w }

def workerCell : Cell Scene WorkerState where
  get := worker
  set w s := { s with worker := w }

def directCell : Cell Scene DirectState where
  get := direct
  set d s := { s with direct := d }

def mainFinishedCell : Cell Scene Bool where
  get := mainFinished
  set b s := { s with mainFinished := b }

def translationCell : Cell Scene TranslationState where
  get := translation
  set t s := { s with translation := t }

def leftCell : Cell Scene Recorded where
  get := left
  set r s := { s with left := r }

/-- The state of one actor. -/
def actorCell (n : Nat) : Cell Scene ActorState where
  get s := s.actors n
  set a s := { s with actors := fun m => if m = n then a else s.actors m }
  get_set := by intros; simp
  set_set := by
    intros
    simp only [Scene.mk.injEq, true_and, and_true]
    funext m
    split <;> rfl
  set_get := by
    intro s
    have : (fun m => if m = n then s.actors n else s.actors m) = s.actors := by
      funext m
      split
      · next h => rw [h]
      · rfl
    simp only [this]

/-- Where inflations keep their state. -/
def inflationCells : InflationCells Scene := ⟨workerCell, directCell, mainFinishedCell⟩

/-- Where an import keeps its state. -/
def importCells : Importer.Cells Scene := ⟨inflationCells, translationCell, leftCell⟩

/-! ## 2. Parts -/

/-- The platform of the scene. -/
def platform (files : Files) : Platform Scene := World.platform worldCell files

/-- An actor of the scene. -/
def actor (n : Nat) (script : ActorScript) : Actor Scene := ⟨script, actorCell n⟩

/-- The moment a rehearsal starts at. -/
def opening (w : World) : Moment Scene := ⟨0, { world := w }⟩

end Scene

end ImageImport.Rehearsal
