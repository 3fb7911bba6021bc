/-
# Cells of a shared state

The parts of an import each keep a little state of their own -- a flag, a console, a queue -- inside
one shared state `σ`.  A `Cell σ τ` says where: how to look at that part and how to replace it.  The
three laws are fields, so whoever has a cell may use them; for a field of a structure they hold by
computation.
-/

namespace ImageImport

/-- A part of type `τ` inside a shared state `σ`. -/
structure Cell (σ τ : Type) where
  get : σ → τ
  set : τ → σ → σ
  get_set : ∀ t s, get (set t s) = t := by intros; rfl
  set_set : ∀ t u s, set t (set u s) = set t s := by intros; rfl
  set_get : ∀ s, set (get s) s = s := by intros; rfl

namespace Cell

variable {σ τ : Type}

/-- Change the part. -/
def modify (c : Cell σ τ) (f : τ → τ) (s : σ) : σ := c.set (f (c.get s)) s

theorem get_modify (c : Cell σ τ) (f : τ → τ) (s : σ) : c.get (c.modify f s) = f (c.get s) :=
  c.get_set _ s

/-- The part of a part. -/
def comp {υ : Type} (c : Cell σ τ) (d : Cell τ υ) : Cell σ υ where
  get s := d.get (c.get s)
  set u s := c.set (d.set u (c.get s)) s
  get_set := by intros; simp only [c.get_set, d.get_set]
  set_set := by intros; simp only [c.get_set, c.set_set, d.set_set]
  set_get := by intros; simp only [d.set_get, c.set_get]

end Cell

end ImageImport
