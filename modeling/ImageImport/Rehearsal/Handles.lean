/-
# Handles on metrics

The stages of an import collect into the same metrics through handles of their own.  A copy of a handle
is a handle on the same metrics: what is set through one is seen through the other.
-/
import ImageImport.Metrics

namespace ImageImport.Rehearsal

/-- Metrics, and for every handle which of them it is on. -/
structure Handles where
  metrics : List Metrics
  places : List Nat

namespace Handles

/-- One handle on empty metrics. -/
def start : Handles := ⟨[.empty], [0]⟩

/-- Where a handle leads. -/
def place (h : Handles) (handle : Nat) : Nat := h.places[handle]?.getD 0

/-- What a handle shows. -/
def read (h : Handles) (handle : Nat) : Metrics := h.metrics[h.place handle]?.getD .empty

/-- **A change through a handle.** -/
def modify (h : Handles) (handle : Nat) (f : Metrics → Metrics) : Handles :=
  { h with metrics := h.metrics.set (h.place handle) (f (h.read handle)) }

/-- **One more handle on the same metrics.** -/
def copy (h : Handles) (handle : Nat) : Handles := { h with places := h.places ++ [h.place handle] }

/-- One more handle, on metrics of its own. -/
def fresh (h : Handles) : Handles := ⟨h.metrics ++ [.empty], h.places ++ [h.metrics.length]⟩

end Handles

end ImageImport.Rehearsal
