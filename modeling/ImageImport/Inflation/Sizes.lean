/-
# Sizes of the disks of a worker

The inflated disk holds the guest's virtual size (`inflated_disk_size_gb`), the scratch disk the source file
and a tenth more (`scratch_disk_size_gb`). Neither is ever smaller than ten gibibytes, and nothing known of
the file counts as nothing needed.

The tenth is added in floating point: the size and the product each keep 53 significant bits.
-/
import ImageImport.Number.Significand
import ImageImport.Platform.Inspection

namespace ImageImport.DiskSize

/-- The smallest disk, in gibibytes. -/
def least : Int64 := 10

/-- **The size of the inflated disk.** -/
def inflated (inspection : Option Inspection) : Int64 :=
  max ((inspection.map (·.virtualSizeGb)).getD 0) least

/-- The factor 1.1 is this many parts of `2 ^ 52`. -/
def overhead : Nat := 4953959590107546

/-- A size and a tenth more, rounded up to whole gibibytes. -/
def padded (gib : Nat) : Nat :=
  (Number.round53 (Number.round53 gib * overhead) + (Nat.pow 2 52 - 1)) / Nat.pow 2 52

/-- **The size of the scratch disk.** -/
def scratch (inspection : Option Inspection) : Int64 :=
  let physical := (inspection.map (·.physicalSizeGb)).getD 0
  max (Int64.ofNat (min (padded physical.toInt.toNat) (Nat.pow 2 63 - 1))) least

end ImageImport.DiskSize
