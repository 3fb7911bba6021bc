/-
# Imaging a data disk

A disk without an operating system becomes an image as it is (`DataDiskProcessor`).
-/
import ImageImport.Arguments
import ImageImport.Step
import ImageImport.Platform.Services

namespace ImageImport

/-- The license of images of data disks. -/
def dataDiskLicense : String := "projects/compute-image-tools/global/licenses/virtual-disk-import"

/-- The image of a data disk. -/
def Arguments.dataDiskImage (a : Arguments) (disk : PersistentDisk) : Image where
  name := a.imageName
  sourceDisk := some disk.uri
  family := nonEmpty a.family
  description := nonEmpty a.description
  labels := a.labels
  licenses := [dataDiskLicense]
  storageLocations := (nonEmpty a.storageLocation).toList

variable {σ : Type}

/-- **Create the image.**  The disk is handed on as it came. -/
def imageDisk (p : Platform σ) (args : Arguments) (disk : PersistentDisk) :
    Activity σ (Except ImportError PersistentDisk) :=
  ((p.createImage args.project (args.dataDiskImage disk)).mapFault .api).andThen fun () =>
    .done (.ok disk)

/-- Imaging as a step.  It cannot be cancelled, and has nothing to report. -/
def dataDiskProcessor (p : Platform σ) (args : Arguments) : Processor σ where
  kind := .dataDisk
  cancel _ := .done false
  traceLogs _ := []
  process disk m := unreported m (imageDisk p args disk)

end ImageImport
