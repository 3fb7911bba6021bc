/-
# Disks and images of the platform

The resources an import asks the compute service for, with the attributes it uses (`Disk`, `Image`,
`GuestOsFeature`, `DiskMetadataUpdate`), and what it knows of its own disk (`PersistentDisk`).  An attribute
that is `none`, or a list that is empty, is not sent.
-/
import ImageImport.Dict

namespace ImageImport

/-- A guest OS feature flag, by the platform's name for it. -/
structure GuestOsFeature where
  kind : String
  deriving DecidableEq

namespace GuestOsFeature

/-- The guest boots from UEFI firmware. -/
def uefiCompatible : GuestOsFeature := ⟨"UEFI_COMPATIBLE"⟩

/-- The guest is a Windows system. -/
def windows : GuestOsFeature := ⟨"WINDOWS"⟩

end GuestOsFeature

/-- A persistent disk as the compute service sees it. -/
structure Disk where
  name : String
  sizeGb : Option Int64 := none
  sourceImage : Option String := none
  sourceStorageObject : Option String := none
  sourceDisk : Option String := none
  diskType : Option String := none
  guestOsFeatures : List GuestOsFeature := []
  licenses : List String := []
  deriving DecidableEq

/-- An image as the compute service sees it. -/
structure Image where
  name : String
  sourceDisk : Option String := none
  family : Option String := none
  description : Option String := none
  labels : Dict String := .empty
  licenses : List String := []
  guestOsFeatures : List GuestOsFeature := []
  storageLocations : List String := []
  deriving DecidableEq

/-- The licenses and features a disk is to have. -/
structure DiskMetadataUpdate where
  licenses : List String
  guestOsFeatures : List GuestOsFeature
  deriving DecidableEq

/-- **The disk an import works on**: created by inflation, handed from stage to stage.  `uri` is empty
until the disk exists. -/
structure PersistentDisk where
  uri : String := ""
  sizeGb : Int64 := 0
  sourceGb : Int64 := 0
  sourceType : String := ""
  deriving DecidableEq

namespace PersistentDisk

/-- Nothing known yet. -/
def unknown : PersistentDisk := {}

/-- The disk exists on the platform. -/
def isAllocated (d : PersistentDisk) : Bool := !d.uri.isEmpty

end PersistentDisk

end ImageImport
