/-
# Platform resources as documents

How disks, images, updates and inspection reports are written and read.  The attribute names are
those of the platform; attributes that are absent or empty are left out on writing and may be left out
on reading.
-/
import ImageImport.Json.Schema
import ImageImport.Platform.Disk
import ImageImport.Platform.Inspection

namespace ImageImport

open Json

/-! ## 1. Features and updates -/

def GuestOsFeature.toJson (f : GuestOsFeature) : Json := record (member "type" (str f.kind))

def GuestOsFeature.ofJson? (j : Json) : Option GuestOsFeature := do
  let f ← fields? ["type"] j
  return ⟨← f.required "type" toText?⟩

def DiskMetadataUpdate.toJson (u : DiskMetadataUpdate) : Json :=
  record (member "licenses" (list str u.licenses) ++
    member "guestOsFeatures" (list GuestOsFeature.toJson u.guestOsFeatures))

def DiskMetadataUpdate.ofJson? (j : Json) : Option DiskMetadataUpdate := do
  let f ← fields? ["licenses", "guestOsFeatures"] j
  return {
    licenses := ← f.required "licenses" (toList? toText?)
    guestOsFeatures := ← f.required "guestOsFeatures" (toList? GuestOsFeature.ofJson?) }

/-! ## 2. Disks -/

namespace Disk

/-- The attributes in order. -/
def fieldNames : List String :=
  ["name", "sizeGb", "sourceImage", "sourceStorageObject", "sourceDisk", "type", "guestOsFeatures",
    "licenses"]

/-- The members of a disk. -/
def members (d : Disk) : List (String × Json) :=
  member "name" (str d.name) ++ memberOf "sizeGb" int64 d.sizeGb ++
    memberOf "sourceImage" str d.sourceImage ++
    memberOf "sourceStorageObject" str d.sourceStorageObject ++
    memberOf "sourceDisk" str d.sourceDisk ++ memberOf "type" str d.diskType ++
    memberOfList "guestOsFeatures" GuestOsFeature.toJson d.guestOsFeatures ++
    memberOfList "licenses" str d.licenses

def toJson (d : Disk) : Json := record d.members

/-- A disk out of the fields found. -/
def ofFields? (f : Fields) : Option Disk := do
  return {
    name := ← f.required "name" toText?
    sizeGb := ← f.optional "sizeGb" toInt64?
    sourceImage := ← f.optional "sourceImage" toText?
    sourceStorageObject := ← f.optional "sourceStorageObject" toText?
    sourceDisk := ← f.optional "sourceDisk" toText?
    diskType := ← f.optional "type" toText?
    guestOsFeatures := ← f.defaulted "guestOsFeatures" [] (toList? GuestOsFeature.ofJson?)
    licenses := ← f.defaulted "licenses" [] (toList? toText?) }

def ofJson? (j : Json) : Option Disk := (fields? fieldNames j).bind ofFields?

end Disk

/-! ## 3. Images -/

namespace Image

/-- The attributes in order. -/
def fieldNames : List String :=
  ["name", "sourceDisk", "family", "description", "labels", "licenses", "guestOsFeatures",
    "storageLocations"]

/-- The members of an image. -/
def members (i : Image) : List (String × Json) :=
  member "name" (str i.name) ++ memberOf "sourceDisk" str i.sourceDisk ++
    memberOf "family" str i.family ++ memberOf "description" str i.description ++
    memberOfDict "labels" str i.labels ++ memberOfList "licenses" str i.licenses ++
    memberOfList "guestOsFeatures" GuestOsFeature.toJson i.guestOsFeatures ++
    memberOfList "storageLocations" str i.storageLocations

def toJson (i : Image) : Json := record i.members

/-- An image out of the fields found. -/
def ofFields? (f : Fields) : Option Image := do
  return {
    name := ← f.required "name" toText?
    sourceDisk := ← f.optional "sourceDisk" toText?
    family := ← f.optional "family" toText?
    description := ← f.optional "description" toText?
    labels := ← f.defaulted "labels" .empty (toDict? toText?)
    licenses := ← f.defaulted "licenses" [] (toList? toText?)
    guestOsFeatures := ← f.defaulted "guestOsFeatures" [] (toList? GuestOsFeature.ofJson?)
    storageLocations := ← f.defaulted "storageLocations" [] (toList? toText?) }

def ofJson? (j : Json) : Option Image := (fields? fieldNames j).bind ofFields?

end Image

/-! ## 4. The disk of an import, and inspection reports -/

namespace PersistentDisk

def toJson (d : PersistentDisk) : Json :=
  record (member "uri" (str d.uri) ++ member "size_gb" (int64 d.sizeGb) ++
    member "source_gb" (int64 d.sourceGb) ++ member "source_type" (str d.sourceType))

def ofJson? (j : Json) : Option PersistentDisk := do
  let f ← fields? ["uri", "size_gb", "source_gb", "source_type"] j
  return {
    uri := ← f.required "uri" toText?
    sizeGb := ← f.required "size_gb" toInt64?
    sourceGb := ← f.required "source_gb" toInt64?
    sourceType := ← f.required "source_type" toText? }

end PersistentDisk

namespace OsRelease

def toJson (r : OsRelease) : Json :=
  record (member "distro" (str r.distro) ++ member "major_version" (str r.majorVersion) ++
    member "minor_version" (str r.minorVersion))

def ofJson? (j : Json) : Option OsRelease := do
  let f ← fields? ["distro", "major_version", "minor_version"] j
  return {
    distro := ← f.required "distro" toText?
    majorVersion := ← f.required "major_version" toText?
    minorVersion := ← f.required "minor_version" toText? }

end OsRelease

namespace Inspection

def toJson (i : Inspection) : Json :=
  record (member "virtual_size_gb" (int64 i.virtualSizeGb) ++
    member "physical_size_gb" (int64 i.physicalSizeGb) ++
    member "os_release" (nullOr OsRelease.toJson i.osRelease) ++
    member "uefi_bootable" (bool i.uefiBootable) ++ member "bios_bootable" (bool i.biosBootable) ++
    member "os_count" (int i.osCount.toNat) ++ member "file_format" (str i.fileFormat))

def ofJson? (j : Json) : Option Inspection := do
  let f ← fields? ["virtual_size_gb", "physical_size_gb", "os_release", "uefi_bootable",
    "bios_bootable", "os_count", "file_format"] j
  return {
    virtualSizeGb := ← f.required "virtual_size_gb" toInt64?
    physicalSizeGb := ← f.required "physical_size_gb" toInt64?
    osRelease := ← f.nullable "os_release" OsRelease.ofJson?
    uefiBootable := ← f.required "uefi_bootable" toBool?
    biosBootable := ← f.required "bios_bootable" toBool?
    osCount := ← f.required "os_count" toUInt32?
    fileFormat := ← f.required "file_format" toText? }

end Inspection

end ImageImport
