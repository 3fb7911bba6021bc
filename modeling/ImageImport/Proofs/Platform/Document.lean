/-
# Platform resources are read back

For each kind of resource: what it writes (`writes`), so that its text is read as a tree at all, and that the tree is
read as the resource it is the tree of (`ofJson?_toJson`).  Disks and images may stand in one object with other members,
so they are read from all fields that look like theirs (`ofFields?_of_find?`).
-/
import ImageImport.Plan
import ImageImport.Platform.Document
import ImageImport.Proofs.Json.Fields

namespace ImageImport

open Json

variable (room : Nat)

/-! ## 1. Features and updates -/

namespace GuestOsFeature

theorem writes (f : GuestOsFeature) : Writes room ["type"] (member "type" (str f.kind)) := .member .str

theorem plain (f : GuestOsFeature) : Plain (room + 1) f.toJson := (writes room f).record

@[simp] theorem ofJson?_toJson (f : GuestOsFeature) : ofJson? f.toJson = some f := by
  rw [ofJson?, toJson, fields?_record (writes 0 f) (by decide)]
  simp [Fields.required]

end GuestOsFeature

namespace DiskMetadataUpdate

theorem writes (u : DiskMetadataUpdate) : Writes (room + 2) ["licenses", "guestOsFeatures"]
    (member "licenses" (list str u.licenses) ++ member "guestOsFeatures" (list GuestOsFeature.toJson u.guestOsFeatures)) :=
  (Writes.member (.list (fun _ => .str) _)).append (.member (.list (GuestOsFeature.plain _) _))

theorem plain (u : DiskMetadataUpdate) : Plain (room + 3) u.toJson := (writes room u).record

theorem ofJson?_toJson (u : DiskMetadataUpdate) : ofJson? u.toJson = some u := by
  rw [ofJson?, toJson, fields?_record (writes 0 u) (by decide)]
  simp [Fields.required]

end DiskMetadataUpdate

/-! ## 2. Disks -/

namespace Disk

theorem writes (d : Disk) : Writes (room + 2) fieldNames d.members :=
  (Writes.member .str).append (.memberOf Plain.int64)
    |>.append (.memberOf fun _ => .str)
    |>.append (.memberOf fun _ => .str)
    |>.append (.memberOf fun _ => .str)
    |>.append (.memberOf fun _ => .str)
    |>.append (.memberOfList (GuestOsFeature.plain _))
    |>.append (.memberOfList fun _ => .str)

theorem plain (d : Disk) : Plain (room + 3) d.toJson := (writes room d).record

theorem ofFields?_of_find? {d : Disk} {f : Fields}
    (h : ∀ name ∈ fieldNames, f.find? name = Fields.find? ⟨false, d.members⟩ name) : ofFields? f = some d := by
  simp [fieldNames, members] at h
  simp [ofFields?, Fields.required, Fields.optional, Fields.defaulted_eq, h]

theorem ofJson?_toJson (d : Disk) : ofJson? d.toJson = some d := by
  rw [ofJson?, toJson, fields?_record (writes 0 d) (by decide), Option.bind_some]
  exact ofFields?_of_find? fun _ _ => rfl

end Disk

/-! ## 3. Images -/

namespace Image

theorem writes (i : Image) : Writes (room + 2) fieldNames i.members :=
  (Writes.member .str).append (.memberOf fun _ => .str)
    |>.append (.memberOf fun _ => .str)
    |>.append (.memberOf fun _ => .str)
    |>.append (.memberOfDict fun _ => .str)
    |>.append (.memberOfList fun _ => .str)
    |>.append (.memberOfList (GuestOsFeature.plain _))
    |>.append (.memberOfList fun _ => .str)

theorem plain (i : Image) : Plain (room + 3) i.toJson := (writes room i).record

theorem ofFields?_of_find? {i : Image} {f : Fields}
    (h : ∀ name ∈ fieldNames, f.find? name = Fields.find? ⟨false, i.members⟩ name) : ofFields? f = some i := by
  simp [fieldNames, members] at h
  simp [ofFields?, Fields.required, Fields.optional, Fields.defaulted_eq, h]

theorem ofJson?_toJson (i : Image) : ofJson? i.toJson = some i := by
  rw [ofJson?, toJson, fields?_record (writes 0 i) (by decide), Option.bind_some]
  exact ofFields?_of_find? fun _ _ => rfl

end Image

/-! ## 4. The disk of an import, its plan, and inspection reports -/

namespace PersistentDisk

theorem writes (d : PersistentDisk) : Writes room ["uri", "size_gb", "source_gb", "source_type"]
    (member "uri" (str d.uri) ++ member "size_gb" (int64 d.sizeGb) ++ member "source_gb" (int64 d.sourceGb) ++
      member "source_type" (str d.sourceType)) :=
  (Writes.member .str).append (.member (.int64 _)) |>.append (.member (.int64 _)) |>.append (.member .str)

theorem plain (d : PersistentDisk) : Plain (room + 1) d.toJson := (writes room d).record

theorem ofJson?_toJson (d : PersistentDisk) : ofJson? d.toJson = some d := by
  rw [ofJson?, toJson, fields?_record (writes 0 d) (by decide)]
  simp [Fields.required]

end PersistentDisk

namespace ProcessingPlan

theorem writes (p : ProcessingPlan) :
    Writes (room + 2) ["required_licenses", "required_features", "translation_workflow_path"]
      (member "required_licenses" (list str p.requiredLicenses) ++
        member "required_features" (list GuestOsFeature.toJson p.requiredFeatures) ++
        member "translation_workflow_path" (str p.translationWorkflowPath)) :=
  (Writes.member (.list (fun _ => .str) _)).append (.member (.list (GuestOsFeature.plain _) _)) |>.append (.member .str)

theorem plain (p : ProcessingPlan) : Plain (room + 3) p.toJson := (writes room p).record

theorem ofJson?_toJson (p : ProcessingPlan) : ofJson? p.toJson = some p := by
  rw [ofJson?, toJson, fields?_record (writes 0 p) (by decide)]
  simp [Fields.required]

end ProcessingPlan

namespace OsRelease

theorem writes (r : OsRelease) : Writes room ["distro", "major_version", "minor_version"]
    (member "distro" (str r.distro) ++ member "major_version" (str r.majorVersion) ++
      member "minor_version" (str r.minorVersion)) :=
  (Writes.member .str).append (.member .str) |>.append (.member .str)

theorem plain (r : OsRelease) : Plain (room + 1) r.toJson := (writes room r).record

@[simp] theorem ofJson?_toJson (r : OsRelease) : ofJson? r.toJson = some r := by
  rw [ofJson?, toJson, fields?_record (writes 0 r) (by decide)]
  simp [Fields.required]

theorem toJson_ne_null (r : OsRelease) : r.toJson ≠ .null := nofun

end OsRelease

namespace Inspection

theorem writes (i : Inspection) : Writes (room + 1) ["virtual_size_gb", "physical_size_gb", "os_release", "uefi_bootable",
      "bios_bootable", "os_count", "file_format"]
    (member "virtual_size_gb" (int64 i.virtualSizeGb) ++ member "physical_size_gb" (int64 i.physicalSizeGb) ++
      member "os_release" (nullOr OsRelease.toJson i.osRelease) ++ member "uefi_bootable" (bool i.uefiBootable) ++
      member "bios_bootable" (bool i.biosBootable) ++ member "os_count" (int i.osCount.toNat) ++
      member "file_format" (str i.fileFormat)) :=
  (Writes.member (.int64 _)).append (.member (.int64 _))
    |>.append (.member (.nullOr (OsRelease.plain _) _))
    |>.append (.member .bool)
    |>.append (.member .bool)
    |>.append (.member (.nat (Nat.lt_of_lt_of_le i.osCount.toNat_lt (by decide))))
    |>.append (.member .str)

theorem plain (i : Inspection) : Plain (room + 2) i.toJson := (writes room i).record

theorem ofJson?_toJson (i : Inspection) : ofJson? i.toJson = some i := by
  have hrelease := toOption?_nullOr OsRelease.ofJson?_toJson OsRelease.toJson_ne_null i.osRelease
  rw [ofJson?, toJson, fields?_record (writes 0 i) (by decide)]
  simp [Fields.required, Fields.nullable, hrelease]

end Inspection

end ImageImport
