/-
# The metrics of an import

What one import reports when it is over (`Loggable`), whatever its outcome: the disk, the inflation and its
shadow, what inspection found, and the diagnostic lines of the steps that ran.  The stages set their parts one
by one (`LoggableBuilder`); `build` stamps the whole.
-/
import ImageImport.Inflation.Basic
import ImageImport.Json.Schema
import ImageImport.Platform.Inspection
import ImageImport.Timestamp

namespace ImageImport

/-- The metrics collected over one import. -/
structure Metrics where
  sourceType : String := ""
  sourceSizeGb : Int64 := 0
  targetSizeGb : Int64 := 0
  inflationType : String := ""
  inflationTimeMs : UInt64 := 0
  shadowInflationTimeMs : UInt64 := 0
  shadowDiskMatchResult : String := ""
  inspectionDistro : String := ""
  inspectionMajorVersion : String := ""
  inspectionMinorVersion : String := ""
  inspectionOsCount : UInt32 := 0
  inspectionUefiBootable : Bool := false
  inspectionBiosBootable : Bool := false
  uefiRequested : Bool := false
  uefiDetected : Bool := false
  traceLogs : List String := []
  generatedAt : Option Timestamp := none
  deriving DecidableEq

namespace Metrics

/-- Nothing collected. -/
def empty : Metrics := {}

/-! ## 1. Collecting -/

/-- The sizes and the type of the disk. -/
def setDisk (m : Metrics) (d : PersistentDisk) : Metrics :=
  { m with sourceType := d.sourceType, sourceSizeGb := d.sourceGb, targetSizeGb := d.sizeGb }

/-- How the inflation went.  What a shadow found stays when these fields have nothing to say. -/
def setInflation (m : Metrics) (f : InflationFields) : Metrics :=
  { m with
    inflationType := f.inflationType
    inflationTimeMs := f.inflationTime.toMillis.toUInt64
    shadowDiskMatchResult := f.matchResult.getD m.shadowDiskMatchResult
    shadowInflationTimeMs :=
      (f.shadowInflationTime.map fun d => d.toMillis.toUInt64).getD m.shadowInflationTimeMs }

/-- What inspection found.  Without a release the fields of an earlier one stay. -/
def setInspection (m : Metrics) (i : Inspection) : Metrics :=
  { m with
    inspectionDistro := (i.osRelease.map (·.distro)).getD m.inspectionDistro
    inspectionMajorVersion := (i.osRelease.map (·.majorVersion)).getD m.inspectionMajorVersion
    inspectionMinorVersion := (i.osRelease.map (·.minorVersion)).getD m.inspectionMinorVersion
    inspectionOsCount := i.osCount
    inspectionUefiBootable := i.uefiBootable
    inspectionBiosBootable := i.biosBootable }

/-- Whether UEFI was asked for and whether it was found. -/
def setUefi (m : Metrics) (requested detected : Bool) : Metrics :=
  { m with uefiRequested := requested, uefiDetected := detected }

/-- The diagnostic lines. -/
def setTraceLogs (m : Metrics) (logs : List String) : Metrics := { m with traceLogs := logs }

/-- The metrics as they are, with the instant at which they were put together. -/
def build (m : Metrics) (at_ : Timestamp) : Metrics := { m with generatedAt := some at_ }

/-! ## 2. As a document -/

open Json

/-- An instant out of its text. -/
def timestamp? (j : Json) : Option Timestamp := (toText? j).bind Timestamp.parse?

def toJson (m : Metrics) : Json :=
  record <|
    member "source_type" (str m.sourceType) ++
    member "source_size_gb" (int64 m.sourceSizeGb) ++
    member "target_size_gb" (int64 m.targetSizeGb) ++
    member "inflation_type" (str m.inflationType) ++
    member "inflation_time_ms" (uint64 m.inflationTimeMs) ++
    member "shadow_inflation_time_ms" (uint64 m.shadowInflationTimeMs) ++
    member "shadow_disk_match_result" (str m.shadowDiskMatchResult) ++
    member "inspection_distro" (str m.inspectionDistro) ++
    member "inspection_major_version" (str m.inspectionMajorVersion) ++
    member "inspection_minor_version" (str m.inspectionMinorVersion) ++
    member "inspection_os_count" (int m.inspectionOsCount.toNat) ++
    member "inspection_uefi_bootable" (bool m.inspectionUefiBootable) ++
    member "inspection_bios_bootable" (bool m.inspectionBiosBootable) ++
    member "uefi_requested" (bool m.uefiRequested) ++
    member "uefi_detected" (bool m.uefiDetected) ++
    member "trace_logs" (list str m.traceLogs) ++
    member "generated_at" (nullOr (fun t => str t.format) m.generatedAt)

def ofJson? (j : Json) : Option Metrics := do
  let f ← fields? ["source_type", "source_size_gb", "target_size_gb", "inflation_type",
    "inflation_time_ms", "shadow_inflation_time_ms", "shadow_disk_match_result",
    "inspection_distro", "inspection_major_version", "inspection_minor_version",
    "inspection_os_count", "inspection_uefi_bootable", "inspection_bios_bootable",
    "uefi_requested", "uefi_detected", "trace_logs", "generated_at"] j
  return {
    sourceType := ← f.required "source_type" toText?
    sourceSizeGb := ← f.required "source_size_gb" toInt64?
    targetSizeGb := ← f.required "target_size_gb" toInt64?
    inflationType := ← f.required "inflation_type" toText?
    inflationTimeMs := ← f.required "inflation_time_ms" toUInt64?
    shadowInflationTimeMs := ← f.required "shadow_inflation_time_ms" toUInt64?
    shadowDiskMatchResult := ← f.required "shadow_disk_match_result" toText?
    inspectionDistro := ← f.required "inspection_distro" toText?
    inspectionMajorVersion := ← f.required "inspection_major_version" toText?
    inspectionMinorVersion := ← f.required "inspection_minor_version" toText?
    inspectionOsCount := ← f.required "inspection_os_count" toUInt32?
    inspectionUefiBootable := ← f.required "inspection_uefi_bootable" toBool?
    inspectionBiosBootable := ← f.required "inspection_bios_bootable" toBool?
    uefiRequested := ← f.required "uefi_requested" toBool?
    uefiDetected := ← f.required "uefi_detected" toBool?
    traceLogs := ← f.required "trace_logs" (toList? toText?)
    generatedAt := ← f.nullable "generated_at" timestamp? }

end Metrics

end ImageImport
