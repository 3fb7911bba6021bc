/-
# What an inspector reports

The inspector is a black box: it looks at a disk or at a source file and reports sizes, a file format, and the
operating systems it found (`InspectionMetadata`, `OsRelease`).
-/

namespace ImageImport

/-- An operating system found by inspection. -/
structure OsRelease where
  distro : String := ""
  majorVersion : String := ""
  minorVersion : String := ""
  deriving DecidableEq

/-- The report on a disk or a file. -/
structure Inspection where
  virtualSizeGb : Int64 := 0
  physicalSizeGb : Int64 := 0
  osRelease : Option OsRelease := none
  uefiBootable : Bool := false
  biosBootable : Bool := false
  osCount : UInt32 := 0
  fileFormat : String := ""
  deriving DecidableEq

/-- The firmware only boots through UEFI. -/
def Inspection.needsUefi (i : Inspection) : Bool := i.uefiBootable && !i.biosBootable

end ImageImport
