/-
# The outcome of an inflation

Inflation turns a source into a persistent disk (`Inflation`).  Besides the disk it reports how it went: which
way was taken, how long it took, a checksum of the contents, and how a shadow inflation compared
(`ShadowTestFields`).  None of these decides anything later on.  A failed inflation may still have created a
disk (`InflationFailure`).
-/
import ImageImport.Error
import ImageImport.Platform.Disk

namespace ImageImport

/-- How an inflation went. -/
structure InflationFields where
  inflationType : String := ""
  inflationTime : Duration := .ofSecs 0
  checksum : String := ""
  matchResult : Option String := none
  shadowInflationTime : Option Duration := none
  deriving DecidableEq

/-- A disk and how it was inflated. -/
structure Inflation where
  disk : PersistentDisk := .unknown
  fields : InflationFields := {}
  deriving DecidableEq

/-- **A failed inflation.**  When the disk has a reference, it exists and has to be removed. -/
structure InflationFailure where
  disk : PersistentDisk := .unknown
  fields : InflationFields := {}
  error : ImportError
  deriving DecidableEq

namespace InflationFailure

/-- A failure before any disk existed. -/
def ofError (error : ImportError) : InflationFailure := { error }

/-- The wording is that of its error. -/
def message (f : InflationFailure) : String := f.error.message

/-- What is known of the disk, without the error. -/
def remains (f : InflationFailure) : Inflation := ⟨f.disk, f.fields⟩

end InflationFailure

/-- What an inflation leaves, whether it succeeded or failed. -/
def Inflation.left : Except InflationFailure Inflation → Inflation
  | .ok inflation => inflation
  | .error failure => failure.remains

/-- The way through a worker. -/
def inflationTypeWorker : String := "qemu"

/-- The way through the compute service. -/
def inflationTypeApi : String := "api"

end ImageImport
