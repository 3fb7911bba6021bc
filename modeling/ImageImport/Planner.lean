/-
# Planning

What an inflated disk still needs follows from its operating system (`DefaultProcessPlanner`).  The user may
name it; otherwise inspection of the disk has to find exactly one (`resolve_os`).  A workflow of the user's
own takes the place of all that.
-/
import ImageImport.Arguments
import ImageImport.Metrics
import ImageImport.Os.Registry
import ImageImport.Plan
import ImageImport.Platform.Services

namespace ImageImport.Planner

/-! ## 1. The decision -/

/-- Nothing says which operating system it is. -/
def undetected : ImportError := .planning <|
  "Could not detect operating system. Please re-import with the operating system specified. " ++
  "For more information, see the list of supported operating systems."

/-- The operating system is not supported. -/
def invalidOs (os : String) : ImportError := .invalidOs os Os.allowedValues

/-- The identifier inspection found, if it found exactly one system. -/
def detectedOs (inspection : Option Inspection) : Option String :=
  inspection.bind fun i =>
    if i.osCount = 1 then i.osRelease.bind Os.candidateId else none

/-- The identifier to plan for: the one the user has named, or the one that was detected. -/
def resolveOs (a : Arguments) (inspection : Option Inspection) : Except ImportError String :=
  if !a.os.isEmpty then .ok a.os
  else match detectedOs inspection with
    | some os => .ok os
    | none => .error undetected

/-- The entry of an identifier. -/
def entryOf (os : String) : Except ImportError Os.Entry :=
  match Os.lookup os with
  | some e => .ok e
  | none => .error (invalidOs os)

/-- **The entry to plan with**: of the identifier, or of its bring-your-own-license variant.  Both must be
there. -/
def chosenEntry (a : Arguments) (os : String) : Except ImportError Os.Entry :=
  match entryOf os with
  | .error e => .error e
  | .ok e => if a.byol then entryOf (Os.byolVariant os) else .ok e

/-- Inspection found that the firmware needs UEFI. -/
def uefiDetected (inspection : Option Inspection) : Bool := inspection.any Inspection.needsUefi

/-- The features the disk needs. -/
def requiredFeatures (a : Arguments) (inspection : Option Inspection) (e : Os.Entry) :
    List GuestOsFeature :=
  (if a.uefiCompatible || uefiDetected inspection then [.uefiCompatible] else []) ++
    if Os.isWindows e.id then [.windows] else []

/-- The plan with an entry. -/
def planFor (a : Arguments) (inspection : Option Inspection) (e : Os.Entry) : ProcessingPlan where
  requiredLicenses := [e.license]
  requiredFeatures := requiredFeatures a inspection e
  translationWorkflowPath := e.workflow

/-! ## 2. Planning as an activity -/

variable {σ : Type}

/-- What planning yields: the metrics with what was found out, and a plan or an error. -/
abbrev Outcome (α : Type) := Metrics × Except ImportError α

/-- Inspect the disk, if that is asked for; without a report planning goes on. -/
def inspectDisk (p : Platform σ) (a : Arguments) (disk : PersistentDisk) :
    Activity σ (Option Inspection) := do
  if !a.inspect then return none
  match ← p.inspect disk.uri with
  | .ok inspection => return some inspection
  | .error e =>
    p.warn ("⚠️ Disk inspection failed for " ++ disk.uri ++ ": " ++ e.message)
    return none

/-- An unsupported system that inspection found is worth a warning. -/
def warnUnsupported (p : Platform σ) (a : Arguments) (os : String) : Activity σ Unit :=
  if a.os.isEmpty && (Os.lookup os).isNone then
    p.warn ("⚠️ Inspection detected unsupported OS '" ++ os ++ "'")
  else .done ()

/-- Plan with what inspection found. -/
def planWith (p : Platform σ) (a : Arguments) (inspection : Option Inspection) (m : Metrics) :
    Activity σ (Outcome ProcessingPlan) := do
  match resolveOs a inspection with
  | .error e => return (m, .error e)
  | .ok os =>
    warnUnsupported p a os
    match chosenEntry a os with
    | .error e => return (m, .error e)
    | .ok entry =>
      return (m.setUefi a.uefiCompatible (uefiDetected inspection), .ok (planFor a inspection entry))

/-- **Plan what a disk needs.** -/
def plan (p : Platform σ) (a : Arguments) (disk : PersistentDisk) (m : Metrics) :
    Activity σ (Outcome ProcessingPlan) :=
  if !a.customWorkflow.isEmpty then
    .done (m, .ok { translationWorkflowPath := a.customWorkflow })
  else do
    let inspection ← inspectDisk p a disk
    planWith p a inspection ((inspection.map m.setInspection).getD m)

end ImageImport.Planner
