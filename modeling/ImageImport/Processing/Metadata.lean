/-
# Tagging a disk

The licenses and features of the plan are added to those the disk has (`MetadataProcessor`): what is there
stays where it is, and what is missing follows in the order of the plan.
-/
import ImageImport.Arguments
import ImageImport.Plan
import ImageImport.Resource
import ImageImport.Step
import ImageImport.Platform.Services

namespace ImageImport

/-- **What is there, and behind it what is missing of the wanted.** -/
def addMissing {α : Type} [BEq α] (present wanted : List α) : List α :=
  wanted.foldl (fun found a => if found.contains a then found else found ++ [a]) present

/-- What a disk is to have under a plan. -/
def ProcessingPlan.updateOf (plan : ProcessingPlan) (current : Disk) : DiskMetadataUpdate where
  licenses := addMissing current.licenses plan.requiredLicenses
  guestOsFeatures := addMissing current.guestOsFeatures plan.requiredFeatures

variable {σ : Type}

/-- **Tag a disk.**  The disk is handed on as it came. -/
def tagDisk (p : Platform σ) (args : Arguments) (plan : ProcessingPlan) (disk : PersistentDisk) :
    Activity σ (Except ImportError PersistentDisk) :=
  let name := Resource.name disk.uri
  .mapFault .api <|
    (p.getDisk args.project args.zone name).andThen fun current =>
      (p.updateDiskMetadata args.project args.zone name (plan.updateOf current)).andThen fun () =>
        .done (.ok disk)

/-- Tagging as a step.  It is over so soon that it cannot be cancelled, and has nothing to report. -/
def metadataProcessor (p : Platform σ) (args : Arguments) (plan : ProcessingPlan) : Processor σ where
  kind := .metadata
  cancel _ := .done false
  traceLogs _ := []
  process disk m := unreported m (tagDisk p args plan disk)

end ImageImport
