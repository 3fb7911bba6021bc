/-
# Processing plans

What an inflated disk still needs (`ProcessingPlan`): licenses and guest OS features to attach, and a
translation workflow to run on it, by its path in the workflow directory.
-/
import ImageImport.Platform.Document

namespace ImageImport

/-- What is to be done with a disk.  An empty path means that nothing is translated. -/
structure ProcessingPlan where
  requiredLicenses : List String := []
  requiredFeatures : List GuestOsFeature := []
  translationWorkflowPath : String := ""
  deriving DecidableEq

namespace ProcessingPlan

/-- There are licenses or features to attach. -/
def needsMetadata (p : ProcessingPlan) : Bool :=
  !p.requiredLicenses.isEmpty || !p.requiredFeatures.isEmpty

/-- There is a workflow to run. -/
def needsTranslation (p : ProcessingPlan) : Bool := !p.translationWorkflowPath.isEmpty

open Json

def toJson (p : ProcessingPlan) : Json :=
  record (member "required_licenses" (list str p.requiredLicenses) ++
    member "required_features" (list GuestOsFeature.toJson p.requiredFeatures) ++
    member "translation_workflow_path" (str p.translationWorkflowPath))

def ofJson? (j : Json) : Option ProcessingPlan := do
  let f ← fields? ["required_licenses", "required_features", "translation_workflow_path"] j
  return {
    requiredLicenses := ← f.required "required_licenses" (toList? toText?)
    requiredFeatures := ← f.required "required_features" (toList? GuestOsFeature.ofJson?)
    translationWorkflowPath := ← f.required "translation_workflow_path" toText? }

end ProcessingPlan

end ImageImport
