/-
# References in a document

The steps of a workflow are of many kinds, with texts in many places.  Their references are replaced where all
of them are alike: in the document the steps make up (`substitute`, `substitute_value`).  It is rewritten text
by text and read back, and the steps are what has been read.
-/
import ImageImport.Workflow.Document
import ImageImport.Workflow.Substitution

namespace ImageImport.Workflow

open Json

/-- A text of the document; one without an opening is not touched. -/
def rewriteText (w : Workflow) (s : String) : String :=
  if Text.occursIn Reference.opening s.toList then substituteText w.bindings s else s

/-- **Replace the references in the document of the steps**, and read them back. -/
def rewrite (w : Workflow) : Except WorkflowError Workflow :=
  match toDict? (WorkflowStep.ofJson? documentRoom) ((dict WorkflowStep.toJson w.steps).mapTexts w.rewriteText) with
  | some steps => .ok { w with steps }
  | none => .error .notADocument

end ImageImport.Workflow
