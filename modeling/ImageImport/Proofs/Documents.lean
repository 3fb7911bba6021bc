/-
# Documents are read back

Main statement: `documents_read_back`, over all values of every kind of document and every text that is read as one.
That a text is read as its tree is shown in `Proofs/Json/Text.lean`, and that a tree is read as its value where the kind
of the document is: `Proofs/Platform/Document.lean`, `Proofs/Preflight/Document.lean` and `Proofs/Workflow/Document.lean`.
-/
import ImageImport.Proofs.Preflight.Document
import ImageImport.Proofs.Workflow.Document

namespace ImageImport

open Json

variable {α : Type} {read : Json → Option α} {write : α → Json}

/-- **Documents of a kind are read back.**  The text of a value is read as this value, so to write what was read of a
text, and to read it again, is to read the text. -/
structure ReadsBack (read : Json → Option α) (write : α → Json) : Prop where
  value : ∀ v, (parse? (render (write v))).bind read = some v
  again : ∀ text, ((parse? text).bind read).bind (fun v => (parse? (render (write v))).bind read) =
    (parse? text).bind read

/-- A kind of document is read back if its trees are plain and are. -/
theorem ReadsBack.of_tree {room : Nat} (hplain : ∀ v, Plain room (write v)) (hread : ∀ v, read (write v) = some v) :
    ReadsBack read write := by
  have hvalue : ∀ v, (parse? (render (write v))).bind read = some v := by
    intro v
    rw [parse?_render (hplain v), Option.bind_some, hread]
  refine ⟨hvalue, fun text => ?_⟩
  simp only [hvalue, Option.bind_fun_some]

namespace Workflow

/-- The text of a workflow is read as the workflow, but for the file it was read from. -/
theorem parse_render (w : Workflow) : parse (render w.toJson) = .ok { w with sourcePath := none } := by
  rw [parse, parse?_render (plain 0 w), Option.bind_some, ofJson?_toJson]

/-- What is read of a text remembers no file. -/
theorem sourcePath_of_parse {text : String} {w : Workflow} (h : parse text = .ok w) : w.sourcePath = none := by
  unfold parse at h
  split at h
  next w' hread =>
    cases h
    obtain ⟨j, -, hj⟩ := Option.bind_eq_some_iff.mp hread
    exact sourcePath_of_ofJson? hj
  next => cases h

end Workflow

/-- **Every document is read back**: whatever its strings hold, and however large its numbers are.  A workflow that was
read from a file does not write down which one, so it is read back without. -/
theorem documents_read_back :
    ReadsBack Disk.ofJson? Disk.toJson ∧
    ReadsBack Image.ofJson? Image.toJson ∧
    ReadsBack DiskMetadataUpdate.ofJson? DiskMetadataUpdate.toJson ∧
    ReadsBack (VarSpec.ofJson? documentRoom) VarSpec.toJson ∧
    ReadsBack (WorkflowDisk.ofJson? documentRoom) WorkflowDisk.toJson ∧
    ReadsBack (WorkflowImage.ofJson? documentRoom) WorkflowImage.toJson ∧
    ReadsBack (WorkflowStep.ofJson? documentRoom) WorkflowStep.toJson ∧
    ReadsBack PersistentDisk.ofJson? PersistentDisk.toJson ∧
    ReadsBack ProcessingPlan.ofJson? ProcessingPlan.toJson ∧
    ReadsBack Inspection.ofJson? Inspection.toJson ∧
    ReadsBack Preflight.Report.ofJson? Preflight.Report.toJson ∧
    (∀ w : Workflow, Workflow.parse (render w.toJson) = .ok { w with sourcePath := none }) ∧
    ∀ text, ((Workflow.parse text).bind fun w => Workflow.parse (render w.toJson)) = Workflow.parse text := by
  refine ⟨.of_tree (Disk.plain 0) Disk.ofJson?_toJson, .of_tree (Image.plain 0) Image.ofJson?_toJson,
    .of_tree (DiskMetadataUpdate.plain 0) DiskMetadataUpdate.ofJson?_toJson,
    .of_tree (VarSpec.plain 0) (VarSpec.ofJson?_toJson (by decide)),
    .of_tree (WorkflowDisk.plain 0) (WorkflowDisk.ofJson?_toJson (by decide)),
    .of_tree (WorkflowImage.plain 0) (WorkflowImage.ofJson?_toJson (by decide)),
    .of_tree (WorkflowStep.plain 0) (WorkflowStep.ofJson?_toJson (by decide)),
    .of_tree (PersistentDisk.plain 0) PersistentDisk.ofJson?_toJson,
    .of_tree (ProcessingPlan.plain 0) ProcessingPlan.ofJson?_toJson,
    .of_tree (Inspection.plain 0) Inspection.ofJson?_toJson,
    .of_tree (Preflight.Report.plain 0) Preflight.Report.ofJson?_toJson, Workflow.parse_render, ?_⟩
  intro text
  cases hread : Workflow.parse text with
  | error e => rfl
  | ok w => rw [Except.bind, Workflow.parse_render, ← Workflow.sourcePath_of_parse hread]

end ImageImport
