/-
# Sound workflows

What must hold before a workflow is handed to the engine (`validate`): it has a name and steps, its timeout
can be read, every required variable has a value, and the order of its steps can be satisfied.  The files its
steps include must exist (`check_includes`).
-/
import ImageImport.Files.Tree
import ImageImport.Workflow.Order

namespace ImageImport.Workflow

/-- **Check the definition**; of several faults the first in this order is reported. -/
def validate (w : Workflow) : Except WorkflowError Unit :=
  if Text.isBlankText w.name then .error (.invalidDefinition "workflow name is required")
  else if w.steps.isEmpty then
    .error (.invalidDefinition ("workflow '" ++ w.name ++ "' has no steps"))
  else if w.defaultTimeout.any fun t => (Duration.parse? t).isNone then
    .error (.invalidDefinition ("invalid DefaultTimeout '" ++ w.defaultTimeout.getD "" ++ "'"))
  else match w.vars.entries.find? fun e => e.2.isRequired && e.2.text.isEmpty with
    | some (name, _) => .error (.missingVariable name)
    | none => w.executionOrder.map fun _ => ()

/-- The first step that includes a file that does not exist. -/
def checkIncludesOf (files : Files) (w : Workflow) :
    List (String × WorkflowStep) → Except WorkflowError Unit
  | [] => .ok ()
  | (name, .includeWorkflow i) :: rest =>
    let path := w.resolvePath i.path
    if files.isFile path then checkIncludesOf files w rest
    else .error (.invalidDefinition ("step '" ++ name ++ "' includes missing workflow " ++ path))
  | _ :: rest => checkIncludesOf files w rest

/-- **Every included file exists.** -/
def checkIncludes (files : Files) (w : Workflow) : Except WorkflowError Unit :=
  checkIncludesOf files w w.steps.entries

end ImageImport.Workflow
