/-
# Putting a workflow together

A workflow written by the program itself starts from its name, gets its parts one by one (`WorkflowBuilder`),
and is then substituted and checked (`build`).
-/
import ImageImport.Workflow.Rewriting
import ImageImport.Workflow.Soundness

namespace ImageImport.Workflow

/-- A workflow of that name and nothing else. -/
def named (name : String) : Workflow := { name }

def withProject (w : Workflow) (project : String) : Workflow := { w with project := some project }

def withZone (w : Workflow) (zone : String) : Workflow := { w with zone := some zone }

def withDefaultTimeout (w : Workflow) (d : Duration) : Workflow :=
  { w with defaultTimeout := some d.format }

def withStep (w : Workflow) (name : String) (step : WorkflowStep) : Workflow :=
  { w with steps := w.steps.insert name step }

/-- The step comes after the given ones, besides those it comes after already. -/
def withDependency (w : Workflow) (step : String) (after : List String) : Workflow :=
  { w with dependencies :=
      w.dependencies.insert step ((w.dependencies.find? step).getD [] ++ after) }

def withLabels (w : Workflow) (labels : Dict String) : Workflow :=
  { w with labels := w.labels.extend labels }

def withForcedCleanup (w : Workflow) (force : Bool) : Workflow :=
  { w with forceCleanupOnError := force }

/-- **Substitute the references, then check.** -/
def build (w : Workflow) : Except WorkflowError Workflow :=
  match w.rewrite with
  | .ok w => w.validate.map fun () => w
  | .error e => .error e

end ImageImport.Workflow
