/-
# The chain of processors

What is done with an inflated disk, in order (`DefaultProcessorProvider`).  A data disk only becomes an
image.  Otherwise the plan decides: the disk is tagged when there is something to tag it with, and translated
when there is a workflow to run.
-/
import ImageImport.Planner
import ImageImport.Processing.DataDisk
import ImageImport.Processing.Metadata
import ImageImport.Processing.Translation

namespace ImageImport

variable {σ : Type}

/-- What decides the processors of a disk: the metrics may gain, and the answer may be an error. -/
abbrev ProcessorProvider (σ : Type) :=
  PersistentDisk → Metrics → Activity σ (Planner.Outcome (List (Processor σ)))

/-- A planner. -/
abbrev DiskPlanner (σ : Type) :=
  PersistentDisk → Metrics → Activity σ (Planner.Outcome ProcessingPlan)

/-- The processors of a plan. -/
def processorsOf (p : Platform σ) (args : Arguments) (translation : Cell σ TranslationState)
    (plan : ProcessingPlan) : List (Processor σ) :=
  (if plan.needsMetadata then [metadataProcessor p args plan] else []) ++
    if plan.needsTranslation then
      [({ args, path := plan.translationWorkflowPath, platform := p, cell := translation } :
        Translation σ).processor]
    else []

/-- What is true of both kinds is true of all the processors of a plan. -/
theorem processorsOf_forall {p : Platform σ} {args : Arguments} {translation : Cell σ TranslationState}
    {plan : ProcessingPlan} {P : Processor σ → Prop} (hmetadata : P (metadataProcessor p args plan))
    (htranslation : P ({ args, path := plan.translationWorkflowPath, platform := p, cell := translation } :
      Translation σ).processor) : ∀ processor ∈ processorsOf p args translation plan, P processor := by
  intro processor hmem
  rcases List.mem_append.mp hmem with hmem | hmem
  · split at hmem
    · cases List.mem_singleton.mp hmem
      exact hmetadata
    · cases hmem
  · split at hmem
    · cases List.mem_singleton.mp hmem
      exact htranslation
    · cases hmem

/-- **The processors of a disk.**  A translation starts from nothing, so one that came before it leaves no
trace. -/
def provideWith (p : Platform σ) (args : Arguments) (translation : Cell σ TranslationState)
    (planner : DiskPlanner σ) : ProcessorProvider σ := fun disk m =>
  if args.dataDisk then .done (m, .ok [dataDiskProcessor p args])
  else do
    match ← planner disk m with
    | (m, .error e) => return (m, .error e)
    | (m, .ok plan) =>
      .update (translation.set {})
      return (m, .ok (processorsOf p args translation plan))

/-- The same with the planner of this library. -/
def provide (p : Platform σ) (args : Arguments) (translation : Cell σ TranslationState) :
    ProcessorProvider σ := provideWith p args translation (Planner.plan p args)

end ImageImport
