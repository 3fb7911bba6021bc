/-
# The history of an import

What an import asks of others is noted: the check of the arguments, the inflation, the choice of the
processors, each of the processors, and the deletion of the disk.  `ImportLaw` says which histories there
are when the import returns, and which disk is known last in each of them:

* nothing but the check, and nothing in the metrics, when the arguments are refused;
* otherwise the stages, of which the first that fails is the last (`StagesLaw`, `ChainLaw`), and then the
  deletion of the disk that is known last -- once, if there is one, and whatever comes of it.

Every guarded step stands in the history as `StepLaw` says, and hands on what its law says.  So a disk that
an inflation had created when its outcome was discarded is known all the same: its step has *ended*, and
what it ended with is noted before it is discarded.
-/
import ImageImport.Import
import ImageImport.Proofs.Step.Outcome

namespace ImageImport

variable {τ : Type}

/-! ## 1. What an import is put together from

The parts act on a state `τ` of their own.  What the tasks of the stages record is kept beside it, where none of
the parts can reach it, and so are the notes of the history. -/

/-- **The parts of an import.** -/
structure ImportParts (τ : Type) where
  args : Arguments
  validator : Preflight.Validator τ
  inflater : Inflater τ
  provider : ProcessorProvider τ
  deleteDisk : (project zone disk : String) → Call τ Unit
  log : Severity → String → τ → τ

namespace ImportParts

/-- The processors of an answer, on a larger state. -/
def lifted {σ σ' : Type} (lift : List (Processor σ) → List (Processor σ'))
    (answer : Planner.Outcome (List (Processor σ))) : Planner.Outcome (List (Processor σ')) :=
  (answer.1, answer.2.map lift)

/-- A processor on its part of the state. -/
def processorOn (p : Processor τ) : Processor (τ × Recorded) :=
  { p.toStep.on Cell.fst with
    kind := p.kind
    process := fun disk m => (p.process disk m).on Cell.fst }

/-- **The import of the parts.**  Of the platform it asks nothing but to delete a disk and to write a line
to the log; the rest of it is for the parts to use. -/
def importer (parts : ImportParts τ) (rest : Platform (τ × Recorded)) : Importer (τ × Recorded) where
  args := parts.args
  platform :=
    { rest with
      deleteDisk := fun project zone disk => (parts.deleteDisk project zone disk).on Cell.fst
      log := fun severity line => Cell.fst.modify (parts.log severity line) }
  inflater := { parts.inflater.toStep.on Cell.fst with inflate := parts.inflater.inflate.on Cell.fst }
  provider disk m :=
    ((parts.provider disk m).on Cell.fst).bind fun answer => .done (lifted (List.map processorOn) answer)
  validator args := (parts.validator args).on Cell.fst
  left := Cell.snd

end ImportParts

/-- A platform that refuses whatever it is asked for. -/
def Platform.refusing {σ : Type} : Platform σ where
  createDisk _ _ _ := .done (.error (.notFound ""))
  getDisk _ _ _ := .done (.error (.notFound ""))
  deleteDisk _ _ _ := .done (.error (.notFound ""))
  updateDiskMetadata _ _ _ _ := .done (.error (.notFound ""))
  createImage _ _ := .done (.error (.notFound ""))
  getImage _ _ := .done (.error (.notFound ""))
  openReader _ _ := .done (.error (.notFound ""))
  objectSize _ _ := .done (.error (.notFound ""))
  inspect _ := .done (.error (.internal ""))
  runWorkflow _ _ _ := .done (.error .notADocument)
  log _ _ s := s
  files := .none

/-! ## 2. What is noted -/

/-- The notes of an inflation. -/
abbrev InflationNote := StepNote Unit (Except InflationFailure Inflation)

/-- The notes of a processor, which is given a disk. -/
abbrev ProcessorNote := StepNote PersistentDisk (Except ImportError PersistentDisk)

/-- **What can be noted of an import.**  Processors are numbered in their order. -/
inductive ImportNote where
  | validating
  | validated (r : Except Crash (Except ImportError Unit))
  | inflation (n : InflationNote)
  | providing (disk : PersistentDisk)
  | provided (r : Except Crash (Except ImportError (List ProcessorKind)))
  | processing (k : Nat) (n : ProcessorNote)
  | deleting (project zone disk : String)
  | deleted (r : Except Crash (Except ApiError Unit))

/-- The notes of an import, each with its instant. -/
abbrev ImportHistory := List (Nat × ImportNote)

namespace ImportParts

/-- The state of an import with its notes. -/
abbrev Noted (τ : Type) := Watched (τ × Recorded) ImportNote

/-- A processor with its notes; of what its work has ended with, the metrics are not noted. -/
def watchedProcessor (k : Nat) (p : Processor τ) : Processor (Noted τ) :=
  { p.toStep.watched Cell.fst (.processing k) with
    kind := p.kind
    process := fun disk m =>
      .watching (.processing k (.started disk)) (fun r => .processing k (.ended (r.map (·.2))))
        ((p.process disk m).on (Watched.part Cell.fst)) }

/-- Processors with their notes, numbered from `k`. -/
def watchedProcessors : Nat → List (Processor τ) → List (Processor (Noted τ))
  | _, [] => []
  | k, p :: rest => watchedProcessor k p :: watchedProcessors (k + 1) rest

/-- What is noted of an answer of the provider. -/
def providedKinds (r : Except Crash (Planner.Outcome (List (Processor τ)))) :
    Except Crash (Except ImportError (List ProcessorKind)) :=
  r.map fun answer => answer.2.map fun processors => processors.map (·.kind)

/-- **The same import with its notes.** -/
def watched (parts : ImportParts τ) (rest : Platform (Noted τ)) : Importer (Noted τ) where
  args := parts.args
  platform :=
    { rest with
      deleteDisk := fun project zone disk =>
        .watching (.deleting project zone disk) .deleted
          ((parts.deleteDisk project zone disk).on (Watched.part Cell.fst))
      log := fun severity line => (Watched.part Cell.fst).modify (parts.log severity line) }
  inflater :=
    { parts.inflater.toStep.watched Cell.fst .inflation with
      inflate := watchedWork Cell.fst .inflation () parts.inflater.inflate }
  provider disk m :=
    (Activity.watching (.providing disk) (fun r => .provided (providedKinds r))
      ((parts.provider disk m).on (Watched.part Cell.fst))).bind fun answer =>
        .done (lifted (watchedProcessors 0) answer)
  validator args :=
    .watching .validating .validated ((parts.validator args).on (Watched.part Cell.fst))
  left := Watched.part Cell.snd

end ImportParts

/-! ## 3. The law -/

/-- What inflation has left, when its work has ended so; nothing, when it has crashed or never started. -/
def leftBy : Option (Except Crash (Except InflationFailure Inflation)) → Inflation
  | some (.ok r) => Inflation.left r
  | _ => {}

/-- **The processors from number `k` on**, of which there are `n`, with `disk` for the first: their
history, the disk that is known in the end, and the result. -/
inductive ChainLaw (ctx : RunContext) :
    (k n : Nat) → (disk : PersistentDisk) → ImportHistory → PersistentDisk → Except ImportError Unit →
      Prop where
  | nothing {k : Nat} {disk : PersistentDisk} : ChainLaw ctx k 0 disk [] disk (.ok ())
  | failed {k n start : Nat} {disk : PersistentDisk} {h : StepHistory _ _} {e : ImportError}
      (law : StepLaw ctx id start disk h (.error e)) :
      ChainLaw ctx k (n + 1) disk (keptAs (.processing k) h) disk (.error e)
  | next {k n start : Nat} {disk disk' last : PersistentDisk} {h : StepHistory _ _}
      {rest : ImportHistory} {result : Except ImportError Unit}
      (law : StepLaw ctx id start disk h (.ok disk'))
      (chain : ChainLaw ctx (k + 1) n disk' rest last result) :
      ChainLaw ctx k (n + 1) disk (keptAs (.processing k) h ++ rest) last result

/-- **The stages**: inflation, the choice of the processors, and the processors; their history, the disk
that is known in the end, and the result. -/
inductive StagesLaw (ctx : RunContext) :
    ImportHistory → PersistentDisk → Except ImportError Unit → Prop where
  | inflationFailed {start : Nat} {h : StepHistory _ _} {failure : InflationFailure}
      (law : StepLaw ctx InflationFailure.ofError start () h (.error failure)) :
      StagesLaw ctx (keptAs .inflation h) (leftBy h.ending).disk (.error failure.error)
  | notProvided {start t t' : Nat} {h : StepHistory _ _} {inflation : Inflation} {e : ImportError}
      (law : StepLaw ctx InflationFailure.ofError start () h (.ok inflation)) :
      StagesLaw ctx
        (keptAs .inflation h ++ [(t, .providing inflation.disk), (t', .provided (.ok (.error e)))])
        inflation.disk (.error e)
  | provided {start t t' : Nat} {h : StepHistory _ _} {inflation : Inflation}
      {kinds : List ProcessorKind} {rest : ImportHistory} {last : PersistentDisk}
      {result : Except ImportError Unit}
      (law : StepLaw ctx InflationFailure.ofError start () h (.ok inflation))
      (chain : ChainLaw ctx 0 kinds.length inflation.disk rest last result) :
      StagesLaw ctx
        (keptAs .inflation h ++
          [(t, .providing inflation.disk), (t', .provided (.ok (.ok kinds)))] ++ rest) last result

/-- **The deletion of a disk**: once, if there is one, and whatever the answer. -/
inductive DeletionLaw (args : Arguments) (disk : PersistentDisk) : ImportHistory → Prop where
  | nothing (h : disk.uri = "") : DeletionLaw args disk []
  | once {t t' : Nat} {answer : Except ApiError Unit} (h : disk.uri ≠ "") :
      DeletionLaw args disk
        [(t, .deleting args.project args.zone disk.uri), (t', .deleted (.ok answer))]

/-- **An import that has returned**: its history, its metrics as far as the law goes, and its result. -/
inductive ImportLaw (args : Arguments) (ctx : RunContext) :
    ImportHistory → Metrics → Except ImportError Unit → Prop where
  | refused {t t' : Nat} {e : ImportError} :
      ImportLaw args ctx [(t, .validating), (t', .validated (.ok (.error e)))] .empty (.error e)
  | ran {t t' : Nat} {stages deletion : ImportHistory} {last : PersistentDisk} {metrics : Metrics}
      {result : Except ImportError Unit} (law : StagesLaw ctx stages last result)
      (cleanup : DeletionLaw args last deletion) :
      ImportLaw args ctx ([(t, .validating), (t', .validated (.ok (.ok ())))] ++ stages ++ deletion)
        metrics result

/-- **The history breaks off within a call**, which has not come back. -/
inductive ImportHistory.Pending : ImportHistory → Prop where
  | validating {t : Nat} : Pending [(t, .validating)]
  | inflation {h : ImportHistory} {l : StepHistory _ _} (hl : l.Open) :
      Pending (h ++ keptAs .inflation l)
  | providing {h : ImportHistory} {t : Nat} {disk : PersistentDisk} :
      Pending (h ++ [(t, .providing disk)])
  | processing {h : ImportHistory} {k : Nat} {l : StepHistory _ _} (hl : l.Open) :
      Pending (h ++ keptAs (.processing k) l)
  | deleting {h : ImportHistory} {t : Nat} {project zone disk : String} :
      Pending (h ++ [(t, .deleting project zone disk)])

/-- **The history breaks off with a call that has crashed**, one outside the task of a step. -/
inductive ImportHistory.Blown (why : Crash) : ImportHistory → Prop where
  | validated {t t' : Nat} : Blown why [(t, .validating), (t', .validated (.error why))]
  | inflation {h : ImportHistory} {t : Nat} {l : StepHistory _ _}
      (hl : (t, .answered (.error why)) ∈ l) : Blown why (h ++ keptAs .inflation l)
  | provided {h : ImportHistory} {t t' : Nat} {disk : PersistentDisk} :
      Blown why (h ++ [(t, .providing disk), (t', .provided (.error why))])
  | processing {h : ImportHistory} {k t : Nat} {l : StepHistory _ _}
      (hl : (t, .answered (.error why)) ∈ l) : Blown why (h ++ keptAs (.processing k) l)
  | deleted {h : ImportHistory} {t t' : Nat} {project zone disk : String} :
      Blown why (h ++ [(t, .deleting project zone disk), (t', .deleted (.error why))])

end ImageImport
