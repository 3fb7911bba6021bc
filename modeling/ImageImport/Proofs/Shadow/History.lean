/-
# The history of an inflation with a shadow

What is noted of an inflation with a shadow is what is noted of the main inflation as a step, and what the
shadow is told.  `ShadowedLaw` says which histories there are and which outcome goes with each: those of the
main inflation as a step of its own, with what it ended with shown as `Shown` says.

So the shadow has no say in the outcome.  In particular the outcome is the error of the context exactly when
the context was over before the main inflation started, or became over while it was in flight and its own
cancel answered that it was interrupted (`contextError_iff`).
-/
import ImageImport.Inflation.Shadowed
import ImageImport.Proofs.Step.History

namespace ImageImport

variable {τ ε α ι ω : Type}

/-! ## 1. What an inflation with a shadow is put together from -/

/-- **The parts of an inflation with a shadow.**  Both act on one state, and may look at what the other does
to it; whether the main one has ended is kept beside it, where neither of them can reach it. -/
structure ShadowedParts (τ : Type) where
  main : Inflater τ
  shadow : Inflater τ
  grace : Duration
  log : Severity → String → τ → τ

/-- What is noted: of the main inflation, and of the cancels that the shadow is sent. -/
inductive ShadowedNote where
  | main (n : StepNote Unit (Except InflationFailure Inflation))
  | told (reason : String)
  | obeyed (reason : String) (r : Except Crash Bool)

/-- The notes of an inflation with a shadow, each with its instant. -/
abbrev ShadowedHistory := List (Nat × ShadowedNote)

namespace ShadowedParts

/-- The state of an inflation with a shadow, with its notes. -/
abbrev Noted (τ : Type) := Watched (τ × Bool) ShadowedNote

/-- **The inflation of the parts.**  Of the platform it asks nothing but to write a line to the log. -/
def inflation (parts : ShadowedParts τ) (rest : Platform (τ × Bool)) : ShadowedInflation (τ × Bool) where
  main := { parts.main.toStep.on Cell.fst with inflate := parts.main.inflate.on Cell.fst }
  shadow := { parts.shadow.toStep.on Cell.fst with inflate := parts.shadow.inflate.on Cell.fst }
  grace := parts.grace
  platform := { rest with log := fun severity line => Cell.fst.modify (parts.log severity line) }
  mainFinished := Cell.snd

/-- **The same inflation with its notes.** -/
def watched (parts : ShadowedParts τ) (rest : Platform (Noted τ)) : ShadowedInflation (Noted τ) where
  main :=
    { parts.main.toStep.watched Cell.fst .main with
      inflate := watchedWork Cell.fst .main () parts.main.inflate }
  shadow :=
    { cancel := fun reason =>
        .watching (.told reason) (.obeyed reason)
          ((parts.shadow.cancel reason).on (Watched.part Cell.fst))
      traceLogs := fun s => parts.shadow.traceLogs s.state.1
      inflate := parts.shadow.inflate.on (Watched.part Cell.fst) }
  grace := parts.grace
  platform :=
    { rest with
      log := fun severity line => (Watched.part Cell.fst).modify (parts.log severity line) }
  mainFinished := Watched.part Cell.snd

end ShadowedParts

/-! ## 2. The law -/

/-- What the shadow is told when the main inflation has failed. -/
def mainFailed : String := "main inflater failed"

/-- What a shadow is told that has outlived its grace period. -/
def mainFinished : String := "main inflater finished"

namespace ShadowedHistory

/-- The history of the main inflation. -/
def ofMain (h : ShadowedHistory) : StepHistory Unit (Except InflationFailure Inflation) :=
  h.filterMap fun n => match n.2 with
    | .main k => some (n.1, k)
    | _ => none

/-- The shadow has been told something, and has neither obeyed nor refused. -/
def Deaf (reason : String) (h : ShadowedHistory) : Prop :=
  (∃ t, (t, .told reason) ∈ h) ∧ ∀ t r, (t, .obeyed reason r) ∉ h

/-- **Something is still under way** that has to end: the main inflation or its cancel, or a cancel of the
shadow.  For a shadow that is told of the end of the main inflation nobody waits longer than the grace
period. -/
def Open (h : ShadowedHistory) : Prop :=
  h.ofMain.Open ∨ ∃ reason, reason ≠ mainFinished ∧ h.Deaf reason

/-- A cancel has crashed, of the main inflation or of the shadow. -/
def Blown (why : Crash) (h : ShadowedHistory) : Prop :=
  (∃ t, (t, .main (.answered (.error why))) ∈ h) ∨ ∃ t reason, (t, .obeyed reason (.error why)) ∈ h

/-- **What is shown for what the main inflation has ended with**: the same, compared with the shadow.  A crash
in the task of the inflation is what its task ends with, be it the main inflation's own or one of telling
the shadow about it. -/
inductive Shown (h : ShadowedHistory) :
    Except Crash (Except InflationFailure Inflation) → Except InflationFailure Inflation → Prop where
  | compared {result : Except InflationFailure Inflation} (shadow : ShadowEnding) :
      Shown h (.ok result) (addShadow (compareInflations result shadow) shadow result)
  | crashed {why : Crash} : Shown h (.error why) (.error (.ofError (crashError why)))
  | blown {t : Nat} {reason : String} {why : Crash} {result : Except InflationFailure Inflation}
      (told : reason = mainFailed ∨ reason = mainFinished)
      (crashed : (t, .obeyed reason (.error why)) ∈ h) :
      Shown h (.ok result) (.error (.ofError (crashError why)))

end ShadowedHistory

/-- **The law of an inflation with a shadow**: the history of the main inflation is that of a step, and so is
the outcome, but for what is shown of it. -/
def ShadowedLaw (ctx : RunContext) (start : Nat) (h : ShadowedHistory)
    (outcome : Except InflationFailure Inflation) : Prop :=
  GuardedLaw ctx InflationFailure.ofError start () h.Shown h.ofMain outcome

/-! ## 3. Errors of the context -/

/-- An error of the context, once it is over. -/
def RunContext.Error (ctx : RunContext) (e : ImportError) : Prop := ∃ now, ctx.Past now e

/-- **A step was interrupted**: the context became over while its work was in flight, and its cancel has
answered that it was. -/
def StepHistory.Interrupted (ctx : RunContext) (h : StepHistory ι ω) : Prop :=
  ∃ before d e reason after, h = before ++ (d, .asked reason) :: after ∧ ctx.Over d e reason ∧
    (∃ t input, (t, .started input) ∈ before) ∧ (∀ t r, (t, .ended r) ∉ before) ∧
      ∃ t, (t, .answered (.ok true)) ∈ after

/-- **When the outcome of a guarded step is the error of its context**, if its own outcomes never are. -/
theorem GuardedLaw.error_iff {ctx : RunContext} {ofError : ImportError → ε} {start : Nat} {input : ι}
    {own : Except Crash ω → Except ε α → Prop} {h : StepHistory ι ω} {outcome : Except ε α}
    (hown : ∀ {r e}, ctx.Error e → ¬ own r (.error (ofError e)))
    (law : GuardedLaw ctx ofError start input own h outcome) :
    (∃ e, ctx.Error e ∧ outcome = .error (ofError e)) ↔ ctx.err start ≠ none ∨ h.Interrupted ctx := by
  cases law with
  | @late e e' reason t interrupted spent why =>
    refine ⟨fun _ => .inl (by simp [spent]), fun _ => ⟨_, ⟨start, ?_⟩, rfl⟩⟩
    cases interrupted with
    | true => exact why.past
    | false => exact .of_err spent
  | undisturbed live inTime counts =>
    constructor
    · rintro ⟨e, he, rfl⟩
      exact absurd counts (hown he)
    · rintro (hlate | ⟨before, d, e, reason, after, heq, -⟩)
      · exact absurd live hlate
      · have hmem : (d, StepNote.asked reason) ∈ before ++ (d, .asked reason) :: after := by simp
        rw [← heq] at hmem
        simp at hmem
  | @overtaken d t t' e reason r outcome interrupted rest live ends why both counts =>
    cases interrupted with
    | true =>
      refine ⟨fun _ => .inr ⟨[(start, .started input)], d, e, reason, rest, rfl, why, ?_, ?_, t', ?_⟩,
        fun _ => ⟨e, ⟨d, why.past⟩, rfl⟩⟩
      · exact ⟨start, input, List.mem_singleton_self _⟩
      · intro t r hmem
        cases List.mem_singleton.mp hmem
      · exact both.mem_iff.mpr (by simp)
    | false =>
      constructor
      · rintro ⟨e, he, heq⟩
        have hout : outcome = .error (ofError e) := heq
        rw [hout] at counts
        exact absurd counts (hown he)
      · rintro (hlate | ⟨before, d', e', reason', after, heq, -, -, -, u, hmem⟩)
        · exact absurd live hlate
        · -- the only answer in the history is the other one
          have hall : (u, StepNote.answered (.ok true)) ∈
              ((start, .started input) :: (d, .asked reason) :: rest : StepHistory ι ω) := by
            rw [heq]
            exact List.mem_append_right _ (List.mem_cons_of_mem _ hmem)
          simp only [List.mem_cons, Prod.mk.injEq, reduceCtorEq, and_false, false_or] at hall
          simp [both.mem_iff] at hall

/-- Neither of the errors of a context is that of a crash. -/
theorem RunContext.Error.ne_crashError {ctx : RunContext} {e : ImportError} (h : ctx.Error e)
    (why : Crash) : e ≠ crashError why := by
  obtain ⟨now, h⟩ := h
  rintro rfl
  cases h

/-- **When the outcome of an inflation with a shadow is the error of the context.** -/
theorem ShadowedLaw.contextError_iff {ctx : RunContext} {start : Nat} {h : ShadowedHistory}
    {outcome : Except InflationFailure Inflation} (law : ShadowedLaw ctx start h outcome) :
    (∃ e, ctx.Error e ∧ outcome = .error (.ofError e)) ↔
      ctx.err start ≠ none ∨ h.ofMain.Interrupted ctx := by
  refine GuardedLaw.error_iff (fun {r e} he hown => ?_) law
  generalize ho : (Except.error (InflationFailure.ofError e) : Except InflationFailure Inflation) = o
    at hown
  cases hown with
  | @compared result shadow =>
    -- what is compared carries a verdict, and an error of the context carries none
    cases result with
    | ok i => cases ho
    | error f =>
      have hfields := congrArg InflationFailure.fields (Except.error.inj ho)
      have hmatch := congrArg InflationFields.matchResult hfields
      cases hmatch
  | crashed => exact he.ne_crashError _ (congrArg InflationFailure.error (Except.error.inj ho))
  | blown => exact he.ne_crashError _ (congrArg InflationFailure.error (Except.error.inj ho))

end ImageImport
