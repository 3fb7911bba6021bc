/-
# No work starts late

An import has no work to start when its context is over: then the deadline has passed or the caller has cancelled,
and the inflation or a processor that is entered all the same yields the error of the context and is not started.
What is not guarded, the check of the arguments and the choice of the processors, may be slow all the same, and so
may a step that goes on when it is asked to stop; it is the next guarded step that does no work then.

Main statement: `no_work_starts_late`, over every run of every import.  Section 2 is about the notes of one run as
they are made, whether it returns or not; section 3 reads off the law of a run that has returned which steps have
their turn in it, and what comes of a late one.
-/
import ImageImport.Proofs.Concurrency.NotesInOrder
import ImageImport.Proofs.Import.Cleanup

namespace ImageImport

open Activity

variable {τ υ κ α ε : Type}

/-! ## 1. What a run is to keep to -/

/-- The guarded steps of an import. -/
inductive StepName where
  | inflation
  | processor (k : Nat)
  deriving DecidableEq

namespace ImportNote

/-- The guarded step it is a note of, if it is one of a guarded step. -/
def step? : ImportNote → Option StepName
  | inflation _ => some .inflation
  | processing k _ => some (.processor k)
  | _ => none

/-- Work has started. -/
def starts : ImportNote → Bool
  | inflation (.started _) | processing _ (.started _) => true
  | _ => false

end ImportNote

/-- The notes of a step. -/
def ImportHistory.of (h : ImportHistory) (name : StepName) : ImportHistory :=
  h.filter fun n => n.2.step? = some name

namespace RunContext

/-- **Work that starts starts while the context is live.** -/
def Punctual (ctx : RunContext) (n : Nat × ImportNote) : Prop := n.2.starts = true → ctx.err n.1 = none

/-- The result is an error of the context, which is over, found at `t` or later. -/
def FailsSince (ctx : RunContext) (t : Nat) (result : Except ImportError Unit) : Prop :=
  ∃ s e, t ≤ s ∧ ctx.Past s e ∧ result = .error e

end RunContext

namespace ImportHistory

/-- The work of the step has started, while the context was live. -/
def StartsLive (ctx : RunContext) (h : ImportHistory) (name : StepName) : Prop :=
  ∃ n ∈ h.of name, n.2.starts = true ∧ ctx.err n.1 = none

/-- The processor has failed, and with it the import. -/
def FailsAt (ctx : RunContext) (h : ImportHistory) (k : Nat) (result : Except ImportError Unit) : Prop :=
  ∃ start disk e, ∃ l : StepHistory _ _,
    h.of (.processor k) = keptAs (.processing k) l ∧ StepLaw ctx id start disk l (.error e) ∧ result = .error e

/-- **What is noted of a run that has returned.** -/
structure Punctual (ctx : RunContext) (h : ImportHistory) (result : Except ImportError Unit) : Prop where
  /-- The history is in the order of time. -/
  inOrder : h.Pairwise fun a b => a.1 ≤ b.1
  /-- The run has succeeded only if the inflation has started while the context was live, and so has each of the
  processors that were provided. -/
  succeeded : result = .ok () → h.StartsLive ctx .inflation ∧ ∃ t kinds, (t, .provided (.ok (.ok kinds))) ∈ h ∧
    ∀ k < kinds.length, h.StartsLive ctx (.processor k)
  /-- The inflation has its turn when the arguments are accepted. -/
  inflates : ∀ t, (t, .validated (.ok (.ok ()))) ∈ h → h.of .inflation ≠ []
  /-- Each processor that is provided has its turn, or one before it has failed. -/
  processes : ∀ t kinds, (t, .provided (.ok (.ok kinds))) ∈ h → ∀ k < kinds.length,
    h.of (.processor k) ≠ [] ∨ ∃ j < k, h.FailsAt ctx j result
  /-- **A step that has its turn late**, after something during which the context was over already, does no work
  and fails with the error of the context, and so does the run. -/
  late : ∀ before after name, h = before ++ after → before.of name = [] → after.of name ≠ [] →
    ∀ n ∈ before, ctx.err n.1 ≠ none → ctx.FailsSince n.1 result ∧ ∀ x ∈ h.of name, x.2.starts = false

end ImportHistory

/-! ## 2. Notes as they are made -/

section Dates

variable {p : Nat × κ → Prop}

/-- **A guarded step dates its notes**, when its cancel does and its work does whenever it is started with the
context live. -/
theorem runStep_dates {ctx : RunContext} {step : Step (Watched υ κ)} {ofError : ImportError → ε}
    {work : Activity (Watched υ κ) (Except ε α)} (hcancel : ∀ reason, (step.cancel reason).DatesAll p)
    (hwork : ∀ m, Fine p m → ctx.err m.now = none → work.DatesAllAt p m) :
    (runStep ctx step ofError work).Dates p := by
  have hguarded : (guardedWork ctx ofError work).DatesAll p := by
    refine fun m hm => Meets.clock_bind ?_
    cases he : ctx.err m.now with
    | some e => exact hm
    | none => exact hwork m hm he
  have htask : (stepTask ctx ofError work).DatesAll p := fun m hm =>
    Meets.caught ⟨hm, fun n => ⟨id, id⟩, fun m' _ hm' _ => ⟨hm', fun _ _ => hguarded m' hm'⟩⟩
  have hdone : (ctx.done : Activity (Watched υ κ) ImportError).DatesAll p := by
    have hwait : (Activity.waitOr ⟨fun _ => false, ctx.endsAt⟩ id : Activity (Watched υ κ) Unit).Quiet SameNotes
        fun _ => True := always_waitOr (N := SameNotes) (fun _ => rfl) trivial _
    exact .of_quiet (q := fun _ => True) (hwait.bind (fun _ _ => ⟨rfl, trivial⟩) fun _ => trivial)
  intro m hm
  unfold runStep
  refine Dates.bind_at ?_ fun outcome => .bind (.read _) fun lines => .done _
  rw [runTask_eq]
  refine Dates.bind_at ?_ fun _ => .done _
  refine Dates.race_bind (htask m hm) hdone (fun _ _ m' hm' _ => hm'.ok) fun rest e m' hm' hrest => ?_
  refine Dates.race_bind (hrest.meets hm') (hcancel _) (fun _ _ m'' hm'' hrest' => ?_) fun _ _ m'' hm'' hrest' => ?_
  · exact Dates.left_bind hm'' hrest' fun _ => .done _
  · exact Dates.left_bind hm'' hrest' fun _ => .done _


namespace ImportParts

variable (parts : ImportParts τ) (rest : Platform (Noted τ)) (ctx : RunContext)

/-- A call outside the guarded steps starts no work. -/
theorem call_dates {called : ImportNote} {ended : Except Crash α → ImportNote} (hcalled : called.starts = false)
    (hended : ∀ r, (ended r).starts = false) (a : Activity τ α) :
    (watching called ended (a.on (Watched.part Cell.fst)) : Activity (Noted τ) α).DatesAll ctx.Punctual :=
  .watching (fun _ h => absurd h (by simp [hcalled])) (fun _ r h => absurd h (by simp [hended r])) (.on_part _ a)

/-- Work that is started while the context is live. -/
theorem work_dates {called : ImportNote} {ended : Except Crash α → ImportNote}
    (hended : ∀ r, (ended r).starts = false) (work : Activity τ α) {m : Moment (Noted τ)} (hm : Fine ctx.Punctual m)
    (hlive : ctx.err m.now = none) :
    (watching called ended (work.on (Watched.part Cell.fst)) : Activity (Noted τ) α).DatesAllAt ctx.Punctual m :=
  DatesAll.watching_at hm (fun _ => hlive) (fun _ r h => absurd h (by simp [hended r])) (.on_part _ work)

theorem processor_dates (k : Nat) (processor : Processor τ) (disk : PersistentDisk) (metrics : Metrics) :
    (Importer.runProcessor (Watched.part Cell.snd) ctx (watchedProcessor k processor) disk metrics).Dates
      ctx.Punctual := by
  refine .bind (DatesAll.update fun _ => rfl).dates fun _ => ?_
  refine .bind (runStep_dates (fun reason => call_dates ctx rfl (fun _ => rfl) (processor.cancel reason))
    fun m hm hlive => ?_) fun _ => .bind (.read _) fun _ => .done _
  refine DatesAll.bind_at (work_dates ctx (fun _ => rfl) (processor.process disk metrics) hm hlive) fun _ => ?_
  exact DatesAll.bind (.update fun _ => rfl) fun _ => .done _

/-- **The processors**: by induction on the list. -/
theorem runProcessors_dates (processors : List (Processor τ)) (k : Nat) (p : Progress) :
    (Importer.runProcessors (Watched.part Cell.snd) ctx (watchedProcessors k processors) p).Dates
      ctx.Punctual := by
  induction processors generalizing k p with
  | nil => exact .done _
  | cons processor rest ih =>
    refine .bind (processor_dates ctx k processor p.disk p.metrics) fun outcome => ?_
    match outcome with
    | ((.error e, lines), metrics) => exact .done _
    | ((.ok disk, lines), metrics) => exact ih (k + 1) _

theorem inflation_dates :
    (runStep ctx (parts.watched rest).inflater.toStep InflationFailure.ofError
      (parts.watched rest).notedInflation).Dates ctx.Punctual := by
  refine runStep_dates (fun reason => call_dates ctx rfl (fun _ => rfl) (parts.inflater.cancel reason))
    fun m hm hlive => ?_
  refine DatesAll.bind_at (work_dates ctx (fun _ => rfl) parts.inflater.inflate hm hlive) fun result => ?_
  exact DatesAll.bind (.update fun _ => rfl) fun _ => .done _

theorem runChain_dates (p : Progress) : ((parts.watched rest).runChain ctx p).Dates ctx.Punctual := by
  show (((watching _ _ _).bind fun answer => Activity.done (lifted (watchedProcessors 0) answer)).bind _).Dates _
  rw [Activity.bind_assoc]
  refine .bind (call_dates ctx rfl (fun _ => rfl) _).dates fun answer => ?_
  match answer with
  | (metrics, .error e) => exact .done _
  | (metrics, .ok processors) => exact runProcessors_dates ctx processors 0 _

theorem runStages_dates : ((parts.watched rest).runStages ctx).Dates ctx.Punctual := by
  refine .bind (DatesAll.update fun _ => rfl).dates fun _ => ?_
  refine .bind (inflation_dates parts rest ctx) fun outcome => .bind (.read _) fun left => ?_
  match outcome with
  | (.error failure, lines) => exact .done _
  | (.ok inflation, lines) => exact runChain_dates parts rest ctx _

theorem cleanupDisk_dates (disk : PersistentDisk) :
    (cleanupDisk (parts.watched rest).platform parts.args disk).Dates ctx.Punctual := by
  unfold cleanupDisk
  split
  · exact .done _
  · refine .bind (call_dates ctx rfl (fun _ => rfl) _).dates fun answer => ?_
    match answer with
    | .ok () => exact .done _
    | .error e =>
      show Dates _ (if (!e.isNotFound) = true then _ else _)
      split
      · exact .bind (DatesAll.update fun _ => rfl).dates fun _ => .done _
      · exact .done _

/-- **The whole import**: what starts in it starts while its context is live. -/
theorem run_dates (cancelledAt : Option Nat) (deadlineFirst : Nat → Bool) {m : Moment (Noted τ)}
    (hm : m.state.seen = []) :
    ((parts.watched rest).run cancelledAt deadlineFirst).DatesAt
      (RunContext.starting m.now parts.args.timeout cancelledAt deadlineFirst).Punctual m := by
  have hfine : Fine (RunContext.starting m.now parts.args.timeout cancelledAt deadlineFirst).Punctual m := by
    refine ⟨hm ▸ .nothing m.now, fun n hn => ?_⟩
    rw [hm] at hn
    exact absurd hn List.not_mem_nil
  refine Meets.clock_bind (Dates.bind_at ((call_dates _ rfl (fun _ => rfl) _).dates m hfine) fun verdict => ?_)
  cases verdict with
  | error e => exact .done _
  | ok u =>
    refine .bind (runStages_dates parts rest _) fun (progress, result) => ?_
    refine .bind (cleanupDisk_dates parts rest _ progress.disk) fun _ => ?_
    have hreport : ((parts.watched rest).reportOutcome result).Dates
        (RunContext.starting m.now parts.args.timeout cancelledAt deadlineFirst).Punctual := by
      cases result with
      | ok u => exact .done _
      | error e => exact (DatesAll.update fun _ => rfl).dates
    exact .bind hreport fun _ => .bind (DatesAll.clock).dates fun _ => .done _

end ImportParts

end Dates

/-! ## 3. The turns of the steps -/

namespace ImportHistory

variable {ctx : RunContext} {result : Except ImportError Unit}

theorem of_append (h l : ImportHistory) (name : StepName) : (h ++ l : ImportHistory).of name = h.of name ++ l.of name :=
  List.filter_append ..

section Kept

variable {ι ω : Type} {f : StepNote ι ω → ImportNote} {name : StepName}

/-- The notes of a step are its own. -/
theorem of_kept (hf : ∀ n, (f n).step? = some name) (l : StepHistory ι ω) :
    ImportHistory.of (keptAs f l) name = keptAs f l := by
  refine List.filter_eq_self.mpr fun n hn => ?_
  obtain ⟨x, -, rfl⟩ := List.mem_map.mp hn
  simp [hf]

theorem of_kept_other (hf : ∀ n, (f n).step? = some name) (l : StepHistory ι ω) {name' : StepName}
    (hne : name ≠ name') : ImportHistory.of (keptAs f l) name' = [] := by
  refine List.filter_eq_nil_iff.mpr fun n hn => ?_
  obtain ⟨x, -, rfl⟩ := List.mem_map.mp hn
  simp [hf, hne]

end Kept

/-- **A step has its turn**: its notes stand together, the first of them is made when it is entered, and the step
starts its work with the context live or fails with the error of the context. -/
structure Turn (ctx : RunContext) (result : Except ImportError Unit) (name : StepName) (start : Nat)
    (l : ImportHistory) : Prop where
  own : l.of name = l
  head : ∃ n rest, l = (start, n) :: rest
  starts : (ctx.err start = none ∧ ∃ n ∈ l, n.1 = start ∧ n.2.starts = true) ∨
    ∃ e, ctx.Past start e ∧ result = .error e ∧ ∀ n ∈ l, n.2.starts = false

/-- A step of which the law holds has its turn. -/
theorem Turn.of_law {ι ε α ω : Type} {ofError : ImportError → ε} (toError : ε → ImportError)
    {f : StepNote ι ω → ImportNote} {name : StepName} {start : Nat} {input : ι}
    {own : Except Crash ω → Except ε α → Prop} {l : StepHistory ι ω} {outcome : Except ε α}
    (hf : ∀ n, (f n).step? = some name) (hstarted : (f (.started input)).starts = true)
    (hothers : ∀ n, (∀ i, n ≠ .started i) → (f n).starts = false) (hround : ∀ e, toError (ofError e) = e)
    (law : GuardedLaw ctx ofError start input own l outcome)
    (hresult : ∀ e, outcome = .error e → result = .error (toError e)) :
    Turn ctx result name start (keptAs f l) where
  own := of_kept hf l
  head := by
    obtain ⟨n, rest, rfl⟩ := law.head_eq
    exact ⟨_, _, rfl⟩
  starts := by
    rcases law.live_or_late with ⟨live, hmem⟩ | ⟨e, he, rfl, hnone⟩
    · exact .inl ⟨live, _, List.mem_map.mpr ⟨_, hmem, rfl⟩, rfl, hstarted⟩
    · refine .inr ⟨e, he, (hresult _ rfl).trans (by rw [hround]), fun n hn => ?_⟩
      obtain ⟨⟨t, x⟩, hx, rfl⟩ := List.mem_map.mp hn
      refine hothers x fun i hi => ?_
      subst hi
      exact hnone _ _ hx

/-- **The step has its turn** somewhere in the history, and all its notes are of that turn. -/
def HasTurn (ctx : RunContext) (result : Except ImportError Unit) (h : ImportHistory) (name : StepName) : Prop :=
  ∃ before l after start, h = before ++ l ++ after ∧ before.of name = [] ∧ after.of name = [] ∧
    Turn ctx result name start l

namespace HasTurn

variable {h : ImportHistory} {name : StepName}

theorem of_turn {start : Nat} {l : ImportHistory} (turn : Turn ctx result name start l) : HasTurn ctx result l name :=
  ⟨[], l, [], start, by simp, rfl, rfl, turn⟩

/-- ... also after notes of others, -/
theorem prepend {before : ImportHistory} (hb : before.of name = []) (turn : HasTurn ctx result h name) :
    HasTurn ctx result (before ++ h) name := by
  obtain ⟨before', l, after, start, rfl, hb', ha, hl⟩ := turn
  refine ⟨before ++ before', l, after, start, by simp only [List.append_assoc], ?_, ha, hl⟩
  rw [of_append, hb, hb']
  rfl

/-- ... and before them. -/
theorem append {after : ImportHistory} (ha : after.of name = []) (turn : HasTurn ctx result h name) :
    HasTurn ctx result (h ++ after) name := by
  obtain ⟨before, l, after', start, rfl, hb, ha', hl⟩ := turn
  refine ⟨before, l, after' ++ after, start, by simp only [List.append_assoc], hb, ?_, hl⟩
  rw [of_append, ha, ha']
  rfl

/-- The notes of the step are those of its turn. -/
theorem of_eq {before l after : ImportHistory} {start : Nat} (hb : before.of name = []) (ha : after.of name = [])
    (turn : Turn ctx result name start l) : (before ++ l ++ after : ImportHistory).of name = l := by
  rw [of_append, of_append, hb, ha, turn.own, List.append_nil]
  rfl

theorem ne_nil (turn : HasTurn ctx result h name) : h.of name ≠ [] := by
  obtain ⟨before, l, after, start, rfl, hb, ha, hl⟩ := turn
  rw [of_eq hb ha hl]
  obtain ⟨n, rest, rfl⟩ := hl.head
  exact List.cons_ne_nil _ _

/-- In a run that succeeds it has started its work. -/
theorem startsLive (turn : HasTurn ctx (.ok ()) h name) : h.StartsLive ctx name := by
  obtain ⟨before, l, after, start, rfl, hb, ha, hl⟩ := turn
  rw [StartsLive, of_eq hb ha hl]
  rcases hl.starts with ⟨live, n, hn, rfl, hstarts⟩ | ⟨e, -, hresult, -⟩
  · exact ⟨n, hn, hstarts, live⟩
  · cases hresult

/-- **A turn that comes late**: something was noted before it when the context was over already. -/
theorem late (turn : HasTurn ctx result h name) (ho : h.Pairwise fun a b => a.1 ≤ b.1) {before after : ImportHistory}
    (heq : h = before ++ after) (hb : before.of name = []) {n : Nat × ImportNote} (hn : n ∈ before)
    (hover : ctx.err n.1 ≠ none) : ctx.FailsSince n.1 result ∧ ∀ x ∈ h.of name, x.2.starts = false := by
  obtain ⟨before', l, after', start, hsplit, hb', ha', hl⟩ := turn
  obtain ⟨first, rest, hhead⟩ := hl.head
  have hle : n.1 ≤ start := by
    have hfirst : (start, first) ∈ h.of name := by
      rw [hsplit, of_eq hb' ha' hl, hhead]
      exact List.mem_cons_self
    have hafter : (start, first) ∈ after := by
      rw [heq, of_append, hb, List.nil_append] at hfirst
      exact (List.mem_filter.mp hfirst).1
    rw [heq] at ho
    exact (List.pairwise_append.mp ho).2.2 n hn _ hafter
  have hstart : (ctx.err start).isSome := ctx.err_isSome_of_le hle (Option.isSome_iff_ne_none.mpr hover)
  rcases hl.starts with ⟨live, -⟩ | ⟨e, he, hresult, hnone⟩
  · rw [live] at hstart
    cases hstart
  · refine ⟨⟨start, e, hle, he, hresult⟩, ?_⟩
    rw [hsplit, of_eq hb' ha' hl]
    exact hnone

end HasTurn

/-! ## 4. The turns of a run -/

/-- **The turns of the processors** from number `k` on, of which there are `n`. -/
structure ChainTurns (ctx : RunContext) (k n : Nat) (h : ImportHistory) (result : Except ImportError Unit) : Prop where
  notes : ∀ x ∈ h, ∃ j, k ≤ j ∧ j < k + n ∧ x.2.step? = some (.processor j)
  turns : ∀ j, k ≤ j → j < k + n → HasTurn ctx result h (.processor j) ∨
    h.of (.processor j) = [] ∧ ∃ i, k ≤ i ∧ i < j ∧ h.FailsAt ctx i result

theorem ChainTurns.of_eq_nil {k n : Nat} {h : ImportHistory} (turns : ChainTurns ctx k n h result) {name : StepName}
    (hne : ∀ j, k ≤ j → j < k + n → name ≠ .processor j) : h.of name = [] := by
  refine List.filter_eq_nil_iff.mpr fun x hx => ?_
  obtain ⟨j, hk, hn, hstep⟩ := turns.notes x hx
  simpa [hstep] using (hne j hk hn).symm

/-- A processor of which the law holds has its turn. -/
theorem turn_processing {k start : Nat} {disk : PersistentDisk} {l : StepHistory _ _}
    {outcome : Except ImportError PersistentDisk} (law : StepLaw ctx id start disk l outcome)
    (hresult : ∀ e, outcome = .error e → result = .error e) :
    Turn ctx result (.processor k) start (keptAs (.processing k) l) := by
  refine Turn.of_law id (fun _ => rfl) rfl (fun n hn => ?_) (fun _ => rfl) law hresult
  cases n with
  | started i => exact absurd rfl (hn i)
  | _ => rfl

/-- Notes of one processor are none of another. -/
theorem of_other_processor {k j : Nat} (hne : k ≠ j) (l : StepHistory _ _) :
    ImportHistory.of (keptAs (.processing k) l) (.processor j) = [] :=
  of_kept_other (fun _ => rfl) l fun h => hne (StepName.processor.inj h)

/-- **The processors have their turns**: by induction on the law. -/
theorem chainTurns {k n : Nat} {disk last : PersistentDisk} {h : ImportHistory}
    (law : ChainLaw ctx k n disk h last result) : ChainTurns ctx k n h result := by
  have hkept : ∀ k (l : StepHistory PersistentDisk (Except ImportError PersistentDisk)),
      ∀ x ∈ (keptAs (.processing k) l : ImportHistory), x.2.step? = some (.processor k) := by
    intro k l x hx
    obtain ⟨y, -, rfl⟩ := List.mem_map.mp hx
    rfl
  induction law with
  | nothing => exact ⟨fun x hx => absurd hx List.not_mem_nil, fun j hk hj => by omega⟩
  | @failed k n start disk l e law =>
    refine ⟨fun x hx => ⟨k, by omega, by omega, hkept k l x hx⟩, fun j hk hj => ?_⟩
    rcases Nat.eq_or_lt_of_le hk with rfl | hlt
    · exact .inl (.of_turn (turn_processing law fun _ h => congrArg _ (Except.error.inj h)))
    · have hfails : ImportHistory.FailsAt ctx (keptAs (.processing k) l) k (.error e) :=
        ⟨_, _, _, _, of_kept (fun _ => rfl) _, law, rfl⟩
      exact .inr ⟨of_other_processor (Nat.ne_of_lt hlt) l, k, Nat.le_refl _, hlt, hfails⟩
  | @next k n start disk disk' last l rest result law chain ih =>
    refine ⟨fun x hx => ?_, fun j hk hj => ?_⟩
    · rcases List.mem_append.mp hx with hx | hx
      · exact ⟨k, by omega, by omega, hkept k l x hx⟩
      · obtain ⟨j, h1, h2, h3⟩ := ih.notes x hx
        exact ⟨j, by omega, by omega, h3⟩
    · have hothers : ∀ j, k < j → ImportHistory.of (keptAs (.processing k) l ++ rest) (.processor j) =
          ImportHistory.of rest (.processor j) := fun j hj => by
        rw [of_append, of_other_processor (Nat.ne_of_lt hj), List.nil_append]
      rcases Nat.eq_or_lt_of_le hk with rfl | hlt
      · have hrest : ImportHistory.of rest (.processor k) = [] :=
          ih.of_eq_nil fun j h1 _ h => by
            have := StepName.processor.inj h
            omega
        exact .inl (.append hrest (.of_turn (turn_processing law fun _ h => nomatch h)))
      · rcases ih.turns j hlt (by omega) with hturn | ⟨hnone, i, hki, hij, start', disk'', e, l', hl', hlaw, hresult⟩
        · exact .inl (.prepend (of_other_processor (Nat.ne_of_lt hlt) l) hturn)
        · exact .inr ⟨(hothers j hlt).trans hnone, i, by omega, hij, start', disk'', e, l',
            (hothers i hki).trans hl', hlaw, hresult⟩

/-- **The turns of the stages**: the inflation has its own, and the processors that were provided have theirs, or
one of them has failed before. -/
structure StagesTurns (ctx : RunContext) (h : ImportHistory) (result : Except ImportError Unit) : Prop where
  inflation : HasTurn ctx result h .inflation
  notes : ∀ t r, (t, .validated r) ∉ h
  processors : ∀ t kinds, (t, .provided (.ok (.ok kinds))) ∈ h → ∀ j < kinds.length,
    HasTurn ctx result h (.processor j) ∨ h.of (.processor j) = [] ∧ ∃ i < j, h.FailsAt ctx i result
  provided : ∀ j, h.of (.processor j) ≠ [] → ∃ t kinds, (t, .provided (.ok (.ok kinds))) ∈ h ∧ j < kinds.length
  succeeded : result = .ok () → ∃ t kinds, (t, .provided (.ok (.ok kinds))) ∈ h

/-- The inflation has its turn. -/
theorem turn_inflation {start : Nat} {l : StepHistory _ _} {outcome : Except InflationFailure Inflation}
    (law : StepLaw ctx InflationFailure.ofError start () l outcome)
    (hresult : ∀ failure, outcome = .error failure → result = .error failure.error) :
    HasTurn ctx result (keptAs .inflation l) .inflation := by
  refine .of_turn (Turn.of_law InflationFailure.error (fun _ => rfl) rfl (fun n hn => ?_) (fun _ => rfl) law hresult)
  cases n with
  | started i => exact absurd rfl (hn i)
  | _ => rfl

theorem of_inflation_processor (l : StepHistory Unit (Except InflationFailure Inflation)) (j : Nat) :
    ImportHistory.of (keptAs .inflation l) (.processor j) = [] :=
  of_kept_other (fun _ => rfl) l fun h => nomatch h

/-- What is no note of a step is none of those of the inflation. -/
theorem not_mem_inflation {x : Nat × ImportNote} (hx : x.2.step? = none)
    (l : StepHistory Unit (Except InflationFailure Inflation)) : x ∉ (keptAs .inflation l : ImportHistory) := by
  intro hmem
  obtain ⟨y, -, rfl⟩ := List.mem_map.mp hmem
  cases hx

theorem ChainTurns.not_mem {k n : Nat} {h : ImportHistory} (turns : ChainTurns ctx k n h result)
    {x : Nat × ImportNote} (hx : x.2.step? = none) : x ∉ h := by
  intro hmem
  obtain ⟨_, _, _, hstep⟩ := turns.notes x hmem
  rw [hx] at hstep
  cases hstep

/-- **The stages have their turns**, one case for each of the ways in which they can end. -/
theorem stagesTurns {h : ImportHistory} {last : PersistentDisk} (law : StagesLaw ctx h last result) :
    StagesTurns ctx h result := by
  cases law with
  | @inflationFailed start l failure law =>
    refine ⟨turn_inflation law fun _ h => ?_, fun t r => not_mem_inflation rfl l,
      fun t kinds hmem => absurd hmem (not_mem_inflation rfl l), fun j hj => absurd (of_inflation_processor l j) hj,
      fun h => nomatch h⟩
    rw [Except.error.inj h]
  | @notProvided start t t' l inflation e law =>
    refine ⟨(turn_inflation law fun _ h => nomatch h).append rfl, fun t₁ r => ?_, fun t₁ kinds hmem => ?_,
      fun j hj => ?_, fun h => nomatch h⟩
    · simp [not_mem_inflation (x := (t₁, .validated r)) rfl]
    · simp [not_mem_inflation (x := (t₁, .provided (.ok (.ok kinds)))) rfl] at hmem
    · rw [of_append, of_inflation_processor] at hj
      exact absurd rfl hj
  | @provided start t t' l inflation kinds rest last result law chain =>
    have hchain := chainTurns chain
    have hfirst : ∀ j, ImportHistory.of (keptAs .inflation l ++ [(t, .providing inflation.disk),
        (t', .provided (.ok (.ok kinds)))]) (.processor j) = [] := by
      intro j
      rw [of_append, of_inflation_processor]
      rfl
    have hof : ∀ j, ImportHistory.of (keptAs .inflation l ++ [(t, .providing inflation.disk),
        (t', .provided (.ok (.ok kinds)))] ++ rest) (.processor j) = ImportHistory.of rest (.processor j) := by
      intro j
      rw [of_append, hfirst, List.nil_append]
    refine ⟨?_, fun t₁ r => ?_, fun t₁ kinds₁ hmem j hj => ?_, fun j hj => ?_, fun _ => ⟨t', kinds, by simp⟩⟩
    · exact .append (hchain.of_eq_nil fun _ _ _ h => nomatch h) (.append rfl (turn_inflation law fun _ h => nomatch h))
    · simp [not_mem_inflation (x := (t₁, .validated r)) rfl, hchain.not_mem (x := (t₁, .validated r)) rfl]
    · obtain ⟨rfl, rfl⟩ : t₁ = t' ∧ kinds₁ = kinds := by
        simpa [not_mem_inflation (x := (t₁, .provided (.ok (.ok kinds₁)))) rfl,
          hchain.not_mem (x := (t₁, .provided (.ok (.ok kinds₁)))) rfl] using hmem
      rcases hchain.turns j (Nat.zero_le j) (by omega) with hturn | ⟨hnone, i, -, hi, s, d, e, l', hl', hfail⟩
      · exact .inl (.prepend (hfirst j) hturn)
      · exact .inr ⟨(hof j).trans hnone, i, hi, s, d, e, l', (hof i).trans hl', hfail⟩
    · rw [hof] at hj
      obtain ⟨x, hx⟩ := List.exists_mem_of_ne_nil _ hj
      obtain ⟨hmem, hstep⟩ := List.mem_filter.mp hx
      obtain ⟨i, -, hi, hstep'⟩ := hchain.notes x hmem
      rw [hstep', decide_eq_true_eq] at hstep
      cases hstep
      exact ⟨t', kinds, by simp, by omega⟩

/-- The deletion is no step. -/
theorem deletion_of {args : Arguments} {disk : PersistentDisk} {h : ImportHistory} (law : DeletionLaw args disk h)
    (name : StepName) : h.of name = [] := by
  cases law with
  | nothing => rfl
  | once => rfl

/-- **A run that has returned is punctual**, if its history is in the order of time. -/
theorem punctual_of_law {args : Arguments} {h : ImportHistory} {metrics : Metrics}
    (law : ImportLaw args ctx h metrics result) (ho : h.Pairwise fun a b => a.1 ≤ b.1) : h.Punctual ctx result := by
  cases law with
  | @refused t t' e =>
    refine ⟨ho, (fun h => nomatch h), fun t₁ hmem => ?_, fun t₁ kinds hmem => ?_, fun before after name heq _ ha => ?_⟩
    · simp at hmem
    · simp at hmem
    · have hnone : ImportHistory.of (before ++ after) name = [] := heq ▸ rfl
      rw [of_append] at hnone
      exact absurd (List.append_eq_nil_iff.mp hnone).2 ha
  | @ran t t' stages deletion last metrics result law cleanup =>
    have hstages := stagesTurns law
    have hlift : ∀ {name}, HasTurn ctx result stages name → HasTurn ctx result
        ([(t, .validating), (t', .validated (.ok (.ok ())))] ++ stages ++ deletion) name := fun turn =>
      .append (deletion_of cleanup _) (.prepend rfl turn)
    have hof : ∀ name, ImportHistory.of ([(t, .validating), (t', .validated (.ok (.ok ())))] ++ stages ++ deletion) name =
        stages.of name := by
      intro name
      rw [of_append, of_append, deletion_of cleanup, List.append_nil]
      rfl
    refine ⟨ho, ?_, fun _ _ => (hlift hstages.inflation).ne_nil, ?_, ?_⟩
    · rintro rfl
      obtain ⟨t₁, kinds, hmem⟩ := hstages.succeeded rfl
      refine ⟨(hlift hstages.inflation).startsLive, t₁, kinds, by simp [hmem], fun k hk => ?_⟩
      rcases hstages.processors t₁ kinds hmem k hk with turn | ⟨-, i, -, _, _, _, _, -, -, hresult⟩
      · exact (hlift turn).startsLive
      · cases hresult
    · intro t₁ kinds hmem k hk
      have hmem' : (t₁, .provided (.ok (.ok kinds))) ∈ stages := by
        cases cleanup with
        | nothing => simpa using hmem
        | once => simpa using hmem
      rcases hstages.processors t₁ kinds hmem' k hk with turn | ⟨-, i, hi, s, d, e, l, hl, hfail⟩
      · exact .inl (hlift turn).ne_nil
      · exact .inr ⟨i, hi, s, d, e, l, (hof _).trans hl, hfail⟩
    · intro before after name heq hb ha n hn hover
      have hturn : HasTurn ctx result ([(t, .validating), (t', .validated (.ok (.ok ())))] ++ stages ++ deletion) name := by
        have hne : stages.of name ≠ [] := by
          rw [← hof, heq, of_append, hb, List.nil_append]
          exact ha
        cases name with
        | inflation => exact hlift hstages.inflation
        | processor k =>
          obtain ⟨t₁, kinds, hmem, hk⟩ := hstages.provided k hne
          rcases hstages.processors t₁ kinds hmem k hk with turn | ⟨hnone, -⟩
          · exact hlift turn
          · exact absurd hnone hne
      exact hturn.late ho heq hb hn hover

end ImportHistory

/-! ## 5. Every run -/

/-- **No work starts when the context is over.**  Whatever the parts of an import do, whenever it is run, whenever the
caller cancels and whichever limit is noticed: in its run with notes, whether it returns, crashes or stalls, every work that starts starts
while the context is live; and when it has returned, it has succeeded only if all its work has started so, and a
step that has its turn after something that was late fails with the error of the context and does no work.  Seen
without the notes it is the run of the import. -/
theorem no_work_starts_late (parts : ImportParts τ) (rest' : Platform (ImportParts.Noted τ))
    (rest : Platform (τ × Recorded)) (cancelledAt : Option Nat) (deadlineFirst : Nat → Bool)
    (m : Moment (τ × Recorded)) :
    let ctx := RunContext.starting m.now parts.args.timeout cancelledAt deadlineFirst
    let watched := ((parts.watched rest').run cancelledAt deadlineFirst).attended.run ⟨m.now, ⟨m.state, []⟩⟩
    (∀ n ∈ watched.moment.state.seen, ctx.Punctual n) ∧
      (∀ metrics result last, watched = .returned (metrics, result) last →
        ImportHistory.Punctual ctx last.state.seen result) ∧
      Ending.Alike Watched.state Eq watched
        (((parts.importer rest).run cancelledAt deadlineFirst).attended.run m) := by
  intro ctx watched
  let start : Moment (ImportParts.Noted τ) := ⟨m.now, ⟨m.state, []⟩⟩
  obtain ⟨hall, horder⟩ := Dates.run_attended (parts.run_dates rest' cancelledAt deadlineFirst (m := start) rfl)
  refine ⟨hall, fun metrics result last hreturned => ?_, ?_⟩
  · have hsat := (parts.run_meets rest' cancelledAt deadlineFirst (m := start) rfl).run_attended
      (Terms.whole_closed _ _)
    rw [show Activity.run _ _ = _ from hreturned] at hsat
    obtain ⟨h, hs, hlaw⟩ := hsat
    have hlaw' : ImportLaw parts.args ctx last.state.seen metrics result := by
      rw [hs]
      exact hlaw
    exact ImportHistory.punctual_of_law hlaw' (horder _ last hreturned).pairwise
  · exact (parts.run_mirrors rest' rest cancelledAt deadlineFirst).run_attended start

end ImageImport
