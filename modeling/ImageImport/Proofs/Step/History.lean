/-
# The history of a guarded step

What happens around a guarded step is four kinds of things: its work starts and ends, and it is asked to
stop and answers.  A *history* is a dated list of them, and `GuardedLaw` says which histories there are and
which outcome goes with each:

* the context was over when the work was to start: the work never starts, and whatever the cancel answers,
  the outcome is an error of the context (`late`);
* the work ends while the context is live: its own outcome counts, and nobody asks it to stop
  (`undisturbed`);
* the context ends while the work is in flight: the step is asked to stop exactly once, at that very
  instant and for that reason, and the answer says whose outcome counts (`overtaken`).

Two parties write one history, the task and the one who asks it to stop.  Section 3 takes it apart into
what each of them wrote, and section 4 puts it together again.
-/
import ImageImport.Proofs.Concurrency.TermsOfNotes
import ImageImport.Proofs.Step.Guard

namespace ImageImport

variable {ε α ι ω κ υ : Type}

/-! ## 1. What is noted -/

/-- **What can be noted of a step** whose work is given an `ι` and yields an `ω`. -/
inductive StepNote (ι ω : Type) where
  | started (input : ι)
  | ended (r : Except Crash ω)
  | asked (reason : String)
  | answered (r : Except Crash Bool)

/-- The note is one of the task; the others are of the one who asks it to stop. -/
def StepNote.byWork : StepNote ι ω → Bool
  | started _ | ended _ => true
  | asked _ | answered _ => false

/-- The notes of a step, each with its instant. -/
abbrev StepHistory (ι ω : Type) := List (Nat × StepNote ι ω)

/-- A step on a part of the state. -/
def Step.on {τ : Type} (step : Step τ) (c : Cell υ τ) : Step υ where
  cancel reason := (step.cancel reason).on c
  traceLogs s := step.traceLogs (c.get s)

/-- The work with its notes; they are kept as `f` says. -/
def watchedWork {τ : Type} (c : Cell υ τ) (f : StepNote ι ω → κ) (input : ι)
    (work : Activity τ ω) : Activity (Watched υ κ) ω :=
  .watching (f (.started input)) (fun r => f (.ended r)) (work.on (Watched.part c))

/-- **The step with its notes.** -/
def Step.watched {τ : Type} (step : Step τ) (c : Cell υ τ) (f : StepNote ι ω → κ) :
    Step (Watched υ κ) where
  cancel reason :=
    .watching (f (.asked reason)) (fun r => f (.answered r))
      ((step.cancel reason).on (Watched.part c))
  traceLogs s := step.traceLogs ((Watched.part c).get s)

/-! ## 2. The law -/

/-- **An error of a context that is over**: that of a limit that is past. -/
inductive RunContext.Past (ctx : RunContext) (now : Nat) : ImportError → Prop where
  | cancelled (h : RunContext.reached now ctx.cancelledAt = true) : Past ctx now RunContext.cancelledError
  | timedOut (h : RunContext.reached now ctx.deadline = true) : Past ctx now ctx.timeoutError

/-- **What a step is asked to stop for**: the error that is noticed of a context that is over, and the reason a
step is given for it.  Where both limits are past, the context picks one. -/
inductive RunContext.Over (ctx : RunContext) (now : Nat) : ImportError → String → Prop where
  | byCaller (h : RunContext.reached now ctx.cancelledAt = true)
      (pick : RunContext.reached now ctx.deadline = true → ctx.deadlineFirst now = false) :
      Over ctx now RunContext.cancelledError "cancelled"
  | byDeadline (h : RunContext.reached now ctx.deadline = true)
      (pick : RunContext.reached now ctx.cancelledAt = true → ctx.deadlineFirst now = true) :
      Over ctx now ctx.timeoutError "timed-out"

namespace RunContext

variable {ctx : RunContext} {now : Nat} {e : ImportError}

theorem Past.of_err (h : ctx.err now = some e) : ctx.Past now e := by
  unfold err at h
  split at h
  next hc =>
    cases h
    exact .cancelled hc
  next =>
    split at h
    next hd =>
      cases h
      exact .timedOut hd
    next => cases h

theorem Past.err_isSome (h : ctx.Past now e) : (ctx.err now).isSome = true := by
  rw [RunContext.err_isSome, endsAt, reached_earlier]
  cases h with
  | cancelled h => rw [h, Bool.true_or]
  | timedOut h => rw [h, Bool.or_true]

theorem Past.err_ne_none (h : ctx.Past now e) : ctx.err now ≠ none :=
  Option.isSome_iff_ne_none.mp h.err_isSome

theorem Over.past {reason : String} (h : ctx.Over now e reason) : ctx.Past now e := by
  cases h with
  | byCaller h _ => exact .cancelled h
  | byDeadline h _ => exact .timedOut h

/-- What is noticed of a context that is over. -/
theorem Over.of_err_isSome (h : (ctx.err now).isSome = true) :
    ctx.Over now (ctx.noticed now) (cancelReason (ctx.noticed now)) := by
  rw [RunContext.err_isSome, endsAt, reached_earlier] at h
  unfold noticed
  split
  next hpick =>
    obtain ⟨hd, hpick⟩ := Bool.and_eq_true_iff.mp hpick
    exact .byDeadline hd fun hc => by simpa [hc] using hpick
  next hpick =>
    cases hd : reached now ctx.deadline with
    | false =>
      rw [hd, Bool.or_false] at h
      exact .byCaller h fun hd' => by simp [hd] at hd'
    | true =>
      simp only [hd, Bool.true_and, Bool.or_eq_true, Bool.not_eq_true', not_or, Bool.not_eq_true,
        Bool.not_eq_false] at hpick
      exact .byCaller hpick.2 fun _ => hpick.1

theorem OverSince.over {start : Nat} (h : ctx.OverSince start now e) : ctx.Over now e (cancelReason e) := by
  rw [h.1]
  exact .of_err_isSome h.err_isSome

end RunContext

/-- **Which histories a step has** that is left to itself at `start` with work on `input`, and with which
outcome.  `own` says what counts as the outcome of work that has ended so. -/
inductive GuardedLaw (ctx : RunContext) (ofError : ImportError → ε) (start : Nat) (input : ι)
    (own : Except Crash ω → Except ε α → Prop) : StepHistory ι ω → Except ε α → Prop where
  | late {e e' : ImportError} {reason : String} {t : Nat} {interrupted : Bool}
      (spent : ctx.err start = some e) (why : ctx.Over start e' reason) :
      GuardedLaw ctx ofError start input own
        [(start, .asked reason), (t, .answered (.ok interrupted))]
        (.error (ofError (if interrupted then e' else e)))
  | undisturbed {t : Nat} {r : Except Crash ω} {outcome : Except ε α} (live : ctx.err start = none)
      (inTime : ∀ d, ctx.endsAt = some d → t ≤ d) (counts : own r outcome) :
      GuardedLaw ctx ofError start input own [(start, .started input), (t, .ended r)] outcome
  | overtaken {d t t' : Nat} {e : ImportError} {reason : String} {r : Except Crash ω}
      {outcome : Except ε α} {interrupted : Bool} {rest : StepHistory ι ω}
      (live : ctx.err start = none) (ends : ctx.endsAt = some d) (why : ctx.Over d e reason)
      (both : rest.Perm [(t, .ended r), (t', .answered (.ok interrupted))])
      (counts : own r outcome) :
      GuardedLaw ctx ofError start input own ((start, .started input) :: (d, .asked reason) :: rest)
        (if interrupted then .error (ofError e) else outcome)

/-- **The law of a step**: what its task ends with counts. -/
abbrev StepLaw (ctx : RunContext) (ofError : ImportError → ε) (start : Nat) (input : ι) :
    StepHistory ι (Except ε α) → Except ε α → Prop :=
  GuardedLaw ctx ofError start input fun r outcome => outcome = taskOutcome ofError r

/-- **Something is still under way**: work that has started and not ended, or a cancel that was asked for
and has not answered. -/
def StepHistory.Open (h : StepHistory ι ω) : Prop :=
  ((∃ t input, (t, .started input) ∈ h) ∧ ∀ t r, (t, .ended r) ∉ h) ∨
    ((∃ t reason, (t, .asked reason) ∈ h) ∧ ∀ t r, (t, .answered r) ∉ h)

/-- What the work has ended with, if it has. -/
def StepHistory.ending (h : StepHistory ι ω) : Option (Except Crash ω) :=
  h.findSome? fun n => match n.2 with
    | .ended r => some r
    | _ => none

/-! ## 3. Who wrote what -/

/-- The notes of the task. -/
def StepHistory.ofWork (h : StepHistory ι ω) : StepHistory ι ω := h.filter fun n => n.2.byWork

/-- The notes of the cancel. -/
def StepHistory.ofCancel (h : StepHistory ι ω) : StepHistory ι ω := h.filter fun n => !n.2.byWork

namespace StepHistory

theorem ofWork_append (h l : StepHistory ι ω) : ofWork (h ++ l) = ofWork h ++ ofWork l :=
  List.filter_append ..

theorem ofCancel_append (h l : StepHistory ι ω) : ofCancel (h ++ l) = ofCancel h ++ ofCancel l :=
  List.filter_append ..

theorem mem_ofWork {h : StepHistory ι ω} {n : Nat × StepNote ι ω} :
    n ∈ ofWork h ↔ n ∈ h ∧ n.2.byWork = true := List.mem_filter

theorem mem_ofCancel {h : StepHistory ι ω} {n : Nat × StepNote ι ω} :
    n ∈ ofCancel h ↔ n ∈ h ∧ n.2.byWork = false := by simp [ofCancel]

/-- A history is its two parts, put together in some order. -/
theorem perm_parts (h : StepHistory ι ω) : h.Perm (ofWork h ++ ofCancel h) :=
  (List.filter_append_perm _ h).symm

theorem eq_ofWork {h : StepHistory ι ω} (hc : ofCancel h = []) : h = ofWork h := by
  refine (List.filter_eq_self.mpr fun n hn => ?_).symm
  cases hb : n.2.byWork with
  | true => rfl
  | false =>
    have hmem := mem_ofCancel.mpr ⟨hn, hb⟩
    rw [hc] at hmem
    exact absurd hmem List.not_mem_nil

theorem eq_ofCancel {h : StepHistory ι ω} (hw : ofWork h = []) : h = ofCancel h := by
  refine (List.filter_eq_self.mpr fun n hn => ?_).symm
  cases hb : n.2.byWork with
  | false => rfl
  | true =>
    have hmem := mem_ofWork.mpr ⟨hn, hb⟩
    rw [hw] at hmem
    exact absurd hmem List.not_mem_nil

/-- What the work has ended with stands in its own notes. -/
theorem ending_ofWork (h : StepHistory ι ω) : ending (ofWork h) = ending h := by
  induction h with
  | nil => rfl
  | cons n h ih =>
    obtain ⟨t, n⟩ := n
    cases n with
    | started input => exact ih
    | ended r => rfl
    | asked reason => exact ih
    | answered r => exact ih

/-- Work that has only started is under way. -/
theorem open_of_started {h : StepHistory ι ω} {t : Nat} {input : ι}
    (hw : ofWork h = [(t, .started input)]) : Open h := by
  have hmem : (t, StepNote.started input) ∈ ofWork h := by
    rw [hw]
    exact List.mem_singleton_self _
  refine .inl ⟨⟨t, input, (mem_ofWork.mp hmem).1⟩, fun t' r he => ?_⟩
  have he' := mem_ofWork.mpr ⟨he, rfl⟩
  rw [hw, List.mem_singleton] at he'
  cases he'

/-- A cancel that was only asked for is under way. -/
theorem open_of_asked {h : StepHistory ι ω} {t : Nat} {reason : String}
    (hc : ofCancel h = [(t, .asked reason)]) : Open h := by
  have hmem : (t, StepNote.asked reason) ∈ ofCancel h := by
    rw [hc]
    exact List.mem_singleton_self _
  refine .inr ⟨⟨t, reason, (mem_ofCancel.mp hmem).1⟩, fun t' r he => ?_⟩
  have he' := mem_ofCancel.mpr ⟨he, rfl⟩
  rw [hc, List.mem_singleton] at he'
  cases he'

end StepHistory

/-! A law is read off the two parts. -/

namespace GuardedLaw

variable {ctx : RunContext} {ofError : ImportError → ε} {start : Nat} {input : ι}
  {own : Except Crash ω → Except ε α → Prop}

/-- The first note is made when the step is left to itself. -/
theorem head_eq {h : StepHistory ι ω} {outcome : Except ε α}
    (law : GuardedLaw ctx ofError start input own h outcome) :
    ∃ n rest, h = (start, n) :: rest := by
  cases law with
  | late spent why => exact ⟨_, _, rfl⟩
  | undisturbed live inTime counts => exact ⟨_, _, rfl⟩
  | overtaken live ends why both counts => exact ⟨_, _, rfl⟩

/-- **Either the work starts, with the context live, or it does not**, and the outcome is an error of the
context. -/
theorem live_or_late {h : StepHistory ι ω} {outcome : Except ε α}
    (law : GuardedLaw ctx ofError start input own h outcome) :
    (ctx.err start = none ∧ (start, .started input) ∈ h) ∨
      ∃ e, ctx.Past start e ∧ outcome = .error (ofError e) ∧ ∀ t input', (t, .started input') ∉ h := by
  cases law with
  | @late e e' reason t interrupted spent why =>
    refine .inr ⟨if interrupted then e' else e, ?_, rfl, by simp⟩
    cases interrupted with
    | true => exact why.past
    | false => exact .of_err spent
  | undisturbed live inTime counts => exact .inl ⟨live, List.mem_cons_self⟩
  | overtaken live ends why both counts => exact .inl ⟨live, List.mem_cons_self⟩

/-- The work has ended in time, and nobody has asked for anything. -/
theorem of_own {h : StepHistory ι ω} {t : Nat} {r : Except Crash ω} {outcome : Except ε α}
    (hc : h.ofCancel = []) (hw : h.ofWork = [(start, .started input), (t, .ended r)])
    (live : ctx.err start = none) (inTime : ∀ d, ctx.endsAt = some d → t ≤ d)
    (counts : own r outcome) : GuardedLaw ctx ofError start input own h outcome := by
  have hall : h = [(start, .started input), (t, .ended r)] := (StepHistory.eq_ofWork hc).trans hw
  rw [hall]
  exact .undisturbed live inTime counts

/-- The step was asked to stop before its work could start, which has given up for the same reason. -/
theorem of_late {rest : StepHistory ι ω} {d t : Nat} {e e' : ImportError} {outcome : Except ε α} {i : Bool}
    (hd : d = start) (he : ctx.err start = some e') (hout : outcome = .error (ofError e'))
    (hover : ctx.Over d e (cancelReason e)) (hw : rest.ofWork = [])
    (hc : rest.ofCancel = [(t, .answered (.ok i))]) :
    GuardedLaw ctx ofError start input own ((d, .asked (cancelReason e)) :: rest)
      (if i then .error (ofError e) else outcome) := by
  subst hd hout
  have hrest : rest = [(t, .answered (.ok i))] := (StepHistory.eq_ofCancel hw).trans hc
  have hresult : (if i then .error (ofError e) else .error (ofError e') : Except ε α) =
      .error (ofError (if i then e else e')) := by cases i <;> rfl
  rw [hrest, hresult]
  exact .late he hover

/-- The step was asked to stop while its work was in flight. -/
theorem of_overtaken {rest : StepHistory ι ω} {d t t' : Nat} {e : ImportError} {r : Except Crash ω}
    {outcome : Except ε α} {i : Bool} (live : ctx.err start = none) (ends : ctx.endsAt = some d)
    (hover : ctx.Over d e (cancelReason e)) (hw : rest.ofWork = [(t, .ended r)])
    (hc : rest.ofCancel = [(t', .answered (.ok i))]) (counts : own r outcome) :
    GuardedLaw ctx ofError start input own
      ((start, .started input) :: (d, .asked (cancelReason e)) :: rest)
      (if i then .error (ofError e) else outcome) := by
  have hperm := StepHistory.perm_parts rest
  rw [hw, hc] at hperm
  exact .overtaken live ends hover hperm counts

end GuardedLaw

/-! ## 4. Histories among other notes

A step is one of several things that are noted, so its history stands after what was noted before, and in
the words of all: `f` is what its notes are called there. -/

/-- The notes of a step as they are kept. -/
def keptAs (f : StepNote ι ω → κ) (h : StepHistory ι ω) : List (Nat × κ) := h.map fun n => (n.1, f n.2)

theorem keptAs_append (f : StepNote ι ω → κ) (h l : StepHistory ι ω) :
    keptAs f (h ++ l) = keptAs f h ++ keptAs f l := List.map_append ..

theorem keptAs_id (h : StepHistory ι ω) : keptAs id h = h := List.map_id h

theorem keptAs_inj {f : StepNote ι ω → κ} (hf : Function.Injective f) {h l : StepHistory ι ω}
    (heq : keptAs f h = keptAs f l) : h = l := by
  refine (List.map_inj_right fun x y hxy => ?_).mp heq
  rw [Prod.mk.injEq] at hxy
  exact Prod.ext hxy.1 (hf hxy.2)

/-- The notes of the task (or, for `false`, of the cancel), as they are kept. -/
def OfSide (f : StepNote ι ω → κ) (byWork : Bool) (k : κ) : Prop := ∃ n, n.byWork = byWork ∧ f n = k

/-- Only notes of the task (or, for `false`, of the cancel) have been added. -/
abbrev Extends (f : StepNote ι ω → κ) (byWork : Bool) : Watched υ κ → Watched υ κ → Prop :=
  Watched.Adds (OfSide f byWork)

theorem Extends.kept {f : StepNote ι ω → κ} {b : Bool} {s t : Watched υ κ} (h : Extends f b s t) :
    ∃ l : StepHistory ι ω, (∀ n ∈ l, n.2.byWork = b) ∧ t.seen = s.seen ++ keptAs f l := by
  obtain ⟨l, hl, hs⟩ := h
  have hkept : ∃ l' : StepHistory ι ω, (∀ n ∈ l', n.2.byWork = b) ∧ l = keptAs f l' := by
    clear hs
    induction l with
    | nil => exact ⟨[], fun _ hn => absurd hn List.not_mem_nil, rfl⟩
    | cons n l ih =>
      obtain ⟨k, hk, hf⟩ := hl n List.mem_cons_self
      obtain ⟨l', hl', rfl⟩ := ih fun n hn => hl n (List.mem_cons_of_mem _ hn)
      refine ⟨(n.1, k) :: l', fun x hx => ?_, ?_⟩
      · rcases List.mem_cons.mp hx with rfl | hx
        · exact hk
        · exact hl' x hx
      · show n :: keptAs f l' = (n.1, f k) :: keptAs f l'
        rw [hf]
  obtain ⟨l', hl', rfl⟩ := hkept
  exact ⟨l', hl', hs⟩

/-- **Since `h₀` the task has noted `w`**, and the cancel whatever it has. -/
def WorkSays (f : StepNote ι ω → κ) (h₀ : List (Nat × κ)) (w : StepHistory ι ω) (s : Watched υ κ) : Prop :=
  ∃ h, s.seen = h₀ ++ keptAs f h ∧ h.ofWork = w

/-- **Since `h₀` the cancel has noted `c`**, and the task whatever it has. -/
def CancelSays (f : StepNote ι ω → κ) (h₀ : List (Nat × κ)) (c : StepHistory ι ω) (s : Watched υ κ) :
    Prop :=
  ∃ h, s.seen = h₀ ++ keptAs f h ∧ h.ofCancel = c

section

variable {f : StepNote ι ω → κ} {h₀ : List (Nat × κ)} {w c : StepHistory ι ω} {s t : Watched υ κ}

theorem WorkSays.nothing (h : s.seen = h₀) : WorkSays f h₀ [] s :=
  ⟨[], by rw [h]; exact (List.append_nil _).symm, rfl⟩

theorem CancelSays.nothing (h : s.seen = h₀) : CancelSays f h₀ [] s :=
  ⟨[], by rw [h]; exact (List.append_nil _).symm, rfl⟩

/-- What the cancel notes adds nothing to the notes of the task. -/
theorem WorkSays.extend (h : WorkSays f h₀ w s) (he : Extends f false s t) : WorkSays f h₀ w t := by
  obtain ⟨h, hs, hw⟩ := h
  obtain ⟨l, hl, ht⟩ := he.kept
  refine ⟨h ++ l, by rw [ht, hs, keptAs_append, List.append_assoc], ?_⟩
  have hnone : StepHistory.ofWork l = [] :=
    List.filter_eq_nil_iff.mpr fun n hn => by simp [hl n hn]
  rw [StepHistory.ofWork_append, hw, hnone, List.append_nil]

/-- ... and the other way round. -/
theorem CancelSays.extend (h : CancelSays f h₀ c s) (he : Extends f true s t) :
    CancelSays f h₀ c t := by
  obtain ⟨h, hs, hc⟩ := h
  obtain ⟨l, hl, ht⟩ := he.kept
  refine ⟨h ++ l, by rw [ht, hs, keptAs_append, List.append_assoc], ?_⟩
  have hnone : StepHistory.ofCancel l = [] :=
    List.filter_eq_nil_iff.mpr fun n hn => by simp [hl n hn]
  rw [StepHistory.ofCancel_append, hc, hnone, List.append_nil]

theorem WorkSays.noted {m : Moment (Watched υ κ)} {n : StepNote ι ω} (hn : n.byWork = true)
    (h : WorkSays f h₀ w m.state) : WorkSays f h₀ (w ++ [(m.now, n)]) (Watched.noted (f n) m) := by
  obtain ⟨h, hs, hw⟩ := h
  refine ⟨h ++ [(m.now, n)], ?_, ?_⟩
  · show m.state.seen ++ [(m.now, f n)] = _
    rw [hs, keptAs_append, List.append_assoc]
    rfl
  · rw [StepHistory.ofWork_append, hw]
    simp [StepHistory.ofWork, hn]

theorem CancelSays.noted {m : Moment (Watched υ κ)} {n : StepNote ι ω} (hn : n.byWork = false)
    (h : CancelSays f h₀ c m.state) :
    CancelSays f h₀ (c ++ [(m.now, n)]) (Watched.noted (f n) m) := by
  obtain ⟨h, hs, hc⟩ := h
  refine ⟨h ++ [(m.now, n)], ?_, ?_⟩
  · show m.state.seen ++ [(m.now, f n)] = _
    rw [hs, keptAs_append, List.append_assoc]
    rfl
  · rw [StepHistory.ofCancel_append, hc]
    simp [StepHistory.ofCancel, hn]

end

end ImageImport
