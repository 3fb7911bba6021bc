/-
# A guarded inflation with a shadow

Main statement: `runStep_shadowed`, over every run.  A run that returns has a history and an outcome of
`ShadowedLaw`; its outcome is the error of the context exactly when the context was over before the main
inflation started, or became over while that was in flight and its cancel answered that it was interrupted.
A run that does not return has something to show for it: a cancel that crashed, or something that is still
under way.

Each party writes notes of its own: the main inflation, its cancel, and whoever tells the shadow something.
What each of them notes is proved on terms on which the others do what they like (section 2), and put
together with the rules of `Proofs/Concurrency/TermsOfNotes.lean`.  The phases of the task are `TaskWaits`: it has
not started, the main inflation is running, or the shadow is being waited for.
-/
import ImageImport.Proofs.Shadow.History
import ImageImport.Proofs.Step.Outcome

namespace ImageImport

open Activity
open Watched (Adds)

variable {τ : Type}

/-! ## 1. Who wrote what -/

namespace ShadowedNote

/-- A note of the main inflation. -/
def OfWork : ShadowedNote → Prop
  | main n => n.byWork = true
  | _ => False

/-- A note of the main cancel. -/
def OfStop : ShadowedNote → Prop
  | main n => n.byWork = false
  | _ => False

/-- A note about a cancel of the shadow. -/
def About (reason : String) : ShadowedNote → Prop
  | main _ => False
  | told r | obeyed r _ => r = reason

/-- A note of the task; the others are of the one who asks it to stop. -/
def OfTask : ShadowedNote → Prop
  | main n => n.byWork = true
  | told r | obeyed r _ => r = mainFailed ∨ r = mainFinished

variable {n : ShadowedNote}

theorem OfWork.ofTask (h : n.OfWork) : n.OfTask := by
  cases n with
  | main k => exact h
  | _ => cases h

theorem OfStop.not_ofTask (h : n.OfStop) : ¬ n.OfTask := by
  cases n with
  | main k => exact fun ht => Bool.false_ne_true (h.symm.trans ht)
  | _ => cases h

theorem OfStop.not_ofWork (h : n.OfStop) : ¬ n.OfWork := fun hw => h.not_ofTask hw.ofTask

theorem About.ofTask {reason : String} (hr : reason = mainFailed ∨ reason = mainFinished)
    (h : n.About reason) : n.OfTask := by
  cases n with
  | main k => cases h
  | told r | obeyed r _ =>
    have hsame : r = reason := h
    exact hsame ▸ hr

theorem About.not_ofTask {e : ImportError} (h : n.About (cancelReason e)) : ¬ n.OfTask := by
  have hreason : ¬ (cancelReason e = mainFailed ∨ cancelReason e = mainFinished) := by
    unfold cancelReason
    split <;> decide
  cases n with
  | main k => cases h
  | told r | obeyed r _ =>
    have hsame : r = cancelReason e := h
    exact hsame ▸ hreason

theorem About.not_ofWork {reason : String} (h : n.About reason) : ¬ n.OfWork := by
  cases n with
  | main k => cases h
  | _ => exact id

theorem About.not_ofStop {reason : String} (h : n.About reason) : ¬ n.OfStop := by
  cases n with
  | main k => cases h
  | _ => exact id

end ShadowedNote

namespace ShadowedHistory

/-- The notes of the main inflation. -/
def work (h : ShadowedHistory) : StepHistory Unit (Except InflationFailure Inflation) := h.ofMain.ofWork

/-- The notes of the main cancel. -/
def stops (h : ShadowedHistory) : StepHistory Unit (Except InflationFailure Inflation) :=
  h.ofMain.ofCancel

theorem ofMain_append (h l : ShadowedHistory) : ofMain (h ++ l) = ofMain h ++ ofMain l :=
  List.filterMap_append ..

theorem mem_ofMain {h : ShadowedHistory} {n : Nat × StepNote Unit (Except InflationFailure Inflation)} :
    n ∈ h.ofMain ↔ (n.1, .main n.2) ∈ h := by
  simp only [ofMain, List.mem_filterMap]
  constructor
  · rintro ⟨⟨t, k⟩, hk, heq⟩
    cases k with
    | main k =>
      cases heq
      exact hk
    | _ => cases heq
  · exact fun hn => ⟨_, hn, rfl⟩

theorem work_append (h l : ShadowedHistory) : work (h ++ l) = work h ++ work l := by
  rw [work, ofMain_append, StepHistory.ofWork_append]
  rfl

theorem stops_append (h l : ShadowedHistory) : stops (h ++ l) = stops h ++ stops l := by
  rw [stops, ofMain_append, StepHistory.ofCancel_append]
  rfl

theorem work_eq_nil {l : ShadowedHistory} (h : ∀ n ∈ l, ¬ n.2.OfWork) : work l = [] := by
  refine List.filter_eq_nil_iff.mpr fun n hn => ?_
  have := h _ (mem_ofMain.mp hn)
  simpa [ShadowedNote.OfWork] using this

theorem stops_eq_nil {l : ShadowedHistory} (h : ∀ n ∈ l, ¬ n.2.OfStop) : stops l = [] := by
  refine List.filter_eq_nil_iff.mpr fun n hn => ?_
  have := h _ (mem_ofMain.mp hn)
  simpa [ShadowedNote.OfStop] using this

variable {p : ShadowedNote → Prop} {s t : ShadowedParts.Noted τ}

/-- Whoever does not write for the main inflation leaves its notes as they are. -/
theorem work_of_adds (hp : ∀ n, p n → ¬ n.OfWork) (h : Adds p s t) : work t.seen = work s.seen := by
  obtain ⟨l, hl, hs⟩ := h
  rw [hs, work_append, work_eq_nil fun n hn => hp _ (hl n hn), List.append_nil]

end ShadowedHistory

/-! ## 2. What each party notes -/

namespace ShadowedParts

open ShadowedHistory (work stops)

variable (parts : ShadowedParts τ) (rest : Platform (Noted τ))

/-- The terms of a party: the others write everything but its notes. -/
abbrev only (p : ShadowedNote → Prop) : Terms (Noted τ) := .noting p (fun n => ¬ p n) Prod.snd

/-- The terms of the task, which keeps whether the main inflation has ended. -/
abbrev taskTerms : Terms (Noted τ) :=
  .writing ShadowedNote.OfTask (fun n => ¬ n.OfTask) Prod.snd

/-- The terms of the one who asks it to stop. -/
abbrev stopTerms : Terms (Noted τ) :=
  .noting (fun n => ¬ n.OfTask) ShadowedNote.OfTask Prod.snd

theorem task_covers {p : ShadowedNote → Prop} (hp : ∀ n, p n → n.OfTask) :
    (taskTerms : Terms (Noted τ)).Covers (only p) where
  rely := by
    intro s t h
    have hothers : Adds (fun n : ShadowedNote => ¬ n.OfTask) s t := h.1
    exact hothers.mono fun n hn hpn => hn (hp n hpn)
  guar := fun h => h.1.mono hp
  left := id
  inv _ := Iff.rfl

theorem stop_covers {p : ShadowedNote → Prop} (hp : ∀ n, p n → ¬ n.OfTask) :
    (stopTerms : Terms (Noted τ)).Covers (only p) where
  rely := by
    intro s t h
    have hothers : Adds ShadowedNote.OfTask s t := h
    exact hothers.mono fun n hn hpn => hp n hpn hn
  guar := fun h => ⟨h.1.mono hp, h.2⟩
  left := id
  inv _ := Iff.rfl

theorem slot_fst (t : τ) (u : τ × Bool) : (Cell.fst.set t u).2 = u.2 := rfl

/-- The main inflation runs. -/
theorem main_meets {m : Moment (Noted τ)} (hm : work m.state.seen = []) :
    (parts.watched rest).main.inflate.Meets (only ShadowedNote.OfWork)
      (fun _ m' => work m'.state.seen = [(m.now, .started ())])
      (fun r m' => work m'.state.seen = [(m.now, .started ()), (m'.now, .ended r)]) m := by
  have hstays : ∀ {R : Noted τ → Noted τ → Prop}, (∀ {s t}, R s t → work t.seen = work s.seen) →
      Stable R fun m' => work m'.state.seen = [(m.now, .started ())] := by
    intro R hR m' m'' h hr _
    exact (hR hr).trans h
  have hstarted : work (Watched.noted (.main (.started ())) m).seen = [(m.now, .started ())] := by
    show work (m.state.seen ++ [(m.now, .main (.started ()))]) = _
    rw [ShadowedHistory.work_append, hm]
    rfl
  refine Meets.watching ⟨.noted rfl, rfl⟩ (Meets.part Terms.allows_noting slot_fst
    (hstays fun h => congrArg work h.1) (hstays (ShadowedHistory.work_of_adds fun _ => id)) id
    (fun {r m'} h => ⟨⟨.noted rfl, rfl⟩, ?_⟩) _ hstarted)
  show work (m'.state.seen ++ [(m'.now, .main (.ended r))]) = _
  rw [ShadowedHistory.work_append, h]
  rfl

/-- What the main cancel has noted since it was asked at `m`. -/
def Stopped (m : Moment (Noted τ)) (reason : String)
    (answers : StepHistory Unit (Except InflationFailure Inflation)) (s : Noted τ) : Prop :=
  ∃ l, s.seen = m.state.seen ++ (m.now, .main (.asked reason)) :: l ∧ stops l = answers

theorem Stopped.extend {m : Moment (Noted τ)} {reason : String}
    {answers : StepHistory Unit (Except InflationFailure Inflation)} {p : ShadowedNote → Prop}
    {s t : Noted τ} (h : Stopped m reason answers s) (hp : ∀ n, p n → ¬ n.OfStop) (ha : Adds p s t) :
    Stopped m reason answers t := by
  obtain ⟨l, hs, hl⟩ := h
  obtain ⟨l', hl', ht⟩ := ha
  refine ⟨l ++ l', by rw [ht, hs, List.append_assoc, List.cons_append], ?_⟩
  rw [ShadowedHistory.stops_append, hl, ShadowedHistory.stops_eq_nil fun n hn => hp _ (hl' n hn),
    List.append_nil]

/-- The main cancel that was asked at `m` has answered. -/
def Answered (m : Moment (Noted τ)) (reason : String) (r : Except Crash Bool) (m' : Moment (Noted τ)) :
    Prop := ∃ t, Stopped m reason [(t, .answered r)] m'.state

theorem answered_stable {m : Moment (Noted τ)} {reason : String} {r : Except Crash Bool}
    {p : ShadowedNote → Prop} {R : Noted τ → Noted τ → Prop} (hp : ∀ n, p n → ¬ n.OfStop)
    (hR : ∀ {s t}, R s t → Adds p s t) : Stable R (Answered m reason r) := by
  rintro n n' ⟨t, h⟩ hr -
  exact ⟨t, h.extend hp (hR hr)⟩

/-- The main cancel is asked for. -/
theorem stop_meets (reason : String) (m : Moment (Noted τ)) :
    ((parts.watched rest).main.cancel reason).Meets (only ShadowedNote.OfStop)
      (fun _ m' => Stopped m reason [] m'.state) (Answered m reason) m := by
  have hstays : ∀ {R : Noted τ → Noted τ → Prop}, (∀ {s t}, R s t → Adds (fun n => ¬ n.OfStop) s t) →
      Stable R fun m' => Stopped m reason [] m'.state := by
    intro R hR m' m'' h hr _
    exact h.extend (fun _ => id) (hR hr)
  refine Meets.watching ⟨.noted rfl, rfl⟩ (Meets.part Terms.allows_noting slot_fst
    (hstays fun h => .of_seen_eq h.1) (hstays id) id
    (fun {r m'} h => ⟨⟨.noted rfl, rfl⟩, m'.now, ?_⟩) _ ⟨[], rfl, rfl⟩)
  obtain ⟨l, hs, hl⟩ := h
  refine ⟨l ++ [(m'.now, .main (.answered r))], ?_, ?_⟩
  · show m'.state.seen ++ [(m'.now, .main (.answered r))] = _
    rw [hs, List.append_assoc, List.cons_append]
  · rw [ShadowedHistory.stops_append, hl]
    rfl

/-- Nothing has been heard of the shadow about a reason. -/
def Silent (reason : String) (h : ShadowedHistory) : Prop := ∀ t r, (t, .obeyed reason r) ∉ h

/-- A crash is one of the shadow, when it was told something. -/
def Blames {α : Type} (reason : String) (r : Except Crash α) (m : Moment (Noted τ)) : Prop :=
  ∀ why, r = .error why → ∃ t, (t, .obeyed reason (.error why)) ∈ m.state.seen

theorem blames_ok {α : Type} {reason : String} {value : α} {m : Moment (Noted τ)} :
    Blames reason (.ok value : Except Crash α) m := by
  intro why h
  cases h

theorem blames_error {α : Type} {reason : String} {why : Crash} {m : Moment (Noted τ)} :
    Blames reason (.error why : Except Crash α) m ↔
      ∃ t, (t, .obeyed reason (.error why)) ∈ m.state.seen := by
  constructor
  · exact fun h => h why rfl
  · rintro h why' hwhy
    cases hwhy
    exact h

theorem blames_stable {α : Type} {reason : String} {r : Except Crash α} {R : Noted τ → Noted τ → Prop}
    {p : ShadowedNote → Prop} (hR : ∀ {s t}, R s t → Adds p s t) : Stable R (Blames reason r) := by
  intro m m' h hr _ why hwhy
  obtain ⟨t, ht⟩ := h why hwhy
  exact ⟨t, (hR hr).mem ht⟩

theorem Silent.extend {reason : String} {p : ShadowedNote → Prop} {s t : Noted τ}
    (h : Silent reason s.seen) (hp : ∀ r, ¬ p (.obeyed reason r)) (ha : Adds p s t) :
    Silent reason t.seen := fun u r hu => h u r (ha.mem_of_not hu (hp r))

/-- The shadow is told something, and that it has obeyed or not is noted when it has. -/
theorem told_noted (reason : String) (m : Moment (Noted τ)) :
    ((parts.watched rest).shadow.cancel reason).Meets (only (ShadowedNote.About reason))
      (fun _ m' => Silent reason m.state.seen → ShadowedHistory.Deaf reason m'.state.seen)
      (fun r m' => (m.now, .told reason) ∈ m'.state.seen ∧ (m'.now, .obeyed reason r) ∈ m'.state.seen) m := by
  have hstays : ∀ {R : Noted τ → Noted τ → Prop},
      (∀ {s t}, R s t → Adds (fun n => ¬ n.About reason) s t) → Stable R fun m' =>
        (m.now, .told reason) ∈ m'.state.seen ∧
          (Silent reason m.state.seen → ShadowedHistory.Deaf reason m'.state.seen) := by
    rintro R hR m' m'' ⟨htold, h⟩ hr -
    refine ⟨(hR hr).mem htold, fun hsilent => ?_⟩
    obtain ⟨⟨t, ht⟩, hno⟩ := h hsilent
    exact ⟨⟨t, (hR hr).mem ht⟩, fun u r hu => hno u r ((hR hr).mem_of_not hu fun hn => hn rfl)⟩
  have htold : (m.now, ShadowedNote.told reason) ∈ (Watched.noted (.told reason) m).seen :=
    List.mem_append_right _ (List.mem_singleton_self _)
  refine Meets.watching ⟨.noted rfl, rfl⟩ (Meets.part Terms.allows_noting slot_fst
    (hstays fun h => .of_seen_eq h.1) (hstays id) And.right
    (fun {r m'} h => ⟨⟨.noted rfl, rfl⟩, List.mem_append_left _ h.1, ?_⟩) _
    ⟨htold, fun hsilent => ⟨⟨_, htold⟩, fun u r hu => ?_⟩⟩)
  · rcases List.mem_append.mp hu with hu | hu
    · exact hsilent u r hu
    · cases List.mem_singleton.mp hu
  · exact List.mem_append_right _ (List.mem_singleton_self _)

theorem told_meets (reason : String) (m : Moment (Noted τ)) :
    ((parts.watched rest).shadow.cancel reason).Meets (only (ShadowedNote.About reason))
      (fun _ m' => Silent reason m.state.seen → ShadowedHistory.Deaf reason m'.state.seen)
      (Blames reason) m := by
  refine Meets.weaken id (fun {r m'} h => ?_) (parts.told_noted rest reason m)
  rintro why rfl
  exact ⟨m'.now, h.2⟩

/-! ## 3. The phases of the task -/

/-- The main inflation has ended with a result, and that is written down. -/
def Finished (start t : Nat) (result : Except InflationFailure Inflation) (s : Noted τ) : Prop :=
  work s.seen = [(start, .started ()), (t, .ended (.ok result))] ∧ s.state.2 = true

/-- The main inflation has not started. -/
def Fresh (s : Noted τ) : Prop := work s.seen = [] ∧ s.state.2 = false ∧ Silent mainFailed s.seen

/-- **Where the task waits.** -/
inductive TaskWaits (ctx : RunContext) (start : Nat) (w : Wake (Noted τ)) (m : Moment (Noted τ)) :
    Prop where
  | fresh (now : m.now = start) (ready : ∀ s, w.ready s = true) (fresh : Fresh m.state)
  | running (live : ctx.err start = none) (started : work m.state.seen = [(start, .started ())])
      (flag : m.state.state.2 = false)
  | collecting {t : Nat} {result : Except InflationFailure Inflation} (live : ctx.err start = none)
      (le : t ≤ m.now) (finished : Finished start t result m.state)
      (ends : w.due.isSome = true ∨ ShadowedHistory.Deaf mainFailed m.state.seen)

/-- **How the task ends** once the main inflation has started. -/
def Concluded (start : Nat) (r : Except Crash (Except InflationFailure Inflation))
    (m : Moment (Noted τ)) : Prop :=
  ∃ t r₀, t ≤ m.now ∧ work m.state.seen = [(start, .started ()), (t, .ended r₀)] ∧
    ShadowedHistory.Shown m.state.seen r₀ (taskOutcome .ofError r)

/-- The end of a task that cannot crash. -/
def Caught {α : Type} (r : Except Crash α) : Prop := ∃ value, r = .ok value

theorem not_caught {α : Type} {why : Crash} : ¬ Caught (.error why : Except Crash α) := by
  rintro ⟨value, h⟩
  cases h

/-- A shadow on its way writes no notes, and does not touch what is kept of the main inflation. -/
abbrev Shadowing {α : Type} (task : Activity (Noted τ) (Except Crash α)) : Prop :=
  task.Quiet (Unnoted Prod.snd) Caught

/-- **The shadow is waited for**, and told that the main inflation has ended when it takes too long. -/
theorem collect_meets {task : ShadowedInflation.ShadowTask (Noted τ)} (ht : Shadowing task)
    (m : Moment (Noted τ)) :
    ((parts.watched rest).collect task).Meets (only (ShadowedNote.About mainFinished))
      (fun w _ => w.due.isSome = true) (Blames mainFinished) m := by
  have hallows : (only (ShadowedNote.About mainFinished) : Terms (Noted τ)).Allows Prod.snd :=
    Terms.allows_noting
  have hstays : ∀ {α : Type} {r : Except Crash α},
      Stable (Unnoted Prod.snd : Noted τ → Noted τ → Prop) (Blames mainFinished r) :=
    blames_stable (p := fun _ => False) fun h => .of_seen_eq h.1
  -- a task that writes nothing, waited for at any moment
  have hmeets : ∀ {task : ShadowedInflation.ShadowTask (Noted τ)} (m : Moment (Noted τ)),
      Shadowing task → task.Meets (only (ShadowedNote.About mainFinished)) (fun _ _ => True)
        (fun r _ => Caught r) m :=
    fun m ht => ht.meets_unnoted (X := fun _ => True) hallows (fun _ _ _ => trivial)
      (fun _ _ _ => trivial) (fun _ => trivial) (fun _ => id) trivial
  -- it is told at any moment
  have hready : ∀ m, (Activity.within (parts.watched rest).graceMillis
      ((parts.watched rest).shadow.cancel mainFinished)).Ready (only (ShadowedNote.About mainFinished))
      (fun w _ => w.due.isSome = true) (Blames mainFinished) m := by
    refine fun m => ⟨fun s => Terms.guar_refl _ s, fun m' _ _ _ => ?_⟩
    refine Meets.weaken id (fun {r n} h why hwhy => h why hwhy why rfl)
      ((parts.told_meets rest mainFinished m').within hallows _ hstays)
  have hwaited := ((hmeets m ht).waitedFor hallows (parts.watched rest).graceMillis
    (fun hc => absurd hc not_caught)).and_always (ht.waitedFor _)
  refine Meets.bind (Meets.weaken id (fun {r m'} h => ?_) hwaited)
  match r, h with
  | .error why, ⟨hc, _⟩ => exact absurd hc not_caught
  | .ok (.inl ended), _ => exact blames_ok
  | .ok (.inr left), ⟨_, hleft⟩ =>
    refine Meets.update_bind ⟨.of_seen_eq rfl, rfl⟩ ?_
    refine Meets.bind (Meets.weaken id (fun {r n} h => ?_) (Meets.alongside hallows not_caught hstays
      (fun {u v n} hv => Wake.due_either_right hv) hleft (hready _)))
    match r, h with
    | .error why, hq => exact blames_error.mpr (blames_error.mp hq)
    | .ok (left', _), ⟨_, hleft'⟩ =>
      refine Meets.weaken id (fun {r n'} h why hwhy => absurd (h why hwhy) not_caught)
        ((hmeets n hleft').within hallows _ fun hc => absurd hc not_caught)

/-- What is known once the main inflation has ended stays as long as nobody writes for it. -/
theorem finished_stable {start t : Nat} {result : Except InflationFailure Inflation}
    {R : Noted τ → Noted τ → Prop} {p : ShadowedNote → Prop} (hp : ∀ n, p n → ¬ n.OfWork)
    (hR : ∀ {s t}, R s t → Adds p s t ∧ t.state.2 = s.state.2) :
    Stable R fun m => t ≤ m.now ∧ Finished start t result m.state := by
  rintro m m' ⟨hle, hwork, hflag⟩ hr hnow
  obtain ⟨hadds, hslot⟩ := hR hr
  exact ⟨Nat.le_trans hle hnow, (ShadowedHistory.work_of_adds hp hadds).trans hwork, hslot.trans hflag⟩

theorem not_ofWork_of_not_ofTask {n : ShadowedNote} (h : ¬ n.OfTask) : ¬ n.OfWork :=
  fun hw => h hw.ofTask

/-- **The end of the task**, after the main inflation has come to its own. -/
theorem conclude_meets {ctx : RunContext} {start t : Nat} {result : Except InflationFailure Inflation}
    (hlive : ctx.err start = none) {task : ShadowedInflation.ShadowTask (Noted τ)}
    (ht : Shadowing task) {m : Moment (Noted τ)} (hle : t ≤ m.now)
    (hm : Finished start t result m.state) :
    ((parts.watched rest).conclude task result).Meets taskTerms (TaskWaits ctx start)
      (Concluded start) m := by
  have hcollect : ((parts.watched rest).collect task).Meets taskTerms (TaskWaits ctx start)
      (fun r m' => (t ≤ m'.now ∧ Finished start t result m'.state) ∧ Blames mainFinished r m') m := by
    refine Meets.mono (X := fun m' => t ≤ m'.now ∧ Finished start t result m'.state)
      (task_covers fun n hn => hn.ofTask (.inr rfl)) (finished_stable (fun n hn => hn.not_ofWork) id)
      (finished_stable (fun n hn => not_ofWork_of_not_ofTask hn) id) (fun _ _ => trivial) ?_ ?_
      ⟨hle, hm⟩ (parts.collect_meets rest ht m)
    · exact fun hx hw => .collecting hlive hx.1 hx.2 (.inl hw)
    · exact fun hx hq => ⟨hx, hq⟩
  refine Meets.bind (Meets.weaken id (fun {r m'} h => ?_) hcollect)
  obtain ⟨⟨hle', hwork, hflag⟩, hblames⟩ := h
  cases r with
  | error why =>
    obtain ⟨u, hu⟩ := blames_error.mp hblames
    exact ⟨t, _, hle', hwork, .blown (.inr rfl) hu⟩
  | ok shadow =>
    show Meets _ _ _ (ite _ _ _) m'
    split
    · exact Meets.update_bind (.of_seen_eq rfl) ⟨t, _, hle', hwork, .compared shadow⟩
    · exact ⟨t, _, hle', hwork, .compared shadow⟩

/-- How the main inflation ends in the task: with a result that is written down, or with a crash. -/
def MainEnds (start : Nat) (r : Except Crash (Except InflationFailure Inflation))
    (m : Moment (Noted τ)) : Prop :=
  match r with
  | .ok result => ∃ t, t ≤ m.now ∧ Finished start t result m.state
  | .error why => Concluded start (.error why) m

/-- **The main inflation to its end.** -/
theorem runMain_meets {ctx : RunContext} {start : Nat} (hlive : ctx.err start = none)
    {m : Moment (Noted τ)} (hm : m.now = start) (hfresh : Fresh m.state) :
    (parts.watched rest).runMain.Meets taskTerms (TaskWaits ctx start) (MainEnds start) m := by
  obtain ⟨hnone, hflag, hsilent⟩ := hfresh
  have hstays : ∀ {p : ShadowedNote → Prop} {R : Noted τ → Noted τ → Prop},
      (∀ r, ¬ p (.obeyed mainFailed r)) → (∀ {s t}, R s t → Adds p s t ∧ t.state.2 = s.state.2) →
      Stable R fun m' => m'.state.state.2 = false ∧ Silent mainFailed m'.state.seen := by
    rintro p R hp hR n n' ⟨hflag, hsilent⟩ hr -
    exact ⟨(hR hr).2.trans hflag, hsilent.extend hp (hR hr).1⟩
  have hmain : (parts.watched rest).main.inflate.Meets taskTerms (TaskWaits ctx start)
      (fun r m' => (m'.state.state.2 = false ∧ Silent mainFailed m'.state.seen) ∧ ∃ t, t ≤ m'.now ∧
        work m'.state.seen = [(start, .started ()), (t, .ended r)]) m := by
    subst hm
    refine Meets.mono (X := fun m' => m'.state.state.2 = false ∧ Silent mainFailed m'.state.seen)
      (task_covers fun n hn => hn.ofTask) (hstays (fun _ => id) id)
      (hstays (fun _ hn => hn (.inl rfl)) id) (fun _ _ => trivial) ?_
      (fun hx hq => ⟨hx, _, Nat.le_refl _, hq⟩) ⟨hflag, hsilent⟩ (parts.main_meets rest hnone)
    exact fun hx hw => .running hlive hw hx.1
  refine Meets.bind (Meets.weaken id (fun {r m'} h => ?_) hmain)
  obtain ⟨⟨-, hsilent'⟩, t, hle, hwork⟩ := h
  cases r with
  | error why => exact ⟨t, _, hle, hwork, .crashed⟩
  | ok result =>
    let m'' : Moment (Noted τ) := ⟨m'.now, (parts.watched rest).mainFinished.set true m'.state⟩
    have hfinished : Finished start t result m''.state := ⟨hwork, rfl⟩
    refine Meets.update_bind (.of_seen_eq rfl) ?_
    show Meets _ _ _ (ite _ _ _) m''
    split
    · exact ⟨t, hle, hfinished⟩
    · -- the shadow hears of a failure before it is waited for
      have htold : ((parts.watched rest).shadow.cancel mainFailed).Meets taskTerms (TaskWaits ctx start)
          (fun r n => (t ≤ n.now ∧ Finished start t result n.state) ∧ Blames mainFailed r n) m'' := by
        refine Meets.mono (X := fun n => t ≤ n.now ∧ Finished start t result n.state)
          (task_covers fun n hn => hn.ofTask (.inl rfl))
          (finished_stable (fun n hn => hn.not_ofWork) id)
          (finished_stable (fun n hn => not_ofWork_of_not_ofTask hn) id) (fun _ _ => trivial) ?_
          (fun hx hq => ⟨hx, hq⟩) ⟨hle, hfinished⟩ (parts.told_meets rest mainFailed m'')
        exact fun hx hw => .collecting hlive hx.1 hx.2 (.inr (hw hsilent'))
      refine Meets.bind (Meets.weaken id (fun {r n} h => ?_) htold)
      obtain ⟨⟨hle', hfinished'⟩, hblames⟩ := h
      cases r with
      | ok obeyed => exact ⟨t, hle', hfinished'⟩
      | error why =>
        obtain ⟨u, hu⟩ := blames_error.mp hblames
        exact ⟨t, _, hle', hfinished'.1, .blown (.inl rfl) hu⟩

theorem Shown.extend {h : ShadowedHistory} {l : ShadowedHistory}
    {r : Except Crash (Except InflationFailure Inflation)} {o : Except InflationFailure Inflation}
    (hs : h.Shown r o) : ShadowedHistory.Shown (h ++ l) r o := by
  cases hs with
  | compared shadow => exact .compared shadow
  | crashed => exact .crashed
  | blown told crashed => exact .blown told (List.mem_append_left _ crashed)

theorem concluded_stable {start : Nat} {r : Except Crash (Except InflationFailure Inflation)}
    {R : Noted τ → Noted τ → Prop} {p : ShadowedNote → Prop} (hp : ∀ n, p n → ¬ n.OfWork)
    (hR : ∀ {s t}, R s t → Adds p s t) : Stable R (Concluded start r) := by
  rintro m m' ⟨t, r₀, hle, hwork, hshown⟩ hr hnow
  refine ⟨t, r₀, Nat.le_trans hle hnow, (ShadowedHistory.work_of_adds hp (hR hr)).trans hwork, ?_⟩
  obtain ⟨l, -, hs⟩ := hR hr
  rw [hs]
  exact Shown.extend hshown

theorem TaskWaits.either {ctx : RunContext} {start : Nat} {u : Wake (Noted τ)} {m : Moment (Noted τ)}
    (h : TaskWaits ctx start u m) (v : Wake (Noted τ)) : TaskWaits ctx start (u.either v) m := by
  cases h with
  | fresh now ready fresh => exact .fresh now (fun s => by simp [Wake.either, ready s]) fresh
  | running live started flag => exact .running live started flag
  | collecting live le finished ends =>
    exact .collecting live le finished (ends.imp Wake.due_either_left id)

/-- **The inflation with its shadow**, from its start in a live context. -/
theorem inflate_meets {ctx : RunContext} {start : Nat} (hlive : ctx.err start = none)
    {m : Moment (Noted τ)} (hm : m.now = start) (hfresh : Fresh m.state) :
    (parts.watched rest).inflate.Meets taskTerms (TaskWaits ctx start) (Concluded start) m := by
  have hshadow : Shadowing (spawned (parts.watched rest).shadow.inflate).caught :=
    Always.caught (Always.spawned (fun _ => ⟨rfl, rfl⟩)
      ((quiet_part slot_fst parts.shadow.inflate).mono (fun _ _ h => h) (fun _ h => h) fun {r} _ => ⟨r, rfl⟩))
  have hmain : (parts.watched rest).runMain.caught.Meets taskTerms (TaskWaits ctx start)
      (fun r m' => ∃ r', r = .ok r' ∧ MainEnds start r' m') m :=
    Meets.caught (Meets.weaken id (fun hq => ⟨_, rfl, hq⟩) (parts.runMain_meets rest hlive hm hfresh))
  refine Meets.bind (Meets.weaken id (fun {r m'} h => ?_) (Meets.leading Terms.allows_writing not_caught
    (fun {why n n'} hq => by obtain ⟨_, hq, -⟩ := hq; cases hq) (fun hw => hw.either _) hmain hshadow))
  match r, h with
  | .error why, h =>
    obtain ⟨_, h, -⟩ := h
    cases h
  | .ok (task, .ok result), ⟨⟨_, heq, hends⟩, htask⟩ =>
    cases heq
    obtain ⟨t, hle, hfinished⟩ := hends
    exact parts.conclude_meets rest hlive htask hle hfinished
  | .ok (task, .error why), ⟨⟨_, heq, hends⟩, htask⟩ =>
    cases heq
    -- nobody waits for the shadow any more
    refine Meets.bind (htask.settle_meets (T := taskTerms) (X := Concluded start (.error why))
      (fun hu => .of_seen_eq hu.1) id (fun hx hu => ?_) (fun {left n} hx hleft => ?_) hends)
    · exact concluded_stable (p := fun _ => False) (fun _ => False.elim)
        (fun {s t} (hu : Unnoted Prod.snd s t) => .of_seen_eq hu.1) hx hu (Nat.le_refl _)
    · exact ⟨hleft.background fun _ => ⟨rfl, rfl⟩, hx⟩

/-! ## 4. The one who asks it to stop -/

/-- Nobody has asked for anything yet. -/
def Untouched (s : Noted τ) : Prop := ∀ n ∈ s.seen, n.2.OfTask

theorem Untouched.stops {s : Noted τ} (h : Untouched s) : stops s.seen = [] :=
  ShadowedHistory.stops_eq_nil fun n hn hs => hs.not_ofTask (h n hn)

theorem Untouched.extend {s t : Noted τ} (h : Untouched s) (ha : Adds ShadowedNote.OfTask s t) :
    Untouched t := by
  obtain ⟨l, hl, hs⟩ := ha
  intro n hn
  rw [hs] at hn
  rcases List.mem_append.mp hn with hn | hn
  · exact h n hn
  · exact hl n hn

/-- What the step is told of a context that is over is no part of the task. -/
theorem cancelReason_ne (e : ImportError) : cancelReason e ≠ mainFailed ∧ cancelReason e ≠ mainFinished := by
  unfold cancelReason
  split <;> decide

theorem Untouched.silent {s : Noted τ} (h : Untouched s) (e : ImportError) :
    Silent (cancelReason e) s.seen := by
  intro t r hn
  exact ShadowedNote.About.not_ofTask (n := .obeyed (cancelReason e) r) rfl (h _ hn)

/-- How the cancel ends that is asked for at `m₁`: with the answer of the main one, or, when that has
nothing to interrupt any more, with none. -/
def StopEnds (m₁ : Moment (Noted τ)) (e : ImportError) (r : Except Crash Bool) (m : Moment (Noted τ)) :
    Prop :=
  match r with
  | .ok i => (m₁.state.state.2 = true ∧ i = false ∧ Adds (fun n => ¬ n.OfStop) m₁.state m.state) ∨
      (m₁.state.state.2 = false ∧ Answered m₁ (cancelReason e) (.ok i) m)
  | .error why => ShadowedHistory.Blown why m.state.seen

theorem open_of_stopped {m₁ m : Moment (Noted τ)} {reason : String} (h₁ : Untouched m₁.state)
    (h : Stopped m₁ reason [] m.state) : ShadowedHistory.Open m.state.seen := by
  obtain ⟨l, hs, hl⟩ := h
  have hstops : stops m.state.seen = [(m₁.now, .asked reason)] := by
    rw [hs, ShadowedHistory.stops_append, h₁.stops]
    show (m₁.now, StepNote.asked reason) :: stops l = _
    rw [hl]
  exact .inl (StepHistory.open_of_asked hstops)

/-- **A cancel while the main inflation is running** reaches both. -/
theorem cancel_both_meets {e : ImportError} {m : Moment (Noted τ)} (hX : Untouched m.state)
    (hflag : m.state.state.2 = false) :
    (both ((parts.watched rest).main.cancel (cancelReason e))
      ((parts.watched rest).shadow.cancel (cancelReason e))).Meets stopTerms
      (fun _ m' => ShadowedHistory.Open m'.state.seen)
      (fun r m' => StopEnds m e (r.map Prod.fst) m') m := by
  have hsplit : (stopTerms : Terms (Noted τ)).Split (only ShadowedNote.OfStop)
      (only (ShadowedNote.About (cancelReason e))) (fun _ m' => Stopped m (cancelReason e) [] m'.state) :=
    Terms.noting_split (fun n hn => hn.not_ofTask) (fun n hn => hn.not_ofTask)
      (fun n hn hs => hs.not_ofTask hn) (fun n hn hs => hs.not_ofTask hn)
      (fun n hn hs => hs.not_ofStop hn) (fun n hn => hn.not_ofStop)
  have htold : ∀ m', Adds (fun n => ¬ n.About (cancelReason e)) m.state m'.state → m'.now = m.now →
      ((parts.watched rest).shadow.cancel (cancelReason e)).Meets
        (only (ShadowedNote.About (cancelReason e)))
        (fun _ n => ShadowedHistory.Deaf (cancelReason e) n.state.seen)
        (Blames (cancelReason e)) m' := by
    intro m' hr _
    have hsilent := (hX.silent e).extend (fun r hn => hn rfl) hr
    exact Meets.weaken (fun hw => hw hsilent) id (parts.told_meets rest (cancelReason e) m')
  have hA : ∀ {r}, Stable (only (ShadowedNote.About (cancelReason e))).guar
      (Answered m (cancelReason e) r) ∧ Stable stopTerms.rely (Answered m (cancelReason e) r) :=
    ⟨answered_stable (fun n hn => hn.not_ofStop) And.left,
      answered_stable (fun n hn hs => hs.not_ofTask hn) id⟩
  have hB : ∀ {r : Except Crash Bool}, Stable (only ShadowedNote.OfStop : Terms (Noted τ)).guar
      (Blames (cancelReason e) r) ∧
      Stable (stopTerms : Terms (Noted τ)).rely (Blames (cancelReason e) r) :=
    ⟨blames_stable And.left, blames_stable id⟩
  refine Meets.weaken id (fun {r m'} h => ?_) (Meets.both hsplit (fun _ => trivial) (fun _ => trivial)
    hA hB (fun hu => ⟨open_of_stopped hX hu, fun _ => open_of_stopped hX hu⟩)
    (fun hv => .inr ⟨_, (cancelReason_ne e).2, hv⟩) (parts.stop_meets rest (cancelReason e) m)
    fun {m'} => htold m')
  match r, h with
  | .ok (i, obeyed), ⟨hstop, _⟩ => exact .inr ⟨hflag, hstop⟩
  | .error why, .inl ⟨t, l, hs, hl⟩ =>
    have hmem : (t, StepNote.answered (.error why)) ∈ stops l := by
      rw [hl]
      exact List.mem_singleton_self _
    have hmain := ShadowedHistory.mem_ofMain.mp (StepHistory.mem_ofCancel.mp hmem).1
    refine .inl ⟨t, ?_⟩
    rw [hs]
    exact List.mem_append_right _ (List.mem_cons_of_mem _ hmain)
  | .error why, .inr hblames =>
    obtain ⟨t, ht⟩ := blames_error.mp hblames
    exact .inr ⟨t, _, ht⟩

/-- **The cancel**, asked for at whatever moment. -/
theorem cancel_meets {e : ImportError} {m : Moment (Noted τ)} (hX : Untouched m.state) :
    ((parts.watched rest).cancel (cancelReason e)).Meets stopTerms
      (fun _ m' => ShadowedHistory.Open m'.state.seen) (StopEnds m e) m := by
  refine Meets.read_bind ?_
  cases hflag : m.state.state.2 with
  | false =>
    have hread : (parts.watched rest).mainFinished.get m.state = false := hflag
    rw [hread]
    refine Meets.bind (Meets.weaken id (fun {r m'} h => ?_) (parts.cancel_both_meets rest hX hflag))
    match r, h with
    | .ok (i, _), h => exact h
    | .error why, h => exact h
  | true =>
    have hread : (parts.watched rest).mainFinished.get m.state = true := hflag
    rw [hread]
    have hstays : ∀ {p : ShadowedNote → Prop} {R : Noted τ → Noted τ → Prop},
        (∀ n, p n → ¬ n.OfStop) → (∀ {s t}, R s t → Adds p s t) →
        Stable R fun m' => Adds (fun n => ¬ n.OfStop) m.state m'.state := by
      intro p R hp hR n n' h hr _
      exact h.trans ((hR hr).mono hp)
    have htold : ((parts.watched rest).shadow.cancel (cancelReason e)).Meets stopTerms
        (fun _ m' => ShadowedHistory.Open m'.state.seen)
        (fun r m' => Adds (fun n => ¬ n.OfStop) m.state m'.state ∧ Blames (cancelReason e) r m') m := by
      refine Meets.mono (X := fun m' => Adds (fun n => ¬ n.OfStop) m.state m'.state)
        (stop_covers fun n hn => hn.not_ofTask) (hstays (fun n hn => hn.not_ofStop) And.left)
        (hstays (fun n hn hs => hs.not_ofTask hn) id) (fun _ _ => trivial) ?_ (fun hx hq => ⟨hx, hq⟩)
        (.of_seen_eq rfl) (parts.told_meets rest (cancelReason e) m)
      exact fun _ hw => .inr ⟨_, (cancelReason_ne e).2, hw (hX.silent e)⟩
    refine Meets.bind (Meets.weaken id (fun {r m'} h => ?_) htold)
    match r, h with
    | .ok obeyed, ⟨hadds, _⟩ => exact .inl ⟨hflag, rfl, hadds⟩
    | .error why, ⟨_, hblames⟩ =>
      obtain ⟨t, ht⟩ := blames_error.mp hblames
      exact .inr ⟨t, _, ht⟩

/-! ## 5. Both together -/

/-- How the task ends: late, without the main inflation, or as it has concluded. -/
def TaskDone (ctx : RunContext) (start : Nat)
    (r : Except Crash (Except Crash (Except InflationFailure Inflation))) (m : Moment (Noted τ)) : Prop :=
  ∃ r', r = .ok r' ∧
    ((∃ e, ctx.err start = some e ∧ r' = .ok (.error (.ofError e)) ∧ work m.state.seen = []) ∨
      (ctx.err start = none ∧ Concluded start r' m))

/-- Where the step waits: at once, for an instant, or for something that is under way. -/
def Waits (w : Wake (Noted τ)) (m : Moment (Noted τ)) : Prop :=
  (∀ s, w.ready s = true) ∨ w.due.isSome = true ∨ ShadowedHistory.Open m.state.seen

/-- How the step ends. -/
def Ends (ctx : RunContext) (start : Nat) (r : Except Crash (Except InflationFailure Inflation))
    (m : Moment (Noted τ)) : Prop :=
  match r with
  | .ok outcome => ShadowedLaw ctx start m.state.seen outcome
  | .error why => ShadowedHistory.Blown why m.state.seen

section Law

variable {ctx : RunContext} {start : Nat}

theorem waits_of_taskWaits {u : Wake (Noted τ)} {m : Moment (Noted τ)} (h : TaskWaits ctx start u m) :
    Waits u m := by
  cases h with
  | fresh now ready fresh => exact .inl ready
  | running live started flag => exact .inr (.inr (.inl (StepHistory.open_of_started started)))
  | collecting live le finished ends =>
    exact .inr (ends.imp id fun hdeaf => .inr ⟨_, by decide, hdeaf⟩)

theorem taskDone_stable {R : Noted τ → Noted τ → Prop} {p : ShadowedNote → Prop}
    (hp : ∀ n, p n → ¬ n.OfWork) (hR : ∀ {s t}, R s t → Adds p s t)
    {r : Except Crash (Except Crash (Except InflationFailure Inflation))} :
    Stable R (TaskDone ctx start r) := by
  rintro m m' ⟨r', hr', h⟩ hr hnow
  refine ⟨r', hr', h.imp ?_ ?_⟩
  · rintro ⟨e, he, hout, hwork⟩
    exact ⟨e, he, hout, (ShadowedHistory.work_of_adds hp (hR hr)).trans hwork⟩
  · exact fun ⟨hlive, hends⟩ => ⟨hlive, concluded_stable hp hR hends hr hnow⟩

theorem stopEnds_stable {R : Noted τ → Noted τ → Prop} {p : ShadowedNote → Prop}
    (hp : ∀ n, p n → ¬ n.OfStop) (hR : ∀ {s t}, R s t → Adds p s t) {m₁ : Moment (Noted τ)}
    {e : ImportError} {r : Except Crash Bool} : Stable R (StopEnds m₁ e r) := by
  intro m m' h hr hnow
  have hadds := hR hr
  cases r with
  | ok i =>
    refine h.imp ?_ ?_
    · exact fun ⟨hflag, hi, hs⟩ => ⟨hflag, hi, hs.trans (hadds.mono hp)⟩
    · exact fun ⟨hflag, hs⟩ => ⟨hflag, answered_stable hp hR hs hr hnow⟩
  | error why =>
    refine h.imp ?_ ?_
    · exact fun ⟨t, ht⟩ => ⟨t, hadds.mem ht⟩
    · exact fun ⟨t, reason, ht⟩ => ⟨t, reason, hadds.mem ht⟩

/-- The task has ended before the context. -/
theorem ends_own {r : Except Crash (Except InflationFailure Inflation)} {m : Moment (Noted τ)}
    (hr : TaskDone ctx start (.ok r) m) (hX : Untouched m.state) (hlive : ctx.LiveUntil start m.now) :
    Ends ctx start (.ok (taskOutcome .ofError r)) m := by
  obtain ⟨r', hr', ⟨e, he, -⟩ | ⟨-, t, r₀, hle, hwork, hshown⟩⟩ := hr
  · rw [hlive.1] at he
    cases he
  · cases hr'
    exact .of_own hX.stops hwork hlive.1 (fun d hd => Nat.le_trans hle (hlive.2 d hd)) hshown

/-- The history of the main inflation, split where its cancel was asked for. -/
theorem Stopped.ofMain {m₁ : Moment (Noted τ)} {reason : String}
    {answers : StepHistory Unit (Except InflationFailure Inflation)} {s : Noted τ}
    (h : Stopped m₁ reason answers s) (hX : Untouched m₁.state) :
    ∃ l : StepHistory Unit (Except InflationFailure Inflation),
      ShadowedHistory.ofMain s.seen = work m₁.state.seen ++ (m₁.now, .asked reason) :: l ∧
        work s.seen = work m₁.state.seen ++ l.ofWork ∧ l.ofCancel = answers := by
  obtain ⟨l, hs, hl⟩ := h
  refine ⟨ShadowedHistory.ofMain l, ?_, ?_, hl⟩
  · rw [hs, ShadowedHistory.ofMain_append, StepHistory.eq_ofWork hX.stops]
    rfl
  · rw [hs, ShadowedHistory.work_append]
    rfl

/-- **The step has been asked to stop**, and both the task and the cancel have ended. -/
theorem ends_stopped {m₁ m : Moment (Noted τ)} {e : ImportError} {u : Wake (Noted τ)}
    {r : Except Crash (Except InflationFailure Inflation)} {i : Bool} (hX : Untouched m₁.state)
    (hu : TaskWaits ctx start u m₁) (ho : ctx.OverSince start m₁.now e)
    (hr : TaskDone ctx start (.ok r) m) (hi : StopEnds m₁ e (.ok i) m) :
    Ends ctx start (.ok (if i then .error (.ofError e) else taskOutcome .ofError r)) m := by
  obtain ⟨r', hr', hr⟩ := hr
  cases hr'
  show GuardedLaw _ _ _ _ _ _ _
  cases hu with
  | fresh now ready fresh =>
    -- asked before the task had acted
    obtain ⟨hnone, hflag, -⟩ := fresh
    rcases hi with ⟨hflag', -⟩ | ⟨-, t, hstopped⟩
    · rw [hflag] at hflag'
      cases hflag'
    · obtain ⟨l, hmain, hwork, hcancel⟩ := hstopped.ofMain hX
      rw [hnone, List.nil_append] at hmain hwork
      rcases hr with ⟨e', he', hout, hwork'⟩ | ⟨hlive, -⟩
      · rw [hmain]
        exact .of_late now he' (by rw [hout]; rfl) ho.over (hwork.symm.trans hwork') hcancel
      · exact absurd hlive (now ▸ ho.over.past.err_ne_none)
  | running hlive started flag =>
    -- asked while the main inflation was in flight
    rcases hr with ⟨e', he', -⟩ | ⟨-, t, r₀, hle, hwork', hshown⟩
    · rw [hlive] at he'
      cases he'
    rcases hi with ⟨hflag', -⟩ | ⟨-, t', hstopped⟩
    · rw [flag] at hflag'
      cases hflag'
    · obtain ⟨l, hmain, hwork, hcancel⟩ := hstopped.ofMain hX
      rw [started] at hmain hwork
      have hl : StepHistory.ofWork l = [(t, .ended r₀)] := (List.cons.inj (hwork.symm.trans hwork')).2
      rw [hmain]
      exact .of_overtaken hlive (ho.atEnd hlive).1 ho.over hl hcancel hshown
  | @collecting t₁ result hlive le finished ends =>
    -- asked when the main inflation had ended: nothing is interrupted
    obtain ⟨started, flag⟩ := finished
    rcases hr with ⟨e', he', -⟩ | ⟨-, t, r₀, hle, hwork', hshown⟩
    · rw [hlive] at he'
      cases he'
    rcases hi with ⟨-, hno, hadds⟩ | ⟨hflag', -⟩
    · subst hno
      obtain ⟨l, hl, hs⟩ := hadds
      have hstops : stops m.state.seen = [] := by
        rw [hs, ShadowedHistory.stops_append, hX.stops, ShadowedHistory.stops_eq_nil hl]
        rfl
      have hsame : t₁ = t := by
        rw [hs, ShadowedHistory.work_append, started] at hwork'
        have hhead := (List.cons.inj (List.cons.inj hwork').2).1
        exact (Prod.mk.inj hhead).1
      subst hsame
      refine .of_own hstops hwork' hlive (fun d hd => ?_) hshown
      rw [(ho.atEnd hlive).1, Option.some.injEq] at hd
      exact hd ▸ le
    · rw [flag] at hflag'
      cases hflag'

end Law

/-- **An inflation with a shadow is a guarded step**, and its law is what it ends with. -/
theorem guarded (ctx : RunContext) (start : Nat) :
    Guarded ctx (parts.watched rest).cancel start (.whole Prod.snd) taskTerms stopTerms Waits
      (TaskWaits ctx start) (fun _ _ _ m => ShadowedHistory.Open m.state.seen) Untouched
      (TaskDone ctx start) StopEnds (Judged .ofError (Ends ctx start)) where
  split := Terms.whole_split
  caught := by
    rintro why m ⟨r', hr', -⟩
    cases hr'
  work_keeps ha h := h.extend ha
  others_keep hr h := h.extend (.of_seen_eq hr.1)
  waits_work hu := ⟨waits_of_taskWaits hu, fun v => waits_of_taskWaits (hu.either v)⟩
  waits_cancel h := .inr (.inr h)
  work_stays :=
    ⟨taskDone_stable (fun n hn => not_ofWork_of_not_ofTask hn) And.left,
      taskDone_stable (p := fun _ => False) (fun _ => False.elim) fun h => .of_seen_eq h.1⟩
  cancel_stays :=
    ⟨stopEnds_stable (fun n hn hs => hs.not_ofTask hn) id,
      stopEnds_stable (p := fun _ => False) (fun _ => False.elim) fun h => .of_seen_eq h.1⟩
  inv_work _ := trivial
  inv_cancel _ := trivial
  turn_cancel _ _ := trivial
  asked hX _ _ _ := parts.cancel_meets rest hX
  own := ends_own
  stopped hX hu ho hr hi := ends_stopped hX hu ho hr hi
  blown h := h

/-- **The guarded inflation**, run before anything has been noted. -/
theorem runStep_meets (ctx : RunContext) {m : Moment (Noted τ)} (hseen : m.state.seen = [])
    (hflag : m.state.state.2 = false) :
    (runStep ctx (parts.watched rest).inflater.toStep .ofError (parts.watched rest).inflate).Meets
      (.whole Prod.snd) Waits
      (Reported (parts.watched rest).inflater.toStep (Ends ctx m.now)) m := by
  have hfresh : Fresh m.state := by
    refine ⟨by rw [hseen]; rfl, hflag, fun t r hn => ?_⟩
    rw [hseen] at hn
    cases hn
  have hstays : ∀ {s : Noted τ}, taskTerms.rely m.state s → Fresh s := by
    intro s hr
    obtain ⟨hnone, hflag, hsilent⟩ := hfresh
    refine ⟨(ShadowedHistory.work_of_adds (fun n hn => not_ofWork_of_not_ofTask hn) hr.1).trans hnone,
      hr.2.trans hflag, hsilent.extend (fun _ hn => hn (.inl rfl)) hr.1⟩
  refine ImageImport.runStep_meets ((parts.guarded rest ctx m.now).endStep trivial (fun n hn => ?_) rfl
    (fun hready hr hn => .fresh hn hready (hstays hr)) (fun he hr _ _ => ?_)
    fun hlive hr _ hn _ => ?_)
  · rw [hseen] at hn
    cases hn
  · exact ⟨_, rfl, .inl ⟨_, he, rfl, (hstays hr).1⟩⟩
  · exact Meets.weaken id (fun hq => ⟨_, rfl, .inr ⟨hlive, hq⟩⟩)
      (parts.inflate_meets rest hlive hn (hstays hr))

end ShadowedParts

end ImageImport
