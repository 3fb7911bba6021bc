/-
# The outcome of a guarded step

`Proofs/Step/Guard.lean` says what has to be known of a guarded step, and `Proofs/Step/History.lean` which
histories it can have.  Here the two meet: a step whose work and whose cancel are watched keeps to the law,
on whatever state it acts and whatever its work and its cancel do to that state and to each other.

Main statement: `runStep_outcome`, over every run.  A run that returns has a history and an outcome of
`StepLaw`, and the diagnostic lines are those of the state it returns in.  A run that does not return has
something to show for it: a cancel that crashed, or work or a cancel that is still under way.

Several steps can be run one after the other, among other notes and beside a part of the state that only
the work may write (`slot`); `watchedStep` is stated for that.
-/
import ImageImport.Proofs.Concurrency.Forgetting
import ImageImport.Proofs.Concurrency.Running
import ImageImport.Proofs.Step.History

namespace ImageImport

variable {ε α ι ω κ υ ρ τ : Type}

/-! ## 1. Three parties -/

/-- **The terms of the work**: it writes its own notes and the slot, and leaves tasks behind that write
neither. -/
abbrev workTerms (f : StepNote ι ω → κ) (slot : υ → ρ) : Terms (Watched υ κ) :=
  .writing (OfSide f true) (OfSide f false) slot

/-- **The terms of the cancel**: it writes its own notes. -/
abbrev cancelTerms (f : StepNote ι ω → κ) (slot : υ → ρ) : Terms (Watched υ κ) :=
  .noting (OfSide f false) (OfSide f true) slot

/-! ## 2. What each of them knows

`Z` says of the slot what it is, before the work has ended and after it has ended with a given value or
crash. -/

section Knowledge

variable (ctx : RunContext) (ofError : ImportError → ε) (f : StepNote ι (Except ε α) → κ) (slot : υ → ρ)
  (Z : Option (Except Crash (Except ε α)) → ρ → Prop) (h₀ : List (Nat × κ)) (start : Nat) (input : ι)

/-- Where the work waits: it has not started, at the very instant at which it is left to itself, or it has
started in a live context and not ended. -/
def WorkWaits (w : Wake (Watched υ κ)) (m : Moment (Watched υ κ)) : Prop :=
  (m.now = start ∧ (∀ s, w.ready s = true) ∧ WorkSays f h₀ [] m.state) ∨
    (ctx.err start = none ∧ WorkSays f h₀ [(start, .started input)] m.state)

/-- How the task ends: late, without having started, or with what its work ended with. -/
def TaskEnds (r : Except Crash (Except Crash (Except ε α))) (m : Moment (Watched υ κ)) : Prop :=
  ∃ r', r = .ok r' ∧
    ((∃ e, ctx.err start = some e ∧ r' = .ok (.error (ofError e)) ∧ WorkSays f h₀ [] m.state ∧
        Z none (slot m.state.state)) ∨
      (ctx.err start = none ∧ Z (some r') (slot m.state.state) ∧
        ∃ t, t ≤ m.now ∧ WorkSays f h₀ [(start, .started input), (t, .ended r')] m.state))

/-- The notes since the step was asked to stop at `m₁`: the asking, and the rest. -/
def SinceAsked (m₁ : Moment (Watched υ κ)) (e : ImportError) (rest : StepHistory ι (Except ε α))
    (s : Watched υ κ) : Prop :=
  CancelSays f h₀ [] m₁.state ∧
    s.seen = m₁.state.seen ++ keptAs f ((m₁.now, .asked (cancelReason e)) :: rest)

/-- Where the cancel waits: it has not answered. -/
def CancelWaits (m₁ : Moment (Watched υ κ)) (e : ImportError) (_ : Wake (Watched υ κ))
    (m : Moment (Watched υ κ)) : Prop :=
  ∃ rest, SinceAsked f h₀ m₁ e rest m.state ∧ rest.ofCancel = []

/-- How the cancel ends: it has answered. -/
def CancelEnds (m₁ : Moment (Watched υ κ)) (e : ImportError) (r : Except Crash Bool)
    (m : Moment (Watched υ κ)) : Prop :=
  ∃ rest t, SinceAsked f h₀ m₁ e rest m.state ∧ rest.ofCancel = [(t, .answered r)]

/-- **Where the step waits**, unless it can go on at once, something is under way. -/
def StepWaits (w : Wake (Watched υ κ)) (m : Moment (Watched υ κ)) : Prop :=
  (∀ s, w.ready s = true) ∨ ∃ h, m.state.seen = h₀ ++ keptAs f h ∧ h.Open

/-- **How the step ends**: by the law, or with a cancel that has crashed. -/
def StepEnds (r : Except Crash (Except ε α)) (m : Moment (Watched υ κ)) : Prop :=
  ∃ h, m.state.seen = h₀ ++ keptAs f h ∧ match r with
    | .ok outcome => StepLaw ctx ofError start input h outcome ∧ Z h.ending (slot m.state.state)
    | .error why => ∃ t, (t, .answered (.error why)) ∈ h

end Knowledge

/-! ## 3. The law -/

section Law

variable {ctx : RunContext} {ofError : ImportError → ε} {f : StepNote ι (Except ε α) → κ} {slot : υ → ρ}
  {Z : Option (Except Crash (Except ε α)) → ρ → Prop} {h₀ : List (Nat × κ)} {start : Nat} {input : ι}

/-- The work has ended in time, and nobody has asked for anything. -/
theorem stepEnds_own (hf : Function.Injective f) {r : Except Crash (Except ε α)}
    {m : Moment (Watched υ κ)} (hr : TaskEnds ctx ofError f slot Z h₀ start input (.ok r) m)
    (hX : CancelSays f h₀ [] m.state) (hlive : ctx.LiveUntil start m.now) :
    StepEnds ctx ofError f slot Z h₀ start input (.ok (taskOutcome ofError r)) m := by
  obtain ⟨r', hr', ⟨e, he, -⟩ | ⟨-, hz, t, ht, h, hs, hw⟩⟩ := hr
  · rw [hlive.1] at he
    cases he
  · cases hr'
    obtain ⟨h', hs', hc⟩ := hX
    have heq : h' = h := keptAs_inj hf (List.append_cancel_left (hs'.symm.trans hs))
    subst heq
    refine ⟨h', hs, .of_own hc hw hlive.1 (fun d hd => Nat.le_trans ht (hlive.2 d hd)) rfl, ?_⟩
    rw [← StepHistory.ending_ofWork, hw]
    exact hz

/-- The step has been asked to stop, and both the task and the cancel have ended. -/
theorem stepEnds_stopped (hf : Function.Injective f) {m₁ m : Moment (Watched υ κ)} {e : ImportError}
    {u : Wake (Watched υ κ)} {r : Except Crash (Except ε α)} {i : Bool}
    (hu : WorkWaits ctx f h₀ start input u m₁)
    (ho : ctx.OverSince start m₁.now e) (hr : TaskEnds ctx ofError f slot Z h₀ start input (.ok r) m)
    (hi : CancelEnds f h₀ m₁ e (.ok i) m) :
    StepEnds ctx ofError f slot Z h₀ start input
      (.ok (if i then .error (ofError e) else taskOutcome ofError r)) m := by
  obtain ⟨rest, t', ⟨⟨h₁, hs₁, hc₁⟩, hs⟩, hcr⟩ := hi
  -- the history is what stood there when the step was asked, the asking, and the rest
  have hseen : m.state.seen =
      h₀ ++ keptAs f (h₁ ++ (m₁.now, .asked (cancelReason e)) :: rest) := by
    rw [hs, hs₁, keptAs_append, List.append_assoc]
  have hsame : ∀ {w h}, m.state.seen = h₀ ++ keptAs f h → StepHistory.ofWork h = w →
      h₁.ofWork ++ rest.ofWork = w := by
    intro w h hs' hw
    rw [← hw, keptAs_inj hf (List.append_cancel_left (hs'.symm.trans hseen)),
      StepHistory.ofWork_append]
    rfl
  have hfirst : ∀ {w}, WorkSays f h₀ w m₁.state → h₁ = w := by
    rintro w ⟨h, hs', hw⟩
    have heq := keptAs_inj hf (List.append_cancel_left (hs₁.symm.trans hs'))
    exact (StepHistory.eq_ofWork hc₁).trans (heq ▸ hw)
  obtain ⟨r', hr', hr⟩ := hr
  cases hr'
  rcases hu with ⟨hnow, -, hnone⟩ | ⟨hlive, hstarted⟩
  · -- asked before the task had acted
    have hh₁ := hfirst hnone
    subst hh₁
    rcases hr with ⟨e', he', hr', ⟨h, hs', hw⟩, hz⟩ | ⟨hlive, -⟩
    · have hwr : rest.ofWork = [] := hsame hs' hw
      refine ⟨_, hseen, .of_late hnow he' (by rw [hr']; rfl) ho.over hwr hcr, ?_⟩
      rw [← StepHistory.ending_ofWork]
      show Z (StepHistory.ending (StepHistory.ofWork rest)) _
      rw [hwr]
      exact hz
    · have hover := ho.over
      rw [hnow] at hover
      exact absurd hlive hover.past.err_ne_none
  · -- asked while the work was in flight
    have hh₁ := hfirst hstarted
    subst hh₁
    obtain ⟨hend, -⟩ := ho.atEnd hlive
    rcases hr with ⟨e', he', -⟩ | ⟨-, hz, t, -, h, hs', hw⟩
    · rw [hlive] at he'
      cases he'
    · have hcons : (start, .started input) :: rest.ofWork = [(start, .started input), (t, .ended r)] :=
        hsame hs' hw
      have hwr := (List.cons.inj hcons).2
      refine ⟨_, hseen, .of_overtaken hlive hend ho.over hwr hcr rfl, ?_⟩
      have hended : StepHistory.ending ([(start, .started input)] ++
          (m₁.now, .asked (cancelReason e)) :: rest) = some r := by
        rw [← StepHistory.ending_ofWork, StepHistory.ofWork_append]
        show StepHistory.ending ([(start, .started input)] ++ rest.ofWork) = some r
        rw [hwr]
        rfl
      rwa [hended]

/-- The cancel has crashed. -/
theorem stepEnds_blown {m₁ m : Moment (Watched υ κ)} {e : ImportError} {why : Crash}
    (hi : CancelEnds f h₀ m₁ e (.error why) m) :
    StepEnds ctx ofError f slot Z h₀ start input (.error why) m := by
  obtain ⟨rest, t, ⟨⟨h₁, hs₁, -⟩, hs⟩, hcr⟩ := hi
  refine ⟨h₁ ++ (m₁.now, .asked (cancelReason e)) :: rest, ?_, t, ?_⟩
  · rw [hs, hs₁, keptAs_append, List.append_assoc]
  · have hmem : (t, StepNote.answered (.error why)) ∈ rest.ofCancel := by
      rw [hcr]
      exact List.mem_singleton_self _
    exact List.mem_append_right _ (List.mem_cons_of_mem _ (StepHistory.mem_ofCancel.mp hmem).1)

/-! ## 4. The parties keep to their terms -/

theorem stepWaits_work {u : Wake (Watched υ κ)} {m : Moment (Watched υ κ)}
    (h : WorkWaits ctx f h₀ start input u m) :
    StepWaits f h₀ u m ∧ ∀ v, StepWaits f h₀ (u.either v) m := by
  rcases h with ⟨-, hready, -⟩ | ⟨-, h, hs, hw⟩
  · exact ⟨.inl hready, fun v => .inl fun s => by simp [Wake.either, hready s]⟩
  · have hopen : StepWaits f h₀ u m := .inr ⟨h, hs, StepHistory.open_of_started hw⟩
    exact ⟨hopen, fun v => .inr ⟨h, hs, StepHistory.open_of_started hw⟩⟩

theorem stepWaits_cancel {m₁ m : Moment (Watched υ κ)} {e : ImportError} {v : Wake (Watched υ κ)}
    (h : CancelWaits f h₀ m₁ e v m) : StepWaits f h₀ v m := by
  obtain ⟨rest, ⟨⟨h₁, hs₁, hc₁⟩, hs⟩, hcr⟩ := h
  refine .inr ⟨h₁ ++ (m₁.now, .asked (cancelReason e)) :: rest, ?_, ?_⟩
  · rw [hs, hs₁, keptAs_append, List.append_assoc]
  · have hc : StepHistory.ofCancel (h₁ ++ (m₁.now, .asked (cancelReason e)) :: rest) =
        [(m₁.now, .asked (cancelReason e))] := by
      rw [StepHistory.ofCancel_append, hc₁]
      show (m₁.now, _) :: rest.ofCancel = _
      rw [hcr]
    exact StepHistory.open_of_asked hc

theorem taskEnds_stable {R : Watched υ κ → Watched υ κ → Prop}
    (hR : ∀ {s t}, R s t → Extends f false s t ∧ slot t.state = slot s.state)
    {r : Except Crash (Except Crash (Except ε α))} :
    Stable R (TaskEnds ctx ofError f slot Z h₀ start input r) := by
  rintro m m' ⟨r', hr', h⟩ hstep hle
  obtain ⟨hext, hslot⟩ := hR hstep
  refine ⟨r', hr', ?_⟩
  rcases h with ⟨e, he, hr, hw, hz⟩ | ⟨hlive, hz, t, ht, hw⟩
  · exact .inl ⟨e, he, hr, hw.extend hext, hslot ▸ hz⟩
  · exact .inr ⟨hlive, hslot ▸ hz, t, Nat.le_trans ht hle, hw.extend hext⟩

theorem SinceAsked.extend {m₁ : Moment (Watched υ κ)} {e : ImportError}
    {rest : StepHistory ι (Except ε α)} {s t : Watched υ κ} (h : SinceAsked f h₀ m₁ e rest s)
    (he : Extends f true s t) :
    ∃ rest', SinceAsked f h₀ m₁ e rest' t ∧ rest'.ofCancel = rest.ofCancel := by
  obtain ⟨hm₁, hs⟩ := h
  obtain ⟨l, hl, ht⟩ := he.kept
  refine ⟨rest ++ l, ⟨hm₁, ?_⟩, ?_⟩
  · rw [ht, hs, ← List.cons_append, keptAs_append, List.append_assoc]
  · have hnone : StepHistory.ofCancel l = [] :=
      List.filter_eq_nil_iff.mpr fun n hn => by simp [hl n hn]
    rw [StepHistory.ofCancel_append, hnone, List.append_nil]

theorem cancelEnds_stable {R : Watched υ κ → Watched υ κ → Prop}
    (hR : ∀ {s t}, R s t → Extends f true s t) {m₁ : Moment (Watched υ κ)} {e : ImportError}
    {r : Except Crash Bool} : Stable R (CancelEnds f h₀ m₁ e r) := by
  rintro m m' ⟨rest, t, hs, hcr⟩ hstep -
  obtain ⟨rest', hs', heq⟩ := hs.extend (hR hstep)
  exact ⟨rest', t, hs', heq.trans hcr⟩

/-- **Watched work keeps to its terms**, has noted its start and its end, and has ended as it always does.  What is
noted of its end may be a part of it (`out`). -/
theorem watchedWork_meets {β : Type} {c : Cell υ τ} (hslot : ∀ t u, slot (c.set t u) = slot u)
    {out : Except Crash β → Except Crash (Except ε α)} {p : Except Crash β → Prop}
    {Q : Except Crash β → Moment (Watched υ κ) → Prop} {m : Moment (Watched υ κ)}
    (hlive : ctx.err start = none) (hm : m.now = start) (hw : WorkSays f h₀ [] m.state)
    (hQ : ∀ {r m' t}, p r → slot m'.state.state = slot m.state.state → t ≤ m'.now →
      WorkSays f h₀ [(start, .started input), (t, .ended (out r))] m'.state → Q r m')
    {work : Activity τ β} (hp : work.EndsAs p) :
    (Activity.watching (f (.started input)) (fun r => f (.ended (out r)))
      (work.on (Watched.part c))).Meets (workTerms f slot) (WorkWaits ctx f h₀ start input) Q m := by
  have hstart : WorkSays f h₀ [(start, .started input)] (Watched.noted (f (.started input)) m) := by
    have := hw.noted (n := .started input) rfl
    rwa [hm] at this
  have hon : (work.on (Watched.part (κ := κ) c)).EndsAs p :=
    Activity.Always.on (fun _ _ _ => trivial) (fun _ _ => trivial) hp
  refine Activity.Meets.watching (.noted ⟨_, rfl, rfl⟩) (Activity.Meets.weaken id (fun {r m'} h => ?_)
    (Activity.Meets.and_always hon (Activity.Meets.part Terms.allows_writing hslot
      (X := fun m' => slot m'.state.state = slot m.state.state ∧
        WorkSays f h₀ [(start, .started input)] m'.state) ?_ ?_ ?_ id work ⟨rfl, hstart⟩)))
  · obtain ⟨⟨hs, hw'⟩, hr⟩ := h
    exact ⟨.noted ⟨_, rfl, rfl⟩, hQ hr hs (Nat.le_refl _) (hw'.noted rfl)⟩
  · exact fun h hu _ => ⟨hu.2.trans h.1, h.2.extend (.of_seen_eq hu.1)⟩
  · exact fun h hr _ => ⟨hr.2.trans h.1, h.2.extend hr.1⟩
  · exact fun h => .inr ⟨hlive, h.2⟩

/-- **A watched cancel keeps to its terms**, and has noted that it was asked for and has answered. -/
theorem watchedCancel_meets {c : Cell υ τ} (hslot : ∀ t u, slot (c.set t u) = slot u) (step : Step τ)
    {m : Moment (Watched υ κ)} {e : ImportError} (hX : CancelSays f h₀ [] m.state) :
    ((step.watched c f).cancel (cancelReason e)).Meets (cancelTerms f slot) (CancelWaits f h₀ m e)
      (CancelEnds f h₀ m e) m := by
  have hstays : ∀ {R : Watched υ κ → Watched υ κ → Prop}, (∀ {s t}, R s t → Extends f true s t) →
      Stable R fun m' => ∃ rest, SinceAsked f h₀ m e rest m'.state ∧ rest.ofCancel = [] := by
    rintro R hR m' m'' ⟨rest, hs, hcr⟩ hr -
    obtain ⟨rest', hs', heq⟩ := hs.extend (hR hr)
    exact ⟨rest', hs', heq.trans hcr⟩
  refine Activity.Meets.watching ⟨.noted ⟨_, rfl, rfl⟩, rfl⟩ (Activity.Meets.part Terms.allows_noting hslot
    (hstays fun hu => .of_seen_eq hu.1) (hstays id) id ?_ _ ⟨[], ⟨hX, rfl⟩, rfl⟩)
  · rintro r m' ⟨rest, ⟨hm, hs⟩, hcr⟩
    refine ⟨⟨.noted ⟨_, rfl, rfl⟩, rfl⟩, rest ++ [(m'.now, .answered r)], m'.now, ⟨hm, ?_⟩, ?_⟩
    · show m'.state.seen ++ [(m'.now, f (.answered r))] = _
      rw [hs, ← List.cons_append, keptAs_append, List.append_assoc]
      rfl
    · rw [StepHistory.ofCancel_append, hcr]
      rfl

/-- **A watched step is a guarded one**, whatever its end is judged by.  The guard may have another context than the
work. -/
theorem watched_judged {guarding : RunContext} {c : Cell υ τ} (hslot : ∀ t u, slot (c.set t u) = slot u)
    (step : Step τ) {Q : Except Crash (TaskEnd (Except Crash (Except ε α))) → Moment (Watched υ κ) → Prop}
    (own : ∀ {r m}, TaskEnds ctx ofError f slot Z h₀ start input (.ok r) m → CancelSays f h₀ [] m.state →
      guarding.LiveUntil start m.now → Q (.ok (r, none)) m)
    (stopped : ∀ {m₁ e u r i m}, WorkWaits ctx f h₀ start input u m₁ → guarding.OverSince start m₁.now e →
      TaskEnds ctx ofError f slot Z h₀ start input (.ok r) m → CancelEnds f h₀ m₁ e (.ok i) m →
      Q (.ok (r, some (e, i))) m)
    (blown : ∀ {m₁ e why m}, CancelEnds f h₀ m₁ e (.error why) m → Q (.error why) m) :
    Guarded guarding (step.watched c f).cancel start (Terms.whole slot) (workTerms f slot)
      (cancelTerms f slot) (StepWaits f h₀) (WorkWaits ctx f h₀ start input) (CancelWaits f h₀)
      (CancelSays f h₀ []) (TaskEnds ctx ofError f slot Z h₀ start input) (CancelEnds f h₀) Q where
  split := Terms.whole_split
  caught := by
    rintro why m ⟨r', hr', -⟩
    cases hr'
  work_keeps he h := h.extend he
  others_keep hr h := h.extend (.of_seen_eq hr.1)
  waits_work := stepWaits_work
  waits_cancel := stepWaits_cancel
  work_stays := ⟨taskEnds_stable id, taskEnds_stable fun hr => ⟨.of_seen_eq hr.1, hr.2⟩⟩
  cancel_stays := ⟨cancelEnds_stable id, cancelEnds_stable fun hr => .of_seen_eq hr.1⟩
  inv_work _ := trivial
  inv_cancel _ := trivial
  turn_cancel _ _ := trivial
  asked hX _ _ _ := watchedCancel_meets hslot step hX
  own := own
  stopped _ := stopped
  blown := blown

/-- Its law is what it ends with. -/
theorem watched_guarded (hf : Function.Injective f) {c : Cell υ τ}
    (hslot : ∀ t u, slot (c.set t u) = slot u) (step : Step τ) :
    Guarded ctx (step.watched c f).cancel start (Terms.whole slot) (workTerms f slot)
      (cancelTerms f slot) (StepWaits f h₀) (WorkWaits ctx f h₀ start input) (CancelWaits f h₀)
      (CancelSays f h₀ []) (TaskEnds ctx ofError f slot Z h₀ start input) (CancelEnds f h₀)
      (Judged ofError (StepEnds ctx ofError f slot Z h₀ start input)) :=
  watched_judged hslot step (stepEnds_own hf) (stepEnds_stopped hf) stepEnds_blown

section Run

variable (hf : Function.Injective f) {c : Cell υ τ} (hslot : ∀ t u, slot (c.set t u) = slot u) (step : Step τ)
  {work : Activity (Watched υ κ) (Except ε α)} {m : Moment (Watched υ κ)} (hm : m.now = start)
  (hseen : m.state.seen = h₀) (hz : Z none (slot m.state.state))
  (hwork : ∀ {m'}, ctx.err start = none → m'.now = start → WorkSays f h₀ [] m'.state →
    slot m'.state.state = slot m.state.state →
    work.Meets (workTerms f slot) (WorkWaits ctx f h₀ start input)
      (fun r => TaskEnds ctx ofError f slot Z h₀ start input (.ok r)) m')

include hm hseen hz hwork

/-- A watched step whose rule is `g`, run after `h₀` has been noted. -/
theorem watchedTask_meets {step : Step τ}
    {Q : Except Crash (TaskEnd (Except Crash (Except ε α))) → Moment (Watched υ κ) → Prop}
    (g : Guarded ctx (step.watched c f).cancel start (Terms.whole slot) (workTerms f slot)
      (cancelTerms f slot) (StepWaits f h₀) (WorkWaits ctx f h₀ start input) (CancelWaits f h₀)
      (CancelSays f h₀ []) (TaskEnds ctx ofError f slot Z h₀ start input) (CancelEnds f h₀) Q) :
    (endTask ctx (step.watched c f).cancel (stepTask ctx ofError work)).Meets (Terms.whole slot)
      (StepWaits f h₀) Q m := by
  have hw := WorkSays.nothing (f := f) hseen
  refine g.endStep trivial (.nothing hseen) hm ?_ ?_ ?_
  · intro w m' hready hr hn
    exact .inl ⟨hn, hready, hw.extend hr.1⟩
  · intro e m' he hr _ hn
    exact ⟨_, rfl, .inl ⟨e, he, rfl, hw.extend hr.1, hr.2 ▸ hz⟩⟩
  · intro m' hlive hr _ hn _
    exact hwork hlive hn (hw.extend hr.1) hr.2

include hf hslot

/-- **A watched step, run after `h₀` has been noted.** -/
theorem watchedStep :
    (runStep ctx (step.watched c f) ofError work).Meets (Terms.whole slot) (StepWaits f h₀)
      (Reported (step.watched c f) (StepEnds ctx ofError f slot Z h₀ start input)) m :=
  runStep_meets (watchedTask_meets hm hseen hz hwork (watched_guarded hf hslot step))

/-- **The task of a watched step** ends with what its work has ended with, whoever was asked. -/
theorem watchedTask :
    (endTask ctx (step.watched c f).cancel (stepTask ctx ofError work)).Meets (Terms.whole slot)
      (StepWaits f h₀)
      (fun r m' => ∀ x, r = .ok x → TaskEnds ctx ofError f slot Z h₀ start input (.ok x.1) m') m :=
  watchedTask_meets hm hseen hz hwork (watched_guarded hf hslot step).ended

end Run

end Law

/-! ## 5. Watching changes nothing -/

section Mirrors

open Activity

variable {σ σ' : Type} {view : σ' → σ}

theorem done_mirrors {C : Prop} (ctx : RunContext) :
    Mirrors view C Eq (ctx.done : Activity σ' ImportError) ctx.done := by
  refine Mirrors.bind (Mirrors.waitOr ⟨fun _ => false, ctx.endsAt⟩) fun _ => ?_
  refine Mirrors.bind Mirrors.clock fun h => ?_
  subst h
  exact .done rfl

/-- A step seen through `view`: its cancel and its diagnostic lines. -/
structure Step.Mirrors (view : σ' → σ) (step' : Step σ') (step : Step σ) : Prop where
  cancel : ∀ reason, Activity.Mirrors view True Eq (step'.cancel reason) (step.cancel reason)
  traceLogs : ∀ s, step'.traceLogs s = step.traceLogs (view s)

variable {step' : Step σ'} {step : Step σ} {ctx : RunContext} {ofError : ImportError → ε}

theorem interrupt_mirrors (hs : Step.Mirrors view step' step) {e : ImportError}
    {task' : Activity σ' (Except Crash (Except ε α))} {task : Activity σ (Except Crash (Except ε α))}
    (ht : Mirrors view False Eq task' task) :
    Mirrors view True Eq (interrupt step' ofError e task') (interrupt step ofError e task) := by
  refine Mirrors.bind (Mirrors.alongside False.elim ht (hs.cancel _) False.elim) ?_
  rintro ⟨rest', i'⟩ ⟨rest, i⟩ ⟨hrest, hi⟩
  refine Mirrors.bind (hrest.mono False.elim id) ?_
  rintro r' r hr
  cases hi
  cases hr
  exact .done rfl

theorem runTask_mirrors (hs : Step.Mirrors view step' step)
    {task' : Activity σ' (Except Crash (Except ε α))} {task : Activity σ (Except Crash (Except ε α))}
    (ht : Mirrors view False Eq task' task) :
    Mirrors view True Eq (runTask ctx step' ofError task') (runTask ctx step ofError task) := by
  refine Mirrors.bind (Mirrors.race False.elim id ht (done_mirrors ctx) False.elim) ?_
  intro x' x h
  match x', x, h with
  | .left r' _, .left r _, ⟨hr, _⟩ =>
    cases hr
    exact .done rfl
  | .right rest' e', .right rest e, ⟨hrest, he⟩ =>
    cases he
    exact interrupt_mirrors hs hrest.1

/-- **A guarded step of what is mirrored.** -/
theorem runStep_mirrors (hs : Step.Mirrors view step' step) {work' : Activity σ' (Except ε α)}
    {work : Activity σ (Except ε α)} (hw : Mirrors view True Eq work' work) :
    Mirrors view True Eq (runStep ctx step' ofError work') (runStep ctx step ofError work) := by
  have hguarded : Mirrors view True Eq (guardedWork ctx ofError work')
      (guardedWork ctx ofError work) := by
    refine Mirrors.bind Mirrors.clock ?_
    rintro now _ rfl
    cases ctx.err now with
    | some e => exact .done rfl
    | none => exact hw
  have htask : Mirrors view False Eq (stepTask ctx ofError work') (stepTask ctx ofError work) :=
    hguarded.spawned.caught.mono id eq_of_alike
  refine Mirrors.bind (runTask_mirrors hs htask) ?_
  rintro o _ rfl
  refine Mirrors.bind (Mirrors.read hs.traceLogs) ?_
  rintro logs _ rfl
  exact .done rfl

/-- A watched step is the step, seen without the notes. -/
theorem watched_mirrors (step : Step τ) (c : Cell υ τ) (f : StepNote ι ω → κ) :
    Step.Mirrors Watched.state (step.watched c f) (step.on c) where
  cancel reason := .watching (mirrors_on c (step.cancel reason))
  traceLogs _ := rfl

theorem watchedWork_mirrors (c : Cell υ τ) (f : StepNote ι ω → κ) (input : ι)
    (work : Activity τ ω) : Mirrors Watched.state True Eq (watchedWork c f input work) (work.on c) :=
  .watching (mirrors_on c work)

end Mirrors

/-! ## 6. Every run -/

/-- **What a run of a watched step shows.**  If it returns, its history and its outcome are of `StepLaw`
and the diagnostic lines are those of the state in the end.  If it crashes, a cancel has.  If it stalls,
work that has started, or a cancel that was asked for, has not ended. -/
def StepOutcome (ctx : RunContext) (ofError : ImportError → ε) (start : Nat) (logs : τ → List String) :
    Ending (Watched τ (StepNote Unit (Except ε α))) (Except ε α × List String) → Prop
  | .returned (outcome, lines) m =>
    StepLaw ctx ofError start () m.state.seen outcome ∧ lines = logs m.state.state
  | .crashed why m => ∃ t, (t, .answered (.error why)) ∈ m.state.seen
  | .stalled m => StepHistory.Open m.state.seen

/-- **The outcome law.**  Whatever the context, the step, its work, and the moment at which the step is
run: its run with notes is one of the law, and seen without the notes it is its run. -/
theorem runStep_outcome (ctx : RunContext) (step : Step τ) (ofError : ImportError → ε)
    (work : Activity τ (Except ε α)) (m : Moment τ) :
    let watched :=
      (runStep ctx (step.watched .whole id) ofError (watchedWork .whole id () work)).attended.run
        ⟨m.now, ⟨m.state, []⟩⟩
    StepOutcome ctx ofError m.now step.traceLogs watched ∧
      Ending.Alike Watched.state Eq watched ((runStep ctx step ofError work).attended.run m) := by
  intro watched
  constructor
  · -- alone with its notes, on a state without a slot
    let slot : τ → Unit := fun _ => ()
    have hslot : ∀ t u, slot (Cell.whole.set t u) = slot u := fun _ _ => rfl
    have hmeets : (runStep ctx (step.watched .whole id) ofError (watchedWork .whole id () work)).Meets
        (Terms.whole slot) (StepWaits id []) (Reported (step.watched .whole id)
          (StepEnds ctx ofError id slot (fun _ _ => True) [] m.now ())) ⟨m.now, ⟨m.state, []⟩⟩ := by
      refine watchedStep Function.injective_id hslot step rfl rfl trivial fun hlive hn hw _ => ?_
      refine watchedWork_meets hslot hlive hn hw (fun _ _ ht hw' => ?_) (Activity.quiet_any work)
      exact ⟨_, rfl, .inr ⟨hlive, trivial, _, ht, hw'⟩⟩
    have hsat := hmeets.run_attended (Terms.whole_closed slot _)
    show StepOutcome ctx ofError m.now step.traceLogs watched
    cases hrun : watched with
    | returned value last =>
      rw [show Activity.run _ _ = _ from hrun] at hsat
      obtain ⟨⟨h, hs, hlaw, -⟩, hlogs⟩ := hsat
      rw [keptAs_id, List.nil_append] at hs
      exact ⟨hs ▸ hlaw, hlogs⟩
    | crashed why last =>
      rw [show Activity.run _ _ = _ from hrun] at hsat
      obtain ⟨h, hs, t, hmem⟩ := hsat
      rw [keptAs_id, List.nil_append] at hs
      exact ⟨t, hs ▸ hmem⟩
    | stalled last =>
      rw [show Activity.run _ _ = _ from hrun] at hsat
      obtain ⟨w, hready | ⟨h, hs, hopen⟩, hh, -⟩ := hsat
      · simp [Wake.holds, hready] at hh
      · rw [keptAs_id, List.nil_append] at hs
        show StepHistory.Open last.state.seen
        rw [hs]
        exact hopen
  · have hstep := watched_mirrors step .whole (id : StepNote Unit (Except ε α) → _)
    have hwork := watchedWork_mirrors .whole (id : StepNote Unit (Except ε α) → _) () work
    simp only [Step.on, Activity.on_whole] at hstep hwork
    exact (runStep_mirrors hstep hwork).run_attended ⟨m.now, ⟨m.state, []⟩⟩

/-! ## 7. Work that has nothing to report -/

section Unreported

open Activity

variable {σ σ' β : Type} {given : Metrics}

/-- The metrics come back as they were given. -/
def GivesBack (given : Metrics) (r : Except Crash (Metrics × β)) : Prop :=
  ∀ answer, r = .ok answer → answer.1 = given

theorem unreported_always {N : σ → σ → Prop} {K : Background σ → Prop} {p : Except Crash β → Prop}
    {work : Activity σ β} (h : work.Always N K p) :
    (unreported given work).Always N K fun r => p (r.map (·.2)) ∧ GivesBack given r := by
  refine Always.bind h (fun {v} hv => ?_) fun {why} hwhy => ⟨hwhy, fun _ h => nomatch h⟩
  refine ⟨hv, ?_⟩
  rintro _ ⟨⟩
  rfl

theorem unreported_meets {T : Terms σ} {W : Wake σ → Moment σ → Prop} {Q : Except Crash β → Moment σ → Prop}
    {work : Activity σ β} {m : Moment σ} (h : work.Meets T W Q m) :
    (unreported given work).Meets T W (fun r m' => Q (r.map (·.2)) m' ∧ GivesBack given r) m := by
  refine Meets.bind (Meets.weaken id (fun {r m'} hr => ?_) h)
  cases r with
  | ok v =>
    refine Meets.pure ⟨hr, ?_⟩
    rintro _ ⟨⟩
    rfl
  | error why => exact ⟨hr, fun _ h => nomatch h⟩

theorem unreported_mirrors {view : σ' → σ} {work' : Activity σ' β} {work : Activity σ β}
    (h : Mirrors view True Eq work' work) :
    Mirrors view True Eq (unreported given work') (unreported given work) := by
  refine Mirrors.bind h ?_
  rintro r _ rfl
  exact .done rfl

end Unreported

end ImageImport
