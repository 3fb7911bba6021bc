/-
# Crews

A crew is any number of activities that share one state, with nobody who decides when each of them acts.  At any
time any of them may make its next move, and between any two moves time may pass.  So the runs of a crew are all the
interleavings there are, move by move; what two activities do in a race (`Concurrency/Race.lean`) is one of them.

A member of a crew relies on what the others do between any two of its moves, and not only where it waits.  That is
`Activity.Abides`, defined by recursion on the tree as `Activity.Meets` is.  Main statement: `Crew.Keeping.reaches`,
members that rely on no less than what the others guarantee abide by their terms in every run.
-/
import ImageImport.Concurrency.Lock
import ImageImport.Proofs.Concurrency.Quiet
import Mathlib.Logic.Function.Basic
import Mathlib.Logic.Relation

namespace ImageImport

variable {σ β γ : Type}

/-! ## 1. Moves -/

/-- **One move of an activity**: the state after it, what is left to do, and the tasks left to themselves by it. -/
structure Move (σ β : Type) where
  state : σ
  rest : Activity σ β
  tasks : List (Background σ)

/-- The next move of an activity, if it can make one. -/
def Activity.move? : Activity σ β → Moment σ → Option (Move σ β)
  | done _, _ => none
  | crash _, _ => none
  | step act next, m => some ⟨act m, next m, []⟩
  | detach task next, m => some ⟨m.state, next, [task]⟩
  | wait wake _ next, m => if wake.holds m then some ⟨m.state, next, []⟩ else none

/-- The next move of a task, if it can make one: the state after it, and what is left of the task. -/
def Background.move? : Background σ → Moment σ → Option (σ × Background σ)
  | ended, _ => none
  | step act next, m => some (act m, next m)
  | wait wake next, m => if wake.holds m then some (m.state, next) else none

/-! ## 2. The crew -/

/-- **What is left of each member**, and of the tasks that nobody waits for. -/
structure Crew (σ : Type) {ι : Type} (α : ι → Type) where
  moment : Moment σ
  rest : ∀ i, Activity σ (α i)
  tasks : List (Background σ) := []

namespace Crew

variable {ι : Type} {α : ι → Type} [DecidableEq ι]

/-- The crew after a move of one of its members. -/
def after (c : Crew σ α) (i : ι) (move : Move σ (α i)) : Crew σ α where
  moment := { c.moment with state := move.state }
  rest := Function.update c.rest i move.rest
  tasks := c.tasks ++ move.tasks

/-- **One step of a crew**: a move of somebody, or time that passes. -/
inductive Step : Crew σ α → Crew σ α → Prop where
  | member {c : Crew σ α} (i : ι) {move : Move σ (α i)} (h : (c.rest i).move? c.moment = some move) :
      Step c (c.after i move)
  | task {c : Crew σ α} {before behind : List (Background σ)} {task rest : Background σ} {s : σ}
      (hc : c.tasks = before ++ task :: behind) (h : task.move? c.moment = some (s, rest)) :
      Step c { c with moment := { c.moment with state := s }, tasks := before ++ rest :: behind }
  | tick {c : Crew σ α} {t : Nat} (h : c.moment.now ≤ t) :
      Step c { c with moment := { c.moment with now := t } }

/-- **A run of a crew.** -/
abbrev Reaches : Crew σ α → Crew σ α → Prop := Relation.ReflTransGen Step

/-- **A run by schedule**: who makes the next move, one after the other, with no time in between. -/
def play : List ι → Crew σ α → Option (Crew σ α)
  | [], c => some c
  | i :: order, c => ((c.rest i).move? c.moment).bind fun move => play order (c.after i move)

theorem reaches_of_play {order : List ι} {c d : Crew σ α} (h : play order c = some d) : Reaches c d := by
  induction order generalizing c with
  | nil =>
    cases h
    exact .refl
  | cons i order ih =>
    obtain ⟨move, hmove, hrest⟩ := Option.bind_eq_some_iff.mp h
    exact .head (.member i hmove) (ih hrest)

/-- **Nobody can make a move now.** -/
def Idle (c : Crew σ α) : Prop := ∀ i, (c.rest i).move? c.moment = none

end Crew

/-! ## 3. Members that abide by terms -/

namespace Activity

variable {T : Terms σ} {W W' : Wake σ → σ → Prop} {Q Q' : Except Crash β → σ → Prop}
  {QC : Except Crash γ → σ → Prop}

/-- **From this state on it abides by its terms**, with the others acting between any two of its moves: its moves
keep to `T`, `W` holds wherever it waits, and `Q` once it has ended. -/
def Abides (T : Terms σ) (W : Wake σ → σ → Prop) (Q : Except Crash β → σ → Prop) : Activity σ β → σ → Prop
  | done v, s => ∀ s', T.rely s s' → Q (.ok v) s'
  | crash why, s => ∀ s', T.rely s s' → Q (.error why) s'
  | step act next, s =>
    ∀ m, T.rely s m.state → T.guar m.state (act m) ∧ Abides T W Q (next m) (act m)
  | detach task next, s => task.Keeps T.left ∧ Abides T W Q next s
  | wait wake _ next, s =>
    ∀ m, T.rely s m.state → W wake m.state ∧ (wake.holds m = true → Abides T W Q next m.state)

/-- The others may act. -/
theorem Abides.later {a : Activity σ β} {s s' : σ} (h : a.Abides T W Q s) (hr : T.rely s s') :
    a.Abides T W Q s' := by
  induction a with
  | done v => exact fun t ht => h t (T.rely_trans hr ht)
  | crash why => exact fun t ht => h t (T.rely_trans hr ht)
  | step act next ih => exact fun m hm => h m (T.rely_trans hr hm)
  | detach task next ih => exact ⟨h.1, ih h.2⟩
  | wait wake leave next ih => exact fun m hm => h m (T.rely_trans hr hm)

/-- **One move** keeps to the terms, and so does the rest. -/
theorem Abides.move {a : Activity σ β} {m : Moment σ} {move : Move σ β} (h : a.Abides T W Q m.state)
    (hmove : a.move? m = some move) :
    T.guar m.state move.state ∧ move.rest.Abides T W Q move.state ∧ ∀ task ∈ move.tasks, task.Keeps T.left := by
  cases a with
  | done v => cases hmove
  | crash why => cases hmove
  | step act next =>
    cases hmove
    obtain ⟨hguar, hnext⟩ := h m (T.rely_refl _)
    exact ⟨hguar, hnext, by simp⟩
  | detach task next =>
    cases hmove
    exact ⟨T.guar_refl _, h.2, by simpa using h.1⟩
  | wait wake leave next =>
    rw [move?] at hmove
    split at hmove
    next hh =>
      cases hmove
      exact ⟨T.guar_refl _, (h m (T.rely_refl _)).2 hh, by simp⟩
    next => cases hmove

/-- How an activity is found that cannot go on. -/
inductive Stands (W : Wake σ → σ → Prop) (Q : Except Crash β → σ → Prop) (m : Moment σ) : Activity σ β → Prop where
  | ended {v : β} (h : Q (.ok v) m.state) : Stands W Q m (done v)
  | crashed {why : Crash} (h : Q (.error why) m.state) : Stands W Q m (crash why)
  | waits {wake : Wake σ} {leave : σ → σ} {next : Activity σ β} (h : W wake m.state)
      (hh : wake.holds m = false) : Stands W Q m (wait wake leave next)

theorem Abides.stands {a : Activity σ β} {m : Moment σ} (h : a.Abides T W Q m.state) (hnone : a.move? m = none) :
    a.Stands W Q m := by
  cases a with
  | done v => exact .ended (h _ (T.rely_refl _))
  | crash why => exact .crashed (h _ (T.rely_refl _))
  | step act next => cases hnone
  | detach task next => cases hnone
  | wait wake leave next =>
    rw [move?] at hnone
    split at hnone
    next => cases hnone
    next hh => exact .waits (h m (T.rely_refl _)).1 (by simpa using hh)

/-! Following the text of an activity. -/

/-- **One after the other.** -/
theorem Abides.bind {a : Activity σ β} {f : β → Activity σ γ} {s : σ}
    (h : a.Abides T W (fun r s' => match r with
      | .ok v => (f v).Abides T W QC s'
      | .error why => QC (.error why) s') s) : (a.bind f).Abides T W QC s := by
  induction a generalizing s with
  | done v => exact h s (T.rely_refl _)
  | crash why => exact h
  | step act next ih =>
    intro m hm
    obtain ⟨hguar, hnext⟩ := h m hm
    exact ⟨hguar, ih m hnext⟩
  | detach task next ih => exact ⟨h.1, ih h.2⟩
  | wait wake leave next ih =>
    intro m hm
    obtain ⟨hW, hgo⟩ := h m hm
    exact ⟨hW, fun hh => ih (hgo hh)⟩

/-- Consequence. -/
theorem Abides.weaken {a : Activity σ β} {s : σ} (hW : ∀ {w s}, W w s → W' w s) (hQ : ∀ {r s}, Q r s → Q' r s)
    (h : a.Abides T W Q s) : a.Abides T W' Q' s := by
  induction a generalizing s with
  | done v => exact fun s' hr => hQ (h s' hr)
  | crash why => exact fun s' hr => hQ (h s' hr)
  | step act next ih =>
    intro m hm
    obtain ⟨hguar, hnext⟩ := h m hm
    exact ⟨hguar, ih m hnext⟩
  | detach task next ih => exact ⟨h.1, ih h.2⟩
  | wait wake leave next ih =>
    intro m hm
    obtain ⟨hw, hgo⟩ := h m hm
    exact ⟨hW hw, fun hh => ih (hgo hh)⟩

/-- **A change of the state**, which also yields something, after whatever the others have done. -/
theorem Abides.exchange {f : σ → β × σ} {s : σ}
    (h : ∀ s', T.rely s s' → T.guar s' (f s').2 ∧ ∀ s'', T.rely (f s').2 s'' → Q (.ok (f s').1) s'') :
    (exchange f).Abides T W Q s := fun m hm => h m.state hm

theorem Abides.update {f : σ → σ} {Q : Except Crash Unit → σ → Prop} {s : σ}
    (h : ∀ s', T.rely s s' → T.guar s' (f s') ∧ ∀ s'', T.rely (f s') s'' → Q (.ok ()) s'') :
    (update f).Abides T W Q s := fun m hm => h m.state hm

theorem Abides.clock {Q : Except Crash Nat → σ → Prop} {s : σ} (h : ∀ now s', T.rely s s' → Q (.ok now) s') :
    clock.Abides T W Q s := fun m hm => ⟨T.guar_refl _, fun s' hr => h m.now s' (T.rely_trans hm hr)⟩

/-- **A wait for the state**, which is over when it is so. -/
theorem Abides.until {ready : σ → Bool} {Q : Except Crash Unit → σ → Prop} {s : σ}
    (hW : ∀ s', T.rely s s' → W ⟨ready, none⟩ s')
    (h : ∀ s', T.rely s s' → ready s' = true → ∀ s'', T.rely s' s'' → Q (.ok ()) s'') :
    (until_ ready).Abides T W Q s := by
  intro m hm
  refine ⟨T.guar_refl _, ?_⟩
  have hholds : ∀ n : Moment σ, (⟨ready, none⟩ : Wake σ).holds n = ready n.state := by simp [Wake.holds]
  simp only [hholds]
  split
  next hh => exact h _ hm hh
  next =>
    intro n hn
    have hr := T.rely_trans hm hn
    refine ⟨hW _ hr, fun hh => ?_⟩
    rw [hholds] at hh
    exact h _ hr hh

/-- **What is released in any case.** -/
theorem Abides.releasing {release : σ → σ} {a : Activity σ β} {s : σ}
    (h : a.Abides T W (fun r s' => T.guar s' (release s') ∧ ∀ s'', T.rely (release s') s'' → Q r s'') s) :
    (releasing release a).Abides T W Q s := by
  induction a generalizing s with
  | done v => exact fun m hm => h m.state hm
  | crash why => exact fun m hm => h m.state hm
  | step act next ih =>
    intro m hm
    obtain ⟨hguar, hnext⟩ := h m hm
    exact ⟨hguar, ih m hnext⟩
  | detach task next ih => exact ⟨h.1, ih h.2⟩
  | wait wake leave next ih =>
    intro m hm
    obtain ⟨hW, hgo⟩ := h m hm
    exact ⟨hW, fun hh => ih (hgo hh)⟩

/-- **One that does little** abides by all terms that allow its steps, and keeps what everybody keeps. -/
theorem Quiet.abides {N : σ → σ → Prop} {p : Except Crash β → Prop} {X : σ → Prop} (hguar : ∀ {s t}, N s t → T.guar s t)
    (hleft : ∀ {s t}, N s t → T.left s t) (hset : ∀ {s t}, X s → N s t → X t) (hrely : ∀ {s t}, X s → T.rely s t → X t)
    (hW : ∀ {w s}, X s → W w s) (hQ : ∀ {r s}, X s → p r → Q r s) {a : Activity σ β} (ha : a.Quiet N p) {s : σ}
    (h : X s) : a.Abides T W Q s := by
  induction a generalizing s with
  | done v => exact fun s' hr => hQ (hrely h hr) ha
  | crash why => exact fun s' hr => hQ (hrely h hr) ha
  | step act next ih =>
    intro m hm
    exact ⟨hguar (ha m).1, ih m (ha m).2 (hset (hrely h hm) (ha m).1)⟩
  | detach task next ih => exact ⟨ha.1.mono hleft, ih ha.2 h⟩
  | wait wake leave next ih =>
    intro m hm
    have hX := hrely h hm
    exact ⟨hW hX, fun _ => ih ha.2 hX⟩

end Activity

/-! ## 4. A crew that keeps to its terms -/

namespace Crew

variable {ι : Type} {α : ι → Type} {T : ι → Terms σ} {L : σ → σ → Prop} {W : ι → Wake σ → σ → Prop}
  {Q : ∀ i, Except Crash (α i) → σ → Prop}

/-- **The members are on terms with each other**: each relies on no less than what the others guarantee, and the
tasks that are left to themselves do `L`. -/
structure OnTerms (T : ι → Terms σ) (L : σ → σ → Prop) : Prop where
  across : ∀ {i j s t}, i ≠ j → (T i).guar s t → (T j).rely s t
  left : ∀ {i s t}, (T i).left s t → L s t
  tasks : ∀ {i s t}, L s t → (T i).rely s t

/-- **Everybody keeps to the terms**, from where the crew is. -/
structure Keeping (T : ι → Terms σ) (L : σ → σ → Prop) (W : ι → Wake σ → σ → Prop)
    (Q : ∀ i, Except Crash (α i) → σ → Prop) (c : Crew σ α) : Prop where
  members : ∀ i, (c.rest i).Abides (T i) (W i) (Q i) c.moment.state
  tasks : ∀ task ∈ c.tasks, task.Keeps L

variable [DecidableEq ι] {c c' : Crew σ α}

/-- **A step**: everybody keeps to the terms, and the state changes as one of them allows. -/
theorem Keeping.step (hT : OnTerms T L) (h : c.Keeping T L W Q) (hstep : Step c c') :
    c'.Keeping T L W Q ∧ (c'.moment.state = c.moment.state ∨ (∃ i, (T i).guar c.moment.state c'.moment.state) ∨
      L c.moment.state c'.moment.state) := by
  cases hstep with
  | @member i move hmove =>
    obtain ⟨hguar, hrest, htasks⟩ := (h.members i).move hmove
    refine ⟨⟨fun j => ?_, fun task htask => ?_⟩, .inr (.inl ⟨i, hguar⟩)⟩
    · by_cases hij : j = i
      · subst hij
        simpa [after] using hrest
      · simpa [after, hij] using (h.members j).later (hT.across (Ne.symm hij) hguar)
    · rcases List.mem_append.mp htask with hin | hin
      · exact h.tasks task hin
      · exact (htasks task hin).mono hT.left
  | @task before behind task rest s hc hmove =>
    have hall : ∀ t ∈ before ++ task :: behind, t.Keeps L := hc ▸ h.tasks
    have htask := hall task (by simp)
    have hdone : L c.moment.state s ∧ rest.Keeps L ∨ c.moment.state = s ∧ rest.Keeps L := by
      cases task with
      | ended => cases hmove
      | step act next =>
        cases hmove
        exact .inl (htask c.moment)
      | wait wake next =>
        rw [Background.move?] at hmove
        split at hmove
        · cases hmove
          exact .inr ⟨rfl, htask⟩
        · cases hmove
    have hrest : rest.Keeps L := hdone.elim And.right And.right
    have hothers : ∀ t ∈ before ++ rest :: behind, t.Keeps L := by
      intro t ht
      rcases List.mem_append.mp ht with hin | hin
      · exact hall t (List.mem_append_left _ hin)
      · rcases List.mem_cons.mp hin with rfl | hin
        · exact hrest
        · exact hall t (by simp [hin])
    rcases hdone with ⟨hl, -⟩ | ⟨rfl, -⟩
    · exact ⟨⟨fun j => (h.members j).later (hT.tasks hl), hothers⟩, .inr (.inr hl)⟩
    · exact ⟨⟨h.members, hothers⟩, .inl rfl⟩
  | tick ht => exact ⟨⟨h.members, h.tasks⟩, .inl rfl⟩

/-- **A run**: everybody keeps to the terms all the way, and what every change keeps has been kept. -/
theorem Keeping.reaches (hT : OnTerms T L) {I : σ → Prop} (hI : ∀ {i s t}, I s → (T i).guar s t → I t)
    (hL : ∀ {s t}, I s → L s t → I t) (h : c.Keeping T L W Q) (hc : I c.moment.state) (hrun : Reaches c c') :
    c'.Keeping T L W Q ∧ I c'.moment.state := by
  induction hrun with
  | refl => exact ⟨h, hc⟩
  | tail _ hstep ih =>
    obtain ⟨hkeeps, hinv⟩ := ih
    obtain ⟨hkeeps', hchange⟩ := hkeeps.step hT hstep
    rcases hchange with heq | ⟨i, hguar⟩ | hl
    · exact ⟨hkeeps', heq ▸ hinv⟩
    · exact ⟨hkeeps', hI hinv hguar⟩
    · exact ⟨hkeeps', hL hinv hl⟩

end Crew

end ImageImport
