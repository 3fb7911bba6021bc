/-
# Members that part

Two activities may make the same moves for a while and then go different ways.  `Together P` relates the two: wherever
they part, `P` holds of what is left of them.  Neither can end before that.

Crews that differ in one such member run alike until it parts.  Main statement: `Crew.Abreast.parted`, in a run at whose
end the member has ended there is a moment at which it parts, and the other crew can come to the same moment.  What
the member can still yield at that moment is another question, and `YieldsOnly` is one answer to it.
-/
import ImageImport.Proofs.Concurrency.Crew

namespace ImageImport

variable {σ β γ : Type}

/-! ## 1. Activities that part -/

namespace Activity

/-- **The same moves, up to where they part.** -/
inductive Together (P : Activity σ β → Activity σ β → Prop) : Activity σ β → Activity σ β → Prop where
  | parted {a b : Activity σ β} (h : P a b) : Together P a b
  | crash (why : Crash) : Together P (.crash why) (.crash why)
  | step (act : Moment σ → σ) {next next' : Moment σ → Activity σ β} (h : ∀ m, Together P (next m) (next' m)) :
      Together P (.step act next) (.step act next')
  | detach (task : Background σ) {next next' : Activity σ β} (h : Together P next next') :
      Together P (.detach task next) (.detach task next')
  | wait (wake : Wake σ) (leave : σ → σ) {next next' : Activity σ β} (h : Together P next next') :
      Together P (.wait wake leave next) (.wait wake leave next')

/-- **They part no earlier than after `a`** if they both begin with it. -/
theorem Together.bind {P : Activity σ γ → Activity σ γ → Prop} (a : Activity σ β) {f g : β → Activity σ γ}
    (h : ∀ v, Together P (f v) (g v)) : Together P (a.bind f) (a.bind g) := by
  induction a with
  | done v => exact h v
  | crash why => exact .crash why
  | step act next ih => exact .step act ih
  | detach task next ih => exact .detach task ih
  | wait wake leave next ih => exact .wait wake leave ih

/-- The same where something is released in any case. -/
theorem Together.releasing_bind {P : Activity σ γ → Activity σ γ → Prop} {release : σ → σ} (a : Activity σ β)
    {f g : β → Activity σ γ} (h : ∀ v, Together P (releasing release (f v)) (releasing release (g v))) :
    Together P (releasing release (a.bind f)) (releasing release (a.bind g)) := by
  induction a with
  | done v => exact h v
  | crash why => exact .step _ fun _ => .crash why
  | step act next ih => exact .step act ih
  | detach task next ih => exact .detach task ih
  | wait wake leave next ih => exact .wait wake _ ih

/-- **It can yield nothing else**, whatever else it does. -/
abbrev YieldsOnly (v : β) (a : Activity σ β) : Prop :=
  a.Always (fun _ _ => True) (fun _ => True) fun r => ∀ w, r = .ok w → w = v

/-- After a move it can yield nothing else either. -/
theorem YieldsOnly.move {v : β} {a : Activity σ β} {m : Moment σ} {move : Move σ β} (h : a.YieldsOnly v)
    (hmove : a.move? m = some move) : move.rest.YieldsOnly v := by
  cases a with
  | done w => cases hmove
  | crash why => cases hmove
  | step act next =>
    cases hmove
    exact (h m).2
  | detach task next =>
    cases hmove
    exact h.2
  | wait wake leave next =>
    rw [move?] at hmove
    split at hmove
    next =>
      cases hmove
      exact h.2
    next => cases hmove

end Activity

/-! ## 2. Crews with a member that parts -/

namespace Crew

open Activity

variable {ι : Type} {α : ι → Type} {i : ι} {P : Activity σ (α i) → Activity σ (α i) → Prop} {c c' d : Crew σ α}

/-- **Crews alike but for one member**, which may part. -/
structure Abreast (i : ι) (P : Activity σ (α i) → Activity σ (α i) → Prop) (c d : Crew σ α) : Prop where
  moment : d.moment = c.moment
  tasks : d.tasks = c.tasks
  others : ∀ j, j ≠ i → d.rest j = c.rest j
  member : Together P (c.rest i) (d.rest i)

variable [DecidableEq ι]

/-- **A step of the one is a step of the other**, unless the member parts. -/
theorem Abreast.step (h : Abreast i P c d) (hstep : Step c c') :
    P (c.rest i) (d.rest i) ∨ ∃ d', Step d d' ∧ Abreast i P c' d' := by
  obtain ⟨hmoment, htasks, hothers, hmember⟩ := h
  cases hstep with
  | @member j move hmove =>
    by_cases hj : j = i
    · subst hj
      -- the move of the member is a move of the other one
      have hsame : P (c.rest j) (d.rest j) ∨ ∃ rest', (d.rest j).move? c.moment = some { move with rest := rest' } ∧
          Together P move.rest rest' := by
        generalize c.rest j = a at hmove hmember ⊢
        generalize d.rest j = b at hmember ⊢
        cases hmember with
        | parted hp => exact .inl hp
        | crash why => cases hmove
        | step act hnext =>
          cases hmove
          exact .inr ⟨_, rfl, hnext _⟩
        | detach task hnext =>
          cases hmove
          exact .inr ⟨_, rfl, hnext⟩
        | wait wake leave hnext =>
          rw [move?] at hmove
          split at hmove
          next hholds =>
            cases hmove
            exact .inr ⟨_, by rw [move?, if_pos hholds], hnext⟩
          next => cases hmove
      rcases hsame with hp | ⟨rest', hmove', htogether⟩
      · exact .inl hp
      · refine .inr ⟨_, .member j (hmoment ▸ hmove'), ?_, ?_, fun k hk => ?_, ?_⟩
        · simp [after, hmoment]
        · simp [after, htasks]
        · simp [after, hk, hothers k hk]
        · simpa [after] using htogether
    · refine .inr ⟨_, .member j (by rw [hothers j hj, hmoment]; exact hmove), ?_, ?_, fun k hk => ?_, ?_⟩
      · simp [after, hmoment]
      · simp [after, htasks]
      · by_cases hkj : k = j
        · subst hkj
          simp [after]
        · simp [after, hkj, hothers k hk]
      · simpa [after, Ne.symm hj] using hmember
  | @task before behind task rest s hc hmove =>
    exact .inr ⟨_, .task (htasks.trans hc) (by rw [hmoment]; exact hmove), by simp [hmoment], rfl, hothers, hmember⟩
  | @tick t ht =>
    exact .inr ⟨_, .tick (t := t) (by rw [hmoment]; exact ht), by simp [hmoment], htasks, hothers, hmember⟩

/-- **Where the member has ended, it has parted before**, and the other crew can come to where it did. -/
theorem Abreast.parted (h : Abreast i P c d) (hrun : Reaches c c') {v : α i} (hend : c'.rest i = .done v) :
    ∃ c₀ d₀, Reaches c c₀ ∧ Reaches c₀ c' ∧ Reaches d d₀ ∧ Abreast i P c₀ d₀ ∧ P (c₀.rest i) (d₀.rest i) := by
  induction hrun using Relation.ReflTransGen.head_induction_on generalizing d with
  | refl =>
    have hmember := h.member
    rw [hend] at hmember
    cases hmember with
    | parted hp => exact ⟨c', d, .refl, .refl, .refl, h, hend ▸ hp⟩
  | head hstep hrest ih =>
    rcases h.step hstep with hp | ⟨d', hstep', h'⟩
    · exact ⟨_, d, .refl, .head hstep hrest, .refl, h, hp⟩
    · obtain ⟨c₀, d₀, hto, hfrom, hother, habreast, hp⟩ := ih h'
      exact ⟨c₀, d₀, .head hstep hto, hfrom, .head hstep' hother, habreast, hp⟩

/-- **What a member can yield** does not change any more. -/
theorem yieldsOnly_reaches {v : α i} (h : (c.rest i).YieldsOnly v) (hrun : Reaches c c') :
    (c'.rest i).YieldsOnly v := by
  induction hrun with
  | refl => exact h
  | tail _ hstep ih =>
    cases hstep with
    | @member j move hmove =>
      by_cases hj : j = i
      · subst hj
        simpa [after] using YieldsOnly.move ih hmove
      · simpa [after, Ne.symm hj] using ih
    | task => exact ih
    | tick => exact ih

end Crew

end ImageImport
