/-
# Crews with a story

What the members of a crew do to their common state can be told as a story: a list of notes, in the order in which
things happen.  A note is made in the same move as what it tells of, so that nobody comes between the two; an activity
that tells its story is therefore written down anew, with its notes.

That it does nothing else is what `Activity.Mirrors` says of the activity and the plain one.  Main statement:
`Crew.Seen.reaches`, a run of a crew is a run of the crew that tells its story, seen without the story.
-/
import ImageImport.Proofs.Concurrency.Crew
import ImageImport.Proofs.Concurrency.Forgetting
import Mathlib.Data.List.Forall2

namespace ImageImport

variable {σ σ' κ β γ : Type}

/-! ## 1. Stories -/

/-- **A state with a story**, what has happened so far in the order in which it has. -/
structure Told (σ κ : Type) where
  state : σ
  story : List κ

namespace Told

/-- What the story is told of. -/
def inside : Cell (Told σ κ) σ where
  get := state
  set u s := { s with state := u }

/-- One more note. -/
def tell (n : κ) (s : Told σ κ) : Told σ κ := { s with story := s.story ++ [n] }

/-- A change of the state, with a note of it. -/
def change (n : κ) (f : σ → σ) (s : Told σ κ) : Told σ κ := tell n (inside.modify f s)

@[simp] theorem tell_state (n : κ) (s : Told σ κ) : (tell n s).state = s.state := rfl

@[simp] theorem tell_story (n : κ) (s : Told σ κ) : (tell n s).story = s.story ++ [n] := rfl

@[simp] theorem change_state (n : κ) (f : σ → σ) (s : Told σ κ) : (change n f s).state = f s.state := rfl

@[simp] theorem change_story (n : κ) (f : σ → σ) (s : Told σ κ) : (change n f s).story = s.story ++ [n] := rfl

end Told

namespace Activity

/-- Make a note. -/
def telling (n : κ) : Activity (Told σ κ) Unit := update (Told.tell n)

/-- **Hold a lock**, with a note when the ticket is drawn and one when it is given back. -/
def holdingTold (lock : Cell σ Lock) (joins leaves : κ) (body : Activity (Told σ κ) β) : Activity (Told σ κ) β := do
  let ticket ← exchange fun s => ((lock.get s.state).join.1,
    Told.change joins (fun u => lock.set (lock.get u).join.2 u) s)
  releasing (Told.change leaves (lock.modify (Lock.leave ticket))) do
    until_ fun s => (lock.get s.state).isHeldBy ticket
    body

/-! ## 2. The story changes nothing -/

variable {C : Prop} {β' : Type} {R : β' → β → Prop}

/-- Beside a story an activity does what it does alone. -/
theorem mirrors_told (a : Activity σ β) : Mirrors (Told.state (κ := κ)) True Eq (a.on Told.inside) a := by
  have hget : ∀ s : Told σ κ, Cell.whole.get s.state = Told.inside.get s := fun _ => rfl
  have h : Mirrors (Told.state (κ := κ)) True Eq (a.on Told.inside) (a.on Cell.whole) :=
    mirrors_parts hget (fun _ _ => rfl) a
  rwa [on_whole] at h

/-- A note changes nothing. -/
theorem Mirrors.telling {n : κ} {f : Unit → Activity (Told σ κ) β'} {a : Activity σ β}
    (h : Mirrors Told.state C R (f ()) a) : Mirrors Told.state C R (telling n >>= f) a :=
  .quiet (fun _ => rfl) fun _ => h

theorem Mirrors.change {n : κ} {f : σ → σ} :
    Mirrors Told.state C Eq (Activity.update (Told.change n f)) (Activity.update f) := .update fun _ => rfl

/-- With a lock. -/
theorem Mirrors.holdingTold {lock : Cell σ Lock} {joins leaves : κ} {body' : Activity (Told σ κ) β'}
    {body : Activity σ β} (h : Mirrors Told.state C R body' body) :
    Mirrors Told.state C R (holdingTold lock joins leaves body') (holding lock body) := by
  refine Mirrors.bind (Mirrors.exchange (fun _ => rfl) fun _ => rfl) ?_
  rintro ticket _ rfl
  have hleave : ∀ s : Told σ κ, (Told.change leaves (lock.modify (Lock.leave ticket)) s).state =
      lock.modify (Lock.leave ticket) s.state := fun _ => rfl
  refine Mirrors.releasing hleave ?_
  exact Mirrors.bind (R := Eq) (Mirrors.waitOr ⟨fun s => (lock.get s).isHeldBy ticket, none⟩) fun _ => h

end Activity

/-! ## 3. The crew that tells its story -/

namespace Crew

open Activity

variable {ι : Type} {α : ι → Type} {view : σ' → σ}

/-- What is left of a member is the same but for what cannot be seen, has ended if the other has, and stands if the
other does. -/
structure Alike (view : σ' → σ) (a' : Activity σ' β) (a : Activity σ β) : Prop where
  mirrors : Mirrors view True Eq a' a
  ended : ∀ v, a = .done v → a' = .done v
  stands : ∀ m, a.move? (Moment.through view m) = none → a'.move? m = none

/-- **A crew seen through `view`.** -/
structure Seen (view : σ' → σ) (c' : Crew σ' α) (c : Crew σ α) : Prop where
  moment : c'.moment.through view = c.moment
  rest : ∀ i, Alike view (c'.rest i) (c.rest i)
  tasks : List.Forall₂ (Background.Mirrors view) c'.tasks c.tasks

variable [DecidableEq ι] {c' : Crew σ' α} {c d : Crew σ α}

/-- What cannot be seen of a member it does at once. -/
theorem catchUp {i : ι} {a : Activity σ (α i)} (h : Mirrors view True Eq (c'.rest i) a) :
    ∃ d' : Crew σ' α, Reaches c' d' ∧ d'.moment.through view = c'.moment.through view ∧
      (∃ a', d'.rest = Function.update c'.rest i a' ∧ Alike view a' a) ∧ d'.tasks = c'.tasks := by
  generalize ha : c'.rest i = a' at h
  induction h generalizing c' with
  | @done v' v hv =>
    subst hv
    refine ⟨c', .refl, rfl, ⟨.done v', by simp [← ha], .done rfl, fun w hw => ?_, fun _ _ => rfl⟩, rfl⟩
    cases hw
    rfl
  | crash hcrash => exact ⟨c', .refl, rfl, ⟨_, by simp [← ha], .crash hcrash, nofun, fun _ _ => rfl⟩, rfl⟩
  | step hact hnext => exact ⟨c', .refl, rfl, ⟨_, by simp [← ha], .step hact hnext, nofun, nofun⟩, rfl⟩
  | detach htask hnext => exact ⟨c', .refl, rfl, ⟨_, by simp [← ha], .detach htask hnext, nofun, nofun⟩, rfl⟩
  | wait hwake hleave hnext =>
    refine ⟨c', .refl, rfl, ⟨_, by simp [← ha], .wait hwake hleave hnext, nofun, fun m hm => ?_⟩, rfl⟩
    subst hwake
    rw [move?] at hm ⊢
    rw [Wake.holds_through]
    split at hm
    next => cases hm
    next hh => exact if_neg hh
  | @quiet act next a hact hnext ih =>
    let move : Move σ' (α i) := ⟨act c'.moment, next c'.moment, []⟩
    have hmove : (c'.rest i).move? c'.moment = some move := by rw [ha, move?]
    have hafter : (c'.after i move).rest i = next c'.moment := by simp [after, move]
    obtain ⟨d', hrun, hmoment, ⟨a', hrest, halike⟩, htasks⟩ := ih c'.moment hafter
    refine ⟨d', .head (.member i hmove) hrun, hmoment.trans ?_, ⟨a', ?_, halike⟩, htasks.trans ?_⟩
    · exact congrArg (Moment.mk _) (hact c'.moment)
    · rw [hrest]
      simp [after]
    · simp [after, move]

/-- A move that can be seen it makes too, after what cannot be seen. -/
theorem follow {i : ι} {a : Activity σ (α i)} {move : Move σ (α i)} (h : Mirrors view True Eq (c'.rest i) a)
    (hmove : a.move? (c'.moment.through view) = some move) :
    ∃ d' : Crew σ' α, Reaches c' d' ∧ d'.moment.through view = ⟨c'.moment.now, move.state⟩ ∧
      (∃ a', d'.rest = Function.update c'.rest i a' ∧ Mirrors view True Eq a' move.rest) ∧
        ∃ ts, d'.tasks = c'.tasks ++ ts ∧ List.Forall₂ (Background.Mirrors view) ts move.tasks := by
  generalize ha : c'.rest i = a' at h
  induction h generalizing c' with
  | done hv => cases hmove
  | crash hcrash => cases hmove
  | @quiet act next a hact hnext ih =>
    let quietMove : Move σ' (α i) := ⟨act c'.moment, next c'.moment, []⟩
    have hquiet : (c'.rest i).move? c'.moment = some quietMove := by rw [ha, move?]
    have hsame : (c'.after i quietMove).moment.through view = c'.moment.through view :=
      congrArg (Moment.mk _) (hact c'.moment)
    have hmove' : a.move? ((c'.after i quietMove).moment.through view) = some move := hsame ▸ hmove
    have hafter : (c'.after i quietMove).rest i = next c'.moment := by simp [after, quietMove]
    obtain ⟨d', hrun, hmoment, ⟨a', hrest, hmirrors⟩, ts, htasks, hts⟩ := ih c'.moment hmove' hafter
    refine ⟨d', .head (.member i hquiet) hrun, hmoment, ⟨a', ?_, hmirrors⟩, ts, ?_, hts⟩
    · rw [hrest]
      simp [after]
    · rw [htasks]
      simp [after, quietMove]
  | @step act' act next' next hact hnext ih =>
    cases hmove
    refine ⟨c'.after i ⟨act' c'.moment, next' c'.moment, []⟩, .single (.member i (by rw [ha, move?])), ?_,
      ⟨_, rfl, hnext c'.moment⟩, [], rfl, .nil⟩
    exact congrArg (Moment.mk _) (hact c'.moment)
  | @detach task' task next' next htask hnext ih =>
    cases hmove
    exact ⟨c'.after i ⟨c'.moment.state, next', [task']⟩, .single (.member i (by rw [ha, move?])), rfl,
      ⟨_, rfl, hnext⟩, [task'], rfl, .cons htask .nil⟩
  | @wait wake' wake leave' leave next' next hwake hleave hnext ih =>
    subst hwake
    rw [move?] at hmove
    split at hmove
    next hh =>
      cases hmove
      have hmove' : (c'.rest i).move? c'.moment = some ⟨c'.moment.state, next', []⟩ := by
        rw [ha, move?, Wake.holds_through, if_pos hh]
      exact ⟨c'.after i ⟨c'.moment.state, next', []⟩, .single (.member i hmove'), rfl, ⟨_, rfl, hnext⟩, [], rfl, .nil⟩
    next => cases hmove

/-- The same for a task that nobody waits for. -/
theorem followTask {before behind : List (Background σ')} {t' : Background σ'} {t rest : Background σ} {s : σ}
    (h : t'.Mirrors view t) (hc : c'.tasks = before ++ t' :: behind)
    (hmove : t.move? (c'.moment.through view) = some (s, rest)) :
    ∃ d' : Crew σ' α, Reaches c' d' ∧ d'.moment.through view = ⟨c'.moment.now, s⟩ ∧ d'.rest = c'.rest ∧
      ∃ rest', d'.tasks = before ++ rest' :: behind ∧ rest'.Mirrors view rest := by
  induction h generalizing c' with
  | ended => cases hmove
  | @quiet act next t hact hnext ih =>
    let d' : Crew σ' α :=
      { c' with moment := { c'.moment with state := act c'.moment }, tasks := before ++ next c'.moment :: behind }
    have hsame : d'.moment.through view = c'.moment.through view := congrArg (Moment.mk _) (hact c'.moment)
    have htasks : d'.tasks = before ++ next c'.moment :: behind := rfl
    obtain ⟨e', hrun, hmoment, hrest, hothers⟩ := ih c'.moment htasks (hsame ▸ hmove)
    exact ⟨e', .head (.task hc rfl) hrun, hmoment, hrest, hothers⟩
  | @step act' act next' next hact hnext ih =>
    cases hmove
    let d' : Crew σ' α :=
      { c' with moment := { c'.moment with state := act' c'.moment }, tasks := before ++ next' c'.moment :: behind }
    exact ⟨d', .single (.task hc rfl), congrArg (Moment.mk _) (hact c'.moment), rfl, _, rfl, hnext c'.moment⟩
  | @wait wake' wake next' next hwake hnext ih =>
    subst hwake
    rw [Background.move?] at hmove
    split at hmove
    next hh =>
      cases hmove
      have hmove' : (Background.wait (wake.through view) next').move? c'.moment = some (c'.moment.state, next') := by
        rw [Background.move?, Wake.holds_through, if_pos hh]
      exact ⟨{ c' with tasks := before ++ next' :: behind }, .single (.task hc hmove'), rfl, rfl, _, rfl, hnext⟩
    next => cases hmove

omit [DecidableEq ι] in
/-- Where nobody can make a move, nobody can make one that is not seen either. -/
theorem Seen.idle (h : Seen view c' c) (hc : c.Idle) : c'.Idle := fun i =>
  (h.rest i).stands c'.moment (by rw [h.moment]; exact hc i)

/-- **One step** of a crew is a run of the one it is seen of. -/
theorem Seen.step (h : Seen view c' c) (hstep : Step c d) : ∃ d', Reaches c' d' ∧ Seen view d' d := by
  obtain ⟨hmoment, hrest, htasks⟩ := h
  have hnow : c'.moment.now = c.moment.now := congrArg Moment.now hmoment
  cases hstep with
  | @member i move hmove =>
    obtain ⟨d', hrun, hmoment', ⟨a', hrest', hmirrors⟩, ts, htasks', hts⟩ :=
      follow (hrest i).mirrors (hmoment ▸ hmove)
    have hback : d'.rest i = a' := by simp [hrest']
    obtain ⟨e', hrun', hmoment'', ⟨b', hrest'', halike⟩, htasks''⟩ := catchUp (hback ▸ hmirrors)
    refine ⟨e', hrun.trans hrun', ?_, fun j => ?_, ?_⟩
    · rw [hmoment'', hmoment', hnow]
      rfl
    · rw [hrest'', hrest']
      by_cases hij : j = i
      · subst hij
        simpa [after] using halike
      · simpa [after, hij] using hrest j
    · rw [htasks'', htasks']
      exact List.rel_append htasks hts
  | @task before behind t rest s hc hmove =>
    rw [hc] at htasks
    have hbefore := List.forall₂_take_append _ _ _ htasks
    obtain ⟨t', behind', ht, hbehind, hdrop⟩ := List.forall₂_cons_right_iff.mp (List.forall₂_drop_append _ _ _ htasks)
    have hc' : c'.tasks = c'.tasks.take before.length ++ t' :: behind' := by rw [← hdrop, List.take_append_drop]
    obtain ⟨d', hrun, hmoment', hrest', rest', htasks', hrest''⟩ := followTask ht hc' (hmoment ▸ hmove)
    refine ⟨d', hrun, ?_, fun j => hrest' ▸ hrest j, ?_⟩
    · rw [hmoment', hnow]
    · rw [htasks']
      exact List.rel_append hbefore (.cons hrest'' hbehind)
  | @tick t ht =>
    refine ⟨{ c' with moment := { c'.moment with now := t } }, .single (.tick ?_), ?_, hrest, htasks⟩
    · exact hnow ▸ ht
    · rw [← hmoment]
      rfl

/-- **A run** of a crew is a run of the one it is seen of. -/
theorem Seen.reaches (h : Seen view c' c) (hrun : Reaches c d) : ∃ d', Reaches c' d' ∧ Seen view d' d := by
  induction hrun with
  | refl => exact ⟨c', .refl, h⟩
  | tail _ hstep ih =>
    obtain ⟨d', hrun', hseen⟩ := ih
    obtain ⟨e', hrun'', hseen'⟩ := hseen.step hstep
    exact ⟨e', hrun'.trans hrun'', hseen'⟩

end Crew

end ImageImport
