/-
# Forgetting

An activity may keep a record of what it does, or act on a larger state than it needs, without doing
anything else for that.  `Mirrors view C R` relates such an activity to the plain one: seen through `view`
it makes the same steps, it makes others that cannot be seen, it waits for the same, and its value is
related by `R`.  `C` says whether it may crash at all.

The relation goes through everything that activities are put together from, one lemma for each, and
through runs: `Mirrors.run_attended`, a run of the one is a run of the other, seen through `view`.  What is
proved of watched activities (`Proofs/Concurrency/Watching.lean`) is therefore true of what they watch.
-/
import ImageImport.Concurrency.Run
import ImageImport.Proofs.Concurrency.Watching

namespace ImageImport

variable {σ σ' α α' β β' : Type}

/-! ## 1. The relation -/

/-- A moment seen through `view`. -/
def Moment.through (view : σ' → σ) (m : Moment σ') : Moment σ := ⟨m.now, view m.state⟩

/-- A wake condition on what is seen. -/
def Wake.through (view : σ' → σ) (w : Wake σ) : Wake σ' := ⟨fun s => w.ready (view s), w.due⟩

theorem Wake.holds_through (view : σ' → σ) (w : Wake σ) (m : Moment σ') :
    (w.through view).holds m = w.holds (m.through view) := rfl

/-- A task seen through `view`. -/
inductive Background.Mirrors (view : σ' → σ) : Background σ' → Background σ → Prop where
  | ended : Mirrors view .ended .ended
  | quiet {act : Moment σ' → σ'} {next : Moment σ' → Background σ'} {t : Background σ}
      (hact : ∀ m, view (act m) = view m.state) (hnext : ∀ m, Mirrors view (next m) t) :
      Mirrors view (.step act next) t
  | step {act' : Moment σ' → σ'} {act : Moment σ → σ} {next' : Moment σ' → Background σ'}
      {next : Moment σ → Background σ} (hact : ∀ m, view (act' m) = act (m.through view))
      (hnext : ∀ m, Mirrors view (next' m) (next (m.through view))) :
      Mirrors view (.step act' next') (.step act next)
  | wait {wake' : Wake σ'} {wake : Wake σ} {next' : Background σ'} {next : Background σ}
      (hwake : wake' = wake.through view) (hnext : Mirrors view next' next) :
      Mirrors view (.wait wake' next') (.wait wake next)

/-- **An activity seen through `view`.** -/
inductive Activity.Mirrors (view : σ' → σ) (C : Prop) (R : α' → α → Prop) :
    Activity σ' α' → Activity σ α → Prop where
  | done {x' : α'} {x : α} (h : R x' x) : Mirrors view C R (.done x') (.done x)
  | crash {why : Crash} (h : C) : Mirrors view C R (.crash why) (.crash why)
  | quiet {act : Moment σ' → σ'} {next : Moment σ' → Activity σ' α'} {a : Activity σ α}
      (hact : ∀ m, view (act m) = view m.state) (hnext : ∀ m, Mirrors view C R (next m) a) :
      Mirrors view C R (.step act next) a
  | step {act' : Moment σ' → σ'} {act : Moment σ → σ} {next' : Moment σ' → Activity σ' α'}
      {next : Moment σ → Activity σ α} (hact : ∀ m, view (act' m) = act (m.through view))
      (hnext : ∀ m, Mirrors view C R (next' m) (next (m.through view))) :
      Mirrors view C R (.step act' next') (.step act next)
  | detach {task' : Background σ'} {task : Background σ} {next' : Activity σ' α'}
      {next : Activity σ α} (htask : task'.Mirrors view task) (hnext : Mirrors view C R next' next) :
      Mirrors view C R (.detach task' next') (.detach task next)
  | wait {wake' : Wake σ'} {wake : Wake σ} {leave' : σ' → σ'} {leave : σ → σ}
      {next' : Activity σ' α'} {next : Activity σ α} (hwake : wake' = wake.through view)
      (hleave : ∀ s, view (leave' s) = leave (view s)) (hnext : Mirrors view C R next' next) :
      Mirrors view C R (.wait wake' leave' next') (.wait wake leave next)

/-- **Runs that end alike**, at the same instant and in states that look the same. -/
def Ending.Alike (view : σ' → σ) (R : α' → α → Prop) : Ending σ' α' → Ending σ α → Prop
  | .returned x' m', .returned x m => R x' x ∧ m = m'.through view
  | .crashed why' m', .crashed why m => why' = why ∧ m = m'.through view
  | .stalled m', .stalled m => m = m'.through view
  | _, _ => False

/-- A view of a view. -/
theorem Ending.Alike.trans {σ'' : Type} {view' : σ'' → σ'} {e'' : Ending σ'' α} {e' : Ending σ' α} {e : Ending σ α}
    (h' : Alike view' Eq e'' e') (h : Alike view Eq e' e) : Alike (fun s => view (view' s)) Eq e'' e := by
  match e'', e', e, h', h with
  | .returned _ _, .returned _ _, .returned _ _, ⟨rfl, rfl⟩, ⟨rfl, rfl⟩ => exact ⟨rfl, rfl⟩
  | .crashed _ _, .crashed _ _, .crashed _ _, ⟨rfl, rfl⟩, ⟨rfl, rfl⟩ => exact ⟨rfl, rfl⟩
  | .stalled _, .stalled _, .stalled _, rfl, rfl => exact rfl

/-! ## 2. Tasks that nobody waits for -/

theorem Background.Mirrors.beside {view : σ' → σ} {t' u' : Background σ'} {t u : Background σ}
    (ht : t'.Mirrors view t) (hu : u'.Mirrors view u) : (t'.beside u').Mirrors view (t.beside u) := by
  induction ht generalizing u' u with
  | ended => exact hu
  | quiet hact _ ih => exact .quiet hact fun m => ih m hu
  | step hact _ ih => exact .step hact fun m => ih m hu
  | @wait wake' wake next' next hwake hnext ih =>
    have held : ∀ {u' : Background σ'} {u : Background σ}, u'.Mirrors view u →
        (besideHeld wake' (.wait wake' next') (fun t => next'.beside t) u').Mirrors view
          (besideHeld wake (.wait wake next) (fun t => next.beside t) u) := by
      intro u' u hu
      induction hu with
      | ended => exact .wait hwake hnext
      | quiet hact _ ihu => exact .quiet hact ihu
      | step hact _ ihu => exact .step hact ihu
      | @wait v' v rest' rest hv hrest ihu =>
        subst hwake hv
        refine .wait rfl (.step (fun _ => rfl) fun m => ?_)
        show Mirrors view (if (wake.through view).holds m = true then _ else _)
          (if wake.holds (m.through view) = true then _ else _)
        rw [Wake.holds_through]
        split
        · exact ih (.wait rfl hrest)
        · exact ihu
    exact held hu

namespace Activity

variable {view : σ' → σ} {C C' : Prop} {R : α' → α → Prop} {S : β' → β → Prop}

theorem Mirrors.background {a' : Activity σ' α'} {a : Activity σ α} (h : Mirrors view C R a' a) :
    a'.background.Mirrors view a.background := by
  induction h with
  | done _ => exact .ended
  | crash _ => exact .ended
  | quiet hact _ ih => exact .quiet hact ih
  | step hact _ ih => exact .step hact ih
  | detach htask _ ih => exact htask.beside ih
  | wait hwake _ _ ih => exact .wait hwake ih

/-! ## 3. What activities are put together from -/

/-- **One after the other.** -/
theorem Mirrors.bind {a' : Activity σ' α'} {a : Activity σ α} {f' : α' → Activity σ' β'}
    {f : α → Activity σ β} (ha : Mirrors view C R a' a)
    (hf : ∀ {x' x}, R x' x → Mirrors view C S (f' x') (f x)) :
    Mirrors view C S (a'.bind f') (a.bind f) := by
  induction ha with
  | done h => exact hf h
  | crash h => exact .crash h
  | quiet hact _ ih => exact .quiet hact ih
  | step hact _ ih => exact .step hact ih
  | detach htask _ ih => exact .detach htask ih
  | wait hwake hleave _ ih => exact .wait hwake hleave ih

/-- The plain one does something with its value. -/
theorem Mirrors.bind_done {a' : Activity σ' α'} {a : Activity σ α} {g : α → β} {S : α' → β → Prop}
    (ha : Mirrors view C R a' a) (hg : ∀ {x' x}, R x' x → S x' (g x)) :
    Mirrors view C S a' (a.bind fun x => .done (g x)) := by
  induction ha with
  | done h => exact .done (hg h)
  | crash h => exact .crash h
  | quiet hact _ ih => exact .quiet hact ih
  | step hact _ ih => exact .step hact ih
  | detach htask _ ih => exact .detach htask ih
  | wait hwake hleave _ ih => exact .wait hwake hleave ih

theorem Mirrors.mono {R' : α' → α → Prop} {a' : Activity σ' α'} {a : Activity σ α}
    (h : Mirrors view C R a' a) (hC : C → C') (hR : ∀ {x' x}, R x' x → R' x' x) :
    Mirrors view C' R' a' a := by
  induction h with
  | done h => exact .done (hR h)
  | crash h => exact .crash (hC h)
  | quiet hact _ ih => exact .quiet hact ih
  | step hact _ ih => exact .step hact ih
  | detach htask _ ih => exact .detach htask ih
  | wait hwake hleave _ ih => exact .wait hwake hleave ih

/-- Ends of the same kind, with related values. -/
def Alike (R : α' → α → Prop) : Except Crash α' → Except Crash α → Prop
  | .ok x', .ok x => R x' x
  | .error why', .error why => why' = why
  | _, _ => False

theorem eq_of_alike {r' r : Except Crash α} (h : Alike Eq r' r) : r' = r := by
  match r', r, h with
  | .ok _, .ok _, h => exact congrArg Except.ok h
  | .error _, .error _, h => exact congrArg Except.error h

/-- Of values that are alike, what is the same is the same at the end. -/
theorem Alike.map_eq {γ : Type} {g' : α' → γ} {g : α → γ} {r' : Except Crash α'} {r : Except Crash α}
    (h : Alike R r' r) (hg : ∀ {x' x}, R x' x → g' x' = g x) : r'.map g' = r.map g := by
  cases r' with
  | ok x' =>
    cases r with
    | ok x => exact congrArg Except.ok (hg h)
    | error why => exact h.elim
  | error why' =>
    cases r with
    | ok x => exact h.elim
    | error why => exact congrArg Except.error h

/-- What is caught does not crash. -/
theorem Mirrors.caught {a' : Activity σ' α'} {a : Activity σ α} (h : Mirrors view C R a' a) :
    Mirrors view C' (Alike R) a'.caught a.caught := by
  induction h with
  | done h => exact .done h
  | crash _ => exact .done rfl
  | quiet hact _ ih => exact .quiet hact ih
  | step hact _ ih => exact .step hact ih
  | detach htask _ ih => exact .detach htask ih
  | wait hwake hleave _ ih => exact .wait hwake hleave ih

theorem Mirrors.pure {x' : α'} {x : α} (h : R x' x) :
    Mirrors view C R (Pure.pure x' : Activity σ' α') (Pure.pure x) := .done h

theorem Mirrors.clock : Mirrors view C Eq (clock : Activity σ' Nat) clock :=
  .step (fun _ => rfl) fun _ => .done rfl

theorem Mirrors.read {g' : σ' → α'} {g : σ → α} (h : ∀ s, R (g' s) (g (view s))) :
    Mirrors view C R (read g') (read g) := .step (fun _ => rfl) fun m => .done (h m.state)

theorem Mirrors.update {g' : σ' → σ'} {g : σ → σ} (h : ∀ s, view (g' s) = g (view s)) :
    Mirrors view C Eq (update g') (update g) := .step (fun m => h m.state) fun _ => .done rfl

theorem Mirrors.exchange {f' : σ' → α × σ'} {f : σ → α × σ} (hvalue : ∀ s, (f' s).1 = (f (view s)).1)
    (hstate : ∀ s, view (f' s).2 = (f (view s)).2) : Mirrors view C Eq (exchange f') (exchange f) :=
  .step (fun m => hstate m.state) fun m => .done (hvalue m.state)

/-- What is released in any case. -/
theorem Mirrors.releasing {release' : σ' → σ'} {release : σ → σ} (hrelease : ∀ s, view (release' s) = release (view s))
    {a' : Activity σ' α'} {a : Activity σ α} (h : Mirrors view C R a' a) :
    Mirrors view C R (releasing release' a') (releasing release a) := by
  induction h with
  | done h => exact .step (fun m => hrelease m.state) fun _ => .done h
  | crash h => exact .step (fun m => hrelease m.state) fun _ => .crash h
  | quiet hact _ ih => exact .quiet hact ih
  | step hact _ ih => exact .step hact ih
  | detach htask _ ih => exact .detach htask ih
  | wait hwake hleave _ ih => exact .wait hwake (fun s => by rw [hrelease, hleave]) ih

theorem Mirrors.waitOr (wake : Wake σ) :
    Mirrors view C Eq (waitOr (wake.through view) id) (waitOr wake id) := by
  refine .step (fun _ => rfl) fun m => ?_
  rw [Wake.holds_through]
  split
  · exact .done rfl
  · exact .wait rfl (fun _ => rfl) (.done rfl)

theorem Mirrors.spawned {a' : Activity σ' α'} {a : Activity σ α} (h : Mirrors view C R a' a) :
    Mirrors view C R (spawned a') (spawned a) := .wait rfl (fun _ => rfl) h

/-! ## 4. Races -/

/-- What is left is mirrored, and is given up alike. -/
def AlikeRests (view : σ' → σ) (C : Prop) (R : α' → α → Prop) (rest' : Activity σ' α')
    (rest : Activity σ α) : Prop :=
  Mirrors view C R rest' rest ∧ ∀ s, view (rest'.abandon s) = rest.abandon (view s)

/-- Races that end alike: the same one wins, and what is left of the loser is mirrored too. -/
def AlikeRaces (view : σ' → σ) (CA CB : Prop) (R : α' → α → Prop) (S : β' → β → Prop) :
    Race σ' α' β' → Race σ α β → Prop
  | .left x' rest', .left x rest => R x' x ∧ Mirrors view CB S rest' rest
  | .right rest' y', .right rest y => AlikeRests view CA R rest' rest ∧ S y' y
  | _, _ => False

theorem Mirrors.raceHeld {CA CB : Prop} (hCB : CB → C) {wake : Wake σ} {leave' : σ' → σ'}
    {leave : σ → σ} {next' : Activity σ' α'} {next : Activity σ α}
    {resume' : Activity σ' β' → Activity σ' (Race σ' α' β')}
    {resume : Activity σ β → Activity σ (Race σ α β)} (hleave : ∀ s, view (leave' s) = leave (view s))
    (hnext : Mirrors view CA R next' next)
    (hresume : ∀ {b' b}, Mirrors view CB S b' b → (∀ s, view (b'.abandon s) = b.abandon (view s)) →
      Mirrors view C (AlikeRaces view CA CB R S) (resume' b') (resume b))
    {b' : Activity σ' β'} {b : Activity σ β} (hb : Mirrors view CB S b' b) :
    Mirrors view C (AlikeRaces view CA CB R S)
      (raceHeld (wake.through view) leave' (Activity.wait (wake.through view) leave' next') resume' b')
      (raceHeld wake leave (Activity.wait wake leave next) resume b) := by
  induction hb with
  | done h => exact .done ⟨⟨.wait rfl hleave hnext, hleave⟩, h⟩
  | crash h => exact .step (fun m => hleave m.state) fun _ => .crash (hCB h)
  | quiet hact _ ih => exact .quiet hact ih
  | step hact _ ih => exact .step hact ih
  | detach htask _ ih => exact .detach htask ih
  | wait hwake hleave' hnext ih =>
    subst hwake
    refine .wait rfl (fun s => ?_) (.step (fun _ => rfl) fun m => ?_)
    · rw [hleave', hleave]
    · show Mirrors view C _ (if (wake.through view).holds m = true then _ else _)
        (if wake.holds (m.through view) = true then _ else _)
      rw [Wake.holds_through]
      split
      · exact hresume (.wait rfl hleave' hnext) hleave'
      · exact ih

/-- **A race of what is mirrored.**  If the left one may crash, the right one has to be given up alike
before it has started. -/
theorem Mirrors.race {CA CB : Prop} (hCA : CA → C) (hCB : CB → C) {a' : Activity σ' α'}
    {a : Activity σ α} {b' : Activity σ' β'} {b : Activity σ β} (ha : Mirrors view CA R a' a)
    (hb : Mirrors view CB S b' b) (hab : CA → ∀ s, view (b'.abandon s) = b.abandon (view s)) :
    Mirrors view C (AlikeRaces view CA CB R S) (race a' b') (race a b) := by
  induction ha generalizing b' b with
  | done h => exact .done ⟨h, hb⟩
  | crash h => exact .step (fun m => hab h m.state) fun _ => .crash (hCA h)
  | quiet hact _ ih => exact .quiet hact fun m => ih m hb hab
  | step hact _ ih => exact .step hact fun m => ih m hb hab
  | detach htask _ ih => exact .detach htask (ih hb hab)
  | wait hwake hleave hnext ih =>
    subst hwake
    exact Mirrors.raceHeld hCB hleave hnext (fun h habandon => ih h fun _ => habandon) hb

/-- A task with something else beside it. -/
theorem Mirrors.alongside {CA : Prop} (hCA : CA → C) {task' : Activity σ' α'} {task : Activity σ α}
    {a' : Activity σ' β'} {a : Activity σ β} (ht : Mirrors view CA R task' task)
    (ha : Mirrors view C S a' a) (hta : CA → ∀ s, view (a'.abandon s) = a.abandon (view s)) :
    Mirrors view C (fun x' x => Mirrors view CA R x'.1 x.1 ∧ S x'.2 x.2) (alongside task' a')
      (alongside task a) := by
  refine Mirrors.bind (Mirrors.race hCA id ht ha hta) fun {x' x} h => ?_
  match x', x, h with
  | .left v' rest', .left v rest, ⟨hv, hrest⟩ =>
    exact hrest.bind fun hw => .done ⟨.done hv, hw⟩
  | .right rest' v', .right rest v, ⟨hrest, hv⟩ => exact .done ⟨hrest.1, hv⟩

/-- Something with a task behind it. -/
theorem Mirrors.leading {CB : Prop} (hCB : CB → C) {a' : Activity σ' α'} {a : Activity σ α}
    {task' : Activity σ' β'} {task : Activity σ β} (ha : Mirrors view C R a' a)
    (ht : Mirrors view CB S task' task)
    (hta : C → ∀ s, view (task'.abandon s) = task.abandon (view s)) :
    Mirrors view C (fun x' x => Mirrors view CB S x'.1 x.1 ∧ R x'.2 x.2) (leading a' task')
      (leading a task) := by
  refine Mirrors.bind (Mirrors.race id hCB ha ht hta) fun {x' x} h => ?_
  match x', x, h with
  | .left v' rest', .left v rest, ⟨hv, hrest⟩ => exact .done ⟨hrest, hv⟩
  | .right rest' v', .right rest v, ⟨hrest, hv⟩ =>
    exact hrest.1.bind fun hw => .done ⟨.done hv, hw⟩

/-- Both to the end. -/
theorem Mirrors.both {a' : Activity σ' α'} {a : Activity σ α} {b' : Activity σ' β'} {b : Activity σ β}
    (ha : Mirrors view C R a' a) (hb : Mirrors view C S b' b) :
    Mirrors view C (fun x' x => R x'.1 x.1 ∧ S x'.2 x.2) (both a' b') (both a b) := by
  have hbegun : Mirrors view C S b'.begun b.begun := .step (fun _ => rfl) fun _ => hb
  refine Mirrors.bind (Mirrors.race id id ha hbegun fun _ _ => rfl) fun {x' x} h => ?_
  match x', x, h with
  | .left v' rest', .left v rest, ⟨hv, hrest⟩ => exact hrest.bind fun hw => .done ⟨hv, hw⟩
  | .right rest' v', .right rest v, ⟨hrest, hv⟩ => exact hrest.1.bind fun hw => .done ⟨hw, hv⟩

theorem Mirrors.sleep (ms : Nat) : Mirrors view C Eq (sleep ms : Activity σ' Unit) (sleep ms) :=
  .step (fun _ => rfl) fun m => Mirrors.waitOr ⟨fun _ => false, some (m.now + ms)⟩

/-- A value, or what is left. -/
def AlikeSums (view : σ' → σ) (C : Prop) (R : α' → α → Prop) :
    α' ⊕ Activity σ' α' → α ⊕ Activity σ α → Prop
  | .inl x', .inl x => R x' x
  | .inr rest', .inr rest => AlikeRests view C R rest' rest
  | _, _ => False

theorem Mirrors.waitedFor (ms : Nat) {a' : Activity σ' α'} {a : Activity σ α}
    (ha : Mirrors view C R a' a) :
    Mirrors view C (AlikeSums view C R) (waitedFor ms a') (waitedFor ms a) := by
  refine Mirrors.bind (Mirrors.race id id ha (.sleep ms) fun _ _ => rfl) fun {x' x} h => ?_
  match x', x, h with
  | .left v' _, .left v _, ⟨hv, _⟩ => exact .done hv
  | .right rest' _, .right rest _, ⟨hrest, _⟩ => exact .done hrest

/-- Values of the same kind, if there are any. -/
def AlikeOptions (R : α' → α → Prop) : Option α' → Option α → Prop
  | some x', some x => R x' x
  | none, none => True
  | _, _ => False

theorem eq_of_alikeOptions {x' x : Option α} (h : AlikeOptions Eq x' x) : x' = x := by
  match x', x, h with
  | some _, some _, h => exact congrArg some h
  | none, none, _ => rfl

theorem Mirrors.within (ms : Nat) {a' : Activity σ' α'} {a : Activity σ α}
    (ha : Mirrors view C R a' a) :
    Mirrors view C (AlikeOptions R) (within ms a') (within ms a) := by
  refine Mirrors.bind (Mirrors.waitedFor ms ha) fun {x' x} h => ?_
  match x', x, h with
  | .inl v', .inl v, hv => exact .done hv
  | .inr rest', .inr rest, ⟨_, habandon⟩ =>
    exact Mirrors.bind (Mirrors.update habandon) fun _ => .done trivial

/-- The run of a wait. -/
theorem run_wait (wake : Wake σ) (leave : σ → σ) (next : Activity σ α) (m : Moment σ) :
    (wait wake leave next).run m = if wake.ready m.state = true then next.run m else
      wake.due.elim (.stalled m) fun t => next.run { m with now := max m.now t } := by
  rw [run]
  split
  · rfl
  · cases wake.due <;> rfl

/-- As far as they get at once. -/
theorem Mirrors.settle {a' : Activity σ' α'} {a : Activity σ α} (ha : Mirrors view C R a' a) :
    Mirrors view C' (Mirrors view C R) a'.settle a.settle := by
  induction ha with
  | done h => exact .done (.done h)
  | crash h => exact .done (.crash h)
  | quiet hact _ ih => exact .quiet hact ih
  | step hact _ ih => exact .step hact ih
  | detach htask _ ih => exact .detach htask ih
  | @wait wake' wake leave' leave next' next hwake hleave hnext ih =>
    subst hwake
    refine .step (fun _ => rfl) fun m => ?_
    show Mirrors view C' _ (if (wake.through view).holds m = true then _ else _)
      (if wake.holds (m.through view) = true then _ else _)
    rw [Wake.holds_through]
    split
    · exact ih
    · exact .done (.wait rfl hleave hnext)

/-! ## 5. Runs -/

theorem Mirrors.attendedHeld {wake : Wake σ} {leave' : σ' → σ'} {leave : σ → σ}
    {resume' : Background σ' → Activity σ' α'} {resume : Background σ → Activity σ α}
    (hleave : ∀ s, view (leave' s) = leave (view s))
    (hresume : ∀ {t' t}, t'.Mirrors view t → Mirrors view C R (resume' t') (resume t))
    {t' : Background σ'} {t : Background σ} (ht : t'.Mirrors view t) :
    Mirrors view C R (attendedHeld (wake.through view) leave' resume' t')
      (attendedHeld wake leave resume t) := by
  induction ht with
  | ended => exact .wait rfl hleave (hresume .ended)
  | quiet hact _ ih => exact .quiet hact ih
  | step hact _ ih => exact .step hact ih
  | @wait v' v rest' rest hv hrest ih =>
    subst hv
    refine .wait rfl hleave (.step (fun _ => rfl) fun m => ?_)
    show Mirrors view C _ (if (v.through view).holds m = true then _ else _)
      (if v.holds (m.through view) = true then _ else _)
    rw [Wake.holds_through]
    split
    · exact ih
    · exact hresume (.wait rfl hrest)

theorem Mirrors.attending {a' : Activity σ' α'} {a : Activity σ α} {t' : Background σ'}
    {t : Background σ} (ht : t'.Mirrors view t) (ha : Mirrors view C R a' a) :
    Mirrors view C R (attending t' a') (attending t a) := by
  induction ha generalizing t' t with
  | done h => exact .done h
  | crash h => exact .crash h
  | quiet hact _ ih => exact .quiet hact fun m => ih m ht
  | step hact _ ih => exact .step hact fun m => ih m ht
  | detach htask _ ih => exact ih (ht.beside htask)
  | wait hwake hleave _ ih =>
    subst hwake
    exact Mirrors.attendedHeld hleave (fun h => ih h) ht

theorem Mirrors.run {a' : Activity σ' α'} {a : Activity σ α} (h : Mirrors view C R a' a)
    (m : Moment σ') : Ending.Alike view R (a'.run m) (a.run (m.through view)) := by
  induction h generalizing m with
  | done h => exact ⟨h, rfl⟩
  | crash _ => exact ⟨rfl, rfl⟩
  | @quiet act next a hact _ ih =>
    have hsame : Moment.through view ⟨m.now, act m⟩ = m.through view :=
      congrArg (Moment.mk m.now) (hact m)
    have hrun := ih m ⟨m.now, act m⟩
    rw [hsame] at hrun
    exact hrun
  | @step act' act next' next hact _ ih =>
    have hsame : Moment.through view ⟨m.now, act' m⟩ = ⟨m.now, act (m.through view)⟩ :=
      congrArg (Moment.mk m.now) (hact m)
    have hrun := ih m ⟨m.now, act' m⟩
    rw [hsame] at hrun
    exact hrun
  | detach _ _ ih => exact ih m
  | @wait wake' wake leave' leave next' next hwake hleave _ ih =>
    subst hwake
    rw [run_wait, run_wait]
    -- the one wait is over exactly if the other one is
    by_cases hready : wake.ready (m.through view).state = true
    · have hready' : (wake.through view).ready m.state = true := hready
      rw [if_pos hready', if_pos hready]
      exact ih m
    · have hready' : ¬ (wake.through view).ready m.state = true := hready
      rw [if_neg hready', if_neg hready]
      have hdue : (wake.through view).due = wake.due := rfl
      rw [hdue]
      cases wake.due with
      | some t => exact ih { m with now := max m.now t }
      | none => exact rfl

/-- **What is mirrored runs alike**, with the tasks it leaves behind. -/
theorem Mirrors.run_attended {a' : Activity σ' α'} {a : Activity σ α} (h : Mirrors view C R a' a)
    (m : Moment σ') : Ending.Alike view R (a'.attended.run m) (a.attended.run (m.through view)) :=
  (Mirrors.attending .ended h).run m

end Activity

/-! ## 6. On a part

What is mirrored on a part of the state is mirrored on the whole, when the parts look alike. -/

section Part

variable {τ τ' : Type} {view₀ : τ' → τ} {view : σ' → σ} {c' : Cell σ' τ'} {c : Cell σ τ}

theorem Moment.through_get (hget : ∀ s, c.get (view s) = view₀ (c'.get s)) (m : Moment σ') :
    Moment.through view₀ ⟨m.now, c'.get m.state⟩ = ⟨m.now, c.get (view m.state)⟩ :=
  congrArg (Moment.mk m.now) (hget m.state).symm

theorem Background.Mirrors.on (hget : ∀ s, c.get (view s) = view₀ (c'.get s))
    (hset : ∀ t s, view (c'.set t s) = c.set (view₀ t) (view s)) {t' : Background τ'} {t : Background τ}
    (h : t'.Mirrors view₀ t) : (t'.on c').Mirrors view (t.on c) := by
  induction h with
  | ended => exact .ended
  | quiet hact _ ih =>
    refine .quiet (fun m => ?_) fun m => ih ⟨m.now, c'.get m.state⟩
    rw [hset, hact, ← hget, c.set_get]
  | @step _ act _ _ hact _ ih =>
    refine .step (fun m => ?_) fun m => ?_
    · show view (c'.set _ m.state) = c.set (act ⟨m.now, c.get (view m.state)⟩) (view m.state)
      rw [hset, hact, hget]
      rfl
    · have hnext := ih ⟨m.now, c'.get m.state⟩
      rwa [Moment.through_get hget] at hnext
  | wait hwake _ ih =>
    subst hwake
    refine .wait ?_ ih
    simp only [Wake.through, hget]

namespace Activity

variable {C : Prop} {R : α' → α → Prop}

theorem Mirrors.on (hget : ∀ s, c.get (view s) = view₀ (c'.get s))
    (hset : ∀ t s, view (c'.set t s) = c.set (view₀ t) (view s)) {a' : Activity τ' α'} {a : Activity τ α}
    (h : Mirrors view₀ C R a' a) : Mirrors view C R (a'.on c') (a.on c) := by
  induction h with
  | done h => exact .done h
  | crash h => exact .crash h
  | quiet hact _ ih =>
    refine .quiet (fun m => ?_) fun m => ih ⟨m.now, c'.get m.state⟩
    rw [hset, hact, ← hget, c.set_get]
  | @step _ act _ _ hact _ ih =>
    refine .step (fun m => ?_) fun m => ?_
    · show view (c'.set _ m.state) = c.set (act ⟨m.now, c.get (view m.state)⟩) (view m.state)
      rw [hset, hact, hget]
      rfl
    · have hnext := ih ⟨m.now, c'.get m.state⟩
      rwa [Moment.through_get hget] at hnext
  | detach htask _ ih => exact .detach (htask.on hget hset) ih
  | wait hwake hleave _ ih =>
    subst hwake
    refine .wait ?_ (fun s => ?_) ih
    · simp only [Wake.through, hget]
    · rw [Cell.modify, hset, hleave, ← hget]
      rfl

/-- Whatever it is, an activity mirrors itself. -/
theorem mirrors_self (a : Activity τ α) : Mirrors id True Eq a a := by
  have hb : ∀ t : Background τ, t.Mirrors id t := by
    intro t
    induction t with
    | ended => exact .ended
    | step act next ih => exact .step (fun _ => rfl) ih
    | wait wake next ih => exact .wait rfl ih
  induction a with
  | done v => exact .done rfl
  | crash why => exact .crash trivial
  | step act next ih => exact .step (fun _ => rfl) ih
  | detach task next ih => exact .detach (hb task) ih
  | wait wake leave next ih => exact .wait rfl (fun _ => rfl) ih

/-- **The same activity on two parts that look the same.** -/
theorem mirrors_parts {c' : Cell σ' τ} (hget : ∀ s, c.get (view s) = c'.get s)
    (hset : ∀ t s, view (c'.set t s) = c.set t (view s)) (a : Activity τ α) :
    Mirrors view True Eq (a.on c') (a.on c) := by
  have hlook : ∀ s, c.get (view s) = id (c'.get s) := hget
  exact (mirrors_self a).on hlook hset

end Activity

end Part

/-! ## 7. What is watched -/

section Watched

variable {υ κ τ : Type} {C : Prop}

namespace Activity

theorem mirrors_on (c : Cell υ τ) (a : Activity τ α) :
    Mirrors (Watched.state (κ := κ)) True Eq (a.on (Watched.part c)) (a.on c) := by
  have hget : ∀ s : Watched υ κ, c.get s.state = (Watched.part c).get s := fun _ => rfl
  exact mirrors_parts hget (fun _ _ => rfl) a

theorem Mirrors.note {n : κ} {f : Unit → Activity (Watched υ κ) α'} {a : Activity υ α}
    {R : α' → α → Prop} (h : Mirrors Watched.state C R (f ()) a) :
    Mirrors Watched.state C R (note n >>= f) a := .quiet (fun _ => rfl) fun _ => h

/-- **Notes change nothing.** -/
theorem Mirrors.watching {R : α' → α → Prop} {called : κ} {ended : Except Crash α' → κ}
    {a' : Activity (Watched υ κ) α'} {a : Activity υ α} (h : Mirrors Watched.state C R a' a) :
    Mirrors Watched.state C R (watching called ended a') a := by
  have hrest : Mirrors Watched.state C R
      (a'.caught.bind fun r => Activity.note (ended r) >>= fun _ => revive r) a := by
    induction h with
    | done h => exact .note (.done h)
    | crash h => exact .note (.crash h)
    | quiet hact _ ih => exact .quiet hact ih
    | step hact _ ih => exact .step hact ih
    | detach htask _ ih => exact .detach htask ih
    | wait hwake hleave _ ih => exact .wait hwake hleave ih
  exact .note hrest

/-- **Notes on both sides**, which are the same as far as they are seen. -/
theorem Mirrors.watching_both {υ' : Type} {view : Watched υ' κ → Watched υ κ} {R : α' → α → Prop} {called : κ}
    {ended' : Except Crash α' → κ} {ended : Except Crash α → κ} {a' : Activity (Watched υ' κ) α'}
    {a : Activity (Watched υ κ) α}
    (hcalled : ∀ m, view (Watched.noted called m) = Watched.noted called (m.through view))
    (hended : ∀ {r' r}, Alike R r' r → ∀ m, view (Watched.noted (ended' r') m) =
      Watched.noted (ended r) (m.through view)) (h : Mirrors view True R a' a) :
    Mirrors view True R (Activity.watching called ended' a') (Activity.watching called ended a) := by
  have hcaught : Mirrors view True (Alike R) a'.caught a.caught := h.caught
  refine .step hcalled fun _ => hcaught.bind fun {r' r} hr => ?_
  refine .step (hended hr) fun _ => ?_
  match r', r, hr with
  | .ok _, .ok _, hr => exact .done hr
  | .error _, .error _, hr =>
    cases hr
    exact .crash trivial

/-- An activity on the whole is the activity. -/
theorem on_whole (a : Activity σ α) : a.on .whole = a := by
  have hb : ∀ t : Background σ, t.on .whole = t := by
    intro t
    induction t with
    | ended => rfl
    | step act next ih => exact congrArg (Background.step act) (funext fun m => ih m)
    | wait wake next ih => exact congrArg (Background.wait wake) ih
  induction a with
  | done v => rfl
  | crash why => rfl
  | step act next ih => exact congrArg (Activity.step act) (funext fun m => ih m)
  | detach task next ih =>
    show Activity.detach (task.on .whole) (next.on .whole) = _
    rw [hb task, ih]
  | wait wake leave next ih => exact congrArg (Activity.wait wake leave) ih

/-- Beside notes it does what it does alone. -/
theorem mirrors_inside (a : Activity υ α) :
    Mirrors (Watched.state (κ := κ)) True Eq (a.on Watched.inside) a := by
  have h : Mirrors (Watched.state (κ := κ)) True Eq (a.on (Watched.part Cell.whole)) (a.on Cell.whole) := mirrors_on _ a
  rw [on_whole] at h
  exact h

end Activity

end Watched

end ImageImport
