/-
# Parties that all keep one promise

Where everybody changes the state as one relation `R` says, whoever it is, everybody can rely on `R` and has
nothing more to promise: these are the terms `Terms.sharing`.  Activities on them can be raced and put beside one
another without a word about who does what (`sharing_split`), quiet ones are on them when `R` allows what they do
(`Quiet.meets_sharing`), and an activity on a part of the state is on them when it keeps on its part a promise
that makes up `R` (`Meets.on_sharing`).
-/
import ImageImport.Proofs.Concurrency.Running
import ImageImport.Proofs.Concurrency.Watching

namespace ImageImport

variable {σ τ α β : Type}

/-! ## 1. The terms -/

/-- A promise that can be kept by doing nothing, and by keeping it twice. -/
structure Promise (R : σ → σ → Prop) : Prop where
  refl : ∀ s, R s s
  trans : ∀ {s t u}, R s t → R t u → R s u

/-- **Everybody keeps the promise `R`.** -/
def Terms.sharing {R : σ → σ → Prop} (hR : Promise R) : Terms σ where
  rely := R
  guar := R
  left := R
  rely_refl := hR.refl
  rely_trans := hR.trans
  guar_refl := hR.refl
  guar_trans := hR.trans
  left_refl := hR.refl

/-- Where a wait is, is not asked. -/
abbrev Wake.anywhere : Wake σ → Moment σ → Prop := fun _ _ => True

variable {R : σ → σ → Prop} {hR : Promise R} {WA : Wake σ → Moment σ → Prop}

theorem sharing_split : (Terms.sharing hR).Split (.sharing hR) (.sharing hR) WA where
  rely_left := id
  rely_right := id
  across_left := id
  across_right := id
  guar_left := id
  guar_right := id
  left_left := id
  left_right := id
  inv_left _ := Iff.rfl
  inv_right _ := Iff.rfl
  turn_left _ := trivial
  turn_right _ _ _ := trivial

theorem sharing_closed : (Terms.sharing hR).Closed WA where
  left_rely := id
  left_inv _ _ := trivial
  tick _ _ _ _ _ := trivial
  turn _ := trivial

namespace Activity

variable {Q : Except Crash α → Moment σ → Prop} {a : Activity σ α} {m : Moment σ}

/-! ## 2. Who is on them -/

/-- **A quiet one**, where `R` allows what it does, and what is known is kept. -/
theorem Quiet.meets_sharing {N : σ → σ → Prop} {p : Except Crash α → Prop} {X : Moment σ → Prop}
    (hN : ∀ {s t}, N s t → R s t) (hX : Stable R X) (hQ : ∀ {r m}, X m → p r → Q r m) (ha : a.Quiet N p) (h : X m) :
    a.Meets (.sharing hR) Wake.anywhere Q m :=
  ha.meets (T := .sharing hR) hN hN (fun _ _ => trivial) (fun hx hn => hX hx (hN hn) (Nat.le_refl _)) hX
    (fun _ => trivial) (fun _ => trivial) hQ h

/-- What is kept by everybody may be used in the end. -/
theorem Meets.and_kept {X : Moment σ → Prop} (hX : Stable R X) (h : X m)
    (ha : a.Meets (.sharing hR) Wake.anywhere Q m) :
    a.Meets (.sharing hR) (fun _ => X) (fun r m' => X m' ∧ Q r m') m :=
  Meets.mono ⟨id, id, id, fun _ => Iff.rfl⟩ hX hX (fun _ => id) (fun hx _ => hx) (fun hx hq => ⟨hx, hq⟩) h ha

/-! ## 3. On a part of the state -/

/-- **An activity on a part** keeps the promise `R`, when what it keeps on its part makes up `R`. -/
theorem Meets.on_sharing {S : τ → τ → Prop} {hS : Promise S} {c : Cell σ τ} {Q : Except Crash α → Moment τ → Prop}
    (hrely : ∀ {s t}, R s t → S (c.get s) (c.get t)) (hguar : ∀ {s t}, S (c.get s) t → R s (c.set t s))
    {a : Activity τ α} {m : Moment σ}
    (ha : a.Meets (.sharing hS) Wake.anywhere Q ⟨m.now, c.get m.state⟩) :
    (a.on c).Meets (.sharing hR) Wake.anywhere (fun r m' => Q r ⟨m'.now, c.get m'.state⟩) m := by
  induction a generalizing m with
  | done v => exact ha
  | crash why => exact ha
  | step act next ih =>
    refine ⟨hguar ha.1, ih _ ?_⟩
    show Meets _ _ _ _ ⟨m.now, c.get (c.set _ m.state)⟩
    rw [c.get_set]
    exact ha.2
  | detach task next ih => exact ⟨ha.1.on fun _ _ h => hguar h, ih ha.2⟩
  | wait wake leave next ih =>
    obtain ⟨-, hleave, hnext⟩ := ha
    refine ⟨trivial, fun n => ⟨hguar (hleave ⟨n.now, c.get n.state⟩).1, fun _ => trivial⟩, fun m' hr _ hs => ?_⟩
    have hspan : wake.Spans ⟨m.now, c.get m.state⟩ ⟨m'.now, c.get m'.state⟩ :=
      ⟨hs.le, hs.due, fun h => hs.ready fun _ => h _⟩
    exact ⟨trivial, fun hh ht => ih ((hnext ⟨m'.now, c.get m'.state⟩ (hrely hr) trivial hspan).2 hh trivial)⟩

end Activity

end ImageImport
