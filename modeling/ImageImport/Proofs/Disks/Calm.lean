/-
# Calls that come back

Most of what an import does touches no disk of its own making.  `Calm` says of an activity that it writes no
notes, leaves alone what inflation has left, and does not crash, wherever it is run; one lemma for each way of
putting activities together says that it stays so.  `Platform.Answers` says it of a platform: none of its
calls crashes.

What a call notes is `noting_meets`: that it was made, while it is waited for, and that it has come back.
-/
import ImageImport.Proofs.Concurrency.Releasing
import ImageImport.Proofs.Concurrency.Uniform
import ImageImport.Proofs.Disks.History

namespace ImageImport

open Watched (Adds)

variable {σ υ κ ρ α β : Type}

/-! ## 1. Calm activities -/

namespace Activity

/-- An end that is not a crash. -/
def Returns (r : Except Crash α) : Prop := ∃ v, r = .ok v

theorem returns_ok (v : α) : Returns (.ok v : Except Crash α) := ⟨v, rfl⟩

theorem not_returns {why : Crash} : ¬ Returns (.error why : Except Crash α) := fun ⟨_, h⟩ => nomatch h

/-- That an end is no crash does not depend on its value. -/
theorem uniform_returns : Uniform Returns := ⟨returns_ok, fun h => absurd h not_returns⟩

/-- **It writes nothing, and does not crash.** -/
abbrev Calm (slot : υ → ρ) (a : Activity (Watched υ κ) α) : Prop := a.Quiet (Unnoted slot) Returns

namespace Calm

variable {slot : υ → ρ} {a : Activity (Watched υ κ) α} {b : Activity (Watched υ κ) β}

theorem done (v : α) : (done v : Activity (Watched υ κ) α).Calm slot := returns_ok v

theorem bind {f : α → Activity (Watched υ κ) β} (ha : a.Calm slot) (hf : ∀ v, (f v).Calm slot) :
    (a.bind f).Calm slot := uniform_returns.bind ha hf

theorem update {f : Watched υ κ → Watched υ κ} (hf : ∀ s, Unnoted slot s (f s)) : (update f).Calm slot :=
  uniform_returns.update hf

theorem read {f : Watched υ κ → α} : (read f).Calm slot := uniform_returns.read fun _ => ⟨rfl, rfl⟩

theorem andThen {ε γ : Type} {a : Activity (Watched υ κ) (Except ε α)}
    {f : α → Activity (Watched υ κ) (Except ε γ)} (ha : a.Calm slot) (hf : ∀ v, (f v).Calm slot) :
    (a.andThen f).Calm slot := uniform_returns.andThen ha hf

theorem mapFault {ε ε' : Type} {g : ε → ε'} {a : Activity (Watched υ κ) (Except ε α)} (ha : a.Calm slot) :
    (a.mapFault g).Calm slot := uniform_returns.mapFault ha

theorem both (ha : a.Calm slot) (hb : b.Calm slot) : (both a b).Calm slot :=
  uniform_returns.both (fun _ => ⟨rfl, rfl⟩) (Unnoted.all_trans slot) ha hb

end Calm

end Activity

/-! ## 2. Platforms whose calls come back -/

open DiskHistory Activity

/-- **None of the calls crashes**, and every step of them is one of `N`. -/
abbrev Platform.Answers (N : σ → σ → Prop) (p : Platform σ) : Prop := p.Does N Returns

/-- **What the platform answers, it answers beside notes**, and writes none. -/
theorem Platform.Answers.watched {slot : υ → ρ} {p : Platform υ} (h : p.Answers fun s t => slot t = slot s) :
    (p.watched : Platform (Watched υ κ)).Answers (Unnoted slot) := by
  have hon : ∀ {α : Type} {a : Activity υ α}, a.Quiet (fun s t => slot t = slot s) Returns →
      (a.on (Watched.inside : Cell (Watched υ κ) υ)).Quiet (Unnoted slot) Returns := fun ha =>
    ha.on (fun _ _ hN => ⟨rfl, hN⟩) fun _ hK => hK.on fun _ _ hN => ⟨rfl, hN⟩
  exact
    { createDisk := fun _ _ _ => hon (h.createDisk ..)
      getDisk := fun _ _ _ => hon (h.getDisk ..)
      deleteDisk := fun _ _ _ => hon (h.deleteDisk ..)
      updateDiskMetadata := fun _ _ _ _ => hon (h.updateDiskMetadata ..)
      createImage := fun _ _ => hon (h.createImage ..)
      getImage := fun _ _ => hon (h.getImage ..)
      openReader := fun _ _ => hon (h.openReader ..)
      objectSize := fun _ _ => hon (h.objectSize ..)
      inspect := fun _ => hon (h.inspect _)
      runWorkflow := fun _ _ _ hrecord => hon (h.runWorkflow _ _ _ fun inst line s => (hrecord inst line ⟨s, []⟩).2)
      log := fun _ _ _ => ⟨rfl, h.log ..⟩ }

/-! ## 3. What a call notes -/

namespace DiskHistory

/-- Whoever notes other calls leaves these notes as they are. -/
theorem about_of_adds {f : DiskCall → Bool} {theirs : DiskNote → Prop}
    (htheirs : ∀ n, theirs n → f n.call = false) {s t : Watched υ DiskNote} (h : Adds theirs s t) :
    about f t.seen = about f s.seen := by
  obtain ⟨l, hl, hs⟩ := h
  have hnone : about f l = [] := List.filter_eq_nil_iff.mpr fun n hn => by simp [htheirs _ (hl n hn)]
  rw [hs, about_append, hnone, List.append_nil]

theorem about_noted {f : DiskCall → Bool} {n : DiskNote} (hn : f n.call = true) (m : Moment (Watched υ DiskNote)) :
    about f (Watched.noted n m).seen = about f m.state.seen ++ [(m.now, n)] := by
  show about f (m.state.seen ++ [(m.now, n)]) = _
  rw [about_append]
  exact congrArg _ (List.filter_cons_of_pos hn)

end DiskHistory

/-- The terms of one that notes the calls of `f`, beside others that note what is `theirs`. -/
abbrev Terms.calling (f : DiskCall → Bool) (theirs : DiskNote → Prop) (slot : υ → ρ) : Terms (Watched υ DiskNote) :=
  .noting (fun n => f n.call = true) theirs slot

/-- **A call that is noted**, from before it is made until it has come back. -/
theorem Activity.noting_meets {f : DiskCall → Bool} {theirs : DiskNote → Prop} {slot : υ → ρ}
    (htheirs : ∀ n, theirs n → f n.call = false) {c : DiskCall} (hc : f c = true) {p : Except Crash α → Prop}
    {a : Activity (Watched υ DiskNote) α} (ha : a.Quiet (Unnoted slot) p) {m : Moment (Watched υ DiskNote)}
    {h : DiskHistory} (hm : about f m.state.seen = h) :
    (a.noting c).Meets (.calling f theirs slot)
      (fun _ m' => about f m'.state.seen = h ++ [(m.now, .called c)])
      (fun r m' => p r ∧ ∃ t, t ≤ m'.now ∧
        about f m'.state.seen = h ++ [(m.now, .called c), (t, .answered c)]) m := by
  have hcalled : about f (Watched.noted (.called c) m).seen = h ++ [(m.now, .called c)] := by
    rw [about_noted hc, hm]
  refine Meets.watching ⟨.noted hc, rfl⟩ (Quiet.meets_unnoted Terms.allows_noting
    (X := fun m' => about f m'.state.seen = h ++ [(m.now, .called c)]) (fun hx hu _ => ?_) (fun hx hr _ => ?_) id
    (fun {r m'} hx hr => ⟨⟨.noted hc, rfl⟩, hr, m'.now, Nat.le_refl _, ?_⟩) ha hcalled)
  · exact (congrArg _ hu.1).trans hx
  · exact (about_of_adds htheirs hr).trans hx
  · show about f (Watched.noted (.answered c) m').seen = _
    rw [about_noted hc, hx, List.append_assoc]
    rfl

/-- Being given up within the call writes nothing. -/
theorem Activity.noting_releases {slot : υ → ρ} {c : DiskCall} {p : Except Crash α → Prop}
    {a : Activity (Watched υ DiskNote) α} (ha : a.Quiet (Unnoted slot) p) :
    (a.noting c).Releases (Unnoted slot) p := by
  refine fun _ => Releases.bind (p := fun r => ∃ r', r = .ok r' ∧ p r') (Releases.caught ?_) (fun {r} hr => ?_)
    fun ⟨_, h, _⟩ => nomatch h
  · exact ha.releases.mono fun {r} hr => ⟨r, rfl, hr⟩
  · obtain ⟨_, heq, hr⟩ := hr
    cases heq
    refine fun _ => ?_
    cases r with
    | ok value => exact hr
    | error why => exact hr

end ImageImport
