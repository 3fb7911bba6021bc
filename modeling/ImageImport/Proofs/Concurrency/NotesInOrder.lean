/-
# Histories in the order of time

Notes carry the instant at which they are made.  `InOrder` says of a history that its instants never go back and
that none of them is still to come, and `Activity.Dates p` of an activity that it keeps histories so, and that
each of its notes is, with its instant, as `p` says.

An activity that crashes in a race is left with whatever the other one has done, of which no instant is known; so
`Dated` promises the order only where an activity yields a value, and `p` in any case.  Those that are not put
together by a race keep the order however they end (`Activity.DatesAll`).  Main statements: `Dates.race_bind`, and
`Dates.run_attended` for whole runs.
-/
import ImageImport.Proofs.Concurrency.Running
import ImageImport.Proofs.Concurrency.Watching

namespace ImageImport

variable {τ υ κ α β γ : Type}

/-! ## 1. The order of time -/

/-- **In the order of time**, with nothing that is still to come. -/
structure InOrder (now : Nat) (h : List (Nat × κ)) : Prop where
  pairwise : h.Pairwise fun a b => a.1 ≤ b.1
  past : ∀ n ∈ h, n.1 ≤ now

namespace InOrder

variable {now now' : Nat} {h : List (Nat × κ)}

theorem nothing (now : Nat) : InOrder now ([] : List (Nat × κ)) := ⟨.nil, fun _ hn => absurd hn List.not_mem_nil⟩

theorem later (ho : InOrder now h) (hn : now ≤ now') : InOrder now' h :=
  ⟨ho.pairwise, fun n hmem => Nat.le_trans (ho.past n hmem) hn⟩

/-- A note of now is the last one. -/
theorem noted (ho : InOrder now h) (n : κ) : InOrder now (h ++ [(now, n)]) where
  pairwise := by
    refine List.pairwise_append.mpr ⟨ho.pairwise, List.pairwise_singleton _ _, fun a ha b hb => ?_⟩
    cases List.mem_singleton.mp hb
    exact ho.past a ha
  past a ha := by
    rcases List.mem_append.mp ha with ha | ha
    · exact ho.past a ha
    · cases List.mem_singleton.mp ha
      exact Nat.le_refl _

end InOrder

/-- Each note is, with its instant, as `p` says. -/
def Watched.All (p : Nat × κ → Prop) (s : Watched υ κ) : Prop := ∀ n ∈ s.seen, p n

theorem Watched.All.noted {p : Nat × κ → Prop} {m : Moment (Watched υ κ)} {n : κ} (h : m.state.All p)
    (hn : p (m.now, n)) : (Watched.noted n m).All p := by
  intro a ha
  rcases List.mem_append.mp ha with ha | ha
  · exact h a ha
  · cases List.mem_singleton.mp ha
    exact hn

/-! ## 2. The terms -/

/-- **A history as it should be** at a moment. -/
def Fine (p : Nat × κ → Prop) (m : Moment (Watched υ κ)) : Prop := InOrder m.now m.state.seen ∧ m.state.All p

/-- An activity has ended: with a value, the history is as it should be. -/
def Dated (p : Nat × κ → Prop) (r : Except Crash α) (m : Moment (Watched υ κ)) : Prop :=
  m.state.All p ∧ ∀ v, r = .ok v → InOrder m.now m.state.seen

/-- Nothing is noted. -/
abbrev SameNotes (s t : Watched υ κ) : Prop := t.seen = s.seen

/-- **The terms of those who date their notes**: what is noted is as `p` says, and wherever everybody waits the
history is as it should be. -/
def Terms.dated (p : Nat × κ → Prop) : Terms (Watched υ κ) where
  rely s t := s.All p → t.All p
  guar s t := s.All p → t.All p
  left := SameNotes
  inv := Fine p
  rely_refl _ := id
  rely_trans h h' := h' ∘ h
  guar_refl _ := id
  guar_trans h h' := h' ∘ h
  left_refl _ := rfl

/-- A wait that is found with a history as it should be. -/
abbrev Wake.finding (p : Nat × κ → Prop) : Wake (Watched υ κ) → Moment (Watched υ κ) → Prop := fun _ m => Fine p m

variable {p : Nat × κ → Prop} {m : Moment (Watched υ κ)}

theorem SameNotes.all {s t : Watched υ κ} (h : SameNotes s t) (hs : s.All p) : t.All p := fun n hn => hs n (h ▸ hn)

theorem SameNotes.fine {s : Watched υ κ} (h : SameNotes m.state s) (hm : Fine p m) : Fine p { m with state := s } :=
  ⟨(show s.seen = m.state.seen from h) ▸ hm.1, h.all hm.2⟩

theorem Fine.noted {n : κ} (hm : Fine p m) (hn : p (m.now, n)) : Fine p { m with state := Watched.noted n m } :=
  ⟨hm.1.noted n, hm.2.noted hn⟩

theorem Fine.ok {v : α} (hm : Fine p m) : Dated p (.ok v) m := ⟨hm.2, fun _ _ => hm.1⟩

theorem Dated.fine {v : α} (hm : Dated p (.ok v) m) : Fine p m := ⟨hm.2 v rfl, hm.1⟩

theorem Dated.crash {why : Crash} (hm : m.state.All p) : Dated p (.error why : Except Crash α) m :=
  ⟨hm, fun _ h => nomatch h⟩

theorem dated_split : (Terms.dated p).Split (.dated p) (.dated p) (Wake.finding (υ := υ) p) where
  rely_left := id
  rely_right := id
  across_left := id
  across_right := id
  guar_left := id
  guar_right := id
  left_left := id
  left_right := id
  inv_left _ := Iff.rfl
  inv_right _ := Iff.rfl
  turn_left _ := trivial
  turn_right _ _ _ := trivial

theorem dated_closed : (Terms.dated p).Closed (Wake.finding (υ := υ) p) where
  left_rely h := SameNotes.all h
  left_inv h := SameNotes.fine h
  tick hm _ _ hle _ := ⟨hm.1.later hle, hm.2⟩
  turn _ := trivial

namespace Activity

/-! ## 3. Activities that date their notes -/

/-- It meets the terms of those who do, and the history is as it should be however it ends. -/
abbrev DatesAllAt (p : Nat × κ → Prop) (a : Activity (Watched υ κ) α) (m : Moment (Watched υ κ)) : Prop :=
  a.Meets (.dated p) (Wake.finding p) (fun _ => Fine p) m

/-- **It dates all its notes**, whenever it is begun, and however it ends. -/
def DatesAll (p : Nat × κ → Prop) (a : Activity (Watched υ κ) α) : Prop := ∀ m, Fine p m → a.DatesAllAt p m

/-- It meets the terms, and the history is as it should be when it yields a value. -/
abbrev DatesAt (p : Nat × κ → Prop) (a : Activity (Watched υ κ) α) (m : Moment (Watched υ κ)) : Prop :=
  a.Meets (.dated p) (Wake.finding p) (Dated p) m

/-- **It dates its notes**, whenever it is begun. -/
def Dates (p : Nat × κ → Prop) (a : Activity (Watched υ κ) α) : Prop := ∀ m, Fine p m → a.DatesAt p m

variable {a : Activity (Watched υ κ) α}

namespace DatesAll

theorem done (v : α) : (Activity.done v : Activity (Watched υ κ) α).DatesAll p := fun _ hm => hm

theorem update {f : Watched υ κ → Watched υ κ} (hf : ∀ s, SameNotes s (f s)) : (Activity.update f).DatesAll p :=
  fun _ hm => ⟨(hf _).all, (hf _).fine hm⟩

theorem clock : (Activity.clock : Activity (Watched υ κ) Nat).DatesAll p := fun _ hm => ⟨id, hm⟩

/-- One that notes nothing. -/
theorem of_quiet {q : Except Crash α → Prop} (h : a.Quiet SameNotes q) : a.DatesAll p := by
  induction a with
  | done v => exact fun m hm => hm
  | crash why => exact fun m hm => hm
  | step act next ih => exact fun m hm => ⟨fun _ => (h m).1.all hm.2, ih m (h m).2 _ ((h m).1.fine hm)⟩
  | detach task next ih => exact fun m hm => ⟨h.1, ih h.2 m hm⟩
  | wait wake leave next ih =>
    refine fun m hm => ⟨hm, fun n => ⟨(h.1 _).all, (h.1 _).fine⟩, fun m' _ hm' _ => ⟨hm', fun _ _ => ?_⟩⟩
    exact ih h.2 m' hm'

/-- Whatever acts on a part of what is watched notes nothing. -/
theorem on_part (c : Cell υ τ) (a : Activity τ α) : (a.on (Watched.part c) : Activity (Watched υ κ) α).DatesAll p :=
  of_quiet (quiet_on (fun _ _ => rfl) a)

/-- **Between two notes**, the first of which is made now. -/
theorem watching_at {called : κ} {ended : Except Crash α → κ} (hm : Fine p m) (hcalled : p (m.now, called))
    (hended : ∀ t r, p (t, ended r)) (ha : a.DatesAll p) : (watching called ended a).DatesAllAt p m := by
  refine Meets.watching (fun hs => hs.noted hcalled) ?_
  exact Meets.weaken id (fun {r m'} hr => ⟨fun hs => hs.noted (hended _ _), hr.noted (hended _ _)⟩)
    (ha _ (hm.noted hcalled))

theorem watching {called : κ} {ended : Except Crash α → κ} (hcalled : ∀ t, p (t, called))
    (hended : ∀ t r, p (t, ended r)) (ha : a.DatesAll p) : (watching called ended a).DatesAll p :=
  fun _ hm => watching_at hm (hcalled _) hended ha

theorem bind_at {f : α → Activity (Watched υ κ) β} (ha : a.DatesAllAt p m) (hf : ∀ v, (f v).DatesAll p) :
    (a.bind f).DatesAllAt p m := by
  refine Meets.bind (Meets.weaken id (fun {r m'} hr => ?_) ha)
  cases r with
  | ok v => exact hf v m' hr
  | error why => exact hr

theorem bind {f : α → Activity (Watched υ κ) β} (ha : a.DatesAll p) (hf : ∀ v, (f v).DatesAll p) :
    (a.bind f).DatesAll p := fun m hm => bind_at (ha m hm) hf

theorem dates (ha : a.DatesAll p) : a.Dates p := by
  refine fun m hm => Meets.weaken id (fun {r m'} hr => ?_) (ha m hm)
  exact ⟨hr.2, fun _ _ => hr.1⟩

/-- It may be let go at any moment. -/
theorem ready (ha : a.DatesAll p) (m : Moment (Watched υ κ)) :
    a.Ready (.dated p) (Wake.finding p) (fun _ => Fine p) m := by
  refine ⟨fun s => ?_, fun m' _ hm' _ => ha m' hm'⟩
  cases a with
  | wait wake leave next =>
    -- what it does when it is given up does not depend on when it is begun
    obtain ⟨-, hleave, -⟩ := ha ⟨0, ⟨s.state, []⟩⟩ ⟨.nothing 0, fun _ hn => absurd hn List.not_mem_nil⟩
    exact (hleave ⟨0, s⟩).1
  | _ => exact id

end DatesAll

/-- What is left of one that dates all its notes can go on. -/
abbrev LeftDating (p : Nat × κ → Prop) (a : Activity (Watched υ κ) α) (m : Moment (Watched υ κ)) : Prop :=
  a.Ready (.dated p) (Wake.finding p) (fun _ => Fine p) m

namespace Dates

theorem done (v : α) : (Activity.done v : Activity (Watched υ κ) α).Dates p := fun _ hm => hm.ok

theorem bind_at {f : α → Activity (Watched υ κ) β} (ha : a.DatesAt p m) (hf : ∀ v, (f v).Dates p) :
    (a.bind f).DatesAt p m := by
  refine Meets.bind (Meets.weaken id (fun {r m'} hr => ?_) ha)
  cases r with
  | ok v => exact hf v m' hr.fine
  | error why => exact .crash hr.1

/-- **One after the other.** -/
theorem bind {f : α → Activity (Watched υ κ) β} (ha : a.Dates p) (hf : ∀ v, (f v).Dates p) : (a.bind f).Dates p :=
  fun m hm => bind_at (ha m hm) hf

theorem read (f : Watched υ κ → α) : (read f).Dates p :=
  DatesAll.dates (.of_quiet (q := fun _ => True) (always_read (fun _ => rfl) fun _ => trivial))

/-- **A race of two that do**: whoever comes first, the history is as it should be, and what is left of the other
one can go on. -/
theorem race_bind {b : Activity (Watched υ κ) β} {f : Race (Watched υ κ) α β → Activity (Watched υ κ) γ}
    (ha : a.DatesAllAt p m) (hb : b.DatesAll p)
    (hleft : ∀ v rest m', Fine p m' → LeftDating p rest m' → (f (.left v rest)).DatesAt p m')
    (hright : ∀ rest v m', Fine p m' → LeftDating p rest m' → (f (.right rest v)).DatesAt p m') :
    ((race a b).bind f).DatesAt p m := by
  have hrace := Meets.race (Y := fun _ => True) dated_split (fun _ _ => trivial) (fun _ => trivial) id ha trivial
    (hb.ready m)
  refine Meets.bind (Meets.weaken (fun {w m'} hw => ?_) (fun {r m'} hr => ?_) hrace)
  · obtain ⟨_, _, -, hm', -⟩ := hw
    exact hm'
  · match r, hr with
    | .ok (.left v rest), ⟨hm', _, hrest⟩ => exact hleft v rest m' hm' hrest
    | .ok (.right rest v), ⟨hm', _, hrest⟩ => exact hright rest v m' hm' hrest
    | .error why, ⟨_, .inl ⟨hm', hg⟩⟩ => exact .crash (hg hm'.2)
    | .error why, ⟨_, .inr ⟨hm', hg⟩⟩ => exact .crash (hg hm'.2)

theorem left_bind {f : α → Activity (Watched υ κ) β} (hm : Fine p m) (ha : LeftDating p a m)
    (hf : ∀ v, (f v).Dates p) : (a.bind f).DatesAt p m := by
  refine Meets.bind (Meets.weaken id (fun {r m'} hr => ?_) (ha.meets hm))
  cases r with
  | ok v => exact hf v m' hr
  | error why => exact .crash hr.2

/-- **A run** of one that dates its notes. -/
theorem run_attended (ha : a.DatesAt p m) :
    (a.attended.run m).moment.state.All p ∧ ∀ v last, a.attended.run m = .returned v last →
      InOrder last.now last.state.seen := by
  have hsat := Meets.run_attended dated_closed ha
  cases hrun : a.attended.run m with
  | returned v last =>
    rw [hrun] at hsat
    refine ⟨hsat.1, fun v' last' heq => ?_⟩
    cases heq
    exact hsat.2 v rfl
  | crashed why last =>
    rw [hrun] at hsat
    exact ⟨hsat.1, fun _ _ heq => nomatch heq⟩
  | stalled last =>
    rw [hrun] at hsat
    obtain ⟨w, hw, -⟩ := hsat
    exact ⟨hw.2, fun _ _ heq => nomatch heq⟩

end Dates

end Activity

end ImageImport
