/-
# Parties that write notes

Where several parties are watched, each of them writes its own kind of notes into one list, and some may
also write a *slot*, a part of the state that the others leave alone.  What a party knows is then kept by
whatever the others do, because the others write other kinds of notes.

This module holds the terms such parties are on, how the terms of two make up those of a pair, and what a
watched activity on a part of the state does on them: nothing (`Meets.part`).  Of a run of one party alone it
is known what is noted when it ends or stalls (`Meets.run_notes`).
-/
import ImageImport.Proofs.Concurrency.Running
import ImageImport.Proofs.Concurrency.Watching

namespace ImageImport

variable {υ κ ρ τ α : Type}

/-! ## 1. Changes of the notes -/

/-- Only notes of one kind have been added. -/
def Watched.Adds (p : κ → Prop) (s t : Watched υ κ) : Prop :=
  ∃ l, (∀ n ∈ l, p n.2) ∧ t.seen = s.seen ++ l

/-- Nothing noted, and the slot as it was. -/
def Unnoted (slot : υ → ρ) (s t : Watched υ κ) : Prop := t.seen = s.seen ∧ slot t.state = slot s.state

theorem Unnoted.trans {slot : υ → ρ} {s t u : Watched υ κ} (h : Unnoted slot s t)
    (h' : Unnoted slot t u) : Unnoted slot s u := ⟨h'.1.trans h.1, h'.2.trans h.2⟩

namespace Watched.Adds

variable {p q : κ → Prop} {s t u : Watched υ κ}

theorem of_seen_eq (h : t.seen = s.seen) : Adds p s t :=
  ⟨[], fun _ hn => absurd hn List.not_mem_nil, by rw [h]; exact (List.append_nil _).symm⟩

theorem trans (h : Adds p s t) (h' : Adds p t u) : Adds p s u := by
  obtain ⟨l, hl, hs⟩ := h
  obtain ⟨l', hl', ht⟩ := h'
  refine ⟨l ++ l', fun n hn => ?_, by rw [ht, hs, List.append_assoc]⟩
  rcases List.mem_append.mp hn with hn | hn
  · exact hl n hn
  · exact hl' n hn

theorem mono (hpq : ∀ n, p n → q n) (h : Adds p s t) : Adds q s t := by
  obtain ⟨l, hl, hs⟩ := h
  exact ⟨l, fun n hn => hpq _ (hl n hn), hs⟩

theorem noted {m : Moment (Watched υ κ)} {n : κ} (hn : p n) : Adds p m.state (Watched.noted n m) :=
  ⟨[(m.now, n)], fun x hx => by rw [List.mem_singleton.mp hx]; exact hn, rfl⟩

/-- What has been noted stays noted. -/
theorem mem (h : Adds p s t) {n : Nat × κ} (hn : n ∈ s.seen) : n ∈ t.seen := by
  obtain ⟨l, -, hs⟩ := h
  rw [hs]
  exact List.mem_append_left _ hn

/-- A note of another kind has been there before. -/
theorem mem_of_not (h : Adds p s t) {n : Nat × κ} (hn : n ∈ t.seen) (hp : ¬ p n.2) : n ∈ s.seen := by
  obtain ⟨l, hl, hs⟩ := h
  rw [hs] at hn
  exact (List.mem_append.mp hn).resolve_right fun hn => hp (hl n hn)

end Watched.Adds

/-! ## 2. Terms -/

open Watched (Adds)

namespace Terms

/-- **The terms of one that writes the slot**, and notes of the kind `mine`; those of the others are of the
kind `theirs`. -/
def writing (mine theirs : κ → Prop) (slot : υ → ρ) : Terms (Watched υ κ) where
  rely s t := Adds theirs s t ∧ slot t.state = slot s.state
  guar := Adds mine
  left := Unnoted slot
  rely_refl _ := ⟨.of_seen_eq rfl, rfl⟩
  rely_trans h h' := ⟨h.1.trans h'.1, h'.2.trans h.2⟩
  guar_refl _ := .of_seen_eq rfl
  guar_trans := .trans
  left_refl _ := ⟨rfl, rfl⟩

/-- **The terms of one that leaves the slot alone.** -/
def noting (mine theirs : κ → Prop) (slot : υ → ρ) : Terms (Watched υ κ) where
  rely := Adds theirs
  guar s t := Adds mine s t ∧ slot t.state = slot s.state
  left := Unnoted slot
  rely_refl _ := .of_seen_eq rfl
  rely_trans := .trans
  guar_refl _ := ⟨.of_seen_eq rfl, rfl⟩
  guar_trans h h' := ⟨h.1.trans h'.1, h'.2.trans h.2⟩
  left_refl _ := ⟨rfl, rfl⟩

/-- The terms of all together: others write nothing. -/
def whole (slot : υ → ρ) : Terms (Watched υ κ) where
  rely := Unnoted slot
  guar _ _ := True
  left := Unnoted slot
  rely_refl _ := ⟨rfl, rfl⟩
  rely_trans := .trans
  guar_refl _ := trivial
  guar_trans _ _ := trivial
  left_refl _ := ⟨rfl, rfl⟩

/-- **The terms of one that writes nothing**, and does not care what the others do. -/
def aside (slot : υ → ρ) : Terms (Watched υ κ) where
  rely _ _ := True
  guar := Unnoted slot
  left := Unnoted slot
  rely_refl _ := trivial
  rely_trans _ _ := trivial
  guar_refl _ := ⟨rfl, rfl⟩
  guar_trans := .trans
  left_refl _ := ⟨rfl, rfl⟩

/-- On these terms everybody may do what is not noted. -/
structure Allows (T : Terms (Watched υ κ)) (slot : υ → ρ) : Prop where
  rely : ∀ {s t}, Unnoted slot s t → T.rely s t
  guar : ∀ {s t}, Unnoted slot s t → T.guar s t
  left : ∀ {s t}, Unnoted slot s t → T.left s t
  inv : ∀ m, T.inv m

variable {mine theirs : κ → Prop} {slot : υ → ρ} {WA : Wake (Watched υ κ) → Moment (Watched υ κ) → Prop}
  {T : Terms (Watched υ κ)}

theorem allows_writing : (writing mine theirs slot).Allows slot :=
  ⟨fun h => ⟨.of_seen_eq h.1, h.2⟩, fun h => .of_seen_eq h.1, id, fun _ => trivial⟩

theorem allows_noting : (noting mine theirs slot).Allows slot :=
  ⟨fun h => .of_seen_eq h.1, fun h => ⟨.of_seen_eq h.1, h.2⟩, id, fun _ => trivial⟩

theorem allows_whole : (whole slot : Terms (Watched υ κ)).Allows slot :=
  ⟨id, fun _ => trivial, id, fun _ => trivial⟩

theorem allows_aside : (aside slot : Terms (Watched υ κ)).Allows slot :=
  ⟨fun _ => trivial, id, id, fun _ => trivial⟩

/-- One that writes the slot and one that does not, alone together. -/
theorem whole_split : (whole slot).Split (writing mine theirs slot) (noting theirs mine slot) WA where
  rely_left h := ⟨.of_seen_eq h.1, h.2⟩
  rely_right h := .of_seen_eq h.1
  across_left := id
  across_right := id
  guar_left _ := trivial
  guar_right _ := trivial
  left_left := id
  left_right := id
  inv_left _ := Iff.rfl
  inv_right _ := Iff.rfl
  turn_left _ := trivial
  turn_right _ _ _ := trivial

/-- Two that leave the slot alone and write notes of different kinds. -/
theorem noting_split {mineA theirsA mineB theirsB : κ → Prop} (hA : ∀ n, mineA n → mine n)
    (hB : ∀ n, mineB n → mine n) (hA' : ∀ n, theirs n → theirsA n) (hB' : ∀ n, theirs n → theirsB n)
    (hAB : ∀ n, mineA n → theirsB n) (hBA : ∀ n, mineB n → theirsA n) :
    (noting mine theirs slot).Split (noting mineA theirsA slot) (noting mineB theirsB slot) WA where
  rely_left := .mono hA'
  rely_right := .mono hB'
  across_left h := h.1.mono hBA
  across_right h := h.1.mono hAB
  guar_left h := ⟨h.1.mono hA, h.2⟩
  guar_right h := ⟨h.1.mono hB, h.2⟩
  left_left := id
  left_right := id
  inv_left _ := Iff.rfl
  inv_right _ := Iff.rfl
  turn_left _ := trivial
  turn_right _ _ _ := trivial

/-- **One that writes nothing, on the right**, makes no difference to the terms. -/
theorem Allows.split_right (hT : T.Allows slot) : T.Split T (aside slot) WA where
  rely_left := id
  rely_right _ := trivial
  across_left := hT.rely
  across_right _ := trivial
  guar_left := id
  guar_right := hT.guar
  left_left := id
  left_right := hT.left
  inv_left _ := Iff.rfl
  inv_right m := ⟨fun _ => hT.inv m, fun _ => trivial⟩
  turn_left := id
  turn_right _ _ _ := trivial

/-- ... and on the left. -/
theorem Allows.split_left (hT : T.Allows slot) : T.Split (aside slot) T WA where
  rely_left _ := trivial
  rely_right := id
  across_left _ := trivial
  across_right := hT.rely
  guar_left := hT.guar
  guar_right := id
  left_left := hT.left
  left_right := id
  inv_left m := ⟨fun _ => hT.inv m, fun _ => trivial⟩
  inv_right _ := Iff.rfl
  turn_left _ := trivial
  turn_right ht _ _ := ht

end Terms

/-! ## 3. What writes no notes -/

namespace Activity

variable {slot : υ → ρ} {T : Terms (Watched υ κ)} {W : Wake (Watched υ κ) → Moment (Watched υ κ) → Prop}
  {Q : Except Crash α → Moment (Watched υ κ) → Prop}

/-- **One that writes nothing** keeps what everybody else keeps. -/
theorem Quiet.meets_unnoted (hT : T.Allows slot) {X : Moment (Watched υ κ) → Prop}
    {p : Except Crash α → Prop} (hset : Stable (Unnoted slot) X) (hrely : Stable T.rely X)
    (hW : ∀ {w m}, X m → W w m) (hQ : ∀ {r m}, X m → p r → Q r m) {a : Activity (Watched υ κ) α}
    (ha : a.Quiet (Unnoted slot) p) {m : Moment (Watched υ κ)} (h : X m) : a.Meets T W Q m :=
  ha.meets hT.guar hT.left (fun _ _ => hT.inv _) (fun hx hn => hset hx hn (Nat.le_refl _)) hrely
    (fun _ => hT.inv _) hW hQ h

/-- **An activity on a part that has nothing to do with the slot** writes nothing. -/
theorem quiet_part {c : Cell υ τ} (hslot : ∀ t u, slot (c.set t u) = slot u) (a : Activity τ α) :
    (a.on (Watched.part c : Cell (Watched υ κ) τ)).Quiet (Unnoted slot) fun _ => True :=
  quiet_on (fun t s => ⟨rfl, hslot t s.state⟩) a

theorem Meets.part (hT : T.Allows slot) {c : Cell υ τ} (hslot : ∀ t u, slot (c.set t u) = slot u)
    {X : Moment (Watched υ κ) → Prop} (hset : Stable (Unnoted slot) X) (hrely : Stable T.rely X)
    (hW : ∀ {w m}, X m → W w m) (hQ : ∀ {r m}, X m → Q r m) (a : Activity τ α)
    {m : Moment (Watched υ κ)} (h : X m) : (a.on (Watched.part c)).Meets T W Q m :=
  (quiet_part hslot a).meets_unnoted hT hset hrely hW (fun hx _ => hQ hx) h

/-- **A call, between its two notes**: nothing else is noted of what is watched. -/
theorem Meets.watching_call {called : κ} {ended : Except Crash α → κ} (a : Activity υ α) {m : Moment (Watched υ κ)} :
    (Activity.watching called ended (a.on Watched.inside)).Meets (.whole fun _ => ())
      (fun _ m' => m'.state.seen = m.state.seen ++ [(m.now, called)])
      (fun r m' => m'.state.seen = m.state.seen ++ [(m.now, called), (m'.now, ended r)]) m := by
  have hquiet : (a.on (Watched.inside : Cell (Watched υ κ) υ)).Quiet (Unnoted fun _ => ()) fun _ => True :=
    quiet_on (fun _ _ => ⟨rfl, rfl⟩) a
  have hstays : Stable (Unnoted fun _ => ()) fun m' : Moment (Watched υ κ) =>
      m'.state.seen = m.state.seen ++ [(m.now, called)] := fun h hu _ => hu.1.trans h
  refine Meets.watching trivial (hquiet.meets_unnoted Terms.allows_whole hstays hstays (fun h => h) ?_ rfl)
  intro r m' hs _
  refine ⟨trivial, ?_⟩
  simp only [Watched.noted, hs, List.append_assoc, List.cons_append, List.nil_append]

/-! ## 4. Beside one that writes nothing

A task that writes nothing, or a clock, does not change what is known of the one it is raced with. -/

variable {β : Type} {QB : Except Crash β → Moment (Watched υ κ) → Prop} {m : Moment (Watched υ κ)}

/-- A clock writes nothing, and its waits have an end. -/
theorem ready_sleep (ms : Nat) :
    (sleep ms : Activity (Watched υ κ) Unit).Ready (Terms.aside slot) (fun w _ => w.due.isSome = true)
      (fun r _ => r = .ok ()) m := by
  refine ⟨fun s => (Terms.aside slot).guar_refl s, fun m' _ _ _ => ⟨⟨rfl, rfl⟩, ⟨rfl, rfl⟩, ?_⟩⟩
  show Meets _ _ _ (if Wake.holds _ _ = true then _ else _) _
  split
  · rfl
  · exact ⟨trivial, fun n => ⟨⟨rfl, rfl⟩, id⟩, fun m'' _ _ _ => ⟨rfl, fun _ _ => rfl⟩⟩

/-- **No longer than the clock allows.**  What is left after that may be given up. -/
theorem Meets.waitedFor (hT : T.Allows slot) (ms : Nat)
    (hQ : ∀ {why}, Stable (Unnoted slot) (Q (.error why))) {a : Activity (Watched υ κ) α}
    (ha : a.Meets T W Q m) :
    (Activity.waitedFor ms a).Meets T (fun w _ => w.due.isSome = true) (fun r m' => match r with
      | .ok (Sum.inl value) => Q (.ok value) m'
      | .ok (Sum.inr rest) => ∀ s, T.guar s (rest.abandon s)
      | .error why => Q (.error why) m') m := by
  have hsleep : (sleep ms : Activity (Watched υ κ) Unit).Ready (Terms.aside slot)
      (fun w _ => w.due.isSome = true) (fun r _ => r = .ok ()) m := ready_sleep ms
  have hrace := Meets.race (Y := fun _ => True) hT.split_right (fun _ _ => trivial) (fun _ => trivial) id
    ha trivial hsleep
  refine Meets.bind (Meets.weaken (fun {w m'} h => ?_) (fun {r m'} h => ?_) hrace)
  · obtain ⟨u, v, rfl, -, hv⟩ := h
    exact Wake.due_either_right hv
  · match r, h with
    | .ok (.left value rest), ⟨hq, _⟩ => exact hq
    | .ok (.right rest ()), ⟨_, _, hrest⟩ => exact hrest.1
    | .error why, ⟨s, .inl ⟨hq, hs⟩⟩ => exact hQ hq hs (Nat.le_refl _)
    | .error why, ⟨s, .inr ⟨hq, _⟩⟩ => cases hq

/-- The same, and what is left is given up. -/
theorem Meets.within (hT : T.Allows slot) (ms : Nat)
    (hQ : ∀ {why}, Stable (Unnoted slot) (Q (.error why))) {a : Activity (Watched υ κ) α}
    (ha : a.Meets T W Q m) :
    (Activity.within ms a).Meets T (fun w _ => w.due.isSome = true)
      (fun r m' => ∀ why, r = .error why → Q (.error why) m') m := by
  refine Meets.bind (Meets.weaken id (fun {r m'} h => ?_) (ha.waitedFor hT ms hQ))
  match r, h with
  | .ok (.inl value), _ =>
    intro why hwhy
    cases hwhy
  | .ok (.inr rest), hrest =>
    refine ⟨hrest _, fun why hwhy => ?_⟩
    cases hwhy
  | .error why, hq =>
    intro why' hwhy
    cases hwhy
    exact hq

theorem Quiet.ready_aside {p : Except Crash α → Prop} {task : Activity (Watched υ κ) α}
    (h : task.Quiet (Unnoted slot) p) :
    task.Ready (Terms.aside slot) (fun _ _ => True) (fun r _ => p r) m :=
  ⟨h.abandon fun _ => ⟨rfl, rfl⟩, fun _ _ _ _ => h.meets_unnoted (X := fun _ => True) Terms.allows_aside
    (fun _ _ _ => trivial) (fun _ _ _ => trivial) (fun _ => trivial) (fun _ => id) trivial⟩

/-- What is left of the task goes with the value. -/
def WithQuiet (slot : υ → ρ) (p : Except Crash α → Prop) (Q : Except Crash β → Moment (Watched υ κ) → Prop) :
    Except Crash (Activity (Watched υ κ) α × β) → Moment (Watched υ κ) → Prop
  | .ok (rest, value), m => Q (.ok value) m ∧ rest.Quiet (Unnoted slot) p
  | .error why, m => Q (.error why) m

/-- **With a task behind it that writes nothing.** -/
theorem Meets.leading (hT : T.Allows slot) {p : Except Crash β → Prop} (hp : ∀ {why}, ¬ p (.error why))
    (hQ : ∀ {why}, Stable (Unnoted slot) (Q (.error why))) (hW : ∀ {u v m}, W u m → W (u.either v) m)
    {a : Activity (Watched υ κ) α} {task : Activity (Watched υ κ) β} (ha : a.Meets T W Q m)
    (ht : task.Quiet (Unnoted slot) p) :
    (Activity.leading a task).Meets T W (WithQuiet slot p Q) m := by
  have hrace := Meets.race (Y := fun _ => True) hT.split_right (fun _ _ => trivial) (fun _ => trivial) id
    ha trivial ht.ready_aside
  have hboth := hrace.and_always (Always.race_right (fun _ => ⟨rfl, rfl⟩) a ht)
  refine Meets.bind (Meets.weaken (fun {w m'} h => ?_) (fun {r m'} h => ?_) hboth)
  · obtain ⟨u, v, rfl, hu, -⟩ := h
    exact hW hu
  · match r, h with
    | .ok (.left value rest), ⟨⟨hq, _⟩, _, hrest⟩ => exact ⟨hq, hrest⟩
    | .ok (.right rest value), ⟨⟨hv, _, hrest⟩, _⟩ =>
      refine Meets.bind (Meets.weaken id (fun {r m''} hq => ?_) (hrest.meets (hT.inv m')))
      cases r with
      | ok x => exact ⟨hq, hv⟩
      | error why => exact hq
    | .error why, ⟨⟨s, .inl ⟨hq, hs⟩⟩, _⟩ => exact hQ hq hs (Nat.le_refl _)
    | .error why, ⟨⟨s, .inr ⟨hq, _⟩⟩, _⟩ => exact absurd hq hp

/-- **Beside a task that writes nothing.** -/
theorem Meets.alongside (hT : T.Allows slot) {p : Except Crash α → Prop} (hp : ∀ {why}, ¬ p (.error why))
    (hQ : ∀ {why}, Stable (Unnoted slot) (QB (.error why))) (hW : ∀ {u v : Wake (Watched υ κ)} {m}, W v m → W (u.either v) m)
    {task : Activity (Watched υ κ) α} {a : Activity (Watched υ κ) β} (ht : task.Quiet (Unnoted slot) p)
    (ha : a.Ready T W QB m) :
    (Activity.alongside task a).Meets T W (WithQuiet slot p QB) m := by
  have hrace := Meets.race (Y := fun _ => True) hT.split_left (fun _ _ => trivial) (fun _ => trivial) id
    (ht.ready_aside.meets trivial) trivial ha
  have hboth := hrace.and_always (ht.race_left a)
  refine Meets.bind (Meets.weaken (fun {w m'} h => ?_) (fun {r m'} h => ?_) hboth)
  · obtain ⟨u, v, rfl, -, hv⟩ := h
    exact hW hv
  · match r, h with
    | .ok (.left value rest), ⟨⟨hv, _, hrest⟩, _⟩ =>
      refine Meets.bind (Meets.weaken id (fun {r m''} hq => ?_) (hrest.meets (hT.inv m')))
      cases r with
      | ok x => exact ⟨hq, hv⟩
      | error why => exact hq
    | .ok (.right rest value), ⟨⟨hq, _⟩, _, hrest⟩ => exact ⟨hq, hrest⟩
    | .error why, ⟨⟨s, .inl ⟨hv, _⟩⟩, _⟩ => exact absurd hv hp
    | .error why, ⟨⟨s, .inr ⟨hq, hs⟩⟩, _⟩ => exact hQ hq hs (Nat.le_refl _)

end Activity

/-! ## 5. Runs of one alone -/

theorem Terms.whole_closed (slot : υ → ρ) (W : Wake (Watched υ κ) → Moment (Watched υ κ) → Prop) :
    (Terms.whole slot).Closed W where
  left_rely := id
  left_inv _ _ := trivial
  tick _ _ _ _ _ := trivial
  turn _ := trivial

/-- **What is noted by the end of a run**: `Q` with how it ends, or `W` where it waits for ever. -/
def Ending.Notes (W : List (Nat × κ) → Prop) (Q : List (Nat × κ) → Except Crash α → Prop) :
    Ending (Watched υ κ) α → Prop
  | .returned v last => Q last.state.seen (.ok v)
  | .crashed why last => Q last.state.seen (.error why)
  | .stalled last => W last.state.seen

/-- **A run notes what the activity promises.** -/
theorem Activity.Meets.run_notes {slot : υ → ρ} {W : List (Nat × κ) → Prop}
    {Q : List (Nat × κ) → Except Crash α → Prop} {a : Activity (Watched υ κ) α} {m : Moment (Watched υ κ)}
    (h : a.Meets (.whole slot) (fun _ m' => W m'.state.seen) (fun r m' => Q m'.state.seen r) m) :
    (a.attended.run m).Notes W Q := by
  have hsat := Meets.run_attended (Terms.whole_closed _ _) h
  cases hrun : a.attended.run m with
  | returned v last =>
    rw [hrun] at hsat
    exact hsat
  | crashed why last =>
    rw [hrun] at hsat
    exact hsat
  | stalled last =>
    rw [hrun] at hsat
    obtain ⟨_, hwaits, -⟩ := hsat
    exact hwaits

end ImageImport
