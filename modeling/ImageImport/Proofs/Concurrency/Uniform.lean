/-
# Ends that are described without their values

Often all that is said of the ends of an activity is that none of them is a crash, or nothing at all.  Such a
description fits every activity, whatever it yields (`Uniform`), and then one that is put together of quiet
activities is quiet: there is one lemma for each way of putting activities together.

`Platform.Does N q` says of a platform that every step of its calls is one of `N`, and every end of them as `q`
says.
-/
import ImageImport.Concurrency.Lock
import ImageImport.Platform.Services
import ImageImport.Proofs.Concurrency.Quiet

namespace ImageImport

variable {σ α β ε ε' : Type}

/-! ## 1. Quiet activities that are put together -/

/-- **A description of ends that looks at no value**, and at a crash alike whatever was awaited. -/
structure Uniform (q : ∀ {α : Type}, Except Crash α → Prop) : Prop where
  ok : ∀ {α : Type} (v : α), q (.ok v)
  crash : ∀ {α β : Type} {why : Crash}, q (.error why : Except Crash α) → q (.error why : Except Crash β)

/-- Nothing is said. -/
theorem uniform_any : Uniform fun _ => True := ⟨fun _ => trivial, fun _ => trivial⟩

open Activity

/-- What is released in any case is one more step. -/
theorem Activity.Always.releasing {N : σ → σ → Prop} {K : Background σ → Prop} {p : Except Crash α → Prop}
    {release : σ → σ} (htrans : ∀ s t u, N s t → N t u → N s u) (hrelease : ∀ s, N s (release s))
    {a : Activity σ α} (h : a.Always N K p) : (Activity.releasing release a).Always N K p := by
  induction a with
  | done v => exact fun _ => ⟨hrelease _, h⟩
  | crash why => exact fun _ => ⟨hrelease _, h⟩
  | step act next ih => exact fun m => ⟨(h m).1, ih m (h m).2⟩
  | detach task next ih => exact ⟨h.1, ih h.2⟩
  | wait wake leave next ih => exact ⟨fun s => htrans _ _ _ (h.1 s) (hrelease _), ih h.2⟩

/-- **Whatever a call comes to**, the ends are those of what comes after, and its fault. -/
theorem Activity.always_after_call {q : Except Crash (Except ε' β) → Prop} {g : ε → ε'}
    (hcrash : ∀ why, q (.error why)) (hfault : ∀ e, q (.ok (.error (g e)))) {f : α → Activity σ (Except ε' β)}
    (hf : ∀ v, (f v).EndsAs q) (a : Activity σ (Except ε α)) :
    ((a.mapFault g).andThen f).EndsAs q := by
  rw [mapFault, andThen, bind_assoc]
  refine always_after hcrash (fun r => ?_) a
  cases r with
  | ok v => exact hf v
  | error e => exact hfault e

namespace Uniform

variable {q : ∀ {α : Type}, Except Crash α → Prop} {N : σ → σ → Prop} {a : Activity σ α} {b : Activity σ β}

theorem done (hq : Uniform q) (v : α) : (done v : Activity σ α).Quiet N q := hq.ok v

theorem bind (hq : Uniform q) {f : α → Activity σ β} (ha : a.Quiet N q) (hf : ∀ v, (f v).Quiet N q) :
    (a.bind f).Quiet N q := Always.bind ha (fun {v} _ => hf v) hq.crash

theorem update (hq : Uniform q) {f : σ → σ} (hf : ∀ s, N s (f s)) : (update f).Quiet N q :=
  always_update hf (hq.ok ())

theorem exchange (hq : Uniform q) {f : σ → α × σ} (hf : ∀ s, N s (f s).2) : (exchange f).Quiet N q :=
  fun _ => ⟨hf _, hq.ok _⟩

theorem read (hq : Uniform q) (hN : ∀ s, N s s) {f : σ → α} : (read f).Quiet N q :=
  always_read hN fun _ => hq.ok _

theorem clock (hq : Uniform q) (hN : ∀ s, N s s) : (clock : Activity σ Nat).Quiet N q := fun _ => ⟨hN _, hq.ok _⟩

theorem andThen (hq : Uniform q) {a : Activity σ (Except ε α)} {f : α → Activity σ (Except ε β)} (ha : a.Quiet N q)
    (hf : ∀ v, (f v).Quiet N q) : (a.andThen f).Quiet N q := by
  refine hq.bind ha fun r => ?_
  cases r with
  | ok v => exact hf v
  | error e => exact hq.ok _

theorem mapFault (hq : Uniform q) {g : ε → ε'} {a : Activity σ (Except ε α)} (ha : a.Quiet N q) :
    (a.mapFault g).Quiet N q := hq.bind ha fun _ => hq.ok _

variable (hN : ∀ s, N s s) (htrans : ∀ s t u, N s t → N t u → N s u)

include hN htrans

/-- With a lock that may be written. -/
theorem holding (hq : Uniform q) {lock : Cell σ Lock} (hlock : ∀ l s, N s (lock.set l s)) (ha : a.Quiet N q) :
    (holding lock a).Quiet N q := by
  have hjoin : (Activity.exchange fun s => ((lock.get s).join.1, lock.set (lock.get s).join.2 s)).Quiet N q :=
    hq.exchange fun s => hlock _ s
  refine hq.bind hjoin fun ticket => Always.releasing htrans (fun s => hlock _ s) (hq.bind ?_ fun _ => ha)
  exact always_waitOr hN (hq.ok ()) _

theorem both (hq : Uniform q) (ha : a.Quiet N q) (hb : b.Quiet N q) : (both a b).Quiet N q := by
  have hbegun : b.begun.Quiet N q := fun _ => ⟨hN _, hb⟩
  refine (Always.race_both hN htrans ha hbegun).bind (fun {r} hr => ?_) fun {why} hr => ?_
  · match r, hr with
    | .left v rest, ⟨_, hrest⟩ => exact hq.bind hrest fun _ => hq.ok _
    | .right rest v, ⟨_, hrest⟩ => exact hq.bind hrest fun _ => hq.ok _
  · exact hr.elim hq.crash hq.crash

/-- For as long as the clock allows: what is left after that is quiet as well. -/
theorem waitedFor (hq : Uniform q) (ms : Nat) (ha : a.Quiet N q) :
    (Activity.waitedFor ms a).Quiet N fun r => q r ∧ ∀ rest, r = .ok (.inr rest) → rest.Quiet N q := by
  have hsleep : (sleep ms : Activity σ Unit).Quiet N q := always_sleep hN (hq.ok ()) ms
  refine (Always.race_both hN htrans ha hsleep).bind (fun {r} hr => ?_) fun {why} hr => ?_
  · match r, hr with
    | .left v _, _ => exact ⟨hq.ok _, fun _ h => nomatch h⟩
    | .right rest _, ⟨_, hrest⟩ =>
      refine ⟨hq.ok _, fun rest' h => ?_⟩
      cases h
      exact hrest
  · exact ⟨hr.elim hq.crash hq.crash, fun _ h => nomatch h⟩

/-- With a task beside it: what is left of the task is quiet as well. -/
theorem alongside (hq : Uniform q) (ha : a.Quiet N q) (hb : b.Quiet N q) :
    (Activity.alongside a b).Quiet N fun r => q r ∧ ∀ rest v, r = .ok (rest, v) → rest.Quiet N q := by
  refine (Always.race_both hN htrans ha hb).bind (fun {r} hr => ?_) fun {why} hr => ?_
  · match r, hr with
    | .left v rest, ⟨hv, hrest⟩ =>
      refine Always.bind hrest (fun _ => ⟨hq.ok _, fun rest' v' h => ?_⟩) fun h => ⟨hq.crash h, fun _ _ h => nomatch h⟩
      cases h
      exact hv
    | .right rest v, ⟨_, hrest⟩ =>
      refine ⟨hq.ok _, fun rest' v' h => ?_⟩
      cases h
      exact hrest
  · exact ⟨hr.elim hq.crash hq.crash, fun _ _ h => nomatch h⟩

/-- With a task behind it. -/
theorem leading (hq : Uniform q) (ha : a.Quiet N q) (hb : b.Quiet N q) :
    (Activity.leading a b).Quiet N fun r => q r ∧ ∀ rest v, r = .ok (rest, v) → rest.Quiet N q := by
  refine (Always.race_both hN htrans ha hb).bind (fun {r} hr => ?_) fun {why} hr => ?_
  · match r, hr with
    | .left v rest, ⟨_, hrest⟩ =>
      refine ⟨hq.ok _, fun rest' v' h => ?_⟩
      cases h
      exact hrest
    | .right rest v, ⟨hv, hrest⟩ =>
      refine Always.bind hrest (fun _ => ⟨hq.ok _, fun rest' v' h => ?_⟩) fun h => ⟨hq.crash h, fun _ _ h => nomatch h⟩
      cases h
      exact hv
  · exact ⟨hr.elim hq.crash hq.crash, fun _ _ h => nomatch h⟩

theorem within (hq : Uniform q) (ms : Nat) (ha : a.Quiet N q) : (Activity.within ms a).Quiet N q := by
  refine (hq.waitedFor hN htrans ms ha).bind (fun {r} hr => ?_) fun hr => hq.crash hr.1
  cases r with
  | inl v => exact hq.ok _
  | inr rest => exact fun m => ⟨Always.abandon hN (hr.2 rest rfl) m.state, hq.ok _⟩

end Uniform

/-! ## 2. Platforms -/

/-- **What the calls of a platform do**: every step of them is one of `N`, and every end is as `q` says.  A
workflow may do what it is told to do with the lines of its instances. -/
structure Platform.Does (N : σ → σ → Prop) (q : ∀ {α : Type}, Except Crash α → Prop) (p : Platform σ) : Prop where
  createDisk : ∀ project zone disk, (p.createDisk project zone disk).Quiet N q
  getDisk : ∀ project zone name, (p.getDisk project zone name).Quiet N q
  deleteDisk : ∀ project zone disk, (p.deleteDisk project zone disk).Quiet N q
  updateDiskMetadata : ∀ project zone name update, (p.updateDiskMetadata project zone name update).Quiet N q
  createImage : ∀ project image, (p.createImage project image).Quiet N q
  getImage : ∀ project name, (p.getImage project name).Quiet N q
  openReader : ∀ bucket object, (p.openReader bucket object).Quiet N q
  objectSize : ∀ bucket object, (p.objectSize bucket object).Quiet N q
  inspect : ∀ reference, (p.inspect reference).Quiet N q
  runWorkflow : ∀ workflow isCancelled record, (∀ inst line s, N s (record inst line s)) →
    (p.runWorkflow workflow isCancelled record).Quiet N q
  log : ∀ severity line s, N s (p.log severity line s)

end ImageImport
