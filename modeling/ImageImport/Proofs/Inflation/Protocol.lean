/-
# The protocol of an inflation by the compute service and its cancels

One inflation and any number of cancels share a lock, a reason that is pending, and a trace.  What they do is told as
a story of `Deed`s, and `Proper` says which stories there are: each party follows a script of its own (`Next`), what
needs the lock is done by the party whose ticket is at the head of the queue (`lineup`), and the check of the
inflation finds what is pending.

This module holds what follows from that for a story as a whole.  Main statements: `Proper.left_of_inside`, whoever
has been inside has left before another party is (mutual exclusion); `Proper.left_of_joined`, in the order in which
they came; `Proper.check_finds`, no reason is lost; `Proper.countP_finds_le`, a cancel finds something once.  That
inflations and cancels keep to the law is in `Proofs/Inflation/Cancelling.lean`.
-/
import ImageImport.Inflation.Direct
import Mathlib.Data.Fintype.Option
import Mathlib.Data.List.Basic
import Mathlib.Data.List.Induction

namespace ImageImport

/-! ## 1. What is told -/

/-- **Who takes part**: the inflation, and the cancels. -/
inductive Party (ι : Type) where
  | inflation
  | cancel (i : ι)
  deriving DecidableEq

/-- Of finitely many cancels there are finitely many parties. -/
instance {ι : Type} [Fintype ι] : Fintype (Party ι) :=
  .ofEquiv (Option ι)
    { toFun := fun x => x.elim .inflation .cancel
      invFun := fun who => match who with
        | .inflation => none
        | .cancel i => some i
      left_inv := by rintro (_ | _) <;> rfl
      right_inv := by rintro (_ | _) <;> rfl }

/-- **What the parties do.**  `joins` is drawing a ticket for the lock, `leaves` giving it back, and a party holds the
lock in between, from when its ticket is at the head of the queue.  A cancel `issues` its reason, `looks` for the disk,
and `finds` an answer, of which it leaves a line in the trace.  The inflation calls for the disk (`creates`), `checks`
what is pending, calls for the size of the object (`measures`), starts the checksum workflow (`checksums`), and calls
for the deletion of the disk (`deletes`), which has been answered when it has `deleted` it. -/
inductive Deed (ι : Type) where
  | joins (who : Party ι)
  | issues (i : ι)
  | looks (i : ι)
  | finds (i : ι) (answer : Except ApiError Disk)
  | creates
  | checks (pending : Option String)
  | measures
  | checksums
  | deletes
  | deleted
  | leaves (who : Party ι)

variable {ι : Type}

namespace Deed

/-- Whose deed it is. -/
def doer : Deed ι → Party ι
  | joins who | leaves who => who
  | issues i | looks i | finds i _ => .cancel i
  | creates | checks _ | measures | checksums | deletes | deleted => .inflation

/-- It is done with the lock. -/
def inside : Deed ι → Bool
  | joins _ | issues _ => false
  | _ => true

/-- A party is waiting for the platform after it, unless the call has come back. -/
def isCall : Deed ι → Bool
  | looks _ | creates | measures | checksums | deletes => true
  | _ => false

/-- How far a party has come. -/
def rank : Deed ι → Nat
  | issues _ => 0
  | joins _ => 1
  | looks _ | creates => 2
  | finds _ _ | checks _ => 3
  | measures => 4
  | checksums => 5
  | deletes => 6
  | deleted => 7
  | leaves _ => 8

/-- It is an answer that this cancel has found. -/
def isFindOf [DecidableEq ι] (i : ι) : Deed ι → Bool
  | finds j _ => i = j
  | _ => false

/-- The line in the trace. -/
def line? (reason : ι → String) : Deed ι → Option String
  | finds i answer => some (DirectInflation.verdict (reason i) answer).2
  | _ => none

/-- **The script of a party**: what it does next after its last deed.  A call that crashes leads to `leaves`. -/
inductive Next : Option (Deed ι) → Deed ι → Prop where
  | issues (i : ι) : Next none (issues i)
  | joins_cancel (i : ι) : Next (some (issues i)) (joins (.cancel i))
  | looks (i : ι) : Next (some (joins (.cancel i))) (looks i)
  | finds (i : ι) (answer : Except ApiError Disk) : Next (some (looks i)) (finds i answer)
  | joins_inflation : Next none (joins .inflation)
  | creates : Next (some (joins .inflation)) creates
  | checks (p : Option String) : Next (some creates) (checks p)
  | measures : Next (some (checks none)) measures
  | checksums : Next (some measures) checksums
  | deletes {n : Deed ι} (hn : n.doer = .inflation) (h2 : 2 ≤ n.rank) (h6 : n.rank < 6) : Next (some n) deletes
  | deleted : Next (some deletes) deleted
  | leaves {n : Deed ι} (hn : n.inside = true) (h8 : n.rank < 8) : Next (some n) (leaves n.doer)

theorem Next.doer_eq {l n : Deed ι} (h : Next (some l) n) : l.doer = n.doer := by
  cases h with
  | deletes hn => exact hn
  | _ => rfl

theorem Next.rank_lt {l n : Deed ι} (h : Next (some l) n) : l.rank < n.rank := by
  cases h with
  | deletes hn h2 h6 => exact h6
  | leaves hn h8 => exact h8
  | _ => simp [rank]

end Deed

/-! ## 2. What a story amounts to -/

/-- The next ticket to be drawn, and the tickets in the queue with their parties. -/
structure Lineup (ι : Type) where
  fresh : Nat
  queue : List (Nat × Party ι)

namespace Lineup

/-- The queue after a deed.  Only the party at the head ever leaves. -/
def after (l : Lineup ι) : Deed ι → Lineup ι
  | .joins who => ⟨l.fresh + 1, l.queue ++ [(l.fresh, who)]⟩
  | .leaves _ => ⟨l.fresh, l.queue.tail⟩
  | _ => l

/-- The party that holds the lock. -/
def holder (l : Lineup ι) : Option (Party ι) := l.queue.head?.map Prod.snd

/-- The lock. -/
def lock (l : Lineup ι) : Lock := ⟨l.queue.map Prod.fst, l.fresh⟩

end Lineup

/-- **The queue at the end of a story.** -/
def lineup (h : List (Deed ι)) : Lineup ι := h.foldl Lineup.after ⟨0, []⟩

/-- What is pending after a deed. -/
def pendingAfter (reason : ι → String) (p : Option String) : Deed ι → Option String
  | .issues i => some (p.getD (reason i))
  | .checks _ => none
  | _ => p

/-- **The reason that is pending at the end of a story.** -/
def pendingOf (reason : ι → String) (h : List (Deed ι)) : Option String := h.foldl (pendingAfter reason) none

@[simp] theorem lineup_nil : lineup ([] : List (Deed ι)) = ⟨0, []⟩ := rfl

@[simp] theorem lineup_snoc (h : List (Deed ι)) (n : Deed ι) : lineup (h ++ [n]) = (lineup h).after n := by
  simp [lineup]

@[simp] theorem pendingOf_snoc (reason : ι → String) (h : List (Deed ι)) (n : Deed ι) :
    pendingOf reason (h ++ [n]) = pendingAfter reason (pendingOf reason h) n := by
  simp [pendingOf]

/-- The party at the head. -/
theorem Lineup.queue_of_holder {l : Lineup ι} {who : Party ι} (hh : l.holder = some who) :
    ∃ t rest, l.queue = (t, who) :: rest := by
  unfold holder at hh
  cases hq : l.queue with
  | nil => simp [hq] at hh
  | cons x rest =>
    simp only [hq, List.head?_cons, Option.map_some, Option.some.injEq] at hh
    exact ⟨x.1, rest, by rw [← hh]⟩

/-- The ticket at the head is the one that is taken out. -/
theorem Lineup.lock_leave {l : Lineup ι} {who : Party ι} {t : Nat} (hhead : l.queue.head? = some (t, who)) :
    l.lock.leave t = (l.after (.leaves who)).lock := by
  cases hqueue : l.queue with
  | nil =>
    rw [hqueue] at hhead
    cases hhead
  | cons x rest =>
    rw [hqueue, List.head?_cons, Option.some.injEq] at hhead
    simp [Lock.leave, lock, after, hqueue, hhead]

/-- **The queue at the end of a proper story**: who has joined and has not left is in it, once, with tickets in the
order in which they were drawn. -/
structure Queued (h : List (Deed ι)) : Prop where
  members : ∀ {t who}, (t, who) ∈ (lineup h).queue → .joins who ∈ h ∧ .leaves who ∉ h
  all : ∀ {who}, .joins who ∈ h → .leaves who ∉ h → ∃ t, (t, who) ∈ (lineup h).queue
  tickets : (lineup h).queue.Pairwise fun x y => x.1 < y.1
  fresh : ∀ x ∈ (lineup h).queue, x.1 < (lineup h).fresh
  parties : (lineup h).queue.Pairwise fun x y => x.2 ≠ y.2

/-- A deed other than joining and leaving changes nothing in the queue. -/
theorem Queued.other {h : List (Deed ι)} {n : Deed ι} (hq : Queued h) (hline : (lineup h).after n = lineup h)
    (hj : ∀ w, n ≠ .joins w) (hl : ∀ w, n ≠ .leaves w) : Queued (h ++ [n]) := by
  have hjoins : ∀ w, Deed.joins w ∈ h ++ [n] ↔ Deed.joins w ∈ h := by simp [(hj _).symm]
  have hleaves : ∀ w, Deed.leaves w ∈ h ++ [n] ↔ Deed.leaves w ∈ h := by simp [(hl _).symm]
  constructor <;> simp only [lineup_snoc, hline, hjoins, hleaves]
  · exact hq.members
  · exact hq.all
  · exact hq.tickets
  · exact hq.fresh
  · exact hq.parties

/-- What comes in which order, in a story with one more deed. -/
theorem sublist_snoc {κ : Type} {l h : List κ} {b n : κ} :
    (l ++ [b]).Sublist (h ++ [n]) ↔ (l ++ [b]).Sublist h ∨ (l.Sublist h ∧ b = n) := by
  rw [← List.reverse_sublist, ← @List.reverse_sublist _ (l ++ [b]) h]
  simp only [List.reverse_append, List.reverse_singleton, List.singleton_append, List.cons_sublist_cons',
    List.reverse_sublist, and_comm]

theorem pair_snoc {κ : Type} {h : List κ} {a b n : κ} :
    [a, b].Sublist (h ++ [n]) ↔ [a, b].Sublist h ∨ (a ∈ h ∧ b = n) := by
  simpa using sublist_snoc (l := [a]) (h := h) (b := b) (n := n)

variable [DecidableEq ι]

/-- **The deeds of a party.** -/
def own (who : Party ι) (h : List (Deed ι)) : List (Deed ι) := h.filter fun n => n.doer = who

/-- **The last deed of a party.** -/
def lastOf (who : Party ι) (h : List (Deed ι)) : Option (Deed ι) := (own who h).getLast?

theorem own_snoc (who : Party ι) (h : List (Deed ι)) (n : Deed ι) :
    own who (h ++ [n]) = if n.doer = who then own who h ++ [n] else own who h := by
  by_cases hn : n.doer = who <;> simp [own, List.filter_append, hn]

/-- What others do is not what the party does. -/
theorem own_append (who : Party ι) (h : List (Deed ι)) {l : List (Deed ι)} (hl : ∀ n ∈ l, n.doer ≠ who) :
    own who (h ++ l) = own who h := by
  have hnone : l.filter (fun n => n.doer = who) = [] := List.filter_eq_nil_iff.mpr fun n hn => by simpa using hl n hn
  rw [own, List.filter_append, hnone, List.append_nil, own]

theorem mem_own {who : Party ι} {h : List (Deed ι)} {n : Deed ι} : n ∈ own who h ↔ n ∈ h ∧ n.doer = who := by
  simp [own]

theorem lastOf_snoc (who : Party ι) (h : List (Deed ι)) (n : Deed ι) :
    lastOf who (h ++ [n]) = if n.doer = who then some n else lastOf who h := by
  rw [lastOf, own_snoc]
  split
  · exact List.getLast?_concat
  · rfl

theorem lastOf_mem {who : Party ι} {h : List (Deed ι)} {n : Deed ι} (hl : lastOf who h = some n) :
    n ∈ h ∧ n.doer = who := mem_own.mp (List.mem_of_getLast? hl)

/-! ## 3. The law -/

/-- **A deed that may come next**: it is next in the script of its party, which holds the lock if the deed needs it,
and a check finds what is pending. -/
structure Allowed (reason : ι → String) (h : List (Deed ι)) (n : Deed ι) : Prop where
  next : Deed.Next (lastOf n.doer h) n
  holds : n.inside = true → (lineup h).holder = some n.doer
  checks : ∀ p, n = .checks p → p = pendingOf reason h

/-- A deed outside needs no more than its turn. -/
theorem Allowed.of_outside {reason : ι → String} {h : List (Deed ι)} {n : Deed ι}
    (hnext : Deed.Next (lastOf n.doer h) n) (hi : n.inside = false) : Allowed reason h n := by
  refine ⟨hnext, fun hinside => ?_, fun p hp => ?_⟩
  · rw [hi] at hinside
    cases hinside
  · rw [hp] at hi
    cases hi

/-- **The stories there are.** -/
inductive Proper (reason : ι → String) : List (Deed ι) → Prop where
  | nil : Proper reason []
  | snoc {h : List (Deed ι)} {n : Deed ι} (before : Proper reason h) (allowed : Allowed reason h n) :
      Proper reason (h ++ [n])

namespace Proper

variable {reason : ι → String} {h l : List (Deed ι)} {n a b : Deed ι} {who : Party ι} {i : ι}

theorem of_snoc (hs : Proper reason (h ++ [n])) : Proper reason h ∧ Allowed reason h n := by
  generalize hk : h ++ [n] = k at hs
  cases hs with
  | nil => simp at hk
  | snoc before allowed =>
    obtain ⟨rfl, hn⟩ := List.append_inj' hk rfl
    cases hn
    exact ⟨before, allowed⟩

/-! Each party gets on. -/

/-- A party is as far as its last deed. -/
theorem rank_le_last (hs : Proper reason h) (ha : a ∈ h) : ∃ l, lastOf a.doer h = some l ∧ a.rank ≤ l.rank := by
  induction hs with
  | nil => simp at ha
  | @snoc h n before allowed ih =>
    rw [lastOf_snoc]
    split
    next hn =>
      refine ⟨n, rfl, ?_⟩
      rcases List.mem_append.mp ha with hin | hin
      · obtain ⟨l, hl, hle⟩ := ih hin
        have hnext := allowed.next
        rw [hn, hl] at hnext
        have hlt := hnext.rank_lt
        omega
      · exact Nat.le_of_eq (congrArg Deed.rank (List.mem_singleton.mp hin))
    next hn =>
      have hin : a ∈ h := by
        refine (List.mem_append.mp ha).resolve_right fun hin => ?_
        rw [List.mem_singleton.mp hin] at hn
        exact hn rfl
      exact ih hin

/-- **What a party does next is further on** than all it has done. -/
theorem rank_lt (hs : Proper reason h) (hn : Allowed reason h n) (ha : a ∈ h) (hd : a.doer = n.doer) :
    a.rank < n.rank := by
  obtain ⟨l, hl, hle⟩ := hs.rank_le_last ha
  have hnext := hn.next
  rw [← hd, hl] at hnext
  have hlt := hnext.rank_lt
  omega

/-- A party does nothing twice. -/
theorem eq_of_rank (hs : Proper reason h) (ha : a ∈ h) (hb : b ∈ h) (hd : a.doer = b.doer) (hr : a.rank = b.rank) :
    a = b := by
  induction hs with
  | nil => simp at ha
  | @snoc h n before allowed ih =>
    rcases List.mem_append.mp ha with hina | hina <;> rcases List.mem_append.mp hb with hinb | hinb
    · exact ih hina hinb
    · cases List.mem_singleton.mp hinb
      have hlt := before.rank_lt allowed hina hd
      omega
    · cases List.mem_singleton.mp hina
      have hlt := before.rank_lt allowed hinb hd.symm
      omega
    · rw [List.mem_singleton.mp hina, List.mem_singleton.mp hinb]

/-- What comes later in the script of a party comes later in the story. -/
theorem rank_lt_of_sublist (hs : Proper reason h) (hab : [a, b].Sublist h) (hd : a.doer = b.doer) :
    a.rank < b.rank := by
  induction hs with
  | nil => simp at hab
  | snoc before allowed ih =>
    rcases pair_snoc.mp hab with hin | ⟨ha, rfl⟩
    · exact ih hin
    · exact before.rank_lt allowed ha hd

/-! What a party has done before. -/

/-- The deed before, in the script of a party. -/
theorem before_next (hs : Proper reason h) (hn : n ∈ h) :
    ∃ l, Deed.Next l n ∧ ∀ m, l = some m → m ∈ h := by
  induction hs with
  | nil => simp at hn
  | @snoc h k before allowed ih =>
    rcases List.mem_append.mp hn with hin | hin
    · obtain ⟨l, hl, hmem⟩ := ih hin
      exact ⟨l, hl, fun m hm => List.mem_append_left _ (hmem m hm)⟩
    · cases List.mem_singleton.mp hin
      exact ⟨_, allowed.next, fun m hm => List.mem_append_left _ (lastOf_mem hm).1⟩

/-- **Whoever is inside has joined.** -/
theorem joined_of_inside (hs : Proper reason h) (hn : n ∈ h) (hi : n.inside = true) : .joins n.doer ∈ h := by
  have hrank : ∀ k, ∀ n ∈ h, n.inside = true → n.rank = k → Deed.joins n.doer ∈ h := by
    intro k
    induction k using Nat.strongRecOn with
    | _ k ih =>
      intro n hn hi hk
      obtain ⟨l, hl, hmem⟩ := hs.before_next hn
      cases l with
      | none =>
        cases hl with
        | issues i => simp [Deed.inside] at hi
        | joins_inflation => simp [Deed.inside] at hi
      | some m =>
        have hm := hmem m rfl
        rw [← hl.doer_eq]
        cases hmi : m.inside with
        | true => exact ih m.rank (hk ▸ hl.rank_lt) m hm hmi rfl
        | false =>
          cases m with
          | joins who => exact hm
          | issues i =>
            cases hl with
            | joins_cancel => simp [Deed.inside] at hi
            | deletes hd => cases hd
            | leaves hin => simp [Deed.inside] at hin
          | _ => simp [Deed.inside] at hmi
  exact hrank n.rank n hn hi rfl

end Proper

/-! ## 4. The queue -/

namespace Proper

variable {reason : ι → String} {h : List (Deed ι)} {n a : Deed ι} {who : Party ι}

theorem queued (hs : Proper reason h) : Queued h := by
  induction hs with
  | nil => constructor <;> simp
  | @snoc h n before allowed ih =>
    cases n with
    | joins who =>
      have hnew : Deed.joins who ∉ h := fun hin => by simpa using before.rank_lt allowed hin rfl
      have hleft : Deed.leaves who ∉ h := fun hin => by simpa [Deed.rank] using before.rank_lt allowed hin rfl
      constructor <;> simp only [lineup_snoc, Lineup.after]
      · intro t w hm
        rcases List.mem_append.mp hm with hm | hm
        · simpa using ⟨.inl (ih.members hm).1, (ih.members hm).2⟩
        · simp only [List.mem_singleton, Prod.mk.injEq] at hm
          obtain ⟨rfl, rfl⟩ := hm
          simpa using hleft
      · intro w hj hl
        simp only [List.mem_append, List.mem_singleton, Deed.joins.injEq, reduceCtorEq, or_false] at hj hl
        rcases hj with hj | rfl
        · obtain ⟨t, ht⟩ := ih.all hj hl
          exact ⟨t, by simp [ht]⟩
        · exact ⟨(lineup h).fresh, by simp⟩
      · rw [List.pairwise_append]
        exact ⟨ih.tickets, by simp, by simpa using fun t w hm => ih.fresh _ hm⟩
      · intro x hx
        rcases List.mem_append.mp hx with hx | hx
        · exact Nat.lt_succ_of_lt (ih.fresh x hx)
        · rw [List.mem_singleton.mp hx]
          exact Nat.lt_succ_self _
      · rw [List.pairwise_append]
        refine ⟨ih.parties, by simp, ?_⟩
        rintro ⟨t, w⟩ hx y hy hxy
        have hwho : w = who := hxy.trans (congrArg Prod.snd (List.mem_singleton.mp hy))
        exact hnew (hwho ▸ (ih.members hx).1)
    | leaves who =>
      obtain ⟨t, rest, hqueue⟩ := Lineup.queue_of_holder (allowed.holds rfl)
      have hparties := ih.parties
      have htickets := ih.tickets
      rw [hqueue, List.pairwise_cons] at hparties htickets
      have hsub : ∀ x ∈ rest, x ∈ (lineup h).queue := fun x hx => hqueue ▸ List.mem_cons_of_mem _ hx
      constructor <;> simp only [lineup_snoc, Lineup.after, hqueue, List.tail_cons]
      · intro t' w hm
        have hne : w ≠ who := fun heq => hparties.1 _ hm heq.symm
        have hold := ih.members (hsub _ hm)
        simpa [hne] using hold
      · intro w hj hl
        simp only [List.mem_append, List.mem_singleton, Deed.leaves.injEq, reduceCtorEq, or_false, not_or] at hj hl
        obtain ⟨t', ht'⟩ := ih.all hj hl.1
        rw [hqueue, List.mem_cons] at ht'
        exact ⟨t', ht'.resolve_left fun heq => hl.2 (Prod.mk.inj heq).2⟩
      · exact htickets.2
      · exact fun x hx => ih.fresh x (hsub x hx)
      · exact hparties.2
    | _ => exact Queued.other ih rfl (by simp) (by simp)

/-! Others leave a ticket where it is, and the head to whom it belongs. -/

theorem head_append {t : Nat} {l : List (Deed ι)} (hs : Proper reason (h ++ l)) (hl : ∀ n ∈ l, n.doer ≠ who)
    (hhead : (lineup h).queue.head? = some (t, who)) : (lineup (h ++ l)).queue.head? = some (t, who) := by
  induction l using List.reverseRec with
  | nil => rwa [List.append_nil]
  | append_singleton l n ih =>
    rw [← List.append_assoc] at hs ⊢
    obtain ⟨before, allowed⟩ := hs.of_snoc
    have hold := ih before fun m hm => hl m (List.mem_append_left _ hm)
    rw [lineup_snoc]
    cases n with
    | joins w => simp [Lineup.after, List.head?_append, hold]
    | leaves w =>
      -- only the holder leaves
      have hw : (lineup (h ++ l)).holder = some w := allowed.holds rfl
      rw [Lineup.holder, hold, Option.map_some, Option.some.injEq] at hw
      exact absurd hw.symm (hl (.leaves w) (by simp))
    | _ => exact hold

theorem queue_append {t : Nat} {l : List (Deed ι)} (hs : Proper reason (h ++ l)) (hl : ∀ n ∈ l, n.doer ≠ who)
    (hm : (t, who) ∈ (lineup h).queue) : (t, who) ∈ (lineup (h ++ l)).queue := by
  induction l using List.reverseRec with
  | nil => rwa [List.append_nil]
  | append_singleton l n ih =>
    rw [← List.append_assoc] at hs ⊢
    obtain ⟨before, allowed⟩ := hs.of_snoc
    have hold := ih before fun m hm => hl m (List.mem_append_left _ hm)
    rw [lineup_snoc]
    cases n with
    | joins w => simp [Lineup.after, hold]
    | leaves w =>
      obtain ⟨t₀, rest, hqueue⟩ := Lineup.queue_of_holder (allowed.holds rfl)
      rw [hqueue, List.mem_cons] at hold
      simp only [Lineup.after, hqueue, List.tail_cons]
      exact hold.resolve_left fun heq => hl (.leaves w) (by simp) (Prod.mk.inj heq).2.symm
    | _ => exact hold

/-- **Who holds the lock**: whose ticket is at the head. -/
theorem head_of_held {t : Nat} (hs : Proper reason h) (hm : (t, who) ∈ (lineup h).queue)
    (hheld : (lineup h).lock.isHeldBy t = true) : (lineup h).queue.head? = some (t, who) := by
  have htickets := hs.queued.tickets
  cases hqueue : (lineup h).queue with
  | nil =>
    rw [hqueue] at hm
    cases hm
  | cons x rest =>
    rw [hqueue] at hm htickets
    have hx : x.1 = t := by simpa [Lock.isHeldBy, Lineup.lock, hqueue] using hheld
    rcases List.mem_cons.mp hm with rfl | hrest
    · rfl
    · have hlt := (List.pairwise_cons.mp htickets).1 _ hrest
      exact absurd hx (Nat.ne_of_lt hlt)

/-! ## 5. One after the other -/

/-- **Whoever has been inside and has not left holds the lock.** -/
theorem holder_of_inside (hs : Proper reason h) (ha : a ∈ h) (hi : a.inside = true) (hl : .leaves a.doer ∉ h) :
    (lineup h).holder = some a.doer := by
  induction hs with
  | nil => simp at ha
  | @snoc h n before allowed ih =>
    rw [List.mem_append, not_or] at hl
    have hholds : (lineup h).holder = some a.doer := by
      rcases List.mem_append.mp ha with hin | hin
      · exact ih hin hl.1
      · rw [List.mem_singleton.mp hin] at hi ⊢
        exact allowed.holds hi
    obtain ⟨t, rest, hqueue⟩ := Lineup.queue_of_holder hholds
    rw [lineup_snoc]
    cases n with
    | joins who => simp [Lineup.holder, Lineup.after, hqueue]
    | leaves who =>
      -- only the holder leaves
      have hwho : some a.doer = some who := hholds.symm.trans (allowed.holds rfl)
      exact absurd (List.mem_singleton.mpr (congrArg Deed.leaves (Option.some.inj hwho))) hl.2
    | _ => exact hholds

/-- **Mutual exclusion**: whoever has been inside has left before another party does something there. -/
theorem left_of_inside (hs : Proper reason h) (han : [a, n].Sublist h) (ha : a.inside = true) (hn : n.inside = true)
    (hd : a.doer ≠ n.doer) : [.leaves a.doer, n].Sublist h := by
  induction hs with
  | nil => simp at han
  | @snoc h k before allowed ih =>
    rcases pair_snoc.mp han with hin | ⟨hin, rfl⟩
    · exact (ih hin).trans (List.sublist_append_left _ _)
    · refine pair_snoc.mpr (.inr ⟨?_, rfl⟩)
      by_contra hleft
      have hholds := before.holder_of_inside hin ha hleft
      rw [allowed.holds hn, Option.some.injEq] at hholds
      exact hd hholds.symm

/-- Nothing of another party comes between two things that one does inside. -/
theorem nothing_between {b : Deed ι} (hs : Proper reason h) (ha : a.inside = true) (hn : n.inside = true)
    (hab : a.doer = b.doer) (hd : a.doer ≠ n.doer) : ¬ [a, n, b].Sublist h := by
  intro hsub
  have hbetween : [.leaves b.doer, n, b].Sublist h := by
    induction hs with
    | nil => simp at hsub
    | @snoc h k before allowed ih =>
      rcases (sublist_snoc (l := [a, n]) (b := b)).mp hsub with hin | ⟨hin, rfl⟩
      · exact (ih hin).trans (List.sublist_append_left _ _)
      · exact (sublist_snoc (l := [_, n])).mpr (.inr ⟨hab ▸ before.left_of_inside hin ha hn hd, rfl⟩)
  have hpair : [Deed.leaves b.doer, b].Sublist h :=
    (List.Sublist.cons_cons _ (List.sublist_cons_self n [b])).trans hbetween
  have hlt : 8 < b.rank := hs.rank_lt_of_sublist hpair rfl
  have hle : b.rank ≤ 8 := by cases b <;> simp [Deed.rank]
  omega

/-- Who has joined before another party is ahead of it in the queue. -/
theorem ahead {who' : Party ι} {t' : Nat} (hs : Proper reason h)
    (hj : [Deed.joins who, Deed.joins who'].Sublist h) (hl : .leaves who ∉ h) (hm : (t', who') ∈ (lineup h).queue) :
    ∃ t, t < t' ∧ (t, who) ∈ (lineup h).queue := by
  induction hs with
  | nil => simp at hj
  | @snoc h n before allowed ih =>
    rw [List.mem_append, not_or] at hl
    rw [lineup_snoc] at hm ⊢
    rcases pair_snoc.mp hj with hin | ⟨hin, rfl⟩
    · have hother : n ≠ .joins who' := by
        rintro rfl
        simpa using before.rank_lt allowed (hin.subset (by simp)) rfl
      cases n with
      | joins w =>
        simp only [Lineup.after, List.mem_append, List.mem_singleton, Prod.mk.injEq] at hm ⊢
        obtain ⟨t, hlt, ht⟩ := ih hin hl.1 (hm.resolve_right fun heq => hother (by rw [heq.2]))
        exact ⟨t, hlt, .inl ht⟩
      | leaves w =>
        obtain ⟨t₀, rest, hqueue⟩ := Lineup.queue_of_holder (allowed.holds rfl)
        simp only [Lineup.after, hqueue, List.tail_cons] at hm ⊢
        obtain ⟨t, hlt, ht⟩ := ih hin hl.1 (hqueue ▸ List.mem_cons_of_mem _ hm)
        rw [hqueue, List.mem_cons] at ht
        exact ⟨t, hlt, ht.resolve_left fun heq => hl.2 (by simp [(Prod.mk.inj heq).2, Deed.doer])⟩
      | _ => exact ih hin hl.1 hm
    · -- the ticket that is drawn is the last one
      simp only [Lineup.after, List.mem_append, List.mem_singleton, Prod.mk.injEq] at hm ⊢
      have hnew : (t', who') ∉ (lineup h).queue := fun hold => by
        simpa using before.rank_lt allowed (before.queued.members hold).1 rfl
      obtain ⟨rfl, -⟩ := hm.resolve_left hnew
      obtain ⟨t, ht⟩ := before.queued.all hin hl.1
      exact ⟨t, before.queued.fresh _ ht, .inl ht⟩

/-- **First come, first served**: who has joined before another party has left before that does something inside. -/
theorem left_of_joined (hs : Proper reason h) (hj : [Deed.joins who, Deed.joins n.doer].Sublist h) (hn : n ∈ h)
    (hi : n.inside = true) : [.leaves who, n].Sublist h := by
  induction hs with
  | nil => simp at hn
  | @snoc h k before allowed ih =>
    rcases List.mem_append.mp hn with hin | hin
    · rcases pair_snoc.mp hj with hj' | ⟨-, rfl⟩
      · exact (ih hj' hin).trans (List.sublist_append_left _ _)
      · simpa using before.rank_lt allowed (before.joined_of_inside hin hi) rfl
    · cases List.mem_singleton.mp hin
      rcases pair_snoc.mp hj with hj' | ⟨-, heq⟩
      · refine pair_snoc.mpr (.inr ⟨?_, rfl⟩)
        by_contra hleft
        obtain ⟨t, rest, hqueue⟩ := Lineup.queue_of_holder (allowed.holds hi)
        have htickets := before.queued.tickets
        rw [hqueue, List.pairwise_cons] at htickets
        obtain ⟨t', hlt, ht'⟩ := before.ahead hj' hleft (hqueue ▸ List.mem_cons_self)
        rw [hqueue, List.mem_cons] at ht'
        rcases ht' with heq | hrest
        · exact absurd (Prod.mk.inj heq).1 (Nat.ne_of_lt hlt)
        · exact absurd (htickets.1 _ hrest) (Nat.lt_asymm hlt)
      · rw [← heq] at hi
        simp [Deed.inside] at hi

/-! ## 6. What is pending, and what is found -/

/-- Before the check a reason is pending exactly if a cancel has left one. -/
theorem pending_iff (hs : Proper reason h) (hno : ∀ p, .checks p ∉ h) :
    (pendingOf reason h).isSome = true ↔ ∃ i, .issues i ∈ h := by
  induction hs with
  | nil => simp [pendingOf]
  | @snoc h n before allowed ih =>
    have hbefore := ih fun p hp => hno p (List.mem_append_left _ hp)
    rw [pendingOf_snoc]
    cases n with
    | issues i => simp [pendingAfter]
    | checks p => exact absurd (List.mem_append_right _ (List.mem_singleton_self _)) (hno p)
    | _ => simpa [pendingAfter] using hbefore

/-- **No reason is lost**: the check finds one exactly if a cancel has left one before. -/
theorem check_finds {p : Option String} (hs : Proper reason h) (hp : .checks p ∈ h) :
    p.isSome = true ↔ ∃ i, [.issues i, .checks p].Sublist h := by
  induction hs with
  | nil => simp at hp
  | @snoc h n before allowed ih =>
    have hfirst : n = .checks p → ∀ q, Deed.checks q ∉ h := by
      rintro rfl q hq
      simpa [Deed.rank] using before.rank_lt allowed hq rfl
    rcases List.mem_append.mp hp with hin | hin
    · have hother : n ≠ .checks p := fun heq => hfirst heq p hin
      rw [ih hin]
      exact exists_congr fun i => by simp [pair_snoc, hother.symm]
    · have heq := (List.mem_singleton.mp hin).symm
      rw [allowed.checks p heq, before.pending_iff (hfirst heq)]
      refine exists_congr fun i => ?_
      rw [pair_snoc]
      constructor
      · exact fun hi => .inr ⟨hi, by rw [heq, ← allowed.checks p heq]⟩
      · rintro (hsub | ⟨hi, -⟩)
        · exact hsub.subset (by simp)
        · exact hi

/-- The inflation measures the object and starts the checksum only where the check has found nothing. -/
theorem check_of_measures (hs : Proper reason h) (hn : .measures ∈ h ∨ .checksums ∈ h) : .checks none ∈ h := by
  have hmeasures : .measures ∈ h → Deed.checks none ∈ h := by
    intro hin
    obtain ⟨l, hl, hmem⟩ := hs.before_next hin
    cases hl
    exact hmem _ rfl
  rcases hn with hin | hin
  · exact hmeasures hin
  · obtain ⟨l, hl, hmem⟩ := hs.before_next hin
    cases hl
    exact hmeasures (hmem _ rfl)

/-- **A cancel finds something once.** -/
theorem countP_finds_le (i : ι) (hs : Proper reason h) : h.countP (Deed.isFindOf i) ≤ 1 := by
  induction hs with
  | nil => simp
  | @snoc h n before allowed ih =>
    rw [List.countP_append, List.countP_singleton]
    split
    next hn =>
      have hnone : h.countP (Deed.isFindOf i) = 0 := by
        rw [List.countP_eq_zero]
        intro k hk hfind
        cases k with
        | finds j answer =>
          cases n with
          | finds j' answer' =>
            simp only [Deed.isFindOf, decide_eq_true_eq] at hn hfind
            subst hn hfind
            simpa [Deed.rank] using before.rank_lt allowed hk rfl
          | _ => simp [Deed.isFindOf] at hn
        | _ => simp [Deed.isFindOf] at hfind
      omega
    next => exact ih

end Proper

end ImageImport
