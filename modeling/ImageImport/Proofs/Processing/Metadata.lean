/-
# Disks that are tagged

A disk is tagged by one update.  What the disk has stays where it is, and behind it comes what the plan asks for
besides, each once and in the order in which the plan first asks for it (`Merged`).  There is one such update
(`sends_iff`), and on the disk as it is then nothing is missing any more, so the same update is sent again
(`Sends.again`).

Main statement: `process_tags`, over all plans, every disk and every run.  The disk is looked up, and when it is found
one update is sent with what was found (`Tagged`).
-/
import ImageImport.Processing.Metadata
import ImageImport.Proofs.Import.Simulation
import Mathlib.Data.List.Perm.Basic

namespace ImageImport

open Activity

/-! ## 1. What is missing is added -/

section Merging

variable {α : Type} [BEq α] [LawfulBEq α] {present wanted merged : List α} {a : α}

/-- **What is there, and behind it what is missing of the wanted**: each once, in the order in which it is first
wanted. -/
inductive Merged (present wanted : List α) : List α → Prop where
  | append {missing : List α} (all : ∀ a, a ∈ missing ↔ a ∈ wanted ∧ a ∉ present) (once : missing.Nodup)
      (order : missing.Pairwise fun a b => wanted.idxOf a < wanted.idxOf b) : Merged present wanted (present ++ missing)

theorem addMissing_cons_of_mem (h : a ∈ present) : addMissing present (a :: wanted) = addMissing present wanted := by
  rw [addMissing, List.foldl_cons, if_pos (List.contains_iff_mem.mpr h), addMissing]

theorem addMissing_cons_of_not_mem (h : a ∉ present) :
    addMissing present (a :: wanted) = addMissing (present ++ [a]) wanted := by
  rw [addMissing, List.foldl_cons, if_neg (by simpa using h), addMissing]

/-- What comes behind the first of a list keeps its order. -/
theorem pairwise_idxOf_cons {missing : List α} (hne : a ∉ missing)
    (h : missing.Pairwise fun x y => wanted.idxOf x < wanted.idxOf y) :
    missing.Pairwise fun x y => (a :: wanted).idxOf x < (a :: wanted).idxOf y := by
  refine h.imp_of_mem fun {x y} hx hy hlt => ?_
  have hax : a ≠ x := fun h => hne (h ▸ hx)
  have hay : a ≠ y := fun h => hne (h ▸ hy)
  rw [List.idxOf_cons_ne _ hax, List.idxOf_cons_ne _ hay]
  exact Nat.succ_lt_succ hlt

/-- Something that is there already is not missing. -/
theorem Merged.cons_of_mem (h : Merged present wanted merged) (ha : a ∈ present) :
    Merged present (a :: wanted) merged := by
  obtain @⟨missing, all, once, order⟩ := h
  have hall : ∀ b, b ∈ missing ↔ b ∈ a :: wanted ∧ b ∉ present := by
    intro b
    rw [all, List.mem_cons]
    constructor
    · rintro ⟨hwanted, hnot⟩
      exact ⟨.inr hwanted, hnot⟩
    · rintro ⟨rfl | hwanted, hnot⟩
      · exact absurd ha hnot
      · exact ⟨hwanted, hnot⟩
  have hne : a ∉ missing := fun hmem => ((hall a).mp hmem).2 ha
  exact .append hall once (pairwise_idxOf_cons hne order)

/-- Something that is not there comes before all else that is missing. -/
theorem Merged.cons_of_not_mem (h : Merged (present ++ [a]) wanted merged) (ha : a ∉ present) :
    Merged present (a :: wanted) merged := by
  obtain @⟨missing, all, once, order⟩ := h
  have hne : a ∉ missing := fun hmem => ((all a).mp hmem).2 (by simp)
  have hall : ∀ b, b ∈ a :: missing ↔ b ∈ a :: wanted ∧ b ∉ present := by
    intro b
    rw [List.mem_cons, List.mem_cons, all, List.mem_append, List.mem_singleton]
    constructor
    · rintro (rfl | ⟨hwanted, hnot⟩)
      · exact ⟨.inl rfl, ha⟩
      · exact ⟨.inr hwanted, fun hmem => hnot (.inl hmem)⟩
    · rintro ⟨hwanted, hnot⟩
      by_cases hb : b = a
      · exact .inl hb
      · exact .inr ⟨hwanted.resolve_left hb, by tauto⟩
  have hfirst : ∀ b ∈ missing, (a :: wanted).idxOf a < (a :: wanted).idxOf b := by
    intro b hb
    have hab : a ≠ b := fun heq => hne (heq ▸ hb)
    rw [List.idxOf_cons_self, List.idxOf_cons_ne _ hab]
    exact Nat.succ_pos _
  rw [List.append_assoc, List.singleton_append]
  exact .append hall (List.nodup_cons.mpr ⟨hne, once⟩) (List.pairwise_cons.mpr ⟨hfirst, pairwise_idxOf_cons hne order⟩)

/-- **What is added is what is missing.**  The induction is on what is wanted, whatever the list has grown to. -/
theorem merged_addMissing (present wanted : List α) : Merged present wanted (addMissing present wanted) := by
  induction wanted generalizing present with
  | nil =>
    have hnone : Merged present [] (present ++ []) := .append (by simp) .nil .nil
    rwa [List.append_nil] at hnone
  | cons a wanted ih =>
    by_cases ha : a ∈ present
    · rw [addMissing_cons_of_mem ha]
      exact (ih present).cons_of_mem ha
    · rw [addMissing_cons_of_not_mem ha]
      exact (ih (present ++ [a])).cons_of_not_mem ha

/-- **There is one such list.** -/
theorem merged_iff : Merged present wanted merged ↔ merged = addMissing present wanted := by
  constructor
  · intro h
    generalize hadded : addMissing present wanted = added
    have h' : Merged present wanted added := hadded ▸ merged_addMissing present wanted
    obtain @⟨missing, all, once, order⟩ := h
    obtain @⟨missing', all', once', order'⟩ := h'
    have hperm : missing.Perm missing' :=
      (List.perm_ext_iff_of_nodup once once').mpr fun a => (all a).trans (all' a).symm
    have hsame : missing = missing' :=
      hperm.eq_of_pairwise (fun a b _ _ hab hba => absurd (Nat.lt_trans hab hba) (Nat.lt_irrefl _)) order order'
    rw [hsame]
  · rintro rfl
    exact merged_addMissing present wanted

/-- **Where nothing is missing, nothing is added.** -/
theorem Merged.again (h : Merged present wanted merged) : Merged merged wanted merged := by
  obtain @⟨missing, all, once, order⟩ := h
  have hnone : ∀ a, a ∈ ([] : List α) ↔ a ∈ wanted ∧ a ∉ present ++ missing := by
    intro a
    rw [List.mem_append, all]
    simp only [List.not_mem_nil, false_iff]
    tauto
  have hagain : Merged (present ++ missing) wanted (present ++ missing ++ []) := .append hnone .nil .nil
  rwa [List.append_nil] at hagain

end Merging

/-! ## 2. The update -/

namespace ProcessingPlan

variable {plan : ProcessingPlan} {current : Disk} {update : DiskMetadataUpdate}

/-- **The update that a plan sends for a disk.** -/
structure Sends (plan : ProcessingPlan) (current : Disk) (update : DiskMetadataUpdate) : Prop where
  licenses : Merged current.licenses plan.requiredLicenses update.licenses
  features : Merged current.guestOsFeatures plan.requiredFeatures update.guestOsFeatures

/-- **There is one such update.** -/
theorem sends_iff : plan.Sends current update ↔ update = plan.updateOf current := by
  obtain ⟨licenses, features⟩ := update
  constructor
  · rintro ⟨hlicenses, hfeatures⟩
    rw [updateOf, ← merged_iff.mp hlicenses, ← merged_iff.mp hfeatures]
  · intro h
    cases h
    exact ⟨merged_addMissing _ _, merged_addMissing _ _⟩

end ProcessingPlan

/-- A disk as an update leaves it. -/
def Disk.updated (d : Disk) (update : DiskMetadataUpdate) : Disk :=
  { d with licenses := update.licenses, guestOsFeatures := update.guestOsFeatures }

/-- **The disk as it is updated** is sent the same update. -/
theorem ProcessingPlan.Sends.again {plan : ProcessingPlan} {current : Disk} {update : DiskMetadataUpdate}
    (h : plan.Sends current update) : plan.Sends (current.updated update) update :=
  ⟨h.licenses.again, h.features.again⟩

/-! ## 3. The run -/

namespace Tagging

variable {υ : Type}

/-- What is noted of the compute service: a look-up and an update, each with the disk it is about, and their answers. -/
inductive TagNote where
  | looked (project zone name : String)
  | found (r : Except Crash (Except ApiError Disk))
  | sent (project zone name : String) (update : DiskMetadataUpdate)
  | answered (r : Except Crash (Except ApiError Unit))

/-- What has been noted, each note with its instant. -/
abbrev TagHistory := List (Nat × TagNote)

/-- **The platform with notes of its look-ups and updates.** -/
def tagging (p : Platform (Watched υ TagNote)) : Platform (Watched υ TagNote) :=
  { p with
    getDisk := fun project zone name => .watching (.looked project zone name) .found (p.getDisk project zone name)
    updateDiskMetadata := fun project zone name update =>
      .watching (.sent project zone name update) .answered (p.updateDiskMetadata project zone name update) }

section Law

variable (a : Arguments) (plan : ProcessingPlan) (disk : PersistentDisk) (start : Nat)

/-- The look-up of the disk. -/
def lookUp : Nat × TagNote := (start, .looked a.project a.zone (Resource.name disk.uri))

/-- The update of the disk. -/
def sending (t : Nat) (update : DiskMetadataUpdate) : Nat × TagNote :=
  (t, .sent a.project a.zone (Resource.name disk.uri) update)

/-- **A tagging that has come to an end**: what is noted, and how it ends.  An update is sent as soon as the disk is
found, and none when it is not. -/
inductive Tagged : TagHistory → Except Crash (Except ImportError PersistentDisk) → Prop where
  | unknown {t : Nat} {e : ApiError} :
      Tagged [lookUp a disk start, (t, .found (.ok (.error e)))] (.ok (.error (.api e)))
  | lost {t : Nat} {why : Crash} : Tagged [lookUp a disk start, (t, .found (.error why))] (.error why)
  | refused {t t' : Nat} {current : Disk} {update : DiskMetadataUpdate} {e : ApiError}
      (sends : plan.Sends current update) :
      Tagged [lookUp a disk start, (t, .found (.ok (.ok current))), sending a disk t update,
        (t', .answered (.ok (.error e)))] (.ok (.error (.api e)))
  | tagged {t t' : Nat} {current : Disk} {update : DiskMetadataUpdate} (sends : plan.Sends current update) :
      Tagged [lookUp a disk start, (t, .found (.ok (.ok current))), sending a disk t update,
        (t', .answered (.ok (.ok ())))] (.ok (.ok disk))
  | crashed {t t' : Nat} {current : Disk} {update : DiskMetadataUpdate} {why : Crash}
      (sends : plan.Sends current update) :
      Tagged [lookUp a disk start, (t, .found (.ok (.ok current))), sending a disk t update,
        (t', .answered (.error why))] (.error why)

/-- **A tagging that waits**, for the one answer or for the other. -/
inductive Waits : TagHistory → Prop where
  | looking : Waits [lookUp a disk start]
  | sending {t : Nat} {current : Disk} {update : DiskMetadataUpdate} (sends : plan.Sends current update) :
      Waits [lookUp a disk start, (t, .found (.ok (.ok current))), sending a disk t update]

end Law

section Run

variable {a : Arguments} {plan : ProcessingPlan} {disk : PersistentDisk} {start : Nat}

/-- The terms: nobody else notes anything. -/
abbrev terms : Terms (Watched υ TagNote) := .whole fun _ => ()

/-- **The update**, once the disk is found. -/
theorem update_meets (p : Platform υ) {current : Disk} {m : Moment (Watched υ TagNote)}
    (hm : m.state.seen = [lookUp a disk start, (m.now, .found (.ok (.ok current)))]) :
    (((tagging p.watched).updateDiskMetadata a.project a.zone (Resource.name disk.uri) (plan.updateOf current)).andThen
      fun () => .done (.ok disk)).Meets terms (fun _ m' => Waits a plan disk start m'.state.seen)
      (fun r m' => Tagged a plan disk start m'.state.seen (r.map (Except.mapError .api))) m := by
  have hsends : plan.Sends current (plan.updateOf current) := ProcessingPlan.sends_iff.mpr rfl
  refine Meets.bind (Meets.weaken (fun {_ m'} hs => ?_) (fun {r m'} hs => ?_)
    (Meets.watching_call (p.updateDiskMetadata _ _ _ _)))
  · rw [hs, hm]
    exact .sending hsends
  · rw [hm] at hs
    match r, hs with
    | .ok (.ok ()), hs => exact (hs ▸ .tagged hsends : Tagged a plan disk start m'.state.seen (.ok (.ok disk)))
    | .ok (.error e), hs => exact (hs ▸ .refused hsends : Tagged a plan disk start m'.state.seen (.ok (.error (.api e))))
    | .error why, hs => exact (hs ▸ .crashed hsends : Tagged a plan disk start m'.state.seen (.error why))

/-- **The tagging**: the disk is looked up, and updated when it is found. -/
theorem tagDisk_meets (p : Platform υ) {m : Moment (Watched υ TagNote)} (hm : m.state.seen = []) :
    (tagDisk (tagging p.watched) a plan disk).Meets terms
      (fun _ m' => Waits a plan disk m.now m'.state.seen) (fun r m' => Tagged a plan disk m.now m'.state.seen r) m := by
  refine Meets.bind (Meets.bind (Meets.weaken (fun {_ m'} hs => ?_) (fun {r m'} hs => ?_)
    (Meets.watching_call (p.getDisk _ _ _))))
  · rw [hs, hm]
    exact .looking
  · rw [hm] at hs
    match r, hs with
    | .ok (.ok current), hs =>
      refine Meets.weaken id (fun {r m''} h => ?_) (update_meets p hs)
      cases r with
      | ok r => exact h
      | error why => exact h
    | .ok (.error e), hs => exact (hs ▸ .unknown : Tagged a plan disk m.now m'.state.seen (.ok (.error (.api e))))
    | .error why, hs => exact (hs ▸ .lost : Tagged a plan disk m.now m'.state.seen (.error why))

end Run

theorem tagging_mirrors (p : Platform υ) : (tagging p.watched).Mirrors Watched.state p :=
  { p.watched_mirrors with
    getDisk := fun _ _ _ => .watching (p.watched_mirrors.getDisk _ _ _)
    updateDiskMetadata := fun _ _ _ _ => .watching (p.watched_mirrors.updateDiskMetadata _ _ _ _) }

/-- **A disk is tagged by one update**, and comes back as it went in, and so do the metrics.  The update is the one
that is sent for what was found (`Tagged`); when the disk is not found, none is sent.  On the disk as it is updated
the same update is sent again.  The notes change nothing: without them the run is the same. -/
theorem process_tags (p : Platform υ) (a : Arguments) (plan : ProcessingPlan) (disk : PersistentDisk) (given : Metrics)
    (m : Moment υ) :
    let watched := ((metadataProcessor (tagging p.watched) a plan).process disk given).attended.run
      ⟨m.now, ⟨m.state, []⟩⟩
    watched.Notes (Waits a plan disk m.now)
        (fun h r => Tagged a plan disk m.now h (r.map (·.2)) ∧ GivesBack given r) ∧
      Ending.Alike Watched.state Eq watched (((metadataProcessor p a plan).process disk given).attended.run m) ∧
      ∀ current, ∃ update, (∀ x, plan.Sends current x ↔ x = update) ∧
        ∀ x, plan.Sends (current.updated update) x ↔ x = update := by
  let start : Moment (Watched υ TagNote) := ⟨m.now, ⟨m.state, []⟩⟩
  have hsame := (metadataProcessor_mirrors (tagging_mirrors p) a plan).process disk given
  refine ⟨Meets.run_notes (unreported_meets (tagDisk_meets p rfl)), Mirrors.run_attended hsame start,
    fun current => ⟨plan.updateOf current, fun x => ProcessingPlan.sends_iff, fun x => ?_⟩⟩
  have hagain : plan.Sends (current.updated (plan.updateOf current)) (plan.updateOf current) :=
    (ProcessingPlan.sends_iff.mpr rfl).again
  rw [ProcessingPlan.sends_iff, ← ProcessingPlan.sends_iff.mp hagain]

end Tagging

end ImageImport
