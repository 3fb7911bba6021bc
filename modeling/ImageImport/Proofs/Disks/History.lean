/-
# The disks an import creates

Two disks of an import outlive the call that creates them: the one its inflation workflow keeps, and the one
its shadow has the compute service make.  What is done about them is noted: the calls that create and delete a
disk, that measure an object and that run a workflow, each when it is made and when it has come back.

`DisksLaw` says of such a history that no disk has been left behind:

* a disk that the inflation workflow keeps is deleted after the workflow has come back;
* a disk that was created is deleted after its creation has come back, unless the shadow was abandoned: the
  last that was heard of it is a call that has not come back, two grace periods after the main inflation.

A disk is deleted by a text that refers to it, and a text refers to what its last segment names
(`Resource.name`): so the law asks for a deletion by a text that ends in the name of the disk.  Nothing is asked
of the answer: that the deletion is asked for is all an import can do.
-/
import ImageImport.Import
import ImageImport.Proofs.Concurrency.TermsOfNotes

namespace ImageImport

variable {υ κ ρ α β : Type}

/-! ## 1. What is noted -/

/-- **The calls that are noted.** -/
inductive DiskCall where
  | create (project zone : String) (disk : Disk)
  | delete (project zone disk : String)
  | measure (bucket object : String)
  | run (workflow : Workflow)
  deriving DecidableEq

/-- A call is made, and it has come back. -/
inductive DiskNote where
  | called (call : DiskCall)
  | answered (call : DiskCall)
  deriving DecidableEq

/-- What has been noted, each note with its instant. -/
abbrev DiskHistory := List (Nat × DiskNote)

/-- The call a note is about. -/
def DiskNote.call : DiskNote → DiskCall
  | called c | answered c => c

/-- An activity with a note when it begins, and one when it ends. -/
def Activity.noting (c : DiskCall) (a : Activity (Watched υ DiskNote) α) : Activity (Watched υ DiskNote) α :=
  .watching (.called c) (fun _ => .answered c) a

/-- The platform beside notes, which it does not see. -/
def Platform.watched (p : Platform υ) : Platform (Watched υ κ) where
  createDisk project zone disk := (p.createDisk project zone disk).on Watched.inside
  getDisk project zone name := (p.getDisk project zone name).on Watched.inside
  deleteDisk project zone disk := (p.deleteDisk project zone disk).on Watched.inside
  updateDiskMetadata project zone name update := (p.updateDiskMetadata project zone name update).on Watched.inside
  createImage project image := (p.createImage project image).on Watched.inside
  getImage project name := (p.getImage project name).on Watched.inside
  openReader bucket object := (p.openReader bucket object).on Watched.inside
  objectSize bucket object := (p.objectSize bucket object).on Watched.inside
  inspect reference := (p.inspect reference).on Watched.inside
  runWorkflow workflow isCancelled record :=
    (p.runWorkflow workflow (fun s => isCancelled ⟨s, []⟩) fun inst line s => (record inst line ⟨s, []⟩).state).on
      Watched.inside
  log severity line := Watched.inside.modify (p.log severity line)
  files := p.files

/-- **The platform with notes of what it is asked.** -/
def Platform.noting (p : Platform (Watched υ DiskNote)) : Platform (Watched υ DiskNote) :=
  { p with
    createDisk := fun project zone disk => (p.createDisk project zone disk).noting (.create project zone disk)
    deleteDisk := fun project zone disk => (p.deleteDisk project zone disk).noting (.delete project zone disk)
    objectSize := fun bucket object => (p.objectSize bucket object).noting (.measure bucket object)
    runWorkflow := fun workflow isCancelled record =>
      (p.runWorkflow workflow isCancelled record).noting (.run workflow) }

/-! ## 2. The law -/

/-- The workflow that inflates a source. -/
def Workflow.IsInflation (w : Workflow) : Prop := w.name = "inflate-image" ∨ w.name = "inflate-file"

/-- **The workflow creates a disk that it does not remove**, in this zone of this project. -/
structure Workflow.Keeps (w : Workflow) (project zone name : String) : Prop where
  project : w.project = some project
  zone : w.zone = some zone
  disk : ∃ step disks d, (step, WorkflowStep.createDisks disks) ∈ w.steps.entries ∧ d ∈ disks ∧
    d.noCleanup = true ∧ d.disk.name = name

namespace DiskCall

/-- A call of the main inflation. -/
def byMain : DiskCall → Bool
  | run w => w.name == "inflate-image" || w.name == "inflate-file"
  | _ => false

/-- A call of the shadow.  Of the deletions only that of the inflated disk, which `uri` refers to, is none. -/
def byShadow (uri : String) : DiskCall → Bool
  | create .. | measure .. => true
  | run w => w.name == DirectInflation.checksumName
  | delete _ _ disk => disk != uri

/-- A call that deletes a disk. -/
def IsDelete (c : DiskCall) : Prop := ∃ project zone disk, c = delete project zone disk

end DiskCall

namespace DiskHistory

/-- Whenever `a` has been noted, `b` has been noted after it. -/
def Follows (h : DiskHistory) (a b : DiskNote) : Prop :=
  ∀ before t after, h = before ++ (t, a) :: after → ∃ t', (t', b) ∈ after

/-- **What the call has made is unmade**: the call has come back, and after that the other one is made. -/
structure Undone (h : DiskHistory) (c c' : DiskCall) : Prop where
  answered : h.Follows (.called c) (.answered c)
  undone : h.Follows (.answered c) (.called c')

/-- The notes about some of the calls. -/
def about (f : DiskCall → Bool) (h : DiskHistory) : DiskHistory := h.filter fun n => f n.2.call

/-- The notes of the shadow. -/
abbrev ofShadow (uri : String) (h : DiskHistory) : DiskHistory := h.about (DiskCall.byShadow uri)

/-- The notes of the main inflation. -/
abbrev ofMain (h : DiskHistory) : DiskHistory := h.about DiskCall.byMain

/-- **The disk is deleted that the call has made**, by a text that ends in its name. -/
def Removed (h : DiskHistory) (c : DiskCall) (project zone name : String) : Prop :=
  ∀ t n, (t, n) ∈ h → DiskNote.call n = c →
    ∃ text, Resource.name text = name ∧ h.Undone c (.delete project zone text)

/-- **Every disk that was created has been deleted.** -/
def Paid (h : DiskHistory) : Prop :=
  ∀ project zone disk, h.Removed (.create project zone disk) project zone disk.name

/-- **It breaks off within a call** that deletes nothing. -/
def Owes (h : DiskHistory) : Prop := ∃ before t c, h = before ++ [(t, .called c)] ∧ ¬ c.IsDelete

/-- How long a shadow is waited for, at least, before it is abandoned: two grace periods. -/
def patience : Nat := 360000

/-- **The shadow was abandoned**, no earlier than two grace periods after the main inflation. -/
structure Abandoned (uri : String) (h : DiskHistory) (last : Nat) : Prop where
  owes : (h.ofShadow uri).Owes
  late : ∀ t w, (t, .answered (.run w)) ∈ h → w.IsInflation → t + patience ≤ last

end DiskHistory

/-- **No disk has been left behind**, in the history of an import that is over at the instant `last`. -/
structure DisksLaw (args : Arguments) (h : DiskHistory) (last : Nat) : Prop where
  inflated : ∀ w project zone name, w.IsInflation → w.Keeps project zone name →
    h.Removed (.run w) project zone name
  shadow : h.Paid ∨ h.Abandoned args.diskUri last

/-! ## 3. Histories that go on -/

namespace DiskHistory

variable {h l : DiskHistory} {a b : DiskNote} {c c' : DiskCall}

theorem about_append (f : DiskCall → Bool) (h l : DiskHistory) : (h ++ l).about f = h.about f ++ l.about f :=
  List.filter_append ..

/-- What follows among the notes about some of the calls follows among all. -/
theorem Follows.of_about {f : DiskCall → Bool} (hf : f a.call = true) (h' : (h.about f).Follows a b) :
    h.Follows a b := by
  intro before t after heq
  have hsplit : h.about f = about f before ++ (t, a) :: about f after := by
    rw [heq, about_append]
    exact congrArg _ (List.filter_cons_of_pos hf)
  obtain ⟨t', ht'⟩ := h' _ _ _ hsplit
  exact ⟨t', (List.mem_filter.mp ht').1⟩

/-- What has been noted once is followed by what stands after it. -/
theorem follows_of_split (before : DiskHistory) {after : DiskHistory} {t t' : Nat} (hbefore : ∀ u, (u, a) ∉ before)
    (hafter : ∀ u, (u, a) ∉ after) (hb : (t', b) ∈ after) :
    Follows (before ++ (t, a) :: after) a b := by
  intro before' u after' heq
  rcases List.append_eq_append_iff.mp heq with ⟨xs, rfl, hxs⟩ | ⟨xs, rfl, hxs⟩
  · cases xs with
    | nil =>
      cases hxs
      exact ⟨t', hb⟩
    | cons x xs =>
      -- a second one would stand after it
      obtain ⟨-, hxs⟩ := List.cons.inj hxs
      refine absurd ?_ (hafter u)
      rw [hxs]
      exact List.mem_append_right _ (List.mem_cons_self ..)
  · cases xs with
    | nil =>
      cases hxs
      exact ⟨t', hb⟩
    | cons x xs =>
      -- or before it
      obtain ⟨rfl, -⟩ := List.cons.inj hxs
      exact absurd (List.mem_append_right _ (List.mem_cons_self ..)) (hbefore u)

/-- What stands at the end follows whatever does not stand there. -/
theorem follows_of_append {t : Nat} (ha : ∀ u, (u, a) ∉ l) (hb : (t, b) ∈ l) : (h ++ l).Follows a b := by
  intro before u after heq
  rcases List.append_eq_append_iff.mp heq with ⟨xs, rfl, hxs⟩ | ⟨xs, -, hxs⟩
  · refine absurd ?_ (ha u)
    rw [hxs]
    exact List.mem_append_right _ (List.mem_cons_self ..)
  · cases xs with
    | nil =>
      refine absurd ?_ (ha u)
      rw [← show (u, a) :: after = l from hxs]
      exact List.mem_cons_self ..
    | cons x xs =>
      obtain ⟨-, rfl⟩ := List.cons.inj hxs
      exact ⟨t, List.mem_append_right _ hb⟩

/-- Of a call that has not been noted nothing has to be deleted. -/
theorem removed_of_not_mem {project zone name : String} (hc : ∀ t n, DiskNote.call n = c → (t, n) ∉ h) :
    h.Removed c project zone name := fun t n hmem hn => absurd hmem (hc t n hn)

/-- What the shadow has paid is paid. -/
theorem paid_of_ofShadow {uri : String} (h' : (h.ofShadow uri).Paid) : h.Paid := by
  intro project zone disk t n hmem hn
  have hshadow : (t, n) ∈ h.ofShadow uri := List.mem_filter.mpr ⟨hmem, by rw [hn]; rfl⟩
  obtain ⟨text, hname, hundone⟩ := h' project zone disk t n hshadow hn
  exact ⟨text, hname, .of_about rfl hundone.answered, .of_about rfl hundone.undone⟩

/-- The first call is over, and nothing has been created since. -/
def Opened (project zone : String) (disk : Disk) (h : DiskHistory) : Prop :=
  ∃ t t' l, h = (t, .called (.create project zone disk)) :: (t', .answered (.create project zone disk)) :: l ∧
    ∀ n ∈ l, ∀ project zone disk, n.2.call ≠ .create project zone disk

theorem paid_nil : Paid [] := fun _ _ _ => removed_of_not_mem fun _ _ _ => List.not_mem_nil

variable {project zone : String} {disk : Disk}

theorem Opened.append (h' : h.Opened project zone disk)
    (hl : ∀ n ∈ l, ∀ project zone disk, n.2.call ≠ .create project zone disk) :
    (h ++ l).Opened project zone disk := by
  obtain ⟨t, t', l', rfl, hl'⟩ := h'
  refine ⟨t, t', l' ++ l, rfl, fun n hn => ?_⟩
  rcases List.mem_append.mp hn with hn | hn
  · exact hl' n hn
  · exact hl n hn

/-- **With the deletion everything is paid**, if the name of the disk refers to it. -/
theorem Opened.paid (h' : h.Opened project zone disk) (hname : Resource.name disk.name = disk.name) {t : Nat}
    (ht : (t, .called (.delete project zone disk.name)) ∈ h) : h.Paid := by
  obtain ⟨t₀, t₁, l, rfl, hl⟩ := h'
  have hmem : (t, DiskNote.called (.delete project zone disk.name)) ∈ l := by
    simpa only [List.mem_cons, Prod.mk.injEq, DiskNote.called.injEq, reduceCtorEq, and_false, false_or] using ht
  intro project' zone' disk' u' n' hnoted hcreated
  have hnone : ∀ u n, DiskNote.call n = .create project' zone' disk' → (u, n) ∉ l :=
    fun u n hn hmem' => hl _ hmem' _ _ _ hn
  by_cases hsame : DiskCall.create project' zone' disk' = .create project zone disk
  · cases hsame
    refine ⟨disk.name, hname, ?_, ?_⟩
    · refine follows_of_split [] (fun _ hn => nomatch hn) (fun u hn => ?_)
        (List.mem_cons_self ..)
      rcases List.mem_cons.mp hn with hn | hn
      · cases hn
      · exact hnone u _ rfl hn
    · refine follows_of_split [(t₀, .called (.create project zone disk))] (fun u hn => ?_)
        (fun u => hnone u _ rfl) hmem
      cases List.mem_singleton.mp hn
  · -- of another creation nothing has been noted
    rcases List.mem_cons.mp hnoted with hnoted | hnoted
    · exact absurd (by rw [← hcreated, (Prod.mk.inj hnoted).2]; rfl) hsame
    · rcases List.mem_cons.mp hnoted with hnoted | hnoted
      · exact absurd (by rw [← hcreated, (Prod.mk.inj hnoted).2]; rfl) hsame
      · exact absurd hnoted (hnone u' n' hcreated)

end DiskHistory

end ImageImport
