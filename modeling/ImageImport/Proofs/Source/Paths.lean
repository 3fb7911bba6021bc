/-
# Paths of storage objects

A storage path is put together from a bucket and an object, and there is one way to take it apart again: a bucket has
no slash, so it ends at the first one, and what is behind it is the object whatever is in it but a line break
(`StoragePath`).  The pattern of storage paths says the same (`mem_storagePattern`).

A file that an import resolves has such a path.  The object it names was opened before, and whoever reads the path
again, as the inflation by the compute service does, comes to that object (`OpensAgain`).

Main statement: `storage_paths`, over all texts and over every run of the resolution.
-/
import ImageImport.Proofs.Concurrency.Places
import ImageImport.Proofs.Concurrency.Uniform
import ImageImport.Proofs.Import.Simulation
import ImageImport.Proofs.Text.Parts
import ImageImport.Proofs.Text.Patterns

namespace ImageImport

open Activity

namespace Source

open Text
open scoped Computability

variable {c : Char} {cs path bucket object : List Char}

/-! ## 1. Paths -/

theorem isBucketChar_iff : isBucketChar c = true ↔
    isLower c = true ∨ isDigit c = true ∨ c = '-' ∨ c = '_' ∨ c = '.' := by
  simp only [isBucketChar, isLowerOrDigit, Bool.or_eq_true, decide_eq_true_iff, or_assoc]

/-- **What a bucket may be named.** -/
structure BucketName (bucket : List Char) : Prop where
  first : ∃ c ∈ bucket.head?, isLower c = true ∨ isDigit c = true
  chars : ∀ c ∈ bucket, isLower c = true ∨ isDigit c = true ∨ c = '-' ∨ c = '_' ∨ c = '.'

/-- **How a storage path is written**: the object is of one line. -/
structure StoragePath (path bucket object : List Char) : Prop where
  written : path = printStoragePath bucket object
  bucketNamed : BucketName bucket
  objectNamed : object ≠ []
  oneLine : '\n' ∉ object

theorem BucketName.slash_notMem (h : BucketName bucket) : '/' ∉ bucket :=
  fun hmem => absurd (h.chars _ hmem) (by decide)

theorem isBucket_iff : isBucket bucket = true ↔ BucketName bucket := by
  cases bucket with
  | nil => exact ⟨fun h => Bool.noConfusion h, fun ⟨⟨_, h, _⟩, _⟩ => nomatch h⟩
  | cons c rest =>
    simp only [isBucket, isLowerOrDigit, Bool.and_eq_true, Bool.or_eq_true, List.all_eq_true, isBucketChar_iff]
    constructor
    · rintro ⟨hfirst, hrest⟩
      exact ⟨⟨c, rfl, hfirst⟩, List.forall_mem_cons.mpr ⟨by tauto, hrest⟩⟩
    · rintro ⟨⟨_, hhead, hfirst⟩, hchars⟩
      cases hhead
      exact ⟨hfirst, (List.forall_mem_cons.mp hchars).2⟩

theorem isObject_iff : isObject object = true ↔ object ≠ [] ∧ '\n' ∉ object := by
  rw [isObject, Bool.and_eq_true, Bool.not_eq_true', ← Bool.not_eq_true, List.isEmpty_iff, List.all_eq_true]
  exact and_congr_right fun _ => forall_mem_bne_iff

theorem storagePath_iff : StoragePath path bucket object ↔
    path = printStoragePath bucket object ∧ isBucket bucket = true ∧ isObject object = true := by
  rw [isBucket_iff, isObject_iff]
  constructor
  · exact fun h => ⟨h.written, h.bucketNamed, h.objectNamed, h.oneLine⟩
  · exact fun ⟨hwritten, hbucket, hobject, hline⟩ => ⟨hwritten, hbucket, hobject, hline⟩

/-- **The path is read as it is written.** -/
theorem storagePath?_eq_some_iff : storagePath? path = some (bucket, object) ↔ StoragePath path bucket object := by
  constructor
  · intro h
    unfold storagePath? at h
    split at h
    next => cases h
    next rest hrest =>
      split at h
      next => cases h
      next c found hfound =>
        obtain ⟨hwell, h⟩ := Option.ite_none_right_eq_some.mp h
        cases h
        refine storagePath_iff.mpr ⟨?_, Bool.and_eq_true_iff.mp hwell⟩
        rw [after?_eq_some_iff.mp hrest, printStoragePath, List.append_assoc, ← eq_append_of_dropWhile_ne hfound]
  · intro h
    have hwell : (isBucket bucket && isObject object) = true := Bool.and_eq_true_iff.mpr (storagePath_iff.mp h).2
    have hscheme : after? scheme path = some (bucket ++ '/' :: object) := by
      rw [after?_eq_some_iff, h.written, printStoragePath, List.append_assoc]
    have hslash : '/' ∉ bucket := h.bucketNamed.slash_notMem
    simp only [storagePath?, hscheme, dropWhile_ne_append hslash, takeWhile_ne_append hslash, hwell, if_true]

/-! ## 2. The pattern -/

/-- A letter or a digit, and behind it any characters of a bucket. -/
def bucketPattern : Language Char := oneOf isLowerOrDigit * (oneOf isBucketChar)∗

/-- Some characters, of which none is a line break. -/
def objectPattern : Language Char := oneOf (· != '\n') * (oneOf (· != '\n'))∗

/-- The scheme, a bucket, a slash and an object. -/
def storagePattern : Language Char := exactly "gs://".toList * (bucketPattern * (exactly "/".toList * objectPattern))

theorem mem_bucketPattern : bucket ∈ bucketPattern ↔ isBucket bucket = true := by
  rw [bucketPattern, mem_oneOf_mul]
  cases bucket with
  | nil => simp [isBucket]
  | cons c rest => simp [isBucket, mem_oneOf_kstar]

theorem mem_objectPattern : object ∈ objectPattern ↔ isObject object = true := by
  rw [objectPattern, mem_oneOf_mul]
  cases object with
  | nil => simp [isObject]
  | cons c rest => simp [isObject, mem_oneOf_kstar]

theorem mem_storagePattern : path ∈ storagePattern ↔ ∃ bucket object, StoragePath path bucket object := by
  rw [storagePattern, mem_exactly_mul]
  constructor
  · rintro ⟨_, hplace, rfl⟩
    obtain ⟨bucket, hbucket, _, hbehind, rfl⟩ := Language.mem_mul.mp hplace
    obtain ⟨object, hobject, rfl⟩ := mem_exactly_mul.mp hbehind
    refine ⟨bucket, object, storagePath_iff.mpr ⟨?_, mem_bucketPattern.mp hbucket, mem_objectPattern.mp hobject⟩⟩
    rw [printStoragePath, List.append_assoc]
    rfl
  · rintro ⟨bucket, object, h⟩
    obtain ⟨hwritten, hbucket, hobject⟩ := storagePath_iff.mp h
    have hbehind : '/' :: object ∈ exactly "/".toList * objectPattern :=
      mem_exactly_mul.mpr ⟨object, mem_objectPattern.mpr hobject, rfl⟩
    refine ⟨_, Language.append_mem_mul (mem_bucketPattern.mpr hbucket) hbehind, ?_⟩
    rw [hwritten, printStoragePath, List.append_assoc]
    rfl

theorem parseStoragePath_eq_ok_iff {path bucket object : String} :
    parseStoragePath path = .ok (bucket, object) ↔ StoragePath path.toList bucket.toList object.toList := by
  rw [← storagePath?_eq_some_iff, parseStoragePath]
  cases storagePath? path.toList with
  | none => simp
  | some place =>
    obtain ⟨bucket', object'⟩ := place
    simp only [Except.ok.injEq, Option.some.injEq, Prod.mk.injEq]
    rw [← String.toList_inj, ← String.toList_inj, String.toList_ofList, String.toList_ofList]

/-- **A path is read where there is one way to take it apart.** -/
theorem exists_parseStoragePath_iff (path : String) : (∃ place, parseStoragePath path = .ok place) ↔
    ∃! place : String × String, StoragePath path.toList place.1.toList place.2.toList := by
  constructor
  · rintro ⟨⟨bucket, object⟩, h⟩
    refine ⟨(bucket, object), parseStoragePath_eq_ok_iff.mp h, fun place hplace => ?_⟩
    exact Except.ok.inj ((parseStoragePath_eq_ok_iff.mpr hplace).symm.trans h)
  · rintro ⟨place, h, -⟩
    exact ⟨place, parseStoragePath_eq_ok_iff.mpr h⟩

theorem exists_parseStoragePath_iff_mem (path : String) :
    (∃ place, parseStoragePath path = .ok place) ↔ path.toList ∈ storagePattern := by
  rw [mem_storagePattern]
  constructor
  · rintro ⟨⟨bucket, object⟩, h⟩
    exact ⟨_, _, parseStoragePath_eq_ok_iff.mp h⟩
  · rintro ⟨bucket, object, h⟩
    refine ⟨(String.ofList bucket, String.ofList object), parseStoragePath_eq_ok_iff.mpr ?_⟩
    rwa [String.toList_ofList, String.toList_ofList]

end Source

/-! ## 3. Reading the path again -/

section Again

variable {σ : Type}

/-- No fault is found with the source. -/
def Unblamed : Except Crash (Except InflationFailure Inflation) → Prop
  | .ok (.error failure) => ∀ text, failure.error ≠ .invalidSource text
  | _ => True

namespace DirectInflation

variable (d : DirectInflation σ)

theorem checksum_unblamed (started : Nat) (disk : PersistentDisk) :
    (d.checksum started disk).EndsAs Unblamed := by
  unfold checksum
  cases d.checksumWorkflow with
  | error cause => exact fun _ h => nomatch h
  | ok workflow =>
    refine always_after (fun _ => trivial) (fun ran => ?_) _
    refine always_after (fun _ => trivial) (fun ended => ?_) _
    refine always_after (fun _ => trivial) (fun console => ?_) _
    match ran with
    | some (.ok ()) => trivial
    | some (.error cause) => exact fun _ h => nomatch h
    | none => exact fun _ h => nomatch h

/-- **A path that can be read is not what an inflation fails for.** -/
theorem inflate_unblamed {bucket object : String} (h : Source.parseStoragePath d.sourceFile = .ok (bucket, object)) :
    d.inflate.EndsAs Unblamed := by
  have hmeasure : ∀ started, (d.measure started).EndsAs Unblamed := by
    intro started
    rw [measure, h]
    exact always_after_call (fun _ => trivial) (fun _ _ h => nomatch h) (fun _ => d.checksum_unblamed _ _) _
  have hcreate : d.createAndChecksum.EndsAs Unblamed := by
    refine always_after (fun _ => trivial) (fun started => ?_) _
    refine always_after_call (fun _ => trivial) (fun _ _ h => nomatch h) (fun _ => ?_) _
    refine always_after (fun _ => trivial) (fun pending => ?_) _
    cases pending with
    | some reason => trivial
    | none => exact hmeasure started
  refine always_after (fun _ => trivial) (fun ticket => ?_) _
  refine Always.releasing (fun _ _ _ _ _ => trivial) (fun _ => trivial) ?_
  refine always_after (fun _ => trivial) (fun _ => ?_) _
  -- the result is that of the first part, whatever becomes of the disk
  refine Always.bind hcreate (fun {result} hresult => ?_) id
  refine always_after (fun _ => trivial) (fun _ => ?_) _
  exact hresult

end DirectInflation

/-- **A path that is read again** comes to the same object, and no inflation by the compute service fails for it. -/
structure OpensAgain (path bucket object : String) : Prop where
  written : Source.StoragePath path.toList bucket.toList object.toList
  reads : Source.parseStoragePath path = .ok (bucket, object)
  unblamed : ∀ {σ : Type} (cells : InflationCells σ) (p : Platform σ) (a : Arguments) (m last : Moment σ)
    (failure : InflationFailure), (cells.byService p a path).inflate.attended.run m = .returned (.error failure) last →
      ∀ text, failure.error ≠ .invalidSource text

theorem opensAgain_of_parse {path bucket object : String} (h : Source.parseStoragePath path = .ok (bucket, object)) :
    OpensAgain path bucket object where
  written := Source.parseStoragePath_eq_ok_iff.mp h
  reads := h
  unblamed cells p a m last failure hrun := by
    obtain ⟨_, hleads, -⟩ := leads_of_attended hrun
    exact ((cells.byService p a path).inflate_unblamed h).leads hleads

end Again

/-! ## 4. The run -/

namespace Opening

variable {υ : Type}

/-- What is noted of the storage service: an object is opened, and the answer. -/
inductive OpenNote where
  | opened (bucket object : String)
  | answered (r : Except Crash (Except ApiError Reader))

/-- What has been noted, each note with its instant. -/
abbrev OpenHistory := List (Nat × OpenNote)

/-- **The platform with notes of what is opened.** -/
def opening (p : Platform (Watched υ OpenNote)) : Platform (Watched υ OpenNote) :=
  { p with openReader := fun bucket object => .watching (.opened bucket object) .answered (p.openReader bucket object) }

section Law

variable (path reference : String) (start : Nat)

/-- **A resolution that has come to an end**, of a file at `path` and an image `reference` as they are given: what is
noted, and how it ends.  A file that comes of it is the one that was opened. -/
inductive Resolved : OpenHistory → Except Crash (Except ImportError Source) → Prop where
  | refused {e : ImportError}
      (nothing : reference ≠ "" ∨ ∀ bucket object, Source.parseStoragePath path ≠ .ok (bucket, object)) :
      Resolved [] (.ok (.error e))
  | image {full : String} (alone : path = "") (canonical : Source.canonicalImage? reference = some full) :
      Resolved [] (.ok (.ok (.image full)))
  | unopened {bucket object : String} {t : Nat} {e : ApiError} (opens : OpensAgain path bucket object) :
      Resolved [(start, .opened bucket object), (t, .answered (.ok (.error e)))] (.ok (.error (.api e)))
  | rejected {bucket object : String} {t : Nat} {reader : Reader} {e : ImportError}
      (opens : OpensAgain path bucket object) :
      Resolved [(start, .opened bucket object), (t, .answered (.ok (.ok reader)))] (.ok (.error e))
  | file {bucket object : String} {t : Nat} {reader : Reader} (opens : OpensAgain path bucket object) :
      Resolved [(start, .opened bucket object), (t, .answered (.ok (.ok reader)))] (.ok (.ok (.file path)))
  | crashed {bucket object : String} {t : Nat} {why : Crash} (opens : OpensAgain path bucket object) :
      Resolved [(start, .opened bucket object), (t, .answered (.error why))] (.error why)

/-- **A resolution that waits** for the object to be opened. -/
inductive Waits : OpenHistory → Prop where
  | opening {bucket object : String} (opens : OpensAgain path bucket object) : Waits [(start, .opened bucket object)]

end Law

/-- The terms: nobody else notes anything. -/
abbrev terms : Terms (Watched υ OpenNote) := .whole fun _ => ()

/-- By its first bytes a file is the one at the path, or none. -/
theorem ofHeader_cases (path : String) (header : Except ReadFault (List UInt8)) :
    Source.ofHeader path header = .ok (.file path) ∨ ∃ e, Source.ofHeader path header = .error e := by
  cases header with
  | error why => exact .inr ⟨_, rfl⟩
  | ok bytes =>
    by_cases hempty : bytes = []
    · exact .inr ⟨_, by rw [Source.ofHeader, if_pos hempty]⟩
    · by_cases hgzip : bytes = Source.gzipHeader
      · exact .inr ⟨_, by rw [Source.ofHeader, if_neg hempty, if_pos hgzip]⟩
      · exact .inl (by rw [Source.ofHeader, if_neg hempty, if_neg hgzip])

/-- **A file** is opened where its path can be read. -/
theorem ofFile_meets (p : Platform υ) (path : String) {m : Moment (Watched υ OpenNote)} (hm : m.state.seen = []) :
    (Source.ofFile (opening p.watched) path).Meets terms (fun _ m' => Waits path m.now m'.state.seen)
      (fun r m' => Resolved path "" m.now m'.state.seen r) m := by
  unfold Source.ofFile
  cases hparse : Source.parseStoragePath path with
  | error e =>
    have hnothing : Resolved path "" m.now [] (.ok (.error e)) := .refused (.inr fun _ _ h => by simp [hparse] at h)
    exact (hm ▸ hnothing : Resolved path "" m.now m.state.seen (.ok (.error e)))
  | ok place =>
    obtain ⟨bucket, object⟩ := place
    have hopens : OpensAgain path bucket object := opensAgain_of_parse hparse
    refine Meets.bind (Meets.bind (Meets.weaken (fun {_ m'} hs => ?_) (fun {r m'} hs => ?_)
      (Meets.watching_call (p.openReader _ _))))
    · rw [hs, hm]
      exact .opening hopens
    · rw [hm] at hs
      match r, hs with
      | .ok (.ok reader), hs =>
        have hends : Resolved path "" m.now m'.state.seen
            (.ok (Source.ofHeader path (reader.header Source.headerLength))) := by
          rw [hs]
          rcases ofHeader_cases path (reader.header Source.headerLength) with hfile | ⟨e, herror⟩
          · rw [hfile]
            exact .file hopens
          · rw [herror]
            exact .rejected hopens
        exact hends
      | .ok (.error e), hs => exact (hs ▸ .unopened hopens : Resolved path "" m.now m'.state.seen (.ok (.error (.api e))))
      | .error why, hs => exact (hs ▸ .crashed hopens : Resolved path "" m.now m'.state.seen (.error why))

/-- **The resolution**: a file is opened where nothing else is given. -/
theorem resolve_meets (p : Platform υ) (sourceFile sourceImage : String) {a : Activity (Watched υ OpenNote) _}
    (ha : Source.resolve (opening p.watched) sourceFile sourceImage = a) {m : Moment (Watched υ OpenNote)}
    (hm : m.state.seen = []) :
    a.Meets terms (fun _ m' => Waits (Text.trim sourceFile) m.now m'.state.seen)
      (fun r m' => Resolved (Text.trim sourceFile) (Text.trim sourceImage) m.now m'.state.seen r) m := by
  rw [Source.resolve] at ha
  subst ha
  generalize Text.trim sourceFile = path
  generalize Text.trim sourceImage = reference
  have hrefused (hnothing : reference ≠ "" ∨ ∀ bucket object, Source.parseStoragePath path ≠ .ok (bucket, object))
      (e : ImportError) : Resolved path reference m.now m.state.seen (.ok (.error e)) := hm ▸ .refused hnothing
  by_cases hreference : reference = ""
  · by_cases hpath : path = ""
    · rw [if_pos (by simp [hpath, hreference])]
      refine hrefused (.inr fun bucket object h => ?_) _
      have hwritten := (Source.parseStoragePath_eq_ok_iff.mp h).written
      rw [hpath, Source.printStoragePath] at hwritten
      cases hwritten
    · rw [if_neg (by simp [hpath]), if_neg (by simp [hreference]), if_pos (by simp [hreference]), hreference]
      exact ofFile_meets p path hm
  · by_cases hpath : path = ""
    · rw [if_neg (by simp [hreference]), if_neg (by simp [hpath]), if_neg (by simp [hreference])]
      have hends : Resolved path reference m.now m.state.seen (.ok (Source.ofImage reference)) := by
        unfold Source.ofImage
        split
        next full hfull => exact hm ▸ .image hpath hfull
        next => exact hrefused (.inl hreference) _
      exact hends
    · rw [if_neg (by simp [hreference]), if_pos (by simp [hpath, hreference])]
      exact hrefused (.inl hreference) _

theorem opening_mirrors (p : Platform υ) : (opening p.watched).Mirrors Watched.state p :=
  { p.watched_mirrors with openReader := fun _ _ => .watching (p.watched_mirrors.openReader _ _) }

/-- **Storage paths, and the files that come of them.**  A path is read as the bucket and the object it is written with,
and where it is written so there is one bucket and one object.  A resolution opens the object of its path, at most
once, and the file that comes of it opens again (`Resolved`).  The notes change nothing: without them the run is the
same. -/
theorem storage_paths (p : Platform υ) (sourceFile sourceImage : String) (m : Moment υ) :
    let watched := (Source.resolve (opening p.watched) sourceFile sourceImage).attended.run ⟨m.now, ⟨m.state, []⟩⟩
    (∀ path bucket object, Source.parseStoragePath path = .ok (bucket, object) ↔
        Source.StoragePath path.toList bucket.toList object.toList) ∧
      (∀ path, (∃ place, Source.parseStoragePath path = .ok place) ↔
        ∃! place : String × String, Source.StoragePath path.toList place.1.toList place.2.toList) ∧
      (∀ path, (∃ place, Source.parseStoragePath path = .ok place) ↔ path.toList ∈ Source.storagePattern) ∧
      watched.Notes (Waits (Text.trim sourceFile) m.now)
        (Resolved (Text.trim sourceFile) (Text.trim sourceImage) m.now) ∧
      Ending.Alike Watched.state Eq watched ((Source.resolve p sourceFile sourceImage).attended.run m) := by
  let start : Moment (Watched υ OpenNote) := ⟨m.now, ⟨m.state, []⟩⟩
  have hsame := resolve_mirrors (opening_mirrors p) sourceFile sourceImage
  -- with the activity unfolded, every step would take the blanks of a text apart
  generalize ha : Source.resolve (opening p.watched) sourceFile sourceImage = a at hsame ⊢
  have hmeets : a.Meets terms _ _ start := resolve_meets p sourceFile sourceImage ha rfl
  exact ⟨fun _ _ _ => Source.parseStoragePath_eq_ok_iff, Source.exists_parseStoragePath_iff,
    Source.exists_parseStoragePath_iff_mem, hmeets.run_notes, Mirrors.run_attended hsame start⟩

end Opening

end ImageImport
