/-
# The first bytes of a file

A file is looked at before it is imported: its first two bytes say whether it is empty or compressed.  An
object comes in pieces, and nothing is promised about their sizes, so the bytes are gathered read by read.

Main statement: `ofFile_check`, over every reader.  Gathering ends after two reads at the most, and the
answer is read off what the object holds (`Reader.content`): where it was cut into pieces makes no
difference.  A fault counts exactly when it comes before the second byte.

`Gathers` is the loop, read after read.  One read takes bytes off the front of the content and leaves the rest
(`read_content`); everything about the loop is an induction over it that uses no more than that.
-/
import ImageImport.Source.Resolve

namespace ImageImport

/-! ## 1. What an object holds -/

/-- **What the reads bring, put together**: the bytes up to the first read of none or the first fault, and
that fault. -/
def Chunk.content : List Chunk → List UInt8 × Option ReadFault
  | [] => ([], none)
  | .fault why :: _ => ([], some why)
  | .bytes piece :: rest =>
    if piece = [] then ([], none) else (piece ++ (content rest).1, (content rest).2)

namespace Reader

/-- What is still to come of an open object. -/
def content (r : Reader) : List UInt8 × Option ReadFault := Chunk.content r.chunks

/-- How a read with room for a byte ends: with bytes from the front of the content, or with what stands
behind its last byte. -/
inductive Brings (r : Reader) (room : Nat) : Except ReadFault (List UInt8) → Reader → Prop where
  | bytes {piece rest : List UInt8} {fault : Option ReadFault} {r' : Reader}
      (some_ : piece ≠ []) (fits : piece.length ≤ room) (before : r.content = (piece ++ rest, fault))
      (after : r'.content = (rest, fault)) : Brings r room (.ok piece) r'
  | ending {r' : Reader} (holds : r.content = ([], none)) : Brings r room (.ok []) r'
  | fault {why : ReadFault} {r' : Reader} (holds : r.content = ([], some why)) :
      Brings r room (.error why) r'

/-- **One read** takes bytes off the front of the content. -/
theorem read_content (r : Reader) {room : Nat} (hroom : 0 < room) :
    Brings r room (r.read room).1 (r.read room).2 := by
  rcases r with ⟨_ | ⟨piece | why, rest⟩⟩
  · exact .ending rfl
  · simp only [read]
    by_cases hnone : piece = []
    · subst hnone
      have hends : content ⟨.bytes [] :: rest⟩ = ([], none) := by simp [content, Chunk.content]
      simpa using Brings.ending hends
    have hcontent : content ⟨.bytes piece :: rest⟩ =
        (piece ++ (Chunk.content rest).1, (Chunk.content rest).2) := by
      simp [content, Chunk.content, hnone]
    split
    next hfits => exact .bytes hnone hfits hcontent rfl
    next hlong =>
      -- what does not fit is left
      have htake : piece.take room ≠ [] := by
        intro h
        rcases List.take_eq_nil_iff.mp h with h | h
        · omega
        · exact hnone h
      have hdrop : piece.drop room ≠ [] := by
        intro h
        have := List.drop_eq_nil_iff.mp h
        omega
      have hbefore : content ⟨.bytes piece :: rest⟩ =
          (piece.take room ++ (piece.drop room ++ (Chunk.content rest).1), (Chunk.content rest).2) := by
        rw [hcontent, ← List.append_assoc, List.take_append_drop]
      have hafter : content ⟨.bytes (piece.drop room) :: rest⟩ =
          (piece.drop room ++ (Chunk.content rest).1, (Chunk.content rest).2) := by
        simp [content, Chunk.content, hdrop]
      exact .bytes htake (List.length_take_le room piece) hbefore hafter
  · exact .fault rfl

/-! ## 2. The loop -/

/-- **Gathering `room` bytes**, when `got` have been gathered: the number of reads made from there on, and what
they come to. -/
inductive Gathers (room : Nat) : Reader → List UInt8 → Nat → Except ReadFault (List UInt8) → Prop where
  | full {r : Reader} {got : List UInt8} (enough : room ≤ got.length) : Gathers room r got 0 (.ok got)
  | ended {r : Reader} {got : List UInt8} (short : got.length < room)
      (last : (r.read (room - got.length)).1 = .ok []) : Gathers room r got 1 (.ok got)
  | failed {r : Reader} {got : List UInt8} {why : ReadFault} (short : got.length < room)
      (last : (r.read (room - got.length)).1 = .error why) : Gathers room r got 1 (.error why)
  | more {r : Reader} {got piece : List UInt8} {reads : Nat} {result : Except ReadFault (List UInt8)}
      (short : got.length < room) (brought : (r.read (room - got.length)).1 = .ok piece)
      (some_ : piece ≠ [])
      (rest : Gathers room (r.read (room - got.length)).2 (got ++ piece) reads result) :
      Gathers room r got (reads + 1) result

/-- What the first `room` bytes of a content come to. -/
def Begins (room : Nat) (content : List UInt8 × Option ReadFault) :
    Except ReadFault (List UInt8) → Prop
  | .ok bytes => bytes = content.1.take room ∧ (room ≤ content.1.length ∨ content.2 = none)
  | .error why => content.1.length < room ∧ content.2 = some why

variable {room reads : Nat} {r : Reader} {got : List UInt8} {result : Except ReadFault (List UInt8)}

/-- **Every read but the last brings a byte**, so there are no more reads than bytes to gather. -/
theorem Gathers.reads_le (h : Gathers room r got reads result) : reads ≤ room - got.length := by
  induction h with
  | full enough => exact Nat.zero_le _
  | ended short last => omega
  | failed short last => omega
  | @more r got piece reads result short brought some_ rest ih =>
    have hpos := List.length_pos_iff.mpr some_
    rw [List.length_append] at ih
    omega

/-- **What is gathered stands at the front of the content**, however it is cut into pieces. -/
theorem Gathers.begins (h : Gathers room r got reads result) (hgot : got.length ≤ room) :
    Begins room (got ++ r.content.1, r.content.2) result := by
  induction h with
  | @full r got enough =>
    have hlen : got.length = room := Nat.le_antisymm hgot enough
    subst hlen
    simp [Begins]
  | @ended r got short last =>
    have hread := r.read_content (Nat.sub_pos_of_lt short)
    rw [last] at hread
    cases hread with
    | bytes some_ => exact absurd rfl some_
    | ending holds => simp [Begins, holds, List.take_of_length_le hgot]
  | @failed r got why short last =>
    have hread := r.read_content (Nat.sub_pos_of_lt short)
    rw [last] at hread
    cases hread with
    | fault holds => simp [Begins, holds, short]
  | @more r got piece reads result short brought some_ rest ih =>
    have hread := r.read_content (Nat.sub_pos_of_lt short)
    rw [brought] at hread
    cases hread with
    | ending => exact absurd rfl some_
    | bytes _ fits before after =>
      have hfits : (got ++ piece).length ≤ room := by
        rw [List.length_append]
        omega
      have hbegins := ih hfits
      rw [after, List.append_assoc] at hbegins
      rwa [before]

/-- What the first bytes of a content come to is one thing. -/
theorem Begins.unique {content : List UInt8 × Option ReadFault} {result' : Except ReadFault (List UInt8)}
    (h : Begins room content result) (h' : Begins room content result') : result = result' := by
  cases result <;> cases result' <;> simp only [Begins] at h h'
  · rw [Option.some.inj (h.2.symm.trans h'.2)]
  · rcases h'.2 with hlen | hnone
    · omega
    · simp [h.2] at hnone
  · rcases h.2 with hlen | hnone
    · omega
    · simp [h'.2] at hnone
  · rw [h.1, h'.1]

/-- **The header is gathered by the loop.** -/
theorem gathers_header (r : Reader) {room : Nat} {got : List UInt8} (hgot : got.length ≤ room) :
    ∃ reads, Gathers room r got reads ((r.header (room - got.length)).map (got ++ ·)) := by
  generalize hopen : room - got.length = left
  induction left using Nat.strongRecOn generalizing r got with
  | ind left ih =>
    rw [header]
    split
    next hnone =>
      refine ⟨0, ?_⟩
      simpa [Except.map] using Gathers.full (r := r) (by omega : room ≤ got.length)
    next hsome =>
      have hshort : got.length < room := by omega
      have hread := r.read_content (Nat.sub_pos_of_lt hshort)
      rw [hopen] at hread
      rcases hr : r.read left with ⟨brought, r'⟩
      rw [hr] at hread
      cases hread with
      | fault holds =>
        exact ⟨1, .failed hshort (by rw [hopen, hr])⟩
      | ending holds =>
        refine ⟨1, ?_⟩
        simpa [Except.map] using Gathers.ended (r := r) hshort (by rw [hopen, hr])
      | @bytes piece rest fault _ some_ fits before after =>
        have hpos := List.length_pos_iff.mpr some_
        have hlen : (got ++ piece).length ≤ room := by
          rw [List.length_append]
          omega
        obtain ⟨reads, hrest⟩ := ih (left - piece.length) (by omega) r' hlen (by
          rw [List.length_append]
          omega)
        have hbrought : (r.read (room - got.length)).1 = .ok piece := by rw [hopen, hr]
        refine ⟨reads + 1, .more hshort hbrought some_ ?_⟩
        rw [hopen, hr]
        cases hheader : r'.header (left - piece.length) with
        | error why => simpa [some_, hheader, Except.map] using hrest
        | ok more => simpa [some_, hheader, Except.map] using hrest

end Reader

/-! ## 3. The answer -/

namespace Source

open Reader

/-- **What a file is taken for** by its content. -/
inductive Answer (path : String) : List UInt8 × Option ReadFault → Except ImportError Source → Prop where
  /-- A fault before the second byte. -/
  | unreadable {bytes : List UInt8} {why : ReadFault} (short : bytes.length < 2) :
      Answer path (bytes, some why) (.error (.unreadable why))
  /-- No bytes at all. -/
  | empty : Answer path ([], none) (.error (.invalidSource "cannot import an image from an empty file"))
  /-- The two bytes that compressed files start with. -/
  | compressed {rest : List UInt8} {fault : Option ReadFault} :
      Answer path (0x1f :: 0x8b :: rest, fault) (.error (.invalidSource ("cannot import an image from a " ++
        "compressed file. Decompress it and import the disk image file directly")))
  /-- A single byte, whatever it is. -/
  | single {byte : UInt8} : Answer path ([byte], none) (.ok (.file path))
  /-- Any other two bytes. -/
  | other {first second : UInt8} {rest : List UInt8} {fault : Option ReadFault}
      (plain : ¬ (first = 0x1f ∧ second = 0x8b)) :
      Answer path (first :: second :: rest, fault) (.ok (.file path))

theorem answer_of_begins {path : String} {content : List UInt8 × Option ReadFault}
    {header : Except ReadFault (List UInt8)} (h : Begins headerLength content header) :
    Answer path content (ofHeader path header) := by
  obtain ⟨bytes, fault⟩ := content
  cases header with
  | error why =>
    obtain ⟨hshort, rfl⟩ := h
    exact .unreadable hshort
  | ok got =>
    obtain ⟨hgot, hends⟩ := h
    subst hgot
    match bytes, hends with
    | [], .inr hnone =>
      subst hnone
      exact .empty
    | [byte], .inr hnone =>
      subst hnone
      simpa [ofHeader, gzipHeader, headerLength] using Answer.single
    | first :: second :: rest, _ =>
      by_cases hgzip : first = 0x1f ∧ second = 0x8b
      · obtain ⟨rfl, rfl⟩ := hgzip
        exact .compressed
      · have hne : ¬ (first :: second :: rest).take headerLength = gzipHeader := by
          simpa [gzipHeader, headerLength] using hgzip
        have hfile : ofHeader path (.ok ((first :: second :: rest).take headerLength)) = .ok (.file path) := by
          rw [ofHeader, if_neg (by simp [headerLength]), if_neg hne]
        rw [hfile]
        exact .other hgzip

/-- **A fault is the answer exactly when it comes before the second byte.** -/
theorem Answer.unreadable_iff {path : String} {content : List UInt8 × Option ReadFault}
    {answer : Except ImportError Source} (h : Answer path content answer) (why : ReadFault) :
    answer = .error (.unreadable why) ↔ content.2 = some why ∧ content.1.length < 2 := by
  cases h with
  | unreadable short => simp [short, eq_comm]
  | empty => simp
  | compressed => simp
  | single => simp
  | other => simp

/-- **How a reader is looked at**: what the loop gathers, and the answer. -/
structure Checked (path : String) (reader : Reader) (answer : Except ImportError Source) : Prop where
  /-- The loop comes to an end. -/
  ends : ∃ reads header, Gathers headerLength reader [] reads header
  /-- It has made two reads at the most, it has gathered two bytes or all there are, and the answer is read
  off them. -/
  gathered : ∀ reads header, Gathers headerLength reader [] reads header →
    reads ≤ 2 ∧ Begins headerLength reader.content header ∧ answer = ofHeader path header
  answers : Answer path reader.content answer
  unreadable_iff : ∀ why, answer = .error (.unreadable why) ↔
    reader.content.2 = some why ∧ reader.content.1.length < 2

theorem begins_header (reader : Reader) :
    Begins headerLength reader.content (reader.header headerLength) ∧
      ∃ reads, Gathers headerLength reader [] reads (reader.header headerLength) := by
  have hgot : ([] : List UInt8).length ≤ headerLength := Nat.zero_le headerLength
  obtain ⟨reads, hgathers⟩ := reader.gathers_header hgot
  have hheader : (reader.header (headerLength - ([] : List UInt8).length)).map (([] : List UInt8) ++ ·) =
      reader.header headerLength := by
    cases reader.header headerLength <;> rfl
  rw [hheader] at hgathers
  exact ⟨hgathers.begins (Nat.zero_le _), reads, hgathers⟩

theorem checked_ofHeader (path : String) (reader : Reader) :
    Checked path reader (ofHeader path (reader.header headerLength)) := by
  obtain ⟨hbegins, reads, hgathers⟩ := begins_header reader
  have hanswer : Answer path reader.content (ofHeader path (reader.header headerLength)) :=
    answer_of_begins hbegins
  refine ⟨⟨reads, _, hgathers⟩, ?_, hanswer, hanswer.unreadable_iff⟩
  intro reads' header hgathers'
  have hbegins' : Begins headerLength reader.content header := hgathers'.begins (Nat.zero_le _)
  exact ⟨hgathers'.reads_le, hbegins', by rw [hbegins.unique hbegins']⟩

/-- **The check of a file.**  A path that is none of a storage object is refused at once.  Otherwise the object is
opened, once, and if that succeeds the answer is that of its content: two readers of one content are answered
alike. -/
theorem ofFile_check {σ : Type} (p : Platform σ) (path : String) :
    (∃ e, parseStoragePath path = .error e ∧ ofFile p path = .done (.error e)) ∨
      ∃ bucket object, parseStoragePath path = .ok (bucket, object) ∧
        ∃ answer : Except ApiError Reader → Except ImportError Source,
          ofFile p path = (p.openReader bucket object).bind (fun opened => .done (answer opened)) ∧
          (∀ e, answer (.error e) = .error (.api e)) ∧
          (∀ reader, Checked path reader (answer (.ok reader))) ∧
          ∀ reader reader', reader.content = reader'.content → answer (.ok reader) = answer (.ok reader') := by
  cases hpath : parseStoragePath path with
  | error e => exact .inl ⟨e, rfl, by rw [ofFile, hpath]⟩
  | ok names =>
    obtain ⟨bucket, object⟩ := names
    let answer : Except ApiError Reader → Except ImportError Source := fun opened => match opened with
      | .error e => .error (.api e)
      | .ok reader => ofHeader path (reader.header headerLength)
    refine .inr ⟨bucket, object, rfl, answer, ?_, fun e => rfl, checked_ofHeader path, ?_⟩
    · rw [ofFile, hpath]
      simp only [Activity.mapFault, Activity.andThen, Activity.bind_assoc]
      congr 1
      funext opened
      cases opened <;> rfl
    · intro reader reader' hsame
      have hbegins := (begins_header reader).1
      rw [hsame] at hbegins
      have hheader : reader.header headerLength = reader'.header headerLength :=
        hbegins.unique (begins_header reader').1
      simp only [answer, hheader]

end Source

end ImageImport
