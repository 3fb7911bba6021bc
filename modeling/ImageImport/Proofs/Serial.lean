/-
# What is read off a serial console

A line may hold any number of tags, and anything else between them: broken tags, tags inside of tags, line breaks.
`SerialTag.Scans` says which tags a line has, position by position.  Where a tag stands, it is taken whole and the next
one is looked for behind it; where none stands, it is looked for one character further on.  This leaves nothing open
(`scans_iff`), because a tag can be read in one way only (`read?_eq_some_iff`).

Main statement: `recorded_reports`, over every sequence of records.  The console keeps every line in order, and a key
has the value that the last tag with it gives, on whichever line that tag is.
-/
import ImageImport.Proofs.Text.Parts
import ImageImport.Serial

namespace ImageImport

/-! ## 1. Tags in a line -/

namespace SerialTag

/-- What neither a key nor a value contains. -/
def quote : Char := '\x27'

/-- **What a tag can carry**: a key that is not empty and a value, neither of them with a quote in it. -/
structure Valid (tag : List Char × List Char) : Prop where
  key_ne_nil : tag.1 ≠ []
  key_plain : quote ∉ tag.1
  value_plain : quote ∉ tag.2

/-- **The tags of a line from left to right.** -/
inductive Scans : List Char → List (List Char × List Char) → Prop where
  | nil : Scans [] []
  | tag {tag : List Char × List Char} {rest : List Char} {tags : List (List Char × List Char)} (valid : Valid tag)
      (scans : Scans rest tags) : Scans (print tag.1 tag.2 ++ rest) (tag :: tags)
  | skip {c : Char} {rest : List Char} {tags : List (List Char × List Char)}
      (none : ∀ tag behind, Valid tag → c :: rest ≠ print tag.1 tag.2 ++ behind) (scans : Scans rest tags) :
      Scans (c :: rest) tags

theorem isInside_eq : isInside = (· != quote) := by
  have hquote : quote.toNat = 39 := rfl
  funext c
  rw [isInside, ← hquote, Bool.eq_iff_iff, bne_iff_ne, bne_iff_ne, ne_eq, Char.toNat_inj]

/-- What has no quote in it ends where the next quote stands. -/
theorem span_plain {cs : List Char} (h : quote ∉ cs) (rest : List Char) :
    (cs ++ quote :: rest).takeWhile isInside = cs ∧ (cs ++ quote :: rest).dropWhile isInside = quote :: rest := by
  rw [isInside_eq]
  exact ⟨Text.takeWhile_ne_append h rest, Text.dropWhile_ne_append h rest⟩

theorem plain_takeWhile (cs : List Char) : quote ∉ cs.takeWhile isInside := by
  rw [isInside_eq]
  exact Text.notMem_takeWhile_ne quote cs

/-- **A tag can be read in one way only.** -/
theorem read?_eq_some_iff {cs rest : List Char} {tag : List Char × List Char} :
    read? cs = some (tag, rest) ↔ Valid tag ∧ cs = print tag.1 tag.2 ++ rest := by
  constructor
  · intro h
    simp only [read?, Option.bind_eq_bind, Option.bind_eq_some_iff, Option.pure_def] at h
    obtain ⟨afterOpening, hopening, h⟩ := h
    split at h
    · cases h
    next hkey =>
      simp only [Option.bind_eq_some_iff, Option.some.injEq, Prod.mk.injEq] at h
      obtain ⟨afterMiddle, hmiddle, behind, hclosing, rfl, rfl⟩ := h
      rw [Text.after?_eq_some_iff] at hopening hmiddle hclosing
      refine ⟨⟨by simpa using hkey, plain_takeWhile _, plain_takeWhile _⟩, ?_⟩
      calc cs = opening ++ (afterOpening.takeWhile isInside ++ afterOpening.dropWhile isInside) := by
            rw [hopening, List.takeWhile_append_dropWhile]
        _ = opening ++ (afterOpening.takeWhile isInside ++
              (middle ++ (afterMiddle.takeWhile isInside ++ afterMiddle.dropWhile isInside))) := by
            rw [hmiddle, List.takeWhile_append_dropWhile]
        _ = print (afterOpening.takeWhile isInside) (afterMiddle.takeWhile isInside) ++ behind := by
            rw [hclosing]
            simp only [print, List.append_assoc]
  · rintro ⟨⟨hkey, hplain, hplain'⟩, rfl⟩
    obtain ⟨key, value⟩ := tag
    -- behind the key and behind the value the first character is a quote
    have hmiddle : middle = quote :: middle.tail := rfl
    have hclosing : closing = quote :: closing.tail := rfl
    have hkeySpan := span_plain hplain (middle.tail ++ (value ++ (closing ++ rest)))
    have hvalueSpan := span_plain hplain' (closing.tail ++ rest)
    rw [← List.cons_append, ← hmiddle] at hkeySpan
    rw [← List.cons_append, ← hclosing] at hvalueSpan
    have hne : key.isEmpty = false := by simpa using hkey
    simp only [read?, print, List.append_assoc, Text.after?_append, Option.bind_eq_bind, Option.bind_some,
      hkeySpan.1, hkeySpan.2, hvalueSpan.1, hvalueSpan.2, hne, Bool.false_eq_true, if_false, Option.pure_def]

theorem read?_eq_none_iff {cs : List Char} :
    read? cs = none ↔ ∀ tag behind, Valid tag → cs ≠ print tag.1 tag.2 ++ behind := by
  rw [Option.eq_none_iff_forall_not_mem]
  constructor
  · rintro h tag behind hvalid rfl
    exact h (tag, behind) (read?_eq_some_iff.mpr ⟨hvalid, rfl⟩)
  · rintro h ⟨tag, behind⟩ hread
    obtain ⟨hvalid, hprint⟩ := read?_eq_some_iff.mp hread
    exact h tag behind hvalid hprint

/-- **A line has the tags that are scanned**, and no others. -/
theorem scans_iff {cs : List Char} {tags : List (List Char × List Char)} : Scans cs tags ↔ tags = scan cs := by
  constructor
  · intro h
    induction h with
    | nil =>
      rw [scan]
      rfl
    | @tag tag rest tags hvalid _ ih =>
      have hread : read? (print tag.1 tag.2 ++ rest) = some (tag, rest) := read?_eq_some_iff.mpr ⟨hvalid, rfl⟩
      rw [scan]
      split
      next hread' =>
        rw [hread] at hread'
        cases hread'
        rw [ih]
      next hread' =>
        rw [hread] at hread'
        cases hread'
    | @skip c rest tags hnone _ ih =>
      have hread : read? (c :: rest) = none := read?_eq_none_iff.mpr hnone
      rw [scan]
      split
      next hread' =>
        rw [hread] at hread'
        cases hread'
      next => exact ih
  · rintro rfl
    induction hn : cs.length using Nat.strongRecOn generalizing cs with
    | ind n ih =>
      subst hn
      rw [scan]
      split
      next tag rest hread =>
        have hshorter := length_read?_lt hread
        obtain ⟨hvalid, rfl⟩ := read?_eq_some_iff.mp hread
        exact .tag hvalid (ih _ hshorter rfl)
      next hread =>
        cases cs with
        | nil => exact .nil
        | cons c rest => exact .skip (read?_eq_none_iff.mp hread) (ih _ (Nat.lt_succ_self _) rfl)

end SerialTag

/-! ## 2. The last tag with a key -/

/-- **The value that is given last** under a key. -/
def LastGiven (tags : List (String × String)) (key value : String) : Prop :=
  ∃ before behind, tags = before ++ (key, value) :: behind ∧ key ∉ behind.map (·.1)

theorem lastGiven_iff {tags : List (String × String)} {key value : String} :
    (tags.reverse.find? fun tag => tag.1 == key).map (·.2) = some value ↔ LastGiven tags key value := by
  rw [Option.map_eq_some_iff]
  constructor
  · rintro ⟨⟨k, v⟩, hfound, rfl⟩
    obtain ⟨hkey, behind, before, hsplit, hnone⟩ := List.find?_eq_some_iff_append.mp hfound
    obtain rfl : k = key := by simpa using hkey
    refine ⟨before.reverse, behind.reverse, ?_, ?_⟩
    · calc tags = tags.reverse.reverse := (List.reverse_reverse tags).symm
        _ = before.reverse ++ (k, v) :: behind.reverse := by
            rw [hsplit]
            simp
    · intro hmem
      obtain ⟨tag, htag, hsame⟩ := List.mem_map.mp hmem
      have hother := hnone tag (List.mem_reverse.mp htag)
      simp [hsame] at hother
  · rintro ⟨before, behind, rfl, hlast⟩
    refine ⟨(key, value), List.find?_eq_some_iff_append.mpr ⟨by simp, behind.reverse, before.reverse, by simp, ?_⟩, rfl⟩
    intro tag htag
    have hne : tag.1 ≠ key := by
      rintro rfl
      exact hlast (List.mem_map.mpr ⟨tag, List.mem_reverse.mp htag, rfl⟩)
    simpa using hne

/-- Under a key nothing is given last only if nothing is given at all. -/
theorem exists_lastGiven_iff {tags : List (String × String)} {key : String} :
    (∃ value, LastGiven tags key value) ↔ ∃ value, (key, value) ∈ tags := by
  constructor
  · rintro ⟨value, before, behind, rfl, -⟩
    exact ⟨value, by simp⟩
  · rintro ⟨value, hmem⟩
    have hsome : (tags.reverse.find? fun tag => tag.1 == key).isSome = true :=
      List.find?_isSome.mpr ⟨(key, value), List.mem_reverse.mpr hmem, by simp⟩
    obtain ⟨tag, htag⟩ := Option.isSome_iff_exists.mp hsome
    exact ⟨tag.2, lastGiven_iff.mp (by rw [htag]; rfl)⟩

/-! ## 3. The console -/

/-- **The tags of recorded lines**, those of one line behind those of the lines before it. -/
inductive Tagged : List (String × String) → List (String × String) → Prop where
  | nil : Tagged [] []
  | line {inst line : String} {tags : List (List Char × List Char)} {records more : List (String × String)}
      (scans : SerialTag.Scans line.toList tags) (rest : Tagged records more) :
      Tagged ((inst, line) :: records) (tags.map (fun tag => (String.ofList tag.1, String.ofList tag.2)) ++ more)

namespace SerialConsole

/-- **One record**: the line comes last, behind the name of its instance. -/
theorem logs_record (c : SerialConsole) (inst line : String) :
    (c.record inst line).logs = c.logs ++ [inst ++ ": " ++ line] := by simp [record, logs]

/-- **One record**: its tags come last. -/
theorem tags_record (c : SerialConsole) (inst line : String) :
    (c.record inst line).tags = c.tags ++
      (SerialTag.scan line.toList).map fun tag => (String.ofList tag.1, String.ofList tag.2) := by
  simp [record, tags]

/-- The console after further records, one by one. -/
def recordAll (c : SerialConsole) (records : List (String × String)) : SerialConsole :=
  records.foldl (fun c r => c.record r.1 r.2) c

variable {records tags : List (String × String)} {key value : String}

theorem logs_recordAll (c : SerialConsole) (records : List (String × String)) :
    (c.recordAll records).logs = c.logs ++ records.map fun r => r.1 ++ ": " ++ r.2 := by
  induction records generalizing c with
  | nil => exact (List.append_nil _).symm
  | cons r records ih =>
    have hrest := ih (c.record r.1 r.2)
    rw [logs_record, List.append_assoc] at hrest
    exact hrest

theorem tags_recordAll (h : Tagged records tags) (c : SerialConsole) : (c.recordAll records).tags = c.tags ++ tags := by
  induction h generalizing c with
  | nil => exact (List.append_nil _).symm
  | @line inst line ts records more hscans _ ih =>
    have hrest := ih (c.record inst line)
    rw [tags_record, ← SerialTag.scans_iff.mp hscans, List.append_assoc] at hrest
    exact hrest

/-- Recorded lines have tags, and no others than these. -/
theorem tagged_iff : Tagged records tags ↔ tags = (empty.recordAll records).tags := by
  constructor
  · intro h
    exact (tags_recordAll h empty).symm
  · rintro rfl
    obtain ⟨tags, htags⟩ : ∃ tags, Tagged records tags := by
      induction records with
      | nil => exact ⟨[], .nil⟩
      | cons r records ih =>
        obtain ⟨more, hmore⟩ := ih
        exact ⟨_, .line (SerialTag.scans_iff.mpr rfl) hmore⟩
    have hsame : (empty.recordAll records).tags = tags := tags_recordAll htags empty
    exact hsame ▸ htags

/-- **What a console reports** under a key: the value in the last tag with it, on whatever line. -/
def Reports (c : SerialConsole) (key value : String) : Prop := ∃ tags, Tagged c.records tags ∧ LastGiven tags key value

/-- Nothing else is recorded than what is recorded. -/
theorem records_recordAll (c : SerialConsole) (records : List (String × String)) :
    (c.recordAll records).records = c.records ++ records := by
  induction records generalizing c with
  | nil => exact (List.append_nil _).symm
  | cons r records ih =>
    have hrest := ih (c.record r.1 r.2)
    rw [record, List.append_assoc] at hrest
    exact hrest

theorem value?_eq_some_iff {c : SerialConsole} : c.value? key = some value ↔ c.Reports key value := by
  have hself : empty.recordAll c.records = c := congrArg SerialConsole.mk (records_recordAll empty c.records)
  rw [value?, lastGiven_iff]
  constructor
  · intro h
    exact ⟨c.tags, tagged_iff.mpr (by rw [hself]), h⟩
  · rintro ⟨tags, htagged, hlast⟩
    rw [tagged_iff, hself] at htagged
    exact htagged ▸ hlast

/-- **What is recorded is what is read off.**  Whatever is printed, in whatever pieces: the lines are kept in order, and
under a key stands the value in the last tag with it, or nothing if there is no such tag. -/
theorem recorded_reports (records : List (String × String)) :
    (empty.recordAll records).logs = records.map (fun r => r.1 ++ ": " ++ r.2) ∧
      ∃ tags, (∀ tags', Tagged records tags' ↔ tags' = tags) ∧
        (∀ key value, (empty.recordAll records).value? key = some value ↔ LastGiven tags key value) ∧
        ∀ key, (empty.recordAll records).value? key = none ↔ ∀ value, (key, value) ∉ tags := by
  refine ⟨logs_recordAll empty records, (empty.recordAll records).tags, fun tags' => tagged_iff, ?_, ?_⟩
  · intro key value
    rw [value?, lastGiven_iff]
  · intro key
    have hsome : ∀ value, (empty.recordAll records).value? key = some value ↔
        LastGiven (empty.recordAll records).tags key value := fun value => by rw [value?, lastGiven_iff]
    rw [Option.eq_none_iff_forall_ne_some, ← not_exists, ← not_exists, ← exists_lastGiven_iff]
    simp only [hsome, not_exists]

end SerialConsole

end ImageImport
