/-
# What is written is read back

Main statement: `parse?_render`.  The text of every plain tree is read as this tree.

The reader takes a text token by token through its phases, so what is shown of a part of a text is how it moves the
reader on (`readFrom`): the text of a tree takes it to where the tree is complete (`Taken`), whatever is still open
around it and whatever follows.
-/
import ImageImport.Proofs.Json.Tokens

namespace ImageImport.Json

/-! ## 1. Plain trees -/

/-- **Plain, and nested no deeper than `room`**: every string and every key is sound, and every number is an integer
that fits into 64 bits, with or without sign. -/
inductive Plain : Nat → Json → Prop where
  | null {room : Nat} : Plain room null
  | bool {room : Nat} {b : Bool} : Plain room (bool b)
  | int {room : Nat} {n : Int} (low : -Int.pow 2 63 ≤ n) (high : n < Int.pow 2 64) : Plain room (int n)
  | str {room : Nat} {s : String} : Plain room (str s)
  | array {room : Nat} {items : List Json} (h : ∀ j ∈ items, Plain room j) : Plain (room + 1) (array items)
  | record {room : Nat} {members : List (String × Json)} (h : ∀ m ∈ members, Plain room m.2) :
      Plain (room + 1) (record members)

variable {room : Nat} {j : Json} {cs rest : List Char}

theorem isSound_array (items : List Json) :
    (array items).isSound room = (room != 0 && items.all (isSound (room - 1))) := by
  have hitems : ∀ js : List Json, areSoundItems (room - 1) js = js.all (isSound (room - 1)) := by
    intro js
    induction js with
    | nil => rfl
    | cons j js ih => rw [areSoundItems, ih, List.all_cons]
  rw [isSound, hitems]

theorem isSound_record (members : List (String × Json)) :
    (record members).isSound room = (room != 0 && members.all fun m => isSound (room - 1) m.2) := by
  have hmembers : ∀ ms : List (String × Json), areSoundMembers (room - 1) (ms.map fun m => (some m.1, m.2)) =
      ms.all fun m => isSound (room - 1) m.2 := by
    intro ms
    induction ms with
    | nil => rfl
    | cons m ms ih => rw [List.map_cons, areSoundMembers, ih, List.all_cons, Option.isSome_some, Bool.true_and]
  rw [record, isSound, hmembers]

/-- **What is plain is sound**, with as much room or more. -/
theorem Plain.isSound_of_le (h : Plain room j) {n : Nat} (hn : room ≤ n) : j.isSound n = true := by
  induction h generalizing n with
  | null => rfl
  | bool => rfl
  | int => rfl
  | str => rfl
  | array _ ih =>
    simp only [isSound_array, Bool.and_eq_true, bne_iff_ne, List.all_eq_true]
    exact ⟨by omega, fun j hj => ih j hj (by omega)⟩
  | record _ ih =>
    simp only [isSound_record, Bool.and_eq_true, bne_iff_ne, List.all_eq_true]
    exact ⟨by omega, fun m hm => ih m hm (by omega)⟩

/-! ## 2. The reader moves on -/

/-- **The phase the reader is in** when it has taken a text, from the phase it was in. -/
def readFrom (phase : Phase) (cs : List Char) : Option Phase := (tokens cs).bind (·.foldlM Phase.step phase)

/-- One token moves the reader on by one step. -/
theorem readFrom_of_tokens {t : Token} (h : tokens cs = (tokens rest).map (t :: ·)) (phase : Phase) :
    readFrom phase cs = (phase.step t).bind (readFrom · rest) := by
  unfold readFrom
  rw [h]
  cases tokens rest with
  | none => cases phase.step t <;> rfl
  | some ts => rfl

variable {stack : List Frame} {items : List Json} {members : List (JsonText × Json)} {phase : Phase}

/-- **In this phase the next value is read**, and goes into the innermost frame of the stack.  So it is wherever a
value may stand, and where a list may end as well. -/
def TakesValue (phase : Phase) (stack : List Frame) : Prop := ∀ t ≠ .closeList, phase.step t = Phase.start stack t

theorem takesValue_value (stack : List Frame) : TakesValue (.value stack) stack := fun _ _ => rfl

theorem takesValue_firstItem (stack : List Frame) : TakesValue (.firstItem stack) (.list [] :: stack) := by
  intro t ht
  cases t <;> first | rfl | exact absurd rfl ht

/-- **In this phase the next key is read.** -/
def TakesKey (phase : Phase) (stack : List Frame) (members : List (JsonText × Json)) : Prop :=
  ∀ k, phase.step (.text k) = some (.colon stack members k)

/-- The reader takes the text of the tree as the tree. -/
def Taken (j : Json) : Prop := ∀ {phase : Phase} {stack : List Frame} {rest : List Char}, TakesValue phase stack →
  Delimited rest → readFrom phase (j.print ++ rest) = readFrom (Phase.complete j stack) rest

/-- **The items of a list** are taken one after the other, by induction on the items: before each of them a value may
stand, and behind it a comma or the end of the list. -/
theorem readFrom_items {items : List Json} (hitems : ∀ j ∈ items, Taken j) (hne : items ≠ [])
    (before : List Json) (hphase : TakesValue phase (.list before :: stack)) (rest : List Char) :
    readFrom phase (commaSeparated (printItems items) ++ ']' :: rest) =
      readFrom (Phase.complete (.array (before.reverse ++ items)) stack) rest := by
  induction items generalizing phase before with
  | nil => exact absurd rfl hne
  | cons j js ih =>
    have hj : Taken j := hitems j List.mem_cons_self
    cases js with
    | nil =>
      show readFrom phase (j.print ++ ']' :: rest) = _
      rw [hj hphase (delimited_cons rfl rfl), readFrom_of_tokens (tokens_punctuation (t := .closeList) rfl rest)]
      show readFrom (Phase.complete (.array (j :: before).reverse) stack) rest = _
      rw [List.reverse_cons]
    | cons j' js =>
      show readFrom phase (j.print ++ ',' :: commaSeparated (printItems (j' :: js)) ++ ']' :: rest) = _
      rw [List.append_assoc, List.cons_append, hj hphase (delimited_cons rfl rfl),
        readFrom_of_tokens (tokens_punctuation (t := .comma) rfl _)]
      show readFrom (.value (.list (j :: before) :: stack)) _ = _
      rw [ih (fun i hi => hitems i (List.mem_cons_of_mem _ hi)) (List.cons_ne_nil _ _) (j :: before)
        (takesValue_value _), List.reverse_cons, List.append_assoc, List.singleton_append]

/-- A member with a sound key. -/
def keyed (m : String × Json) : JsonText × Json := (some m.1, m.2)

/-- **A member of an object**: its key, the colon, and its value. -/
theorem readFrom_member {key : String} (hj : Taken j) (hphase : TakesKey phase stack members) (hrest : Delimited rest) :
    readFrom phase (quote (some key) ++ ':' :: j.print ++ rest) =
      readFrom (.afterMember stack ((some key, j) :: members)) rest := by
  rw [List.append_assoc, List.cons_append, readFrom_of_tokens (tokens_quote key _), hphase]
  show readFrom (.colon stack members (some key)) _ = _
  rw [readFrom_of_tokens (tokens_punctuation (t := .colon) rfl _)]
  show readFrom (.value (.object members (some key) :: stack)) _ = _
  rw [hj (takesValue_value _) hrest]
  rfl

/-- **The members of an object** are taken one after the other, by induction on the members. -/
theorem readFrom_members {ms : List (String × Json)} (hms : ∀ m ∈ ms, Taken m.2) (hne : ms ≠ [])
    (before : List (JsonText × Json)) (hphase : TakesKey phase stack before) (rest : List Char) :
    readFrom phase (commaSeparated (printMembers (ms.map keyed)) ++ '\x7d' :: rest) =
      readFrom (Phase.complete (.object (before.reverse ++ ms.map keyed)) stack) rest := by
  induction ms generalizing phase before with
  | nil => exact absurd rfl hne
  | cons m ms ih =>
    obtain ⟨key, j⟩ := m
    have hj : Taken j := hms _ List.mem_cons_self
    cases ms with
    | nil =>
      show readFrom phase (quote (some key) ++ ':' :: j.print ++ '\x7d' :: rest) = _
      rw [readFrom_member hj hphase (delimited_cons rfl rfl),
        readFrom_of_tokens (tokens_punctuation (t := .closeObject) rfl rest)]
      show readFrom (Phase.complete (.object ((some key, j) :: before).reverse) stack) rest = _
      rw [List.reverse_cons]
      rfl
    | cons m' ms =>
      show readFrom phase (quote (some key) ++ ':' :: j.print ++ ',' :: commaSeparated (printMembers ((m' :: ms).map keyed)) ++
        '\x7d' :: rest) = _
      rw [List.append_assoc, List.cons_append, readFrom_member hj hphase (delimited_cons rfl rfl),
        readFrom_of_tokens (tokens_punctuation (t := .comma) rfl _)]
      show readFrom (.key stack ((some key, j) :: before)) _ = _
      rw [ih (fun i hi => hms i (List.mem_cons_of_mem _ hi)) (List.cons_ne_nil _ _) ((some key, j) :: before) fun _ => rfl,
        List.reverse_cons, List.append_assoc]
      rfl

/-! ## 3. Whole texts -/

/-- A token that is a value is taken as this value. -/
theorem taken_of_tokens {t : Token} (ht : t ≠ .closeList) (hstart : ∀ stack, Phase.start stack t = some (.complete j stack))
    (htokens : ∀ {rest}, Delimited rest → tokens (j.print ++ rest) = (tokens rest).map (t :: ·)) : Taken j := by
  intro phase stack rest hphase hrest
  rw [readFrom_of_tokens (htokens hrest), hphase t ht, hstart]
  rfl

/-- **The text of a plain tree is taken as the tree**, by induction on the tree. -/
theorem Plain.taken (h : Plain room j) : Taken j := by
  induction h with
  | null =>
    exact taken_of_tokens (t := .scalar .null) nofun (fun _ => rfl) fun hrest => tokens_word rfl rfl rfl hrest
  | @bool _ b =>
    cases b with
    | true =>
      exact taken_of_tokens (t := .scalar (.bool true)) nofun (fun _ => rfl) fun hrest =>
        tokens_word rfl rfl rfl hrest
    | false =>
      exact taken_of_tokens (t := .scalar (.bool false)) nofun (fun _ => rfl) fun hrest =>
        tokens_word rfl rfl rfl hrest
  | @int _ n low high =>
    exact taken_of_tokens (t := .scalar (.int n)) nofun (fun _ => rfl) fun hrest => tokens_int low high hrest
  | @str _ s => exact taken_of_tokens (t := .text (some s)) nofun (fun _ => rfl) fun _ => tokens_quote s _
  | @array _ items _ ih =>
    intro phase stack rest hphase hrest
    show readFrom phase ('[' :: (commaSeparated (printItems items) ++ [']'] ++ rest)) = _
    rw [readFrom_of_tokens (tokens_punctuation (t := .openList) rfl _), hphase .openList nofun]
    show readFrom (.firstItem stack) _ = _
    rw [List.append_assoc, List.singleton_append]
    cases items with
    | nil => exact readFrom_of_tokens (tokens_punctuation (t := .closeList) rfl rest) _
    | cons j js => exact readFrom_items ih (List.cons_ne_nil _ _) [] (takesValue_firstItem stack) rest
  | @record _ ms _ ih =>
    intro phase stack rest hphase hrest
    show readFrom phase ('\x7b' :: (commaSeparated (printMembers (ms.map keyed)) ++ ['\x7d'] ++ rest)) = _
    rw [readFrom_of_tokens (tokens_punctuation (t := .openObject) rfl _), hphase .openObject nofun]
    show readFrom (.firstKey stack) _ = _
    rw [List.append_assoc, List.singleton_append]
    cases ms with
    | nil => exact readFrom_of_tokens (tokens_punctuation (t := .closeObject) rfl rest) _
    | cons m ms => exact readFrom_members ih (List.cons_ne_nil _ _) [] (fun _ => rfl) rest

/-- **What is written is read back.** -/
theorem parse?_render (h : Plain room j) : parse? (render j) = some j := by
  have hread : readFrom (.value []) j.print = some (.finished j) := by
    have htaken := h.taken (takesValue_value []) delimited_nil
    rw [List.append_nil] at htaken
    rw [htaken]
    simp [readFrom, tokens, Phase.complete]
  unfold parse? render
  rw [String.toList_ofList]
  unfold readFrom at hread
  cases htokens : tokens j.print with
  | none => simp [htokens] at hread
  | some ts =>
    rw [htokens] at hread
    have hfold : ts.foldlM Phase.step (.value []) = some (.finished j) := hread
    simp [ofTokens?, hfold]

end ImageImport.Json
