/-
# Fields that are written and read

What a structure writes is a list of members, one or none for each field, and what it reads is looked up by name.  Two
things are shown of members, for each way to write one, and for members put together:

* they are plain, and their names are among those of the structure in order (`Writes`), so the object they make up is
  read back as these members (`fields?_record`, `objectFields?_record`);
* what is found under a name is what was written under it (`Fields.find?_append` and the lemmas behind it), and a field
  that was left out is read as the value for which it is left out (`Fields.defaulted_of_find?`).

The lemmas for single values are tagged for `simp`, which puts the fields of a structure together.
-/
import ImageImport.Json.Schema
import ImageImport.Proofs.Json.Text

namespace ImageImport

variable {α : Type}

/-! ## 1. Dictionaries -/

namespace Dict

/-- A key behind all others is put in last. -/
theorem insertEntry_last {key : String} {value : α} {es : List (String × α)} (h : ∀ e ∈ es, e.1 < key) :
    insertEntry key value es = es ++ [(key, value)] := by
  induction es with
  | nil => rfl
  | cons e es ih =>
    have he : e.1 < key := h e List.mem_cons_self
    have hnot : ¬ key < e.1 := fun hlt => String.lt_irrefl _ (String.lt_trans he hlt)
    simp [insertEntry, he, hnot, ih fun x hx => h x (List.mem_cons_of_mem _ hx)]

/-- **A dictionary is the one its entries make up.** -/
theorem ofList_entries (d : Dict α) : ofList d.entries = d := by
  have hfold : ∀ (es : List (String × α)) (b : Dict α), (b.entries ++ es).Pairwise (fun x y => x.1 < y.1) →
      (es.foldl (fun d e => d.insert e.1 e.2) b).entries = b.entries ++ es := by
    intro es
    induction es with
    | nil => simp
    | cons e es ih =>
      intro b hsorted
      have hlast : (b.insert e.1 e.2).entries = b.entries ++ [e] :=
        insertEntry_last fun x hx => (List.pairwise_append.mp hsorted).2.2 x hx e List.mem_cons_self
      have hsorted' : ((b.insert e.1 e.2).entries ++ es).Pairwise fun x y => x.1 < y.1 := by
        rw [hlast, List.append_assoc]
        exact hsorted
      rw [List.foldl_cons, ih _ hsorted', hlast, List.append_assoc, List.singleton_append]
  have hentries : (ofList d.entries).entries = d.entries := hfold d.entries empty d.sorted
  cases d
  cases hd : ofList _
  simp_all

end Dict

namespace Json

/-! ## 2. Single values -/

variable {read : Json → Option α} {write : α → Json}

@[simp] theorem toText?_str (s : String) : toText? (str s) = some s := (rfl)

@[simp] theorem toBool?_bool (b : Bool) : toBool? (bool b) = some b := (rfl)

theorem toInt?_int {low high n : Int} (hlow : low ≤ n) (hhigh : n ≤ high) : toInt? low high (int n) = some n :=
  if_pos ⟨hlow, hhigh⟩

@[simp] theorem toInt64?_int64 (n : Int64) : toInt64? (int64 n) = some n := by
  have hlow := n.le_toInt
  have hhigh := n.toInt_lt
  have hbound : Int.pow 2 63 = 2 ^ 63 := rfl
  rw [toInt64?, int64, toInt?_int (by omega) (by omega)]
  simp

@[simp] theorem toUInt64?_uint64 (n : UInt64) : toUInt64? (uint64 n) = some n := by
  have hhigh := n.toNat_lt
  have hbound : Int.pow 2 64 = 2 ^ 64 := rfl
  rw [toUInt64?, uint64, toInt?_int (by omega) (by omega)]
  simp

@[simp] theorem toUInt32?_int (n : UInt32) : toUInt32? (int n.toNat) = some n := by
  have hhigh := n.toNat_lt
  have hbound : Int.pow 2 32 = 2 ^ 32 := rfl
  rw [toUInt32?, toInt?_int (by omega) (by omega)]
  simp

@[simp] theorem toUInt8?_int (n : UInt8) : toUInt8? (int n.toNat) = some n := by
  have hhigh := n.toNat_lt
  have hbound : Int.pow 2 8 = 2 ^ 8 := rfl
  rw [toUInt8?, toInt?_int (by omega) (by omega)]
  simp

/-- What is not `null` is there. -/
theorem toOption?_of_ne {j : Json} (h : j ≠ null) : toOption? read j = (read j).map some := by
  cases j <;> first | rfl | exact absurd rfl h

@[simp] theorem toOption?_str (s : String) : toOption? toText? (str s) = some (some s) := by
  have hne : str s ≠ null := nofun
  rw [toOption?_of_ne hne, toText?_str, Option.map_some]

@[simp] theorem toOption?_int64 (n : Int64) : toOption? toInt64? (int64 n) = some (some n) := by
  have hne : int64 n ≠ null := nofun
  rw [toOption?_of_ne hne, toInt64?_int64, Option.map_some]

theorem toOption?_nullOr (hread : ∀ a, read (write a) = some a) (hne : ∀ a, write a ≠ null) (o : Option α) :
    toOption? read (nullOr write o) = some o := by
  cases o with
  | none => rfl
  | some a => rw [nullOr, toOption?_of_ne (hne a), hread]; rfl

/-- **A list is read item by item.** -/
@[simp] theorem toList?_list (hread : ∀ a, read (write a) = some a) (xs : List α) : toList? read (list write xs) = some xs := by
  show (xs.map write).mapM read = some xs
  induction xs with
  | nil => rfl
  | cons x xs ih => simp [hread, ih]

/-- **A dictionary is read entry by entry.** -/
@[simp] theorem toDict?_dict (hread : ∀ a, read (write a) = some a) (d : Dict α) : toDict? read (dict write d) = some d := by
  have hentries : ∀ es : List (String × α), ((es.map fun e => (e.1, write e.2)).map fun m => (some m.1, m.2)).mapM
      (dictMember? read) = some es := by
    intro es
    induction es with
    | nil => rfl
    | cons e es ih => simp_all [dictMember?]
  rw [dict, record, toDict?, hentries, Option.map_some, Dict.ofList_entries]

/-! ## 3. Members that are written -/

theorem Plain.int64 {room : Nat} (n : Int64) : Plain room (int64 n) := by
  have hlow := n.le_toInt
  have hhigh := n.toInt_lt
  have hbound : Int.pow 2 63 = 2 ^ 63 ∧ Int.pow 2 64 = 2 ^ 64 := ⟨rfl, rfl⟩
  exact .int (by omega) (by omega)

theorem Plain.nat {room n : Nat} (h : n < Nat.pow 2 64) : Plain room (.int n) :=
  .int (Int.le_trans (by decide) (Int.natCast_nonneg n)) (Int.ofNat_lt.mpr h)

theorem Plain.uint64 {room : Nat} (n : UInt64) : Plain room (uint64 n) := .nat n.toNat_lt

theorem Plain.list {room : Nat} (h : ∀ a, Plain room (write a)) (xs : List α) : Plain (room + 1) (list write xs) :=
  .array fun j hj => by
    obtain ⟨a, -, rfl⟩ := List.mem_map.mp hj
    exact h a

theorem Plain.dict {room : Nat} (h : ∀ a, Plain room (write a)) (d : Dict α) : Plain (room + 1) (dict write d) :=
  .record fun m hm => by
    obtain ⟨e, -, rfl⟩ := List.mem_map.mp hm
    exact h e.2

theorem Plain.nullOr {room : Nat} (h : ∀ a, Plain room (write a)) (o : Option α) : Plain room (nullOr write o) := by
  cases o with
  | none => exact .null
  | some a => exact h a

/-- **The members that a structure writes**: their names are among those given, in this order, and what they hold is
plain. -/
structure Writes (room : Nat) (names : List String) (ms : List (String × Json)) : Prop where
  names : (ms.map Prod.fst).Sublist names
  plain : ∀ m ∈ ms, Plain room m.2

/-- A list that is left out if it is empty, as a value that may be absent. -/
theorem memberOfList_eq (name : String) (xs : List α) :
    memberOfList name write xs = memberOf name (list write) (if xs.isEmpty then none else some xs) := by
  cases xs <;> rfl

theorem memberOfDict_eq (name : String) (d : Dict α) :
    memberOfDict name write d = memberOf name (dict write) (if d.isEmpty then none else some d) := by
  unfold memberOfDict
  cases d.isEmpty <;> rfl

theorem memberOfFlag_eq (name : String) (flag : Bool) :
    memberOfFlag name flag = memberOf name bool (if flag then some true else none) := by
  cases flag <;> rfl

namespace Writes

variable {room : Nat} {names names' : List String} {name : String} {j : Json} {ms ms' : List (String × Json)}

theorem member (h : Plain room j) : Writes room [name] (member name j) :=
  ⟨.refl _, by simpa [Json.member] using h⟩

theorem memberOf (h : ∀ a, Plain room (write a)) {o : Option α} : Writes room [name] (memberOf name write o) := by
  cases o with
  | none => exact ⟨by simp [Json.memberOf], by simp [Json.memberOf]⟩
  | some a => exact member (h a)

theorem memberOfList (h : ∀ a, Plain room (write a)) {xs : List α} :
    Writes (room + 1) [name] (memberOfList name write xs) := by
  rw [memberOfList_eq]
  exact memberOf (Plain.list h)

theorem memberOfDict (h : ∀ a, Plain room (write a)) {d : Dict α} :
    Writes (room + 1) [name] (memberOfDict name write d) := by
  rw [memberOfDict_eq]
  exact memberOf (Plain.dict h)

theorem memberOfFlag {flag : Bool} : Writes room [name] (memberOfFlag name flag) := by
  rw [memberOfFlag_eq]
  exact memberOf fun _ => .bool

theorem append (h : Writes room names ms) (h' : Writes room names' ms') :
    Writes room (names ++ names') (ms ++ ms') where
  names := by
    rw [List.map_append]
    exact h.names.append h'.names
  plain m hm := (List.mem_append.mp hm).elim (h.plain m) (h'.plain m)

end Writes

variable {room : Nat} {names order : List String} {name : String} {ms xs ys : List (String × Json)}

/-- **The object is plain** that the members make up. -/
theorem Writes.record (h : Writes room names ms) : Plain (room + 1) (record ms) := .record h.plain

/-- **The members of the object are found**, if they are all known and no name occurs twice. -/
theorem knownMembers_map (hnodup : (ms.map Prod.fst).Nodup) (hknown : ms.map Prod.fst ⊆ names) :
    knownMembers names (ms.map fun m => (some m.1, m.2)) = some ms := by
  induction ms with
  | nil => rfl
  | cons m ms ih =>
    obtain ⟨key, j⟩ := m
    rw [List.map_cons] at hnodup hknown
    obtain ⟨hfresh, hnodup'⟩ := List.nodup_cons.mp hnodup
    have hkey : key ∈ names := hknown List.mem_cons_self
    have hnone : (ms.any fun e => e.1 == key) = false := by
      simp only [List.any_eq_false, beq_iff_eq]
      rintro e he rfl
      exact hfresh (List.mem_map.mpr ⟨e, he, rfl⟩)
    rw [List.map_cons, knownMembers, ih hnodup' fun k hk => hknown (List.mem_cons_of_mem _ hk)]
    simp [hkey, hnone]

theorem objectFields?_record (h : Writes room order ms) (hnodup : order.Nodup) (hknown : order ⊆ names) :
    objectFields? names (record ms) = some ⟨false, ms⟩ := by
  have hfound := knownMembers_map (hnodup.sublist h.names) fun k hk => hknown (h.names.subset hk)
  simp only [record, objectFields?, hfound, Option.map_some]

theorem fields?_record (h : Writes room names ms) (hnodup : names.Nodup) :
    fields? names (record ms) = some ⟨false, ms⟩ :=
  objectFields?_record h hnodup fun _ => id

/-! ## 4. Fields that are found -/

namespace Fields

variable {b : Bool} {n : String}

@[simp] theorem find?_append : find? ⟨b, xs ++ ys⟩ name = (find? ⟨b, xs⟩ name).or (find? ⟨b, ys⟩ name) := by
  rw [find?, List.find?_append, Option.map_or]
  rfl

@[simp] theorem find?_member {j : Json} : find? ⟨b, member n j⟩ name = if n = name then some j else none := by
  by_cases h : n = name <;> simp [find?, member, h]

@[simp] theorem find?_memberOf {o : Option α} :
    find? ⟨b, memberOf n write o⟩ name = if n = name then o.map write else none := by
  cases o with
  | none => simp [find?, memberOf]
  | some a => exact find?_member

@[simp] theorem find?_memberOfList {xs : List α} : find? ⟨b, memberOfList n write xs⟩ name =
    if n = name then (if xs.isEmpty then none else some xs).map (list write) else none := by
  rw [memberOfList_eq, find?_memberOf]

@[simp] theorem find?_memberOfDict {d : Dict α} : find? ⟨b, memberOfDict n write d⟩ name =
    if n = name then (if d.isEmpty then none else some d).map (dict write) else none := by
  rw [memberOfDict_eq, find?_memberOf]

@[simp] theorem find?_memberOfFlag {flag : Bool} :
    find? ⟨b, memberOfFlag n flag⟩ name = if n = name then (if flag then some (bool true) else none) else none := by
  rw [memberOfFlag_eq, find?_memberOf]
  cases flag <;> rfl

/-- Under another name nothing is found. -/
theorem find?_eq_none (h : Writes room names ms) (hname : name ∉ names) : find? ⟨b, ms⟩ name = none := by
  have hfresh : ∀ m ∈ ms, ¬ (m.1 == name) = true := by
    intro m hm heq
    exact hname (h.names.subset (List.mem_map.mpr ⟨m, hm, by simpa using heq⟩))
  rw [find?, List.find?_eq_none.mpr hfresh, Option.map_none]

variable {f : Fields}

/-- A field that may be left out is read as what is found, or else as the value it is left out for. -/
theorem defaulted_eq (absent : α) : f.defaulted name absent read = (f.find? name).elim (some absent) read := by
  unfold defaulted
  cases f.find? name <;> rfl

/-- **What is left out for a value is read as this value.** -/
@[simp] theorem elim_read (hread : ∀ a, read (write a) = some a) (absent : α) (o : Option α) :
    o.elim (some absent) (read ∘ write) = some (o.getD absent) := by
  cases o with
  | none => rfl
  | some a => exact hread a

/-- ... and what is left out because it is absent is read as absent. -/
@[simp] theorem elim_toOption? (hread : ∀ a, toOption? read (write a) = some (some a)) (o : Option α) :
    o.elim (some none) (toOption? read ∘ write) = some o := by
  cases o with
  | none => rfl
  | some a => exact hread a

@[simp] theorem getD_list (xs : List α) : (if xs = [] then none else some xs).getD [] = xs := by
  by_cases h : xs = [] <;> simp [h]

@[simp] theorem getD_dict (d : Dict α) : (if d.isEmpty = true then none else some d).getD .empty = d := by
  split
  next h =>
    obtain ⟨entries, hsorted⟩ := d
    cases List.isEmpty_iff.mp h
    rfl
  next => rfl

@[simp] theorem elim_flag (flag : Bool) :
    (if flag = true then some (bool true) else none).elim (some false) toBool? = some flag := by
  cases flag <;> rfl

end Fields

end Json

end ImageImport
