/-
# The strings of a document

A document that is rewritten string by string keeps its shape: `Leafwise` says of two documents that they differ in
their strings only, and how, and `leafwise_mapTexts` that rewriting does this.  A document none of whose strings is
changed stays what it is (`mapTexts_eq_self`).

The lemmas on values and members that are written are tagged for `simp`, which rewrites what a structure writes field by
field.
-/
import ImageImport.Json.Schema
import Mathlib.Data.List.Forall2

namespace ImageImport.Json

variable {α β : Type} (f : String → String)

/-! ## 1. Documents -/

/-- **The same document with `f` applied to every string**: items one by one, members under the same keys, and all else
as it is. -/
inductive Leafwise (f : String → String) : Json → Json → Prop where
  | null : Leafwise f null null
  | bool (b : Bool) : Leafwise f (bool b) (bool b)
  | int (n : Int) : Leafwise f (int n) (int n)
  | real (finite : Bool) : Leafwise f (real finite) (real finite)
  | text (s : String) : Leafwise f (text (some s)) (text (some (f s)))
  | unsound : Leafwise f (Json.text none) (Json.text none)
  | array {items items' : List Json} (h : List.Forall₂ (Leafwise f) items items') :
      Leafwise f (array items) (array items')
  | object {members members' : List (JsonText × Json)} (hkeys : members'.map Prod.fst = members.map Prod.fst)
      (hvalues : List.Forall₂ (Leafwise f) (members.map Prod.snd) (members'.map Prod.snd)) :
      Leafwise f (object members) (object members')

mutual
/-- **The strings of a document** in order, without its keys. -/
def texts : Json → List String
  | text (some s) => [s]
  | array items => itemTexts items
  | object members => memberTexts members
  | _ => []
/-- Those of items. -/
def itemTexts : List Json → List String
  | [] => []
  | j :: js => texts j ++ itemTexts js
/-- Those of values. -/
def memberTexts : List (JsonText × Json) → List String
  | [] => []
  | (_, j) :: ms => texts j ++ memberTexts ms
end

theorem keys_mapMemberTexts (ms : List (JsonText × Json)) : (mapMemberTexts f ms).map Prod.fst = ms.map Prod.fst := by
  induction ms with
  | nil => rfl
  | cons m ms ih => simp [mapMemberTexts, ih]

mutual
/-- **Every string and nothing else is rewritten.** -/
theorem leafwise_mapTexts : ∀ j : Json, Leafwise f j (j.mapTexts f)
  | null => .null
  | bool b => .bool b
  | int n => .int n
  | real finite => .real finite
  | text (some s) => .text s
  | text none => .unsound
  | array items => .array (leafwise_mapItemTexts items)
  | object members => .object (keys_mapMemberTexts f members) (leafwise_mapMemberTexts members)
theorem leafwise_mapItemTexts : ∀ js : List Json, List.Forall₂ (Leafwise f) js (mapItemTexts f js)
  | [] => .nil
  | j :: js => .cons (leafwise_mapTexts j) (leafwise_mapItemTexts js)
theorem leafwise_mapMemberTexts : ∀ ms : List (JsonText × Json),
    List.Forall₂ (Leafwise f) (ms.map Prod.snd) ((mapMemberTexts f ms).map Prod.snd)
  | [] => .nil
  | (_, j) :: ms => .cons (leafwise_mapTexts j) (leafwise_mapMemberTexts ms)
end

variable {f}

mutual
/-- **Where no string is changed, the document is not.** -/
theorem mapTexts_eq_self : ∀ j : Json, (∀ s ∈ j.texts, f s = s) → j.mapTexts f = j
  | null, _ | bool _, _ | int _, _ | real _, _ | text none, _ => rfl
  | text (some s), h => by rw [mapTexts, h s List.mem_cons_self]
  | array items, h => by rw [mapTexts, mapItemTexts_eq_self items h]
  | object members, h => by rw [mapTexts, mapMemberTexts_eq_self members h]
theorem mapItemTexts_eq_self : ∀ js : List Json, (∀ s ∈ itemTexts js, f s = s) → mapItemTexts f js = js
  | [], _ => rfl
  | j :: js, h => by
    rw [mapItemTexts, mapTexts_eq_self j fun s hs => h s (List.mem_append_left _ hs),
      mapItemTexts_eq_self js fun s hs => h s (List.mem_append_right _ hs)]
theorem mapMemberTexts_eq_self : ∀ ms : List (JsonText × Json), (∀ s ∈ memberTexts ms, f s = s) → mapMemberTexts f ms = ms
  | [], _ => rfl
  | (_, j) :: ms, h => by
    rw [mapMemberTexts, mapTexts_eq_self j fun s hs => h s (List.mem_append_left _ hs),
      mapMemberTexts_eq_self ms fun s hs => h s (List.mem_append_right _ hs)]
end

/-! ## 2. Values that are written -/

variable (f) (write : α → Json) (g : β → α)

@[simp] theorem mapTexts_str (s : String) : (str s).mapTexts f = str (f s) := rfl

@[simp] theorem mapTexts_bool (b : Bool) : (bool b).mapTexts f = bool b := rfl

@[simp] theorem mapTexts_int (n : Int) : (int n).mapTexts f = int n := rfl

@[simp] theorem mapTexts_int64 (n : Int64) : (int64 n).mapTexts f = int64 n := rfl

@[simp] theorem mapTexts_list (xs : List α) : (list write xs).mapTexts f = list (fun a => (write a).mapTexts f) xs := by
  have hitems : mapItemTexts f (xs.map write) = xs.map fun a => (write a).mapTexts f := by
    induction xs with
    | nil => rfl
    | cons x xs ih => simp [mapItemTexts, ih]
  rw [list, mapTexts, hitems, list]

/-- What is written with its strings rewritten. -/
def rewriteMembers (ms : List (String × Json)) : List (String × Json) := ms.map fun m => (m.1, m.2.mapTexts f)

@[simp] theorem mapTexts_record (ms : List (String × Json)) : (record ms).mapTexts f = record (rewriteMembers f ms) := by
  have hmembers : mapMemberTexts f (ms.map fun m => (some m.1, m.2)) =
      (rewriteMembers f ms).map fun m => (some m.1, m.2) := by
    induction ms with
    | nil => rfl
    | cons m ms ih => simp [mapMemberTexts, rewriteMembers] at ih ⊢; exact ih
  rw [record, mapTexts, hmembers, record]

@[simp] theorem mapTexts_dict (d : Dict α) : (dict write d).mapTexts f = dict (fun a => (write a).mapTexts f) d := by
  simp [dict, rewriteMembers, Function.comp_def]

/-! A value that is changed before it is written. -/

@[simp] theorem list_map (xs : List β) : list write (xs.map g) = list (fun b => write (g b)) xs := by
  simp [list, Function.comp_def]

@[simp] theorem dict_map (d : Dict β) : dict write (d.map g) = dict (fun b => write (g b)) d := by
  simp [dict, Dict.map, Function.comp_def]

/-! ## 3. Members that are written -/

@[simp] theorem rewriteMembers_append (xs ys : List (String × Json)) :
    rewriteMembers f (xs ++ ys) = rewriteMembers f xs ++ rewriteMembers f ys := List.map_append

@[simp] theorem rewriteMembers_member (name : String) (j : Json) :
    rewriteMembers f (member name j) = member name (j.mapTexts f) := rfl

@[simp] theorem rewriteMembers_memberOf (name : String) (o : Option α) :
    rewriteMembers f (memberOf name write o) = memberOf name (fun a => (write a).mapTexts f) o := by
  cases o <;> rfl

@[simp] theorem rewriteMembers_memberOfList (name : String) (xs : List α) :
    rewriteMembers f (memberOfList name write xs) = memberOfList name (fun a => (write a).mapTexts f) xs := by
  unfold memberOfList
  cases xs.isEmpty <;> simp [rewriteMembers]

@[simp] theorem rewriteMembers_memberOfDict (name : String) (d : Dict α) :
    rewriteMembers f (memberOfDict name write d) = memberOfDict name (fun a => (write a).mapTexts f) d := by
  unfold memberOfDict
  cases d.isEmpty <;> simp [rewriteMembers]

@[simp] theorem rewriteMembers_memberOfFlag (name : String) (flag : Bool) :
    rewriteMembers f (memberOfFlag name flag) = memberOfFlag name flag := by
  cases flag <;> rfl

@[simp] theorem memberOf_map (name : String) (o : Option β) :
    memberOf name write (o.map g) = memberOf name (fun b => write (g b)) o := by
  cases o <;> rfl

@[simp] theorem memberOfList_map (name : String) (xs : List β) :
    memberOfList name write (xs.map g) = memberOfList name (fun b => write (g b)) xs := by
  simp [memberOfList]

@[simp] theorem memberOfDict_map (name : String) (d : Dict β) :
    memberOfDict name write (d.map g) = memberOfDict name (fun b => write (g b)) d := by
  have hempty : (d.map g).isEmpty = d.isEmpty := by simp [Dict.isEmpty, Dict.map]
  rw [memberOfDict, hempty, dict_map, memberOfDict]

end ImageImport.Json
