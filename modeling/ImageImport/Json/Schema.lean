/-
# Reading values out of a document

How the parts of a document become values.  A structure may be written as an object with named
members or as a list of its fields in order.  In an object a known name must not occur twice and
unknown names are skipped; in a list there must be no more items than fields.  A dictionary keeps the
last of several members under one key.

A field is `required`; or `defaulted`, when it may be left out; or `nullable`, when `null` stands for its
absence: then it may be left out of an object, but a list must hold a place for it.
-/
import ImageImport.Dict
import ImageImport.Json.Basic

namespace ImageImport.Json

variable {α β : Type}

/-! ## 1. Scalars, lists and dictionaries -/

/-- A sound string. -/
def toText? : Json → Option String
  | text t => t
  | _ => none

/-- A truth value. -/
def toBool? : Json → Option Bool
  | bool b => some b
  | _ => none

/-- An integer between two bounds. -/
def toInt? (low high : Int) : Json → Option Int
  | int n => if low ≤ n ∧ n ≤ high then some n else none
  | _ => none

/-- A signed 64-bit integer. -/
def toInt64? (j : Json) : Option Int64 := (toInt? (-Int.pow 2 63) (Int.pow 2 63 - 1) j).map Int64.ofInt

/-- An unsigned 64-bit integer. -/
def toUInt64? (j : Json) : Option UInt64 := (toInt? 0 (Int.pow 2 64 - 1) j).map fun n => n.toNat.toUInt64

/-- An unsigned 32-bit integer. -/
def toUInt32? (j : Json) : Option UInt32 := (toInt? 0 (Int.pow 2 32 - 1) j).map fun n => n.toNat.toUInt32

/-- An unsigned 16-bit integer. -/
def toUInt16? (j : Json) : Option UInt16 := (toInt? 0 (Int.pow 2 16 - 1) j).map fun n => n.toNat.toUInt16

/-- An unsigned 8-bit integer. -/
def toUInt8? (j : Json) : Option UInt8 := (toInt? 0 (Int.pow 2 8 - 1) j).map fun n => n.toNat.toUInt8

/-- A value, or nothing for `null`. -/
def toOption? (read : Json → Option α) : Json → Option (Option α)
  | null => some none
  | j => (read j).map some

/-- A list of values. -/
def toList? (read : Json → Option α) : Json → Option (List α)
  | array items => items.mapM read
  | _ => none

/-- One member of a dictionary. -/
def dictMember? (read : Json → Option α) (m : JsonText × Json) : Option (String × α) := do
  return (← m.1, ← read m.2)

/-- A dictionary; of several members under one key the last one counts. -/
def toDict? (read : Json → Option α) : Json → Option (Dict α)
  | object members => (members.mapM (dictMember? read)).map Dict.ofList
  | _ => none

/-! ## 2. Structures -/

/-- The fields found for a structure, and whether they stood in a list. -/
structure Fields where
  inList : Bool
  found : List (String × Json)

/-- The members of an object with known names, each at most once; every key must be sound. -/
def knownMembers (names : List String) : List (JsonText × Json) → Option (List (String × Json))
  | [] => some []
  | (none, _) :: _ => none
  | (some key, j) :: rest => do
    let known ← knownMembers names rest
    if names.contains key then
      if known.any fun e => e.1 == key then none else return (key, j) :: known
    else return known

/-- The fields of a structure written as an object. -/
def objectFields? (names : List String) : Json → Option Fields
  | object members => (knownMembers names members).map (⟨false, ·⟩)
  | _ => none

/-- **The fields of a structure** with the given names in order. -/
def fields? (names : List String) : Json → Option Fields
  | array items => if items.length ≤ names.length then some ⟨true, names.zip items⟩ else none
  | j => objectFields? names j

namespace Fields

/-- The value under a name. -/
def find? (f : Fields) (name : String) : Option Json := (f.found.find? fun e => e.1 == name).map (·.2)

/-- A field that must be there. -/
def required (f : Fields) (name : String) (read : Json → Option α) : Option α :=
  (f.find? name).bind read

/-- A field that may be left out. -/
def defaulted (f : Fields) (name : String) (absent : α) (read : Json → Option α) : Option α :=
  match f.find? name with
  | some j => read j
  | none => some absent

/-- A field that may be left out, and for which `null` stands for absence. -/
def optional (f : Fields) (name : String) (read : Json → Option α) : Option (Option α) :=
  f.defaulted name none (toOption? read)

/-- A field for which `null` stands for absence; a list must hold a place for it. -/
def nullable (f : Fields) (name : String) (read : Json → Option α) : Option (Option α) :=
  match f.find? name with
  | some j => toOption? read j
  | none => if f.inList then none else some none

end Fields

/-! ## 3. Writing fields -/

/-- A member. -/
def member (name : String) (j : Json) : List (String × Json) := [(name, j)]

/-- A member for a value that may be absent; absent, it is left out. -/
def memberOf (name : String) (write : α → Json) : Option α → List (String × Json)
  | some a => [(name, write a)]
  | none => []

/-- A member for a list; an empty one is left out. -/
def memberOfList (name : String) (write : α → Json) (xs : List α) : List (String × Json) :=
  if xs.isEmpty then [] else [(name, list write xs)]

/-- A dictionary. -/
def dict (write : α → Json) (d : Dict α) : Json := record (d.entries.map fun e => (e.1, write e.2))

/-- A member for a dictionary; an empty one is left out. -/
def memberOfDict (name : String) (write : α → Json) (d : Dict α) : List (String × Json) :=
  if d.isEmpty then [] else [(name, dict write d)]

/-- A member for a flag; one that is not set is left out. -/
def memberOfFlag (name : String) (flag : Bool) : List (String × Json) :=
  if flag then [(name, bool true)] else []

/-- A value that may be absent, as `null` when it is. -/
def nullOr (write : α → Json) : Option α → Json
  | some a => write a
  | none => null

/-- A signed 64-bit integer. -/
def int64 (n : Int64) : Json := int n.toInt

/-- An unsigned 64-bit integer. -/
def uint64 (n : UInt64) : Json := int n.toNat

end ImageImport.Json
