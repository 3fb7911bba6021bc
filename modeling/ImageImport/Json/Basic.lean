/-
# JSON documents

A document as a tree.  Objects keep their members in the order of the text, repeated keys included,
because what a repeated key means is for the reader of the document to say.

Two things a text may contain have no value of their own and are kept as what they are: a number that
is not an integer of at most 64 bits (only whether it is finite matters, nobody computes with it),
and a string with a surrogate escape that has no partner.
-/

namespace ImageImport

/-- A string of a document: `none` when it has a surrogate escape without a partner. -/
abbrev JsonText := Option String

/-- A document. -/
inductive Json where
  | null
  | bool (value : Bool)
  | int (value : Int)
  | real (finite : Bool)
  | text (value : JsonText)
  | array (items : List Json)
  | object (members : List (JsonText × Json))

namespace Json

/-- A string. -/
def str (s : String) : Json := text (some s)

/-- An object of members with sound keys. -/
def record (members : List (String × Json)) : Json := object (members.map fun m => (some m.1, m.2))

/-- A list. -/
def list {α : Type} (f : α → Json) (xs : List α) : Json := array (xs.map f)

mutual
/-- **Sound and not too deep**: every string sound, every number finite, and lists and objects nested
no deeper than `room`. -/
def isSound : Nat → Json → Bool
  | _, null | _, bool _ | _, int _ => true
  | _, real finite => finite
  | _, text value => value.isSome
  | room, array items => room != 0 && areSoundItems (room - 1) items
  | room, object members => room != 0 && areSoundMembers (room - 1) members
/-- Every item sound. -/
def areSoundItems : Nat → List Json → Bool
  | _, [] => true
  | room, j :: js => isSound room j && areSoundItems room js
/-- Every key and every value sound. -/
def areSoundMembers : Nat → List (JsonText × Json) → Bool
  | _, [] => true
  | room, (key, j) :: ms => key.isSome && isSound room j && areSoundMembers room ms
end

mutual
/-- **Apply `f` to every string of a document**, but not to keys. -/
def mapTexts (f : String → String) : Json → Json
  | text (some s) => text (some (f s))
  | array items => array (mapItemTexts f items)
  | object members => object (mapMemberTexts f members)
  | j => j
/-- In every item. -/
def mapItemTexts (f : String → String) : List Json → List Json
  | [] => []
  | j :: js => mapTexts f j :: mapItemTexts f js
/-- In every value. -/
def mapMemberTexts (f : String → String) : List (JsonText × Json) → List (JsonText × Json)
  | [] => []
  | (key, j) :: ms => (key, mapTexts f j) :: mapMemberTexts f ms
end

end Json

end ImageImport
