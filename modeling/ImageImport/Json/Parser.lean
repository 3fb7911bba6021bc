/-
# Reading JSON

The tokens of a text are folded over a stack of lists and objects that are still open.  Every token
either moves the stack on or is out of place; there is no recursion into the text, so documents may
be nested to any depth.
-/
import ImageImport.Json.Token

namespace ImageImport.Json

/-! ## 1. The stack -/

/-- A list or object that is still open, with what it holds so far, last first; an object also has the
key whose value is being read. -/
inductive Frame where
  | list (items : List Json)
  | object (members : List (JsonText × Json)) (key : JsonText)

/-- What may come next. -/
inductive Phase where
  /-- A value, inside the open frames. -/
  | value (stack : List Frame)
  /-- A value or the end of a list just opened. -/
  | firstItem (stack : List Frame)
  /-- A key or the end of an object just opened. -/
  | firstKey (stack : List Frame)
  /-- A key behind a comma. -/
  | key (stack : List Frame) (members : List (JsonText × Json))
  /-- The colon behind a key. -/
  | colon (stack : List Frame) (members : List (JsonText × Json)) (key : JsonText)
  /-- A comma or the end of a list. -/
  | afterItem (stack : List Frame) (items : List Json)
  /-- A comma or the end of an object. -/
  | afterMember (stack : List Frame) (members : List (JsonText × Json))
  /-- Nothing more. -/
  | finished (document : Json)

/-- A value is complete: it goes into the innermost open frame. -/
def Phase.complete (j : Json) : List Frame → Phase
  | [] => finished j
  | .list items :: stack => afterItem stack (j :: items)
  | .object members k :: stack => afterMember stack ((k, j) :: members)

/-- A token where a value may stand. -/
def Phase.start (stack : List Frame) : Token → Option Phase
  | .openList => some (firstItem stack)
  | .openObject => some (firstKey stack)
  | .text t => some (complete (.text t) stack)
  | .scalar j => some (complete j stack)
  | _ => none

/-- One token. -/
def Phase.step : Phase → Token → Option Phase
  | value stack, t => start stack t
  | firstItem stack, .closeList => some (complete (.array []) stack)
  | firstItem stack, t => start (.list [] :: stack) t
  | firstKey stack, .closeObject => some (complete (.object []) stack)
  | firstKey stack, .text k => some (colon stack [] k)
  | key stack members, .text k => some (colon stack members k)
  | colon stack members k, .colon => some (value (.object members k :: stack))
  | afterItem stack items, .comma => some (value (.list items :: stack))
  | afterItem stack items, .closeList => some (complete (.array items.reverse) stack)
  | afterMember stack members, .comma => some (key stack members)
  | afterMember stack members, .closeObject => some (complete (.object members.reverse) stack)
  | _, _ => none

/-! ## 2. Whole texts -/

/-- The document of a list of tokens. -/
def ofTokens? (ts : List Token) : Option Json :=
  match ts.foldlM Phase.step (.value []) with
  | some (.finished j) => some j
  | _ => none

/-- **The document of a text.** -/
def parse? (s : String) : Option Json := (tokens s.toList).bind ofTokens?

end ImageImport.Json
