/-
# The documents of tokens

The tokens of a text are read as one document: a node, between an optional start mark with directives
before it and optional end marks.

A node is a scalar or a collection.  It may carry a tag, which says nothing here, and an anchor, by which
an alias later on stands for the same node.  An alias inside of the node it stands for has no end; it
stands for an empty sequence, from which nothing is ever read.
-/
import ImageImport.Yaml.Token

namespace ImageImport.Yaml

/-! ## 1. What is read -/

/-- The tokens that are left, the nodes with a name so far, and the handles that tags may have. -/
structure Reading where
  tokens : List Token
  anchors : List (List Char × Yaml) := []
  handles : List (List Char) := [[], ['!'], ['!', '!']]

/-- Something read from tokens. -/
abbrev Reader := StateT Reading Option

namespace Reader

/-- The next token stays. -/
def peek : Reader (Option Token) := do return (← get).tokens.head?

/-- The next token goes. -/
def skip : Reader Unit := modify fun r => { r with tokens := r.tokens.drop 1 }

/-- The node of the last anchor with a name. -/
def named (name : List Char) : Reader Yaml := do
  match (← get).anchors.reverse.lookup name with
  | some y => return y
  | none => failure

/-- A node with an anchor starts; yields the place at which it is kept. -/
def announce : Option (List Char) → Reader (Option Nat)
  | none => return none
  | some name => do
    let place := (← get).anchors.length
    modify fun r => { r with anchors := r.anchors ++ [(name, sequence [])] }
    return some place

/-- A node has been read. -/
def keep (name : Option (List Char)) (place : Option Nat) (y : Yaml) : Reader Unit :=
  match name, place with
  | some name, some place => modify fun r => { r with anchors := r.anchors.set place (name, y) }
  | _, _ => return ()

/-- The anchor and the tag in front of a node, in either order; whether there is one of them, and the
anchor's name. -/
def properties : Reader (Bool × Option (List Char)) := do
  let tag (h : List Char) : Reader Unit := do
    if (← get).handles.contains h then skip else failure
  match ← peek with
  | some (.anchor name) =>
    skip
    if let some (.tag h) ← peek then tag h
    return (true, some name)
  | some (.tag h) =>
    tag h
    match ← peek with
    | some (.anchor name) =>
      skip
      return (true, some name)
    | _ => return (true, none)
  | _ => return (false, none)

/-! ## 2. Nodes -/

/-- Is a value left out in front of this token of a block collection? -/
def endsEntry : Option Token → Bool
  | some .key | some .value | some .blockEnd => true
  | _ => false

/-- Is a value left out in front of this token of a flow collection? -/
def endsPart : Option Token → Bool
  | some .comma | some .listClose | some .mapClose => true
  | _ => false

/-- The next token is the colon of a value, which goes. -/
def hasValue : Reader Bool := do
  match ← peek with
  | some .value => skip; return true
  | _ => return false

/-- At the end of a flow collection, or at its next part behind the comma that must stand in front of
every part but the first. -/
def isClosed (isClose : Token → Bool) (first : Bool) : Reader Bool := do
  if !first && !(← peek).any isClose then
    match ← peek with
    | some .comma => skip
    | _ => failure
  if (← peek).any isClose then
    skip
    return true
  return false

/-- The end of a list. -/
def closesList : Token → Bool
  | .listClose => true
  | _ => false

/-- The end of a map. -/
def closesMap : Token → Bool
  | .mapClose => true
  | _ => false

mutual
/-- **A node.**  In a block it may be a block collection, and behind a key or colon a sequence in the
column of its mapping.  `fuel` bounds the number of nodes and the depth. -/
def node (fuel : Nat) (inBlock mayBeFlush : Bool) : Reader Yaml :=
  match fuel with
  | 0 => failure
  | fuel + 1 => do
    match ← peek with
    | some (.alias name) =>
      skip
      named name
    | _ =>
      let (marked, name) ← properties
      let place ← announce name
      let y ← content fuel inBlock mayBeFlush marked
      keep name place y
      return y
/-- What follows the anchor and the tag; behind one of them it may be missing. -/
def content (fuel : Nat) (inBlock mayBeFlush marked : Bool) : Reader Yaml :=
  match fuel with
  | 0 => failure
  | fuel + 1 => do
    let missing : Reader Yaml := if marked then return absent else failure
    match ← peek with
    | some (.scalar plain text) =>
      skip
      return scalar plain (String.ofList text)
    | some .listOpen =>
      skip
      return sequence (← parts fuel true)
    | some .mapOpen =>
      skip
      return mapping (← members fuel true)
    | some .item => if mayBeFlush then return sequence (← items fuel false) else missing
    | some .sequenceStart =>
      if inBlock then
        skip
        return sequence (← items fuel true)
      else missing
    | some .mappingStart =>
      if inBlock then
        skip
        return mapping (← entries fuel)
      else missing
    | _ => missing
/-- The items of a block sequence; one with an end of its own is `closed` by it. -/
def items (fuel : Nat) (closed : Bool) : Reader (List Yaml) :=
  match fuel with
  | 0 => failure
  | fuel + 1 => do
    match ← peek with
    | some .item =>
      skip
      let y ← match ← peek with
        | some .item | some .blockEnd => pure absent
        | t => if !closed && endsEntry t then pure absent else node fuel true false
      return y :: (← items fuel closed)
    | some .blockEnd =>
      if closed then skip
      return []
    | _ => if closed then failure else return []
/-- The entries of a block mapping. -/
def entries (fuel : Nat) : Reader (List (Yaml × Yaml)) :=
  match fuel with
  | 0 => failure
  | fuel + 1 => do
    match ← peek with
    | some .key =>
      skip
      let k ← if endsEntry (← peek) then pure absent else node fuel true true
      let v ← if ← hasValue then
          if endsEntry (← peek) then pure absent else node fuel true true
        else pure absent
      return (k, v) :: (← entries fuel)
    | some .blockEnd =>
      skip
      return []
    | _ => failure
/-- The parts of a list between brackets; an announced key makes a part a mapping of one entry. -/
def parts (fuel : Nat) (first : Bool) : Reader (List Yaml) :=
  match fuel with
  | 0 => failure
  | fuel + 1 => do
    if ← isClosed closesList first then return []
    let y ← match ← peek with
      | some .key =>
        skip
        let k ← match ← peek with
          | some .value | some .comma | some .listClose =>
            skip
            pure absent
          | _ => node fuel false false
        let v ← pairValue fuel
        pure (mapping [(k, v)])
      | _ => node fuel false false
    return y :: (← parts fuel false)
/-- The value of an entry of a flow collection. -/
def pairValue (fuel : Nat) : Reader Yaml :=
  match fuel with
  | 0 => failure
  | fuel + 1 => do
    if ← hasValue then
      if endsPart (← peek) then return absent else node fuel false false
    else return absent
/-- The entries of a mapping between braces; a key that is not announced has no value. -/
def members (fuel : Nat) (first : Bool) : Reader (List (Yaml × Yaml)) :=
  match fuel with
  | 0 => failure
  | fuel + 1 => do
    if ← isClosed closesMap first then return []
    let entry ← match ← peek with
      | some .key =>
        skip
        let t ← peek
        let isMissing := endsPart t || match t with
          | some .value => true
          | _ => false
        let k ← if isMissing then pure absent else node fuel false false
        pure (k, ← pairValue fuel)
      | _ => pure (← node fuel false false, absent)
    return entry :: (← members fuel false)
end

/-! ## 3. Documents -/

/-- The directives in front of a start mark: at most one version, which must be known, and handles of
tags, each but once. -/
def directives (fuel : Nat) (version : Bool) (seen : List (List Char)) : Reader Unit :=
  match fuel with
  | 0 => failure
  | fuel + 1 => do
    match ← peek with
    | some (.version isKnown) =>
      if version || !isKnown then failure
      skip
      directives fuel true seen
    | some (.handle h) =>
      if seen.contains h then failure
      skip
      modify fun r => { r with handles := h :: r.handles }
      directives fuel version (h :: seen)
    | some .documentStart => skip
    | _ => failure

/-- Nothing but end marks is left. -/
def ended (fuel : Nat) : Reader Unit :=
  match fuel with
  | 0 => failure
  | fuel + 1 => do
    match ← peek with
    | none => return ()
    | some .documentEnd =>
      skip
      ended fuel
    | some _ => failure

/-- Nothing stands between this token and a start mark. -/
def isBare : Option Token → Bool
  | none | some (.version _) | some (.handle _) | some .documentStart | some .documentEnd => true
  | _ => false

/-- **The one document** of the tokens; no tokens at all are an empty one. -/
def document (fuel : Nat) : Reader Yaml := do
  let y ← match ← peek with
    | none => pure absent
    | some (.version _) | some (.handle _) | some .documentStart =>
      directives fuel false []
      if isBare (← peek) then pure absent else node fuel true false
    | _ => node fuel true false
  ended fuel
  return y

end Reader

/-- **The document of a text.** -/
def parse? (s : String) : Option Yaml := do
  let cs := s.toList
  if !cs.all isAllowed then none
  let tokens ← Token.ofChars? (normalize cs)
  let (y, _) ← (Reader.document (4 * tokens.length + 8)).run { tokens }
  return y

end ImageImport.Yaml
