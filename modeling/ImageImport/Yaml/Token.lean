/-
# The tokens of a YAML text

A text is cut into tokens before its structure is known.  Most tokens are written; those that open and
close block collections stand for changes of the indentation, and the token that announces a key is
put in when its colon is found.

A key that is not announced is a single node on one line, with no more than 1024 characters before its
colon.  Wherever one could start, its place is kept as a `Key` until the colon is found or cannot
come any more.  Where the indentation demands an entry, the key is required, and then it is an error when
no colon comes.
-/
import ImageImport.Yaml.BlockScalar
import ImageImport.Yaml.Scalar

namespace ImageImport.Yaml

/-- **A token.**  The first four concern documents; then come the tokens of block collections, of flow
collections, of entries, and of nodes. -/
inductive Token where
  | version (isKnown : Bool)
  | handle (name : List Char)
  | documentStart
  | documentEnd
  | sequenceStart
  | mappingStart
  | blockEnd
  | item
  | listOpen
  | listClose
  | mapOpen
  | mapClose
  | comma
  | key
  | value
  | alias (name : List Char)
  | anchor (name : List Char)
  | tag (handle : List Char)
  | scalar (plain : Bool) (text : List Char)

namespace Token

/-! ## 1. The state of the cut -/

/-- A place at which a key may have started: the token it would be, and where it stands. -/
structure Key where
  required : Bool
  token : Nat
  index : Nat
  line : Nat
  column : Nat

/-- What is known in front of the next token.  `key` belongs to the innermost flow collection, and
`outerKeys` to those around it; `columns` are those of the open block collections, the innermost
first. -/
structure Cut where
  cursor : Cursor
  tokens : List Token := []
  key : Option Key := none
  outerKeys : List (Option Key) := []
  columns : List Nat := []
  mayStartKey : Bool := true

namespace Cut

/-- Inside of a flow collection. -/
def inFlow (s : Cut) : Bool := !s.outerKeys.isEmpty

/-- The first column right of the innermost block collection. -/
def least (s : Cut) : Nat :=
  match s.columns with
  | [] => 0
  | c :: _ => c + 1

/-- At a later place. -/
def goTo (rest : List Char) (s : Cut) : Cut := { s with cursor := s.cursor.moveTo rest }

/-- One more token. -/
def push (t : Token) (s : Cut) : Cut := { s with tokens := s.tokens ++ [t] }

/-- A token in front of the `n`-th one. -/
def insert (n : Nat) (t : Token) (s : Cut) : Cut :=
  { s with tokens := s.tokens.take n ++ t :: s.tokens.drop n }

/-- Keys may start from here on, or not. -/
def allowKey (allowed : Bool) (s : Cut) : Cut := { s with mayStartKey := allowed }

/-! ## 2. Indentation -/

/-- A block collection opens in a column, unless one is open there already; its token is the `n`-th. -/
def openBlock (column n : Nat) (t : Token) (s : Cut) : Cut :=
  if s.inFlow || column < s.least then s
  else { s.insert n t with columns := column :: s.columns }

/-- Block collections right of a column close. -/
def closeBlocks (column : Nat) (s : Cut) : Cut :=
  if s.inFlow then s
  else
    let closed := s.columns.takeWhile (column < ·)
    { s with
      columns := s.columns.drop closed.length
      tokens := s.tokens ++ closed.map fun _ => .blockEnd }

/-- All block collections close. -/
def closeAllBlocks (s : Cut) : Cut :=
  if s.inFlow then s
  else { s with columns := [], tokens := s.tokens ++ s.columns.map fun _ => .blockEnd }

/-! ## 3. Keys -/

/-- What is left of a key at a later place. -/
def keyAt (c : Cursor) : Option Key → Option (Option Key)
  | none => some none
  | some k =>
    if k.line < c.line || k.index + 1024 < c.index then
      if k.required then none else some none
    else some (some k)

/-- Without the keys whose colon cannot come any more. -/
def dropOldKeys (s : Cut) : Option Cut := do
  return { s with
    key := ← keyAt s.cursor s.key
    outerKeys := ← s.outerKeys.mapM (keyAt s.cursor) }

/-- Without a key. -/
def dropKey (s : Cut) : Option Cut :=
  if s.key.any Key.required then none else some { s with key := none }

/-- A key may start here, if keys may. -/
def markKey (s : Cut) : Option Cut := do
  if !s.mayStartKey then return s
  let c := s.cursor
  let key : Key :=
    { required := !s.inFlow && s.columns.head? == some c.column
      token := s.tokens.length
      index := c.index
      line := c.line
      column := c.column }
  return { ← s.dropKey with key := some key }

/-! ## 4. Between tokens -/

/-- Without the blanks, line breaks and comments in front, and whether a key may start there.  Outside of
flow collections a tab is no blank where a key may start, and on a new line one may. -/
def skipBlanks (inFlow mayStartKey comment atStart : Bool) : List Char → Bool × List Char
  | [] => (mayStartKey, [])
  | c :: rest =>
    if isBreak c then skipBlanks inFlow (mayStartKey || !inFlow) false true rest
    else if comment then skipBlanks inFlow mayStartKey true false rest
    else if c = ' ' || (c = '\t' && (inFlow || !mayStartKey)) || (atStart && isOrderMark c) then
      skipBlanks inFlow mayStartKey false false rest
    else if c = '#' then skipBlanks inFlow mayStartKey true false rest
    else (mayStartKey, c :: rest)

/-- To the next token. -/
def approach (s : Cut) : Option Cut := do
  let (mayStartKey, rest) :=
    skipBlanks s.inFlow s.mayStartKey false (s.cursor.column == 0) s.cursor.rest
  let s ← ((s.goTo rest).allowKey mayStartKey).dropOldKeys
  return s.closeBlocks s.cursor.column

/-! ## 5. Documents -/

/-- The number of a version, and what follows it. -/
def versionPart? (cs : List Char) : Option (Nat × List Char) :=
  let ds := cs.takeWhile Text.isDigit
  if ds.isEmpty || 9 < ds.length then none else some (Text.ofDigits ds, cs.dropWhile Text.isDigit)

/-- A handle of tags between two exclamation marks, or what there is of it. -/
def handle (cs : List Char) : List Char × List Char :=
  let name := cs.takeWhile isWord
  match cs.dropWhile isWord with
  | '!' :: rest => ('!' :: name ++ ['!'], rest)
  | rest => ('!' :: name, rest)

/-- The value of two hexadecimal digits. -/
def octet? (a b : Char) : Option Nat := do return 16 * (← Text.hexValue? a) + (← Text.hexValue? b)

/-- How many further bytes of a character follow a first one. -/
def further? (n : Nat) : Option Nat :=
  if n < 0x80 then some 0
  else if 0xC0 ≤ n && n < 0xE0 then some 1
  else if 0xE0 ≤ n && n < 0xF0 then some 2
  else if 0xF0 ≤ n && n < 0xF8 then some 3
  else none

/-- May the character stand in a tag?  Flow marks may between angles only. -/
def isTagChar (inAngles : Bool) (c : Char) : Bool :=
  isWord c || [';', '/', '?', ':', '@', '&', '=', '+', '$', '.', '!', '~', '*', '(', ')'].contains c ||
    isSingleQuote c || (inAngles && (c = ',' || c = '[' || c = ']'))

/-- Whether a tag holds any character, and what follows it.  Bytes are written as two digits behind a
percent sign; `due` of them are still to come. -/
def tagRest? (inAngles : Bool) (due : Nat) (any : Bool) : List Char → Option (Bool × List Char)
  | '%' :: a :: b :: rest =>
    match octet? a b with
    | none => none
    | some n =>
      if 0 < due then
        if 0x80 ≤ n && n < 0xC0 then tagRest? inAngles (due - 1) true rest else none
      else (further? n).bind fun due => tagRest? inAngles due true rest
  | c :: rest =>
    if 0 < due || c = '%' then none
    else if isTagChar inAngles c then tagRest? inAngles 0 true rest
    else some (any, c :: rest)
  | [] => if 0 < due then none else some (any, [])

/-- A directive, from behind the percent sign on: a version, or a handle of tags with what it stands
for. -/
def directive? (cs : List Char) : Option (Token × List Char) := do
  let rest := cs.dropWhile isWord
  if !atBlank rest then none
  let name := cs.takeWhile isWord
  if name == ['Y', 'A', 'M', 'L'] then
    let (major, rest) ← versionPart? (rest.dropWhile isBlank)
    let (minor, rest) ← match rest with
      | '.' :: rest => versionPart? rest
      | _ => none
    return (.version (major == 1 && (minor == 1 || minor == 2)), ← nextLine? rest)
  else if name == ['T', 'A', 'G'] then
    match rest.dropWhile isBlank with
    | '!' :: rest =>
      let (h, rest) := handle rest
      if h ≠ ['!'] && (h.length < 2 || h.getLast? != some '!') then none
      match rest with
      | c :: _ => if !isBlank c then none
      | [] => none
      let (any, rest) ← tagRest? true 0 false (rest.dropWhile isBlank)
      if !any || !atBlank rest then none
      return (.handle h, ← nextLine? rest)
    | _ => none
  else none

/-- A directive or a mark closes everything. -/
def between (t : Token) (rest : List Char) (s : Cut) : Option Cut := do
  return ((← s.closeAllBlocks.dropKey).allowKey false).push t |>.goTo rest

/-! ## 6. Collections -/

/-- A flow collection opens. -/
def openFlow (t : Token) (rest : List Char) (s : Cut) : Option Cut := do
  let s ← s.markKey
  return { s.push t |>.goTo rest with
    key := none, outerKeys := s.key :: s.outerKeys, mayStartKey := true }

/-- A flow collection closes. -/
def closeFlow (t : Token) (rest : List Char) (s : Cut) : Option Cut := do
  let s ← s.dropKey
  let s := (s.allowKey false).push t |>.goTo rest
  match s.outerKeys with
  | [] => return s
  | key :: outerKeys => return { s with key, outerKeys }

/-- Another part of a flow collection follows. -/
def nextPart (rest : List Char) (s : Cut) : Option Cut := do
  return ((← s.dropKey).allowKey true).push .comma |>.goTo rest

/-- Where a block collection may go on: its token opens it if need be. -/
def inBlock (t : Token) (s : Cut) : Option Cut :=
  if s.inFlow then some s
  else if !s.mayStartKey then none
  else some (s.openBlock s.cursor.column s.tokens.length t)

/-- An item of a block sequence. -/
def blockItem (rest : List Char) (s : Cut) : Option Cut := do
  return ((← (← s.inBlock .sequenceStart).dropKey).allowKey true).push .item |>.goTo rest

/-- A key that is announced. -/
def announcedKey (rest : List Char) (s : Cut) : Option Cut := do
  return ((← (← s.inBlock .mappingStart).dropKey).allowKey !s.inFlow).push .key |>.goTo rest

/-- **A colon.**  If a key started before it, the key is announced now, and its mapping opened. -/
def colon (rest : List Char) (s : Cut) : Option Cut := do
  match s.key with
  | some k =>
    let s := (s.insert k.token .key).openBlock k.column k.token .mappingStart
    return ({ s with key := none }.allowKey false).push .value |>.goTo rest
  | none => return ((← s.inBlock .mappingStart).allowKey !s.inFlow).push .value |>.goTo rest

/-! ## 7. Nodes -/

/-- A node that is read at once: a key may start with it, and none right behind it. -/
def leaf (t : Token) (rest : List Char) (s : Cut) : Option Cut := do
  return ((← s.markKey).allowKey false).push t |>.goTo rest

/-- The name of an anchor, and what follows it. -/
def name? (cs : List Char) : Option (List Char × List Char) :=
  let name := cs.takeWhile isWord
  let rest := cs.dropWhile isWord
  let ends := atBlank rest ||
    rest.head?.any fun c => ['?', ':', ',', ']', '\x7d', '%', '@', '`'].contains c
  if name.isEmpty || !ends then none else some (name, rest)

/-- A tag, from behind its exclamation mark on: its handle, and what follows it. -/
def tag? (inFlow : Bool) (cs : List Char) : Option (List Char × List Char) := do
  let (h, rest) ← match cs with
    | '<' :: cs =>
      match ← tagRest? true 0 false cs with
      | (true, '>' :: rest) => some ([], rest)
      | _ => none
    | cs =>
      let (h, rest) := handle cs
      if h.length < 2 || h.getLast? != some '!' then
        let (any, rest) ← tagRest? false 0 (1 < h.length) rest
        some (if any then ['!'] else [], rest)
      else
        let (any, rest) ← tagRest? false 0 false rest
        if any then some (h, rest) else none
  if atBlank rest || (inFlow && rest.head? == some ',') then some (h, rest) else none

/-- A block scalar; a key may start behind it. -/
def block (folded : Bool) (rest : List Char) (s : Cut) : Option Cut := do
  let (text, rest) ← blockScalar? folded s.least rest
  return ((← s.dropKey).allowKey true).push (.scalar false text) |>.goTo rest

/-- A scalar between quotes. -/
def quoted (read : Option (List Char × List Char)) (s : Cut) : Option Cut := do
  let (text, rest) ← read
  s.leaf (.scalar false text) rest

/-- A plain scalar; a key may start behind it when it is broken off at the end of a line. -/
def plain (s : Cut) : Option Cut := do
  let p ← plain? s.inFlow s.least .empty s.cursor.column s.cursor.rest
  let s ← s.leaf (.scalar true p.text) p.rest
  return s.allowKey p.isBroken

/-! ## 8. The cut -/

/-- **The next token**, which starts with the given character. -/
def next (c : Char) (rest : List Char) (s : Cut) : Option Cut :=
  let atStart := s.cursor.column = 0
  if atStart && c = '%' then do
    let (t, rest) ← directive? rest
    s.between t rest
  else if atStart && isMarkOf '-' (c :: rest) then s.between .documentStart (rest.drop 2)
  else if atStart && isMarkOf '.' (c :: rest) then s.between .documentEnd (rest.drop 2)
  else if c = '[' then s.openFlow .listOpen rest
  else if c = '\x7b' then s.openFlow .mapOpen rest
  else if c = ']' then s.closeFlow .listClose rest
  else if c = '\x7d' then s.closeFlow .mapClose rest
  else if c = ',' then s.nextPart rest
  else if c = '-' && atBlank rest then s.blockItem rest
  else if c = '?' && (s.inFlow || atBlank rest) then s.announcedKey rest
  else if c = ':' && (s.inFlow || atBlank rest) then s.colon rest
  else if c = '*' then do
    let (name, rest) ← name? rest
    s.leaf (.alias name) rest
  else if c = '&' then do
    let (name, rest) ← name? rest
    s.leaf (.anchor name) rest
  else if c = '!' then do
    let (h, rest) ← tag? s.inFlow rest
    s.leaf (.tag h) rest
  else if c = '|' && !s.inFlow then s.block false rest
  else if c = '>' && !s.inFlow then s.block true rest
  else if isSingleQuote c then s.quoted (single .empty false rest)
  else if c = '"' then s.quoted (double .empty false rest)
  else if startsPlain s.inFlow c rest then s.plain
  else none

/-- The tokens from here on; `fuel` bounds their number. -/
def finish (fuel : Nat) (s : Cut) : Option (List Token) :=
  match fuel with
  | 0 => none
  | fuel + 1 =>
    match s.approach with
    | none => none
    | some s =>
      match s.cursor.rest with
      | [] => s.closeAllBlocks.dropKey.map Cut.tokens
      | c :: rest =>
        match s.next c rest with
        | none => none
        | some s => s.finish fuel

end Cut

/-- **The tokens of a text**, whose line breaks are those of a document. -/
def ofChars? (cs : List Char) : Option (List Token) :=
  ({ cursor := { rest := cs } } : Cut).finish (cs.length + 1)

end Token

end ImageImport.Yaml
