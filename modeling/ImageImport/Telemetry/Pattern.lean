/-
# Search patterns

A filter may ask for the value of a field by a regular expression.  Here only the question counts whether
a text is such a pattern, so nothing is built: the text is cut into tokens, an escape being one of them,
and an automaton reads the tokens.  Its state says which groups are open and what is open in them.

A pattern stands inside braces of its own, so it holds no closing brace, and therefore no count of
repetitions and no class or number between braces.  The search runs in one pass over the text, which
rules out the boundaries of words unless the characters of a word are those of ASCII.
-/
import ImageImport.Text.Escape
import ImageImport.Text.Letter

namespace ImageImport.Telemetry.Pattern

/-! ## 1. Tokens -/

/-- A part of a pattern that is read at once. -/
inductive Token where
  | char (c : Char)
  | escaped (numbered : Bool) (c : Char)
  | set (negated : Bool)
  | property
  | edge (ofWord : Bool)

/-- An escape of one letter or sign. -/
def shortEscape? (c : Char) : Option Token :=
  match c with
  | 'd' | 's' | 'w' => some (.set false)
  | 'D' | 'S' | 'W' => some (.set true)
  | 'A' | 'z' => some (.edge false)
  | 'b' | 'B' | '<' | '>' => some (.edge true)
  | 'a' => some (.escaped false (Char.ofNat 7))
  | 'f' => some (.escaped false (Char.ofNat 12))
  | 'n' => some (.escaped false '\n')
  | 'r' => some (.escaped false '\r')
  | 't' => some (.escaped false '\t')
  | 'v' => some (.escaped false (Char.ofNat 11))
  | _ => if c.toNat < 128 && !c.isAlphanum then some (.escaped false c) else none

/-- The letter of a class of characters, in either case. -/
def isPropertyLetter (c : Char) : Bool := ['c', 'l', 'm', 'n', 'p', 's', 'z'].contains c.toLower

/-- **The tokens of a pattern**, if every escape is one. -/
def tokens? (cs : List Char) : Option (List Token) :=
  match cs with
  | [] => some []
  | '\\' :: e :: rest =>
    let places := Text.escapeDigits e
    if 0 < places then
      if rest.length < places then none
      else match Text.numbered? (rest.take places) with
        | none => none
        | some c => (tokens? (rest.drop places)).map (.escaped true c :: ·)
    else if e = 'p' || e = 'P' then
      match rest with
      | [] => none
      | c :: rest' => if isPropertyLetter c then (tokens? rest').map (.property :: ·) else none
    else match shortEscape? e with
      | none => none
      | some t => (tokens? rest).map (t :: ·)
  | c :: rest => if c = '\\' then none else (tokens? rest).map (.char c :: ·)
termination_by cs.length
decreasing_by all_goals simp only [List.length_cons, List.length_drop]; omega

/-! ## 2. States -/

/-- What a class has just read: nothing that a range could start with, a set of characters, or the
number of one character. -/
inductive Item where
  | nothing
  | several
  | single (number : Nat)

/-- What is open in the innermost group.  `depth` counts the brackets of a class that are open. -/
inductive Phase where
  | items (repeatable : Bool)
  | parenthesis
  | question
  | questionName
  | angle
  | name (read : List Char)
  | flags (read : List Char)
  | bracket (depth : Nat) (mayNegate mayClose : Bool)
  | inClass (depth : Nat) (last : Item)
  | sign (depth : Nat) (c : Char)
  | range (depth : Nat) (start : Item)

/-- Which groups are open, what is open in them, and whether characters are those of all scripts; an open
group keeps what holds outside of it. -/
structure State where
  groups : List Bool := []
  allScripts : Bool := true
  names : List (List Char) := []
  phase : Phase := .items false

namespace State

/-- In another phase. -/
def goTo (s : State) (phase : Phase) : Option State := some { s with phase }

/-- A group opens. -/
def opened (s : State) (allScripts : Bool) : State :=
  { s with groups := s.allScripts :: s.groups, allScripts, phase := .items false }

/-- The token means something where only the characters of ASCII count. -/
def admits (s : State) : Token → Bool
  | .char c => s.allScripts || c != '.'
  | .escaped numbered c => s.allScripts || !numbered || c.toNat < 128
  | .set negated => s.allScripts || !negated
  | .property => s.allScripts
  | .edge ofWord => !(ofWord && s.allScripts)

/-- The next token of a sequence. -/
def readItem (s : State) (repeatable : Bool) (t : Token) : Option State :=
  match t with
  | .char '(' => s.goTo .parenthesis
  | .char ')' =>
    match s.groups with
    | [] => none
    | outside :: rest => { s with groups := rest, allScripts := outside }.goTo (.items true)
  | .char '|' => s.goTo (.items false)
  | .char '[' => s.goTo (.bracket 1 true true)
  | .char '\x7b' => none
  | .char '?' | .char '*' | .char '+' => if repeatable then s.goTo (.items true) else none
  | t => if s.admits t then s.goTo (.items true) else none

/-- May the character stand in the name of a group? -/
def isNameChar (first : Bool) (c : Char) : Bool :=
  if first then c = '_' || (Text.isLetterOrNumber c && !Text.isDigit c)
  else c = '_' || c = '.' || c = '[' || c = ']' || Text.isLetterOrNumber c

/-- One more character of a group's name. -/
def readName (s : State) (read : List Char) : Token → Option State
  | .char '>' =>
    if read.isEmpty || s.names.contains read then none
    else some ({ s with names := read :: s.names }.opened s.allScripts)
  | .char c => if isNameChar read.isEmpty c then s.goTo (.name (read ++ [c])) else none
  | _ => none

/-- What flags make of the characters that count. -/
def scriptsAfter (s : State) (flags : List Char) : Bool :=
  if flags.contains 'u' then (flags.takeWhile (· != '-')).contains 'u' else s.allScripts

/-- One more flag; no flag stands twice, and something follows the minus. -/
def readFlag (s : State) (read : List Char) : Token → Option State
  | .char ')' =>
    if read.isEmpty || read.getLast? == some '-' then none
    else { s with allScripts := s.scriptsAfter read }.goTo (.items false)
  | .char ':' => if read.getLast? == some '-' then none else some (s.opened (s.scriptsAfter read))
  | .char c =>
    if ['-', 'i', 'm', 's', 'U', 'u', 'R', 'x'].contains c && !read.contains c then
      s.goTo (.flags (read ++ [c]))
    else none
  | _ => none

/-- What a token is in a class; an edge is nothing there. -/
def item? (s : State) : Token → Option Item
  | .char c => if s.allScripts || c.toNat < 128 then some (.single c.toNat) else none
  | .escaped numbered c =>
    if s.admits (.escaped numbered c) then some (.single c.toNat) else none
  | .set negated => if s.admits (.set negated) then some .several else none
  | .property => if s.admits .property then some .several else none
  | .edge _ => none

/-- The next token of a class. -/
def readClass (s : State) (depth : Nat) (last : Item) (t : Token) : Option State :=
  match t, last with
  | .char '[', _ => s.goTo (.bracket (depth + 1) true true)
  | .char ']', _ => if depth ≤ 1 then s.goTo (.items true) else s.goTo (.inClass (depth - 1) .nothing)
  | .char '&', _ => s.goTo (.sign depth '&')
  | .char '~', _ => s.goTo (.sign depth '~')
  | .char '-', .nothing => s.goTo (.sign depth '-')
  | .char '-', start => s.goTo (.range depth start)
  | t, _ => (s.item? t).bind fun item => s.goTo (.inClass depth item)

/-- The token behind an opening bracket: a caret negates, minuses and a closing bracket that come first
stand for themselves. -/
def readBracket (s : State) (depth : Nat) (mayNegate mayClose : Bool) (t : Token) : Option State :=
  match t with
  | .char '^' =>
    if mayNegate then if s.allScripts then s.goTo (.bracket depth false mayClose) else none
    else s.readClass depth .nothing t
  | .char '-' => s.goTo (.bracket depth false false)
  | .char ']' => if mayClose then s.goTo (.inClass depth .nothing) else s.readClass depth .nothing t
  | t => s.readClass depth .nothing t

/-- The end of a range that is no smaller than its start. -/
def readRange (s : State) (depth : Nat) (start : Item) (t : Token) : Option State :=
  match t with
  | .char ']' => s.readClass depth start t
  | .char '-' => s.goTo (.inClass depth .nothing)
  | t =>
    match start, s.item? t with
    | .single first, some (.single last) =>
      if first ≤ last then s.goTo (.inClass depth .nothing) else none
    | _, _ => none

/-- **One more token.**  A sign of a class that is doubled is an operation on sets. -/
def read (s : State) (t : Token) : Option State :=
  match s.phase, t with
  | .items repeatable, t => s.readItem repeatable t
  | .parenthesis, .char '?' => s.goTo .question
  | .parenthesis, t => (s.opened s.allScripts).readItem false t
  | .question, .char 'P' => s.goTo .questionName
  | .question, .char '<' => s.goTo .angle
  | .question, t => s.readFlag [] t
  | .questionName, .char '<' => s.goTo (.name [])
  | .questionName, _ => none
  | .angle, t => s.readName [] t
  | .name cs, t => s.readName cs t
  | .flags cs, t => s.readFlag cs t
  | .bracket depth mayNegate mayClose, t => s.readBracket depth mayNegate mayClose t
  | .inClass depth last, t => s.readClass depth last t
  | .sign depth c, .char d =>
    if c = d then s.goTo (.inClass depth .nothing) else s.readClass depth (.single c.toNat) (.char d)
  | .sign depth c, t => s.readClass depth (.single c.toNat) t
  | .range depth start, t => s.readRange depth start t

/-- Nothing is open. -/
def isComplete (s : State) : Bool :=
  match s.phase with
  | .items _ => s.groups.isEmpty
  | _ => false

end State

/-! ## 3. Patterns -/

/-- **The characters are a pattern.** -/
def isPattern (cs : List Char) : Bool :=
  match tokens? cs with
  | none => false
  | some ts => (ts.foldlM State.read {}).any State.isComplete

end ImageImport.Telemetry.Pattern
