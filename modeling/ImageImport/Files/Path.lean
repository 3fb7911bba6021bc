/-
# Paths

A path is text; what it names is decided by its segments between slashes.  Empty segments and single
dots name nothing of their own.  Paths are joined as text, so a joined path reads the way it was
given.
-/

namespace ImageImport.Path

/-- The path starts at the root. -/
def isAbsolute (p : String) : Bool := p.toList.head? == some '/'

/-- The pieces between slashes. -/
def pieces (p : String) : List String := (p.toList.splitOn '/').map String.ofList

/-- A path seen from a directory.  An absolute one replaces the directory; otherwise a slash stands
between the two, unless the directory is empty or already ends in one. -/
def join (dir p : String) : String :=
  if isAbsolute p then p
  else if dir.isEmpty || dir.toList.getLast? == some '/' then dir ++ p
  else dir ++ "/" ++ p

/-- The pieces that count, with the place in the text at which each begins and ends: all but empty ones
and dots, except a dot that begins a path that is not absolute. -/
def marks (p : String) : List (String × Nat × Nat) :=
  let places := (pieces p).foldl
    (fun (acc : List (String × Nat × Nat) × Nat) piece =>
      (acc.1 ++ [(piece, acc.2, acc.2 + piece.length)], acc.2 + piece.length + 1)) ([], 0)
  places.1.filter fun (piece, start, _) =>
    !piece.isEmpty && (piece != "." || (start == 0 && !isAbsolute p))

/-- **The path without its last piece**; a path with no piece has no parent. -/
def parent? (p : String) : Option String :=
  match (marks p).reverse with
  | [] => none
  | [_] => some (if isAbsolute p then "/" else "")
  | _ :: (_, _, stop) :: _ => some (String.ofList (p.toList.take stop))

/-- The name of the file: the last piece, unless that leads upwards. -/
def fileName? (p : String) : Option String :=
  match (marks p).reverse with
  | (piece, _, _) :: _ => if piece = ".." || piece = "." then none else some piece
  | [] => none

/-- What stands after the last dot of the file name, if something stands before that dot. -/
def extension? (p : String) : Option String := do
  let chars := (← fileName? p).toList.reverse
  match chars.dropWhile (· != '.') with
  | _ :: _ :: _ => return String.ofList (chars.takeWhile (· != '.')).reverse
  | _ => none

end ImageImport.Path
