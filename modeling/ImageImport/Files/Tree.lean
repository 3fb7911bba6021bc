/-
# The files an import can read

A directory tree with its files and directories, as they are while the import runs, seen from one of its
directories: the one in which paths begin that are not absolute.  A path is followed piece by piece, and each
piece but the last must be a directory (`read_to_string`, `is_file`).
-/
import ImageImport.Error
import ImageImport.Files.Path

namespace ImageImport

/-- A file with its bytes, or a directory. -/
inductive Entry where
  | file (bytes : List UInt8)
  | directory
  deriving DecidableEq

/-- **A directory tree**: the entries by their pieces from the root, and the current directory.  The
directories on the way to an entry exist with it, and so do the current one and those above it. -/
structure Files where
  entries : List (List String × Entry)
  current : List String := []

namespace Files

/-- No files. -/
def none : Files := { entries := [] }

/-- The place that a path is written for. -/
def placeOf (current : List String) (p : String) : List String :=
  (if Path.isAbsolute p then [] else current) ++ (Path.pieces p).filter fun s => !s.isEmpty && s != "."

/-- The tree of the given paths, seen from a directory under the root; a later entry replaces an earlier
one. -/
def ofList (es : List (String × Entry)) : Files where
  entries := es.reverse.map fun (p, e) => (placeOf ["work"] p, e)
  current := ["work"]

/-- What stands at a place: an entry given there, or a directory because the current one is there or
something lies below. -/
def at? (f : Files) (place : List String) : Option Entry :=
  if place.isPrefixOf f.current then some .directory
  else match f.entries.find? fun e => e.1 == place with
    | some (_, e) => some e
    | Option.none =>
      if f.entries.any fun e => place.isPrefixOf e.1 then some .directory else Option.none

/-- Walk the pieces of a path from a place.  `..` leads upwards, and from the root to the root. -/
def walk (f : Files) : List String → List String → Except ReadFault (List String × Entry)
  | place, [] =>
    match f.at? place with
    | some e => .ok (place, e)
    | Option.none => .error .notFound
  | place, piece :: rest =>
    match f.at? place with
    | Option.none => .error .notFound
    | some (.file _) => .error .notADirectory
    | some .directory =>
      if piece.isEmpty || piece = "." then walk f place rest
      else if piece = ".." then walk f place.dropLast rest
      else walk f (place ++ [piece]) rest

/-- **What a path names**: an absolute one from the root on, any other from the current directory.  The empty
path names nothing. -/
def find (f : Files) (path : String) : Except ReadFault Entry :=
  if path.isEmpty then .error .notFound
  else (f.walk (if Path.isAbsolute path then [] else f.current) (Path.pieces path)).map (·.2)

/-- Does the path name a file? -/
def isFile (f : Files) (path : String) : Bool :=
  match f.find path with
  | .ok (.file _) => true
  | _ => false

/-- **The text of a file.** -/
def readText (f : Files) (path : String) : Except ReadFault String :=
  match f.find path with
  | .error fault => .error fault
  | .ok .directory => .error .isADirectory
  | .ok (.file bytes) =>
    match String.fromUTF8? (ByteArray.mk bytes.toArray) with
    | some text => .ok text
    | Option.none => .error .notText

end Files

end ImageImport
