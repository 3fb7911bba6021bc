/-
# How sources are written

A disk file is named by its bucket and its object, `gs://bucket/object` (`parse_storage_path`).  An image is
named by itself, or with the place images live in before it, and there with or without a project:

    name
    global/images/name
    projects/project/global/images/name

All three (`canonical_image_path`) are grammars over ASCII; they say nothing about what exists.
-/
import ImageImport.Text.Basic

namespace ImageImport.Source

/-! ## 1. Storage paths -/

/-- A lowercase letter or a digit. -/
def isLowerOrDigit (c : Char) : Bool := Text.isLower c || Text.isDigit c

/-- A character of a bucket's name. -/
def isBucketChar (c : Char) : Bool := isLowerOrDigit c || c = '-' || c = '_' || c = '.'

/-- A bucket's name starts with a lowercase letter or a digit. -/
def isBucket : List Char → Bool
  | [] => false
  | c :: cs => isLowerOrDigit c && cs.all isBucketChar

/-- An object's name is not empty and stays on one line. -/
def isObject (cs : List Char) : Bool := !cs.isEmpty && cs.all (· != '\n')

/-- What a storage path starts with. -/
def scheme : List Char := "gs://".toList

/-- A storage path as it is written. -/
def printStoragePath (bucket object : List Char) : List Char := scheme ++ bucket ++ '/' :: object

/-- **The bucket and the object of a storage path.**  The bucket ends at the first slash. -/
def storagePath? (cs : List Char) : Option (List Char × List Char) :=
  match Text.after? scheme cs with
  | none => none
  | some rest =>
    match rest.dropWhile (· != '/') with
    | [] => none
    | _ :: object =>
      let bucket := rest.takeWhile (· != '/')
      if isBucket bucket && isObject object then some (bucket, object) else none

/-! ## 2. Image references -/

/-- A character of an image's name. -/
def isNameChar (c : Char) : Bool := isLowerOrDigit c || c = '-'

/-- **A name for an image**: up to 63 lowercase letters, digits and hyphens, a letter first and no
hyphen last. -/
def isImageName : List Char → Bool
  | [] => false
  | c :: cs => Text.isLower c && cs.all isNameChar && cs.getLast? != some '-' && cs.length ≤ 62

/-- A character of a project's identifier. -/
def isProjectChar (c : Char) : Bool := isNameChar c || c = '.' || c = ':'

/-- An identifier of a project: at least two characters, a letter first and a letter or digit last. -/
def isProject : List Char → Bool
  | [] => false
  | c :: cs => Text.isLower c && cs.all isProjectChar && cs.getLast?.any isLowerOrDigit

/-- A reference to an image. -/
structure ImageReference where
  project : Option (List Char)
  name : List Char
  deriving DecidableEq

namespace ImageReference

/-- Where images live. -/
def globalImages : List Char := "global/images/".toList

/-- Where projects live. -/
def projects : List Char := "projects/".toList

/-- **The reference with its place**, and with its project when it has one. -/
def print (r : ImageReference) : List Char :=
  match r.project with
  | some project => projects ++ project ++ '/' :: (globalImages ++ r.name)
  | none => globalImages ++ r.name

/-- A reference whose project is given. -/
def inProject? (cs : List Char) : Option ImageReference := do
  let rest ← Text.after? projects cs
  let project := rest.takeWhile (· != '/')
  let name ← Text.after? ('/' :: globalImages) (rest.dropWhile (· != '/'))
  if isProject project && isImageName name then return ⟨some project, name⟩ else none

/-- **Read a reference** in any of the three forms. -/
def parse? (cs : List Char) : Option ImageReference :=
  if isImageName cs then some ⟨none, cs⟩
  else match Text.after? globalImages cs with
    | some name => if isImageName name then some ⟨none, name⟩ else none
    | none => inProject? cs

end ImageReference

end ImageImport.Source
