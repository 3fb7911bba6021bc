/-
# The source of an import

What the user names as source is resolved once (`SourceFactory`), before anything is created: to a file in
object storage or to an existing image.  An image reference is brought into its full form.  A file is opened
and its first two bytes are looked at (`file_source`), because an empty file and a compressed one cannot be
imported.
-/
import ImageImport.Platform.Services
import ImageImport.Source.Grammar

namespace ImageImport

/-- **A resolved source**: a storage path or a full image reference. -/
inductive Source where
  | file (path : String)
  | image (reference : String)
  deriving DecidableEq

namespace Source

/-- The path or reference. -/
def path : Source → String
  | file p => p
  | image r => r

/-- The source is a file. -/
def isFile : Source → Bool
  | file _ => true
  | image _ => false

/-! ## 1. Paths and references -/

/-- **The bucket and the object of a storage path.** -/
def parseStoragePath (path : String) : Except ImportError (String × String) :=
  match storagePath? path.toList with
  | some (bucket, object) => .ok (String.ofList bucket, String.ofList object)
  | none => .error (.invalidSource
      ("file `" ++ path ++ "` is not a valid storage path; expected gs://bucket/object"))

/-- The full form of an image reference. -/
def canonicalImage? (reference : String) : Option String :=
  (ImageReference.parse? reference.toList).map fun r => String.ofList r.print

/-- The image a reference names. -/
def ofImage (reference : String) : Except ImportError Source :=
  match canonicalImage? reference with
  | some full => .ok (image full)
  | none => .error (.invalidSource
      ("invalid image reference `" ++ reference ++ "`; expected <name>, global/images/<name> or " ++
        "projects/<project>/global/images/<name>"))

/-! ## 2. The first bytes of a file -/

/-- What compressed files start with. -/
def gzipHeader : List UInt8 := [0x1f, 0x8b]

/-- How many bytes are looked at. -/
def headerLength : Nat := 2

/-- **The file of a path, by its first bytes.** -/
def ofHeader (path : String) : Except ReadFault (List UInt8) → Except ImportError Source
  | .error why => .error (.unreadable why)
  | .ok header =>
    if header = [] then .error (.invalidSource "cannot import an image from an empty file")
    else if header = gzipHeader then
      .error (.invalidSource ("cannot import an image from a compressed file. " ++
        "Decompress it and import the disk image file directly"))
    else .ok (file path)

variable {σ : Type}

/-- Open the file of a path and look at it. -/
def ofFile (p : Platform σ) (path : String) : Activity σ (Except ImportError Source) :=
  match parseStoragePath path with
  | .error e => .done (.error e)
  | .ok (bucket, object) =>
    ((p.openReader bucket object).mapFault ImportError.api).andThen fun reader =>
      .done (ofHeader path (reader.header headerLength))

/-! ## 3. Resolving -/

/-- **Exactly one of a file and an image must be given**; blanks around them do not count. -/
def resolve (p : Platform σ) (sourceFile sourceImage : String) :
    Activity σ (Except ImportError Source) :=
  let path := Text.trim sourceFile
  let reference := Text.trim sourceImage
  if path.isEmpty && reference.isEmpty then
    .done (.error (.invalidSource "either a source file or a source image must be specified"))
  else if !path.isEmpty && !reference.isEmpty then
    .done (.error (.invalidSource
      "a source file and a source image are mutually exclusive; specify only one"))
  else if reference.isEmpty then ofFile p path
  else .done (ofImage reference)

end Source

end ImageImport
