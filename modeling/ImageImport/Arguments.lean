/-
# The arguments of an import

What the user asks for (`ImportArguments`).  The arguments of one import do not change while it runs.

A file of arguments is a JSON document, or a YAML document when its name says so.  In either every argument
may be left out (`from_file`); a variable of the environment may then still override two of them
(`apply_overrides`, `apply_env_overrides`).
-/
import ImageImport.Files.Tree
import ImageImport.Json.Parser
import ImageImport.Json.Schema
import ImageImport.Text.Escape
import ImageImport.Yaml.Node

namespace ImageImport

/-- **The arguments of one import.**  An empty text, and a timeout of no seconds, mean that nothing is
asked for. -/
structure Arguments where
  project : String := ""
  zone : String := ""
  network : String := ""
  subnet : String := ""
  executionId : String
  timeoutSecs : UInt64 := 7200
  os : String := ""
  byol : Bool := false
  uefiCompatible : Bool := false
  dataDisk : Bool := false
  customWorkflow : String := ""
  inspect : Bool := true
  noGuestEnvironment : Bool := false
  sysprepWindows : Bool := false
  imageName : String := ""
  family : String := ""
  description : String := ""
  labels : Dict String := .empty
  storageLocation : String := ""
  scratchBucketPath : String := ""
  computeServiceAccount : String := ""
  sourceFile : String := ""
  sourceImage : String := ""
  workflowDir : String := "daisy_workflows"
  deriving DecidableEq

namespace Arguments

/-- The timeout of the whole import, if there is one. -/
def timeout (a : Arguments) : Option Duration :=
  if a.timeoutSecs = 0 then none else some (.ofSecs a.timeoutSecs)

/-- A text, if it says anything. -/
def nonEmpty (s : String) : Option String := if s.isEmpty then none else some s

/-! ## 1. In documents -/

/-- The names of the arguments in order. -/
def fieldNames : List String :=
  ["project", "zone", "network", "subnet", "execution_id", "timeout_secs", "os", "byol",
    "uefi_compatible", "data_disk", "custom_workflow", "inspect", "no_guest_environment",
    "sysprep_windows", "image_name", "family", "description", "labels", "storage_location",
    "scratch_bucket_gcs_path", "compute_service_account", "source_file", "source_image",
    "workflow_dir"]

open Json

/-- The arguments of the fields found, over default ones. -/
def ofFields? (a : Arguments) (f : Fields) : Option Arguments := do
  return {
    project := ← f.defaulted "project" a.project toText?
    zone := ← f.defaulted "zone" a.zone toText?
    network := ← f.defaulted "network" a.network toText?
    subnet := ← f.defaulted "subnet" a.subnet toText?
    executionId := ← f.defaulted "execution_id" a.executionId toText?
    timeoutSecs := ← f.defaulted "timeout_secs" a.timeoutSecs toUInt64?
    os := ← f.defaulted "os" a.os toText?
    byol := ← f.defaulted "byol" a.byol toBool?
    uefiCompatible := ← f.defaulted "uefi_compatible" a.uefiCompatible toBool?
    dataDisk := ← f.defaulted "data_disk" a.dataDisk toBool?
    customWorkflow := ← f.defaulted "custom_workflow" a.customWorkflow toText?
    inspect := ← f.defaulted "inspect" a.inspect toBool?
    noGuestEnvironment := ← f.defaulted "no_guest_environment" a.noGuestEnvironment toBool?
    sysprepWindows := ← f.defaulted "sysprep_windows" a.sysprepWindows toBool?
    imageName := ← f.defaulted "image_name" a.imageName toText?
    family := ← f.defaulted "family" a.family toText?
    description := ← f.defaulted "description" a.description toText?
    labels := ← f.defaulted "labels" a.labels (toDict? toText?)
    storageLocation := ← f.defaulted "storage_location" a.storageLocation toText?
    scratchBucketPath := ← f.defaulted "scratch_bucket_gcs_path" a.scratchBucketPath toText?
    computeServiceAccount :=
      ← f.defaulted "compute_service_account" a.computeServiceAccount toText?
    sourceFile := ← f.defaulted "source_file" a.sourceFile toText?
    sourceImage := ← f.defaulted "source_image" a.sourceImage toText?
    workflowDir := ← f.defaulted "workflow_dir" a.workflowDir toText? }

/-- Read over default arguments. -/
def ofJson? (a : Arguments) (j : Json) : Option Arguments := (fields? fieldNames j).bind a.ofFields?

def toJson (a : Arguments) : Json :=
  record (member "project" (str a.project) ++ member "zone" (str a.zone) ++
    member "network" (str a.network) ++ member "subnet" (str a.subnet) ++
    member "execution_id" (str a.executionId) ++ member "timeout_secs" (uint64 a.timeoutSecs) ++
    member "os" (str a.os) ++ member "byol" (bool a.byol) ++
    member "uefi_compatible" (bool a.uefiCompatible) ++ member "data_disk" (bool a.dataDisk) ++
    member "custom_workflow" (str a.customWorkflow) ++ member "inspect" (bool a.inspect) ++
    member "no_guest_environment" (bool a.noGuestEnvironment) ++
    member "sysprep_windows" (bool a.sysprepWindows) ++ member "image_name" (str a.imageName) ++
    member "family" (str a.family) ++ member "description" (str a.description) ++
    member "labels" (dict str a.labels) ++ member "storage_location" (str a.storageLocation) ++
    member "scratch_bucket_gcs_path" (str a.scratchBucketPath) ++
    member "compute_service_account" (str a.computeServiceAccount) ++
    member "source_file" (str a.sourceFile) ++ member "source_image" (str a.sourceImage) ++
    member "workflow_dir" (str a.workflowDir))

end Arguments

/-! ## 2. From YAML

What an argument may be decides how a plain scalar is read: where a text is asked for it is its text,
whatever it looks like, and only where a number or a truth value is asked for must it be one. -/

namespace Yaml

/-- Digits with a zero in front are no number. -/
def hasLeadingZero (digits : List Char) : Bool :=
  1 < digits.length && digits.head? == some '0' && digits.all Text.isDigit

/-- The number of digits in a base. -/
def digitsIn? (base : Nat) (ds : List Char) : Option Nat :=
  if ds.isEmpty then none
  else ds.foldlM
    (fun n d => (Text.hexValue? d).bind fun v => if v < base then some (base * n + v) else none) 0

/-- The number without its sign: decimal, or in base 16, 8 or 2 behind the mark of the base. -/
def magnitude? : List Char → Option Nat
  | '0' :: 'x' :: ds => digitsIn? 16 ds
  | '0' :: 'o' :: ds => digitsIn? 8 ds
  | '0' :: 'b' :: ds => digitsIn? 2 ds
  | ds => if hasLeadingZero ds then none else digitsIn? 10 ds

/-- **An unsigned 64-bit number**; a plus may stand before it. -/
def unsigned? (s : String) : Option UInt64 :=
  let n? := match s.toList with
    | '+' :: ds => magnitude? ds
    | ds => magnitude? ds
  n?.bind fun n => if n < Nat.pow 2 64 then some n.toUInt64 else none

/-- The document a node stands for where the given kind of value is asked for. -/
inductive Asked where
  | text
  | number
  | flag
  | texts

/-- Every key and every value of a mapping as text. -/
def textEntries? : List (Yaml × Yaml) → Option (List (JsonText × Json))
  | [] => some []
  | (scalar _ k, scalar _ v) :: rest => (textEntries? rest).map ((some k, Json.str v) :: ·)
  | _ => none

/-- **A node as the value that is asked for.** -/
def as? : Asked → Yaml → Option Json
  | .text, scalar _ s => some (.str s)
  | .number, scalar true s => (unsigned? s).map Json.uint64
  | .flag, scalar true s =>
    if s = "true" || s = "True" || s = "TRUE" then some (.bool true)
    else if s = "false" || s = "False" || s = "FALSE" then some (.bool false)
    else none
  | .texts, mapping es => (textEntries? es).map Json.object
  | .texts, scalar true "" => some (.object [])
  | _, _ => none

/-- The entries with known names as members of a document; all names must be scalars. -/
def members? (asked : String → Option Asked) : List (Yaml × Yaml) → Option (List (JsonText × Json))
  | [] => some []
  | (scalar _ name, y) :: rest => do
    let ms ← members? asked rest
    match asked name with
    | some kind => return (some name, ← y.as? kind) :: ms
    | none => return ms
  | _ => none

end Yaml

namespace Arguments

/-- The kind of value an argument has. -/
def kindOf (name : String) : Option Yaml.Asked :=
  if !fieldNames.contains name then none
  else if name = "timeout_secs" then some .number
  else if name = "labels" then some .texts
  else if ["byol", "uefi_compatible", "data_disk", "inspect", "no_guest_environment",
    "sysprep_windows"].contains name then some .flag
  else some .text

/-- Read over default arguments.  An empty document asks for nothing. -/
def ofYaml? (a : Arguments) : Yaml → Option Arguments
  | .mapping es => (Yaml.members? kindOf es).bind fun ms => a.ofJson? (.object ms)
  | .scalar true "" => some a
  | _ => none

/-! ## 3. From files and the environment -/

/-- The name of the file says that it is YAML. -/
def isYaml (path : String) : Bool :=
  match Path.extension? path with
  | some e => e = "yaml" || e = "yml"
  | none => false

/-- **The arguments of a file**, over default ones. -/
def load (a : Arguments) (files : Files) (path : String) : Except ImportError Arguments :=
  match files.readText path with
  | .error why => .error (.unreadable why)
  | .ok contents =>
    if isYaml path then
      match (Yaml.parse? contents).bind a.ofYaml? with
      | some args => .ok args
      | none => .error (.configuration path)
    else match (Json.parse? contents).bind a.ofJson? with
      | some args => .ok args
      | none => .error .notADocument

/-- What the names of the variables that override arguments start with. -/
def variablePrefix : String := "DISKPORT_"

/-- One variable of the environment; an empty one overrides nothing. -/
def override (a : Arguments) (setting : String × String) : Arguments :=
  let (name, value) := setting
  if value.isEmpty then a
  else if name = variablePrefix ++ "EXECUTION_ID" then { a with executionId := value }
  else if name = variablePrefix ++ "WORKFLOW_DIR" then { a with workflowDir := value }
  else a

/-- **The variables of the environment**, one after the other. -/
def applyOverrides (a : Arguments) (settings : List (String × String)) : Arguments :=
  settings.foldl override a

end Arguments

end ImageImport
