/-
# The pre-flight rules

Before anything is created, rules look at the arguments (`RulePreValidator`).  A rule passes or fails with a
message, and a failure says what to change and which arguments are at fault.  The rules of every import are
four (`with_default_rules`): the image's name is well formed and not taken, a data disk comes without an
operating system, and an operating system that is named is supported.
-/
import ImageImport.Arguments
import ImageImport.Os.Registry
import ImageImport.Platform.Services
import ImageImport.Preflight.Report
import ImageImport.Source.Grammar

namespace ImageImport.Preflight

/-! ## 1. Rules -/

/-- What a rule finds. -/
inductive Verdict where
  | pass (message : String)
  | fail (message remediation : String) (arguments : List String)
  deriving DecidableEq

/-- **A rule**: what it is called, how severe a failure is, and how it is checked. -/
structure Rule (σ : Type) where
  id : String
  name : String
  level : Level
  check : Arguments → Activity σ Verdict

namespace Rule

variable {σ : Type}

/-- The result of a verdict. -/
def result (r : Rule σ) : Verdict → Result
  | .pass message =>
    { ruleId := r.id, ruleName := r.name, level := r.level, passed := true, message
      remediation := none, arguments := [] }
  | .fail message remediation arguments =>
    { ruleId := r.id, ruleName := r.name, level := r.level, passed := false, message
      remediation := some remediation, arguments }

end Rule

/-! ## 2. The four rules of every import -/

/-- The name of the image is well formed. -/
def nameSyntax (a : Arguments) : Verdict :=
  if a.imageName.isEmpty then
    .fail "No image name specified" "Specify the name of the image to create" ["image_name"]
  else if Source.isImageName a.imageName.toList then
    .pass ("Image name '" ++ a.imageName ++ "' is valid")
  else
    .fail ("Invalid image name '" ++ a.imageName ++ "'")
      ("Use 1-63 lowercase letters, digits or hyphens, starting with a letter and not ending " ++
        "with a hyphen") ["image_name"]

/-- The name of the image is not taken, by the answer to a look-up. -/
def nameAvailable (a : Arguments) : Except ApiError Image → Verdict
  | .ok _ =>
    .fail ("The image '" ++ a.imageName ++ "' already exists in project '" ++ a.project ++ "'")
      "Choose a different image name or delete the existing image" ["image_name"]
  | .error e =>
    if e.isNotFound then .pass ("Image name '" ++ a.imageName ++ "' is available")
    else
      .fail ("Unable to check whether image '" ++ a.imageName ++ "' exists: " ++ e.text)
        "Check that the project exists and the account can read its images" ["image_name", "project"]

/-- The arguments that a data disk does not go with. -/
def osSettings (a : Arguments) : List String :=
  (if a.os.isEmpty then [] else ["os"]) ++ if a.customWorkflow.isEmpty then [] else ["custom_workflow"]

/-- A data disk has no settings of an operating system. -/
def dataDiskAlone (a : Arguments) : Verdict :=
  if !a.dataDisk then .pass "Not a data-disk import"
  else if (osSettings a).isEmpty then .pass "Data-disk import has no OS settings"
  else
    .fail ("A data-disk import cannot specify " ++ " or ".intercalate (osSettings a))
      "Remove the data-disk flag to import a bootable disk, or drop the OS settings" (osSettings a)

/-- An operating system that is named is supported. -/
def osSupported (a : Arguments) : Verdict :=
  if a.os.isEmpty || !a.customWorkflow.isEmpty then .pass "No OS hint to check"
  else if (Os.lookup a.os).isSome then .pass ("OS '" ++ a.os ++ "' is supported")
  else .fail ("os `" ++ a.os ++ "` is invalid") ("Allowed values: " ++ Os.allowedValues) ["os"]

variable {σ : Type}

/-- The look-up of the image's name; the syntax rule reports that there is none. -/
def checkAvailable (p : Platform σ) (a : Arguments) : Activity σ Verdict :=
  if a.imageName.isEmpty then .done (.pass "No image name to check")
  else do return nameAvailable a (← p.getImage a.project a.imageName)

/-- **The rules of every import**, in order. -/
def defaultRules (p : Platform σ) : List (Rule σ) := [
  ⟨"image.name.syntax", "Image Name Syntax", .critical, fun a => .done (nameSyntax a)⟩,
  ⟨"image.name.available", "Image Name Available", .critical, checkAvailable p⟩,
  ⟨"import.data_disk.exclusive", "Data Disk Exclusivity", .critical, fun a => .done (dataDiskAlone a)⟩,
  ⟨"import.os.supported", "Operating System Supported", .critical, fun a => .done (osSupported a)⟩]

/-! ## 3. Running them -/

/-- Run the rules in order and add their results to a report. -/
def reportOnto (a : Arguments) : List (Rule σ) → Report → Activity σ Report
  | [], report => .done report
  | rule :: rest, report => do
    let verdict ← rule.check a
    reportOnto a rest (report.addResult (rule.result verdict))

/-- **The report of the rules.** -/
def report (rules : List (Rule σ)) (a : Arguments) : Activity σ Report := reportOnto a rules .empty

/-- What checks the arguments before an import. -/
abbrev Validator (σ : Type) := Arguments → Activity σ (Except ImportError Unit)

/-- **The import may go on** when no blocking rule failed. -/
def validate (p : Platform σ) (rules : List (Rule σ)) : Validator σ := fun a => do
  let r ← report rules a
  if r.canProceed then return .ok ()
  else
    p.warn ("❌ Pre-flight validation failed: " ++ r.failureMessage)
    return .error (.validation r.failureMessage)

end ImageImport.Preflight
