/-
# What can go wrong

Each error says its cause; the wording for people is in one `message` function per type.  A platform call
fails with an `ApiError`, a workflow with a `WorkflowError`, and everything an import does with an
`ImportError`, into which the other two embed.
-/
import ImageImport.Duration

namespace ImageImport

/-! ## 1. Calls of the platform -/

/-- A failed call, with the HTTP status when the platform returned one. -/
structure ApiError where
  code : Option UInt16
  message : String
  deriving DecidableEq

namespace ApiError

/-- The call named something that does not exist. -/
def notFound (message : String) : ApiError := ⟨some 404, message⟩

/-- **Status 404** says that what the call names does not exist, or no longer. -/
def isNotFound (e : ApiError) : Bool := e.code == some 404

/-- The wording. -/
def text (e : ApiError) : String :=
  match e.code with
  | some code => "API error " ++ toString code.toNat ++ ": " ++ e.message
  | none => "API error: " ++ e.message

end ApiError

/-! ## 2. Files and streams -/

/-- Why a file or a stream could not be read. -/
inductive ReadFault where
  | notFound
  | isADirectory
  | notADirectory
  | notText
  | connectionReset
  deriving DecidableEq

/-- The wording of the operating system. -/
def ReadFault.text : ReadFault → String
  | notFound => "No such file or directory (os error 2)"
  | isADirectory => "Is a directory (os error 21)"
  | notADirectory => "Not a directory (os error 20)"
  | notText => "stream did not contain valid UTF-8"
  | connectionReset => "connection reset"

/-! ## 3. Workflows -/

/-- A workflow that cannot be read, is not sound, or did not run to its end. -/
inductive WorkflowError where
  | invalidDefinition (detail : String)
  | dependencyCycle (detail : String)
  | stepNotFound (detail : String)
  | missingVariable (name : String)
  | executionFailed (detail : String)
  | cancelled (detail : String)
  | unreadable (fault : ReadFault)
  | notADocument
  deriving DecidableEq

/-- The wording. -/
def WorkflowError.message : WorkflowError → String
  | invalidDefinition d => "Invalid workflow definition: " ++ d
  | dependencyCycle d => "Dependency cycle detected: " ++ d
  | stepNotFound d => "Step not found: " ++ d
  | missingVariable n => "Missing required variable: " ++ n
  | executionFailed d => "Workflow execution failed: " ++ d
  | cancelled d => "Workflow was cancelled: " ++ d
  | unreadable f => "IO error: " ++ f.text
  | notADocument => "Serialization error"

/-! ## 4. Imports -/

/-- Why an import, or one of its steps, failed. -/
inductive ImportError where
  | invalidSource (detail : String)
  | validation (detail : String)
  | planning (detail : String)
  | invalidOs (os allowed : String)
  | inflation (detail : String)
  | processing (detail : String)
  | timeout (after : Duration)
  | cancelled (detail : String)
  | api (cause : ApiError)
  | workflow (cause : WorkflowError)
  | configuration (detail : String)
  | unreadable (fault : ReadFault)
  | notADocument
  | internal (detail : String)
  deriving DecidableEq

namespace ImportError

/-- The wording. -/
def message : ImportError → String
  | invalidSource d => "Invalid source: " ++ d
  | validation d => "Validation failed: " ++ d
  | planning d => d
  | invalidOs os allowed => "os `" ++ os ++ "` is invalid. Allowed values: " ++ allowed
  | inflation d => "Inflation failed: " ++ d
  | processing d => "Processing failed: " ++ d
  | timeout after => "Import did not complete within the specified timeout of " ++ after.exact
  | cancelled d => "Import was cancelled: " ++ d
  | api cause => cause.text
  | workflow cause => cause.message
  | configuration d => "Invalid configuration: " ++ d
  | unreadable f => "IO error: " ++ f.text
  | notADocument => "Serialization error"
  | internal d => "Internal error: " ++ d

/-- The platform said that what was asked for does not exist. -/
def isNotFound : ImportError → Bool
  | api cause => cause.isNotFound
  | _ => false

end ImportError

end ImageImport
