/-
# Setting up the log

The log is set up once per process (`init_tracing`): a filter says what is recorded, a format how it is
written.  A filter given by the environment takes full control; otherwise the program's own parts log at the
chosen level and noisy dependencies at `warn` (`default_filter`).
-/
import ImageImport.Telemetry.Filter

namespace ImageImport.Telemetry

/-! ## 1. Formats -/

/-- How log lines are written. -/
inductive LogFormat where
  | compact
  | full
  deriving DecidableEq

/-- Why the log could not be set up. -/
inductive SetupError where
  | invalidFilter
  | alreadyInitialized
  | unknownFormat (name : String)
  deriving DecidableEq

/-- The wording. -/
def SetupError.message : SetupError → String
  | invalidFilter => "Invalid RUST_LOG filter"
  | alreadyInitialized =>
    "Failed to set global default subscriber: a global default trace dispatcher has already been set"
  | unknownFormat name => "Unknown log format: " ++ name

/-- The format of a name; ASCII letters may be of either case. -/
def LogFormat.parse (name : String) : Except SetupError LogFormat :=
  match Text.lowerAscii name with
  | "compact" => .ok .compact
  | "full" => .ok .full
  | other => .error (.unknownFormat other)

/-! ## 2. The filter of the program itself -/

/-- The filter when the environment gives none. -/
def defaultFilter (level : String) : String :=
  "diskport_core=" ++ level ++ ",diskport_import_types=" ++ level ++ ",diskport_import=" ++ level ++
    ",hyper=warn,h2=warn,reqwest=warn,rustls=warn"

/-! ## 3. Setting up -/

/-- One attempt, knowing whether an earlier one succeeded. -/
def setUp (environment : Option String) (initialized : Bool) : Except SetupError Unit :=
  if environment.any fun f => !isFilter f then .error .invalidFilter
  else if initialized then .error .alreadyInitialized
  else .ok ()

/-- The attempts of one process, each with the format it names. -/
def attempts (environment : Option String) : Bool → List String → List (Except SetupError Unit)
  | _, [] => []
  | initialized, name :: rest =>
    match LogFormat.parse name with
    | .error e => .error e :: attempts environment initialized rest
    | .ok _ =>
      let result := setUp environment initialized
      result :: attempts environment (initialized || result.toBool) rest

end ImageImport.Telemetry
