import DocumentQuery.CommandLine.Arguments
import DocumentQuery.CommandLine.LogFilter
import DocumentQuery.Query

/-!
One run of the program.

A `Host` is what a run asks the outside for: variables, files and the standard input. `run` puts the
stages together for any host; which text is printed, and with which errors the stages end, is said
without one.
-/

namespace DocumentQuery.CommandLine

/-! ## The outside -/

/-- What a run can ask for. -/
structure Host (m : Type → Type) where
  /-- The value of an environment variable. -/
  getVariable : String → m (Option String)
  /-- What there is under a path. -/
  read : String → m FileLookup
  /-- The text of the standard input. -/
  input : m (Except ReadFailure String)

/-- How a run ends. -/
inductive Ending
  /-- With a text on the standard output. -/
  | output (text : String)
  | help
  /-- With an error, given by its messages from the outermost to its cause. -/
  | failure (messages : List String)
  /-- With wrong arguments. -/
  | usage
  /-- Before it began, with a variable that cannot be set or a log filter that cannot be cut into its
  parts. -/
  | aborted

/-- The exit code. -/
def Ending.code : Ending → Nat
  | .output _ => 0
  | .help => 0
  | .failure _ => 1
  | .usage => 2
  | .aborted => 101

/-- What a run leaves behind. -/
structure Outcome where
  warnings : List String := []
  ending : Ending

/-! ## Environment -/

/-- The file that sets variables. -/
def environmentPath : String := ".env"

/-- The variables for the log filter, the first that is set being used. -/
def logVariables : List String :=
  ["DOCQUERY_LOG", "RUST_LOG"]

/-- The text of the log filter. -/
def logFilterText (environment : Environment) : String :=
  (logVariables.findSome? environment.get?).getD "warn"

/-- What the log filter knows of the warnings about a settings file. -/
def settingsWarning : LogFilter.Message where
  category := "docquery_compiler::core::config"
  fields := ["message", "fields"]
  level := LogFilter.warning

/-- The variables that a run depends on, given the assignments of the environment file. -/
def neededVariables (assignments : List Assignment) : List String :=
  ValueOption.all.filterMap ValueOption.variableName? ++ logVariables ++
    assignments.flatMap Assignment.names

/-! ## Texts -/

/-- A text filled up with spaces to eight characters. -/
def column (text : String) : String :=
  text ++ String.ofList (List.replicate (8 - text.length) ' ')

/-- The table of operators: tag, symbol and what becomes of arrays. -/
def operatorTable : String :=
  String.join (Operator.all.map fun operator =>
    column operator.tag ++ " " ++ column operator.symbol ++ " " ++ operator.spread.name ++ "\n")

/-- The name and version of the program. -/
def versionText : String := "docquery 0.1.0\n"

/-- The warnings about a settings file, if the log filter shows them. -/
def warnings (filter : LogFilter) (file : SettingsFile) : List String :=
  if file.extra.isEmpty || !filter.shows settingsWarning then []
  else ["Unknown fields in config file (possible typos) fields=" ++
    String.intercalate ", " file.unknownNames]

/-- The messages about a text that does not give parameters. -/
def readMessages (error : Parameters.ReadError) : List String :=
  "Query map must be a JSON object" ::
    match error with
    | .malformed => []
    | .unsuitable error => [error.message]

/-- The text of the query for the parameters in a text. -/
def compileText (settings : Settings) (pretty : Bool) (text : String) :
    Except (List String) String := do
  let parameters ← (Parameters.read text).mapError readMessages
  let query := (Query.ofParameters settings parameters).toJson
  pure ((if pretty then query.pretty else query.compact) ++ "\n")

/-- The message about an input that cannot be read. -/
def unreadableInput (path : Option String) : String :=
  "Failed to read query map from " ++ path.getD "stdin"

/-! ## Running -/

section
variable {m : Type → Type} [Monad m]

/-- The environment of a run: the host's variables and those of the environment file, if they can
all be set. -/
def loadEnvironment (host : Host m) : m (Option Environment) := do
  let assignments := match (← host.read environmentPath).content with
    | .ok text => EnvFile.read text
    | .error _ => []
  let known ← (neededVariables assignments).filterMapM fun name => do
    return (← host.getVariable name).map fun value => (name, value)
  return Environment.apply (Dict.ofList known) assignments

/-- Run the command that compiles parameters. -/
def runCompile (host : Host m) (filter : LogFilter) (invocation : Invocation) : m Outcome := do
  let lookup ← host.read (invocation.config.getD SettingsFile.standardPath)
  match Settings.fileContent invocation.config lookup with
  | .error error => return { ending := .failure error.messages }
  | .ok file =>
    let warnings := warnings filter file
    match Settings.ofLayers file invocation.overrides with
    | .error error => return { warnings, ending := .failure error.messages }
    | .ok settings =>
      let input ← match invocation.input with
        | some path => pure (← host.read path).content
        | none => host.input
      match input with
      | .error failure =>
        return { warnings, ending :=
          .failure [unreadableInput invocation.input, failure.message] }
      | .ok text =>
        match compileText settings invocation.pretty text with
        | .error messages => return { warnings, ending := .failure messages }
        | .ok output => return { warnings, ending := .output output }

/-- Run the program with the given arguments. -/
def run (host : Host m) (arguments : List String) : m Outcome := do
  match ← loadEnvironment host with
  | none => return { ending := .aborted }
  | some environment =>
    match LogFilter.read? (logFilterText environment), parse environment arguments with
    | none, _ => return { ending := .aborted }
    | some _, .error .usage => return { ending := .usage }
    | some _, .error .help => return { ending := .help }
    | some _, .error .version => return { ending := .output versionText }
    | some filter, .ok invocation =>
      match invocation.command with
      | .operators => return { ending := .output operatorTable }
      | .compile => runCompile host filter invocation

end

end DocumentQuery.CommandLine
