import DocumentQuery.CommandLine.Session

/-!
The command line of the program.

The host is the operating system: real variables, files and streams. The query goes to the standard
output, warnings and errors go to the standard error.
-/

namespace DocumentQuery.CommandLine

/-- The number that the operating system has for an error. Some calls give it with its sign changed. -/
def errorNumber (code : UInt32) : UInt32 :=
  min code (-code)

/-- Why the operating system could not read a file. -/
def failureOf (error : IO.Error) : ReadFailure :=
  match error with
  | .noFileOrDirectory .. => .notFound
  | .inappropriateType _ code _ =>
    if errorNumber code = 21 then .isADirectory else .notADirectory
  | .invalidArgument _ code _ =>
    if errorNumber code = 36 then .nameTooLong
    else if errorNumber code = 40 then .tooManyLinks
    else .other (toString error)
  | .permissionDenied .. => .permissionDenied
  | _ => .other (toString error)

/-- Whether a path leads somewhere. It does not when any of its directories may not be searched, or
when its links go round in a circle. -/
def leadsSomewhere (path : String) : IO Bool := do
  try
    let _ ← IO.FS.realPath path
    return true
  catch _ =>
    return false

/-- What there is under a path on disk. What can be read is there; a pipe has no path of its own, so
that is not asked for it. -/
def readFile (path : String) : IO FileLookup := do
  try
    return .present (decodeUtf8 (← IO.FS.readBinFile path))
  catch error =>
    let failure := failureOf error
    return if ← leadsSomewhere path then .present (.error failure) else .absent failure

/-- The text of the standard input. -/
def readInput : IO (Except ReadFailure String) := do
  try
    return decodeUtf8 (← (← IO.getStdin).readBinToEnd)
  catch error =>
    return .error (failureOf error)

/-- The operating system as a host. -/
def systemHost : Host IO where
  getVariable name := IO.getEnv name
  read := readFile
  input := readInput

/-- How to call the program. -/
def helpText : String :=
  "Compile query-parameter maps into document-database queries\n\n" ++
  "Usage: docquery [OPTIONS] [COMMAND]\n\n" ++
  "Commands:\n" ++
  "  compile    Compile a query map read from stdin or --input (default command)\n" ++
  "  operators  List the supported filter operators\n" ++
  "  help       Print this message\n\n" ++
  "Options:\n" ++
  "  -i, --input <PATH>           Read the query map from this file\n" ++
  "      --pretty                 Pretty-print the compiled query\n" ++
  "  -c, --config <PATH>          Path to config file\n" ++
  "      --page-key <KEY>         Name of the page number key\n" ++
  "      --limit-key <KEY>        Name of the page size key\n" ++
  "      --sort-key <KEY>         Name of the sort key\n" ++
  "      --operator-key <KEY>     Name of the logical operator selector key\n" ++
  "      --fields-key <KEY>       Name of the projection selector key\n" ++
  "      --default-page <N>       Page number used when the page key is absent\n" ++
  "      --default-limit <N>      Page size used when the limit key is absent\n" ++
  "  -h, --help                   Print help\n" ++
  "  -V, --version                Print version\n"

/-- Print what a run leaves behind. -/
def report (outcome : Outcome) : IO UInt32 := do
  for warning in outcome.warnings do
    IO.eprintln (" WARN " ++ warning)
  match outcome.ending with
  | .output text => IO.print text
  | .help => IO.print helpText
  | .failure messages => IO.eprintln ("\nError: " ++ String.intercalate ": " messages ++ "\n")
  | .aborted => IO.eprintln "error: the environment cannot be used"
  | .usage => IO.eprint ("error: invalid arguments\n\n" ++ helpText)
  return UInt32.ofNat outcome.ending.code

end DocumentQuery.CommandLine

/-- Run the program. -/
def main (arguments : List String) : IO UInt32 := do
  DocumentQuery.CommandLine.report
    (← DocumentQuery.CommandLine.run DocumentQuery.CommandLine.systemHost arguments)
