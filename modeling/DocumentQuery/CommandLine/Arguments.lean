import DocumentQuery.CommandLine.Environment
import DocumentQuery.Settings.Layers

/-!
Command-line arguments.

There are two commands, each with the same options, which may stand before and after the command.
An option is given once at most on either side; the one after the command takes precedence, and
both over the environment. Arguments are read from left to right up to the first that is wrong or
asks for help. A value that is an argument of its own is looked at together with what follows it: if
that is a command, the command's own arguments come first.
-/

namespace DocumentQuery.CommandLine

/-! ## Options with values -/

/-- An option that takes a value. -/
inductive ValueOption
  | input
  | config
  | pageKey
  | limitKey
  | sortKey
  | operatorKey
  | fieldsKey
  | defaultPage
  | defaultLimit
  deriving DecidableEq

namespace ValueOption

/-- All of them. -/
def all : List ValueOption :=
  [input, config, pageKey, limitKey, sortKey, operatorKey, fieldsKey, defaultPage, defaultLimit]

/-- The name after two dashes. -/
def name : ValueOption → String
  | input => "input"
  | config => "config"
  | pageKey => "page-key"
  | limitKey => "limit-key"
  | sortKey => "sort-key"
  | operatorKey => "operator-key"
  | fieldsKey => "fields-key"
  | defaultPage => "default-page"
  | defaultLimit => "default-limit"

/-- The letter after one dash. -/
def letter? : ValueOption → Option Char
  | input => some 'i'
  | config => some 'c'
  | _ => none

/-- The environment variable that gives the option when no argument does. -/
def variableName? : ValueOption → Option String
  | input => none
  | config => some "DOCQUERY_CONFIG"
  | pageKey => some "DOCQUERY_PAGE_KEY"
  | limitKey => some "DOCQUERY_LIMIT_KEY"
  | sortKey => some "DOCQUERY_SORT_KEY"
  | operatorKey => some "DOCQUERY_OPERATOR_KEY"
  | fieldsKey => some "DOCQUERY_FIELDS_KEY"
  | defaultPage => some "DOCQUERY_DEFAULT_PAGE"
  | defaultLimit => some "DOCQUERY_DEFAULT_LIMIT"

/-- The number that a value spells, if it has 64 bits without sign. -/
def number? (value : String) : Option Nat :=
  (Text.readNatural? value.toList).filter (· < 2 ^ 64)

/-- Whether a text can be the value of an option: a path is not empty, and a number is one. -/
def accepts (option : ValueOption) (value : String) : Bool :=
  match option with
  | input => value ≠ ""
  | config => value ≠ ""
  | defaultPage => (number? value).isSome
  | defaultLimit => (number? value).isSome
  | _ => true

end ValueOption

/-! ## One side of the command -/

/-- Why arguments do not lead to a command that runs. -/
inductive Stop
  | usage
  | help
  | version
  deriving DecidableEq

/-- The options given on one side of the command. -/
structure Options where
  pretty : Bool := false
  values : List (ValueOption × String) := []

namespace Options

/-- The value of an option. -/
def get? (options : Options) (option : ValueOption) : Option String :=
  (options.values.find? fun entry => entry.1 = option).map Prod.snd

/-- The options with one more value. -/
def give (options : Options) (option : ValueOption) (value : String) : Except Stop Options :=
  if (options.get? option).isSome || !option.accepts value then .error .usage
  else .ok { options with values := (option, value) :: options.values }

/-- Check that the environment has acceptable values for all options that are not given. -/
def checkEnvironment (options : Options) (environment : Environment) : Except Stop Unit :=
  let acceptable := ValueOption.all.all fun option =>
    (options.get? option).isSome ||
      match option.variableName?.bind environment.get? with
      | none => true
      | some value => option.accepts value
  if acceptable then .ok () else .error .usage

end Options

/-- A command. -/
inductive Command
  | compile
  | operators
  deriving DecidableEq

/-- The command with a name. -/
def Command.ofName? : String → Option Command
  | "compile" => some compile
  | "operators" => some operators
  | _ => none

/-- An argument by its form. -/
inductive Argument
  /-- Two dashes alone. -/
  | separator
  /-- Two dashes and a name, possibly with a value after an equals sign. -/
  | long (name : String) (value : Option String)
  /-- A dash and a letter, possibly with more characters. -/
  | short (letter : Char) (rest : List Char)
  | other

/-- The form of an argument. -/
def Argument.ofString (text : String) : Argument :=
  match text.toList with
  | ['-', '-'] => separator
  | '-' :: '-' :: body =>
    match body.span (· != '=') with
    | (name, '=' :: value) => long (String.ofList name) (some (String.ofList value))
    | (name, _) => long (String.ofList name) none
  | '-' :: letter :: rest => short letter rest
  | _ => other

/-- The option that an argument begins, with the value if it is part of the argument. -/
def Argument.option? : Argument → Option (ValueOption × Option String)
  | long name value =>
    (ValueOption.all.find? fun option => option.name = name).map fun option => (option, value)
  | short letter rest =>
    (ValueOption.all.find? fun option => option.letter? = some letter).map fun option =>
      match rest with
      | [] => (option, none)
      | '=' :: value | value => (option, some (String.ofList value))
  | _ => none

/-- Whether an argument can be the value of the option before it. -/
def Argument.isValue (text : String) : Bool :=
  match ofString text with
  | .other => true
  | _ => false

/-- What an argument does that is neither an option with a value nor a command. Only before the
command can the version be asked for. -/
def Options.flag (options : Options) (outer : Bool) : Argument → Except Stop Options
  | .long "pretty" none =>
    if options.pretty then .error .usage else .ok { options with pretty := true }
  | .long "help" none => .error .help
  | .short 'h' _ => .error .help
  | .long "version" none => .error (if outer then .version else .usage)
  | .short 'V' _ => .error (if outer then .version else .usage)
  | _ => .error .usage

/-- Whether the arguments after the word `help` name something that there is help for. -/
def helpEnding : List String → Stop
  | [] => .help
  | [name] => if name = "help" || (Command.ofName? name).isSome then .help else .usage
  | _ => .usage

/-- What has been read on one side of the command. -/
structure Side where
  options : Options := {}
  /-- The last option with its value, as long as the value has not been looked at. -/
  pending : Option (ValueOption × String) := none

/-- The options with the pending one among them. -/
def Side.settle (side : Side) : Except Stop Options :=
  match side.pending with
  | none => .ok side.options
  | some (option, value) => side.options.give option value

/-- Read the options on one side of the command: those before it also give the command, if there is
one, and the arguments after it. -/
def readSide (outer : Bool) (side : Side) :
    List String → Except Stop (Side × Option (Command × List String))
  | [] => .ok (side, none)
  | text :: rest =>
    match (if outer then Command.ofName? text else none), Argument.ofString text with
    | some command, _ => .ok (side, some (command, rest))
    | none, .separator => if rest.isEmpty then .ok (side, none) else .error .usage
    | none, .other =>
      .error (if outer && text = "help" then helpEnding rest else .usage)
    | none, argument => do
      let options ← side.settle
      match argument.option?, rest with
      | some (option, some value), rest => do
        let options ← options.give option value
        readSide outer { options } rest
      | some (option, none), value :: rest =>
        if Argument.isValue value then readSide outer { options, pending := (option, value) } rest
        else .error .usage
      | some (_, none), [] => .error .usage
      | none, rest => do
        let options ← options.flag outer argument
        readSide outer { options } rest

/-! ## The whole command line -/

/-- A command line that can run. -/
structure Invocation where
  command : Command
  pretty : Bool
  /-- The file to read instead of the standard input. -/
  input : Option String
  /-- The settings file. -/
  config : Option String
  overrides : Overrides

/-- An invocation from the values of the options. -/
def Invocation.ofValues (command : Command) (pretty : Bool)
    (value? : ValueOption → Option String) : Invocation where
  command := command
  pretty := pretty
  input := value? .input
  config := value? .config
  overrides :=
    { pageKey := value? .pageKey
      limitKey := value? .limitKey
      sortKey := value? .sortKey
      operatorKey := value? .operatorKey
      fieldsKey := value? .fieldsKey
      defaultPage := (value? .defaultPage).bind ValueOption.number?
      defaultLimit := (value? .defaultLimit).bind ValueOption.number? }

/-- Read a command line. Without a command it is for `compile`. -/
def parse (environment : Environment) (arguments : List String) : Except Stop Invocation := do
  let (outer, command) ← readSide true {} arguments
  let inner ← match command with
    | none => pure {}
    | some (_, rest) => do
      let (inner, _) ← readSide false {} rest
      let inner ← inner.settle
      inner.checkEnvironment environment
      pure inner
  let outer ← outer.settle
  outer.checkEnvironment environment
  let value? (option : ValueOption) : Option String :=
    ((inner.get? option).or (outer.get? option)).or (option.variableName?.bind environment.get?)
  pure (.ofValues ((command.map Prod.fst).getD .compile) (inner.pretty || outer.pretty) value?)

end DocumentQuery.CommandLine
