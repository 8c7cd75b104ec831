import Prologue.Text.Digit

/-!
# Command line arguments

Options may stand before, between and behind the other arguments of a command, up to a double dash.
A long option takes its value from behind an equals sign or from the next argument, a short one from
the rest of its own argument or from the next. Of an option given twice the last one counts.
-/

namespace Prologue.Command

inductive OptionName where
  | patterns
  | output
  | directory
  | workers
  | language
  | help
  deriving DecidableEq, Repr

/-- How an option is written in full. -/
def OptionName.written : OptionName → String
  | patterns => "--patterns"
  | output => "--output"
  | directory => "--cwd"
  | workers => "--workers"
  | language => "--language"
  | help => "--help"

/-- What is wrong with a command line. -/
inductive UsageError where
  | unknownOption (option : List Char)
  | missingValue (option : OptionName)
  /-- A value for an option that takes none. -/
  | unwantedValue (option : OptionName)
  | invalidWorkers (given : List Char)
  | missingCommand
  | unknownCommand (name : List Char)
  | missingArgument
  | extraArguments (arguments : List (List Char))
  deriving DecidableEq, Repr

def UsageError.message : UsageError → String
  | unknownOption option => "No such option: " ++ String.ofList option
  | missingValue option => "Option '" ++ option.written ++ "' requires an argument."
  | unwantedValue option => "Option '" ++ option.written ++ "' does not take a value."
  | invalidWorkers given => "Invalid value for '--workers': " ++ String.ofList given
  | missingCommand => "Missing command."
  | unknownCommand name => "No such command '" ++ String.ofList name ++ "'."
  | missingArgument => "Missing argument."
  | extraArguments arguments =>
    "Got unexpected extra arguments: " ++ " ".intercalate (arguments.map String.ofList)

/-- Options of a command by the way they are written. -/
abbrev Options := List (String × OptionName)

/-- Whether an option stands for itself. -/
def OptionName.isFlag : OptionName → Bool
  | help => true
  | _ => false

/-- What a command line holds: options with their values and the other arguments, in order. -/
structure Given where
  options : List (OptionName × List Char)
  arguments : List (List Char)
  deriving DecidableEq, Repr

/-- The value of an option. -/
def Given.value? (given : Given) (option : OptionName) : Option (List Char) :=
  given.options.reverse.lookup option

def Given.has (given : Given) (option : OptionName) : Bool := (given.value? option).isSome

/-- Options read from one argument, and the one that waits for its value if there is one. -/
structure Step where
  options : List (OptionName × List Char)
  pending : Option OptionName

/-- Reads single-letter options. -/
def readShort (known : Options) : List Char → Except UsageError Step
  | [] => .ok ⟨[], none⟩
  | c :: rest =>
    match known.lookup (String.ofList ['-', c]) with
    | none => .error (.unknownOption ['-', c])
    | some option =>
      if option.isFlag then
        (readShort known rest).map fun step => { step with options := (option, []) :: step.options }
      else if rest.isEmpty then .ok ⟨[], some option⟩
      else .ok ⟨[(option, rest)], none⟩

/-- Whether options are written with two dashes. -/
def isLong (argument : List Char) : Bool := ['-', '-'].isPrefixOf argument

/-- Reads an argument that begins with a dash. -/
def readOption (known : Options) (argument : List Char) : Except UsageError Step :=
  if isLong argument then
    let name := argument.takeWhile (· != '=')
    match known.lookup (String.ofList name) with
    | none => .error (.unknownOption name)
    | some option =>
      if name.length < argument.length then
        if option.isFlag then .error (.unwantedValue option)
        else .ok ⟨[(option, argument.drop (name.length + 1))], none⟩
      else if option.isFlag then .ok ⟨[(option, [])], none⟩
      else .ok ⟨[], some option⟩
  else readShort known argument.tail

/-- Whether an argument is read as options: a dash with something behind it. -/
def isOption (argument : List Char) : Bool :=
  argument.head? = some '-' && 1 < argument.length

/-- Reads arguments; `pending` is the option that the next one is the value of. Unless options are
`mixed` with other arguments, they end at the first that is none. -/
def readFrom (known : Options) (mixed : Bool) :
    Option OptionName → List (List Char) → Except UsageError Given
  | none, [] => .ok ⟨[], []⟩
  | some option, [] => .error (.missingValue option)
  | some option, argument :: rest =>
    (readFrom known mixed none rest).map fun given =>
      { given with options := (option, argument) :: given.options }
  | none, argument :: rest =>
    if argument = ['-', '-'] then .ok ⟨[], rest⟩
    else if isOption argument then
      match readOption known argument with
      | .error error => .error error
      | .ok step =>
        (readFrom known mixed step.pending rest).map fun given =>
          { given with options := step.options ++ given.options }
    else if mixed then
      (readFrom known mixed none rest).map fun given =>
        { given with arguments := argument :: given.arguments }
    else .ok ⟨[], argument :: rest⟩

/-- What the command line of an extraction overrides. -/
structure Overrides where
  patterns : Option (List Char)
  output : Option (List Char)
  directory : Option (List Char)
  workers : Option Nat
  deriving DecidableEq, Repr

/-- What a command line asks for. -/
inductive Request where
  | help
  | extract (overrides : Overrides)
  | watch (overrides : Overrides)
  | transform (path : List Char) (output directory language : Option (List Char))
  | check (paths : List (List Char)) (directory : Option (List Char))
  deriving DecidableEq, Repr

namespace Request

def helpOptions : Options := [("-h", .help), ("--help", .help)]

def extractOptions : Options :=
  [("--patterns", .patterns), ("-p", .patterns), ("--output", .output), ("-o", .output),
    ("--cwd", .directory), ("-c", .directory), ("--workers", .workers)] ++ helpOptions

def transformOptions : Options :=
  [("--output", .output), ("-o", .output), ("--cwd", .directory), ("-c", .directory),
    ("--language", .language)] ++ helpOptions

def checkOptions : Options := [("--cwd", .directory), ("-c", .directory)] ++ helpOptions

/-- A number of workers, which has to be positive. -/
def workersOf : Option (List Char) → Except UsageError (Option Nat)
  | none => .ok none
  | some given =>
    match Text.integer? given with
    | some (.ofNat (n + 1)) => .ok (some (n + 1))
    | _ => .error (.invalidWorkers given)

/-- The overrides of an extraction, which takes no arguments but options. -/
def overridesOf (given : Given) : Except UsageError Overrides :=
  (workersOf (given.value? .workers)).bind fun workers =>
    if given.arguments.isEmpty then
      .ok ⟨given.value? .patterns, given.value? .output, given.value? .directory, workers⟩
    else .error (.extraArguments given.arguments)

/-- Reads the arguments of a command; a request for help beats all but unreadable options. -/
def withOptions (options : Options) (arguments : List (List Char))
    (request : Given → Except UsageError Request) : Except UsageError Request :=
  (readFrom options true none arguments).bind fun given =>
    if given.has .help then .ok .help else request given

def ofTransform (given : Given) : Except UsageError Request :=
  match given.arguments with
  | [] => .error .missingArgument
  | [path] =>
    .ok (.transform path (given.value? .output) (given.value? .directory) (given.value? .language))
  | _ :: extra => .error (.extraArguments extra)

def ofCheck (given : Given) : Except UsageError Request :=
  if given.arguments.isEmpty then .error .missingArgument
  else .ok (.check given.arguments (given.value? .directory))

/-- A name that is no command may still ask for help. -/
def ofUnknown (name : List Char) : Except UsageError Request :=
  (readFrom helpOptions false none [name]).bind fun given =>
    if given.has .help then .ok .help else .error (.unknownCommand name)

/-- Reads a command line. -/
def read (arguments : List (List Char)) : Except UsageError Request :=
  (readFrom helpOptions false none arguments).bind fun given =>
    if given.has .help then .ok .help
    else match given.arguments with
      | [] => .error .missingCommand
      | name :: rest =>
        match String.ofList name with
        | "extract" =>
          withOptions extractOptions rest fun given => (overridesOf given).map extract
        | "watch" => withOptions extractOptions rest fun given => (overridesOf given).map watch
        | "transform" => withOptions transformOptions rest ofTransform
        | "check" => withOptions checkOptions rest ofCheck
        | _ => ofUnknown name

end Request

end Prologue.Command
