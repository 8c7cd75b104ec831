import Prologue.Text.Digit
import Prologue.Text.Quoted

/-!
# Settings

What an extraction needs to know, with defaults that the environment can override.
-/

namespace Prologue

structure Settings where
  /-- Patterns for source files, with commas between them. -/
  patterns : List Char
  /-- The file that the index is written to. -/
  output : List Char
  /-- The directory that the patterns start from. -/
  directory : List Char
  /-- How many files may be worked on at once. -/
  workers : Nat
  deriving DecidableEq, Repr

/-- The number of workers in the environment is no positive integer. -/
structure SettingsError where
  given : List Char
  deriving DecidableEq, Repr

def SettingsError.message (error : SettingsError) : String :=
  "RUNNERS_WORKERS must be a positive integer, got " ++ Text.quoted error.given

/-- Variables with their values. -/
abbrev Environment := List (String × List Char)

namespace Settings

def default : Settings where
  patterns := "src/**/*.ts,runners/**/*.ts".toList
  output := "runner-schemas.json".toList
  directory := ['.']
  workers := 1

/-- The number of workers that a variable asks for; a blank one asks for nothing. -/
def workersOf : Option (List Char) → Except SettingsError Nat
  | none => .ok default.workers
  | some given =>
    if (Text.trim given).isEmpty then .ok default.workers
    else match Text.integer? given with
      | some (.ofNat (n + 1)) => .ok (n + 1)
      | _ => .error ⟨given⟩

/-- The settings that an environment asks for. -/
def ofEnvironment (environment : Environment) : Except SettingsError Settings :=
  (workersOf (environment.lookup "RUNNERS_WORKERS")).map fun workers =>
    { patterns := (environment.lookup "RUNNERS_PATTERNS").getD default.patterns
      output := (environment.lookup "RUNNERS_OUTPUT").getD default.output
      directory := (environment.lookup "RUNNERS_CWD").getD default.directory
      workers := workers }

end Settings

end Prologue
