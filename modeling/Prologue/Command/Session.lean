import Prologue.Console
import Prologue.Disk
import Prologue.Glob.Pattern
import Prologue.Notice

/-!
# Sessions

A command reads and changes the disk, shows messages on a console, writes to two streams and makes
notices. It runs to its end, or stops with an exit code, or fails.
-/

namespace Prologue.Command

/-- A failure that no command answers. -/
inductive Failure where
  /-- A message that cannot be shown. -/
  | console (cause : Console.Fault)
  | pattern (cause : Glob.PatternError)
  | disk (cause : DiskError)
  deriving DecidableEq, Repr

def Failure.message : Failure → String
  | console cause => cause.message
  | pattern cause => cause.message
  | disk cause => cause.message

/-- Why a command stops before its end. -/
inductive Stop where
  | exit (code : Nat)
  | failure (cause : Failure)
  deriving DecidableEq, Repr

structure Session where
  console : Console
  disk : Disk
  /-- What was written to the output stream. -/
  out : List Char
  /-- What was written to the error stream. -/
  err : List Char
  notices : List Notice

/-- Steps of a command. -/
abbrev Action (α : Type) := ExceptT Stop (StateM Session) α

namespace Session

/-- The session at the beginning of a command. -/
def start (console : Console) (disk : Disk) : Session := ⟨console, disk, [], [], []⟩

/-- Lines, each with a line feed behind it. -/
def joinLines (lines : List (List Char)) : List Char := lines.flatMap (· ++ ['\n'])

/-- Writes to the output stream. -/
def write (text : List Char) : Action Unit :=
  modify fun session => { session with out := session.out ++ text }

/-- Writes lines to the error stream. -/
def reportLines (lines : List (List Char)) : Action Unit :=
  modify fun session => { session with err := session.err ++ joinLines lines }

/-- The lines that the console shows, or its failure to. -/
def shown (ask : Console → Except Console.Fault (List (List Char))) :
    Action (List (List Char)) := do
  match ask (← get).console with
  | .ok lines => pure lines
  | .error cause => throw (.failure (.console cause))

/-- Shows a message on the output stream. -/
def say (message : List Char) : Action Unit := do
  write (joinLines (← shown (·.message message)))

/-- Shows a message on the error stream. -/
def report (message : List Char) : Action Unit := do
  reportLines (← shown (·.message message))

/-- Shows an error on the error stream. -/
def reportError (message : String) : Action Unit :=
  report ("[red]" ++ message ++ "[/red]").toList

/-- Adds notices and takes over a disk. -/
def proceed (notices : List Notice) (disk : Disk) : Action Unit :=
  modify fun session => { session with notices := session.notices ++ notices, disk := disk }

end Session

end Prologue.Command
