import Prologue.Command.Arguments
import Prologue.Command.Session
import Prologue.Transform.File
import Prologue.Watch

/-!
# Commands

What the commands do. Extraction and watching take their settings from the environment unless the
command line overrides them; an empty text on the command line overrides nothing.
-/

namespace Prologue.Command

open Session

/-- A text on the command line, unless it is empty. -/
def orElse (given : Option (List Char)) (fallback : List Char) : List Char :=
  match given with
  | some (c :: cs) => c :: cs
  | _ => fallback

def Overrides.apply (overrides : Overrides) (settings : Settings) : Settings where
  patterns := orElse overrides.patterns settings.patterns
  output := orElse overrides.output settings.output
  directory := orElse overrides.directory settings.directory
  workers := overrides.workers.getD settings.workers

/-- The settings of a command. -/
def resolveSettings (environment : Environment) (overrides : Overrides) : Action Settings :=
  match Settings.ofEnvironment environment with
  | .ok settings => pure (overrides.apply settings)
  | .error error => do
    reportError error.message
    throw (.exit 1)

/-- A path in a message. -/
def shownPath (path : Path) : List Char := Utf8.lossy path.written

/-- Extracts once and tells what came of it. -/
def extractOnce (settings : Settings) : Action Unit := do
  let run := Prologue.extract settings (← get).disk
  proceed run.notices run.disk
  match run.outcome with
  | .error (.pattern cause) => throw (.failure (.pattern cause))
  | .error (.write cause) =>
    reportError cause.message
    throw (.exit 1)
  | .ok extraction =>
    say (s!"[green]Extracted[/green] metadata from {extraction.metadata.length} files").toList
    say ("Output written to: ".toList ++ shownPath extraction.output)

/-- Tells of one more extraction. -/
def sayEvent (event : Watch.Event) : Action Unit :=
  say ((s!"[yellow]Changed[/yellow] {event.changed.length} file(s), " ++
    s!"re-extracted metadata from {event.extraction.metadata.length} files into ").toList ++
    shownPath event.extraction.output)

/-- Answers a batch of changes. -/
def watchStep (settings : Settings) (root : Place) (batch : Batch) : Action Unit := do
  let response := Watch.respond settings root (← get).disk batch
  proceed response.notices response.disk
  match response.event with
  | .error cause => throw (.failure (.pattern cause))
  | .ok none => pure ()
  | .ok (some event) => sayEvent event

/-- Answers batches of changes in turn. -/
def watchSteps (settings : Settings) (root : Place) : List Batch → Action Unit
  | [] => pure ()
  | batch :: rest => do
    watchStep settings root batch
    watchSteps settings root rest

/-- Begins to watch; gives the watched directory. -/
def watchStart (settings : Settings) : Action Place := do
  extractOnce settings
  let disk := (← get).disk
  let root := Watch.root settings disk
  proceed [.watching (Disk.pathTo root).written] disk
  say ("[green]Watching[/green] ".toList ++ shownPath (Disk.pathTo root) ++
    " (Ctrl+C to stop)".toList)
  pure root

/-- Ends a watch, because there are no more changes or because it was interrupted. -/
def watchStop (root : Place) (interrupted : Bool) : Action Unit := do
  if interrupted then say "Stopped watching".toList
  else proceed [.stoppedWatching (Disk.pathTo root).written] (← get).disk

/-- The directory that file names are relative to. -/
def namingDirectory (given : Option (List Char)) (disk : Disk) : Bytes :=
  Utf8.encode (orElse given (shownPath (Disk.pathTo disk.here)))

/-- Shows diagnostics on the error stream. -/
def showDiagnostics (result : TransformResult) : Action Unit := do
  let rows := result.diagnostics.map Console.Table.rowOf
  reportLines (← shown (·.table (Utf8.lossy result.file) rows))

/-- Transforms a file. Errors that the commands answer come back as such; the rest are failures. -/
def transformGiven (path : List Char) (directory language : Option (List Char)) :
    Action (Except FileError TransformResult) := do
  let disk := (← get).disk
  match transformFile disk path (some (namingDirectory directory disk)) language with
  | .error (.disk cause) => throw (.failure (.disk cause))
  | result => pure result

/-- Writes stripped code to a file, after the directories that lead to it. -/
def writeCode (code : List Char) (path : Path) : Action Unit := do
  let (made, disk) := (← get).disk.prepareFor path
  proceed [] disk
  match made.bind fun () => disk.write path (Utf8.encode code) with
  | .ok disk =>
    proceed [] disk
    report ("[green]Wrote[/green] ".toList ++ shownPath path)
  | .error cause =>
    reportError ("Failed to write output file: " ++ cause.message)
    throw (.exit 1)

/-- Strips a file and reports invalid directives. -/
def transformCommand (path : List Char) (output directory language : Option (List Char)) :
    Action Unit := do
  match ← transformGiven path directory language with
  | .error error =>
    reportError error.message
    throw (.exit 1)
  | .ok result =>
    match output with
    | some (c :: cs) => writeCode result.code (Path.ofBytes (Utf8.encode (c :: cs)))
    | _ => write result.code
    if !result.diagnostics.isEmpty then
      showDiagnostics result
      throw (.exit 1)

/-- Checks one file; gives whether it failed. -/
def checkOne (directory : Option (List Char)) (path : List Char) : Action Bool := do
  match ← transformGiven path directory none with
  | .error error =>
    reportError error.message
    pure true
  | .ok result =>
    if result.diagnostics.isEmpty then pure false
    else
      showDiagnostics result
      pure true

/-- Checks files in turn; gives how many failed. -/
def checkAll (directory : Option (List Char)) : List (List Char) → Action Nat
  | [] => pure 0
  | path :: rest => do
    let failed ← checkOne directory path
    let failures ← checkAll directory rest
    pure (if failed then failures + 1 else failures)

/-- Checks files and tells how many failed. -/
def checkCommand (paths : List (List Char)) (directory : Option (List Char)) : Action Unit := do
  let failures ← checkAll directory paths
  if failures = 0 then report (s!"[green]Checked[/green] {paths.length} file(s)").toList
  else
    reportError s!"{failures} of {paths.length} file(s) failed"
    throw (.exit 1)

/-- Where a watch gets its changes from: batches, and an interruption at their end or none. -/
structure Changes where
  batches : List Batch
  interrupted : Bool

/-- Does what a command line asks for. -/
def perform (environment : Environment) (changes : Changes) : Request → Action Unit
  | .help => pure ()
  | .extract overrides => do extractOnce (← resolveSettings environment overrides)
  | .watch overrides => do
    let settings ← resolveSettings environment overrides
    let root ← watchStart settings
    watchSteps settings root changes.batches
    watchStop root changes.interrupted
  | .transform path output directory language => transformCommand path output directory language
  | .check paths directory => checkCommand paths directory

/-- How a command ended. -/
inductive Ending where
  | usage (error : UsageError)
  | done
  | exit (code : Nat)
  | failure (cause : Failure)
  deriving DecidableEq, Repr

def Ending.exitCode : Ending → Nat
  | usage _ => 2
  | done => 0
  | exit code => code
  | failure _ => 1

/-- Runs steps on a disk to their end. -/
def settle (console : Console) (disk : Disk) (steps : Action Unit) : Ending × Session :=
  match (steps.run).run (.start console disk) with
  | (.ok (), session) => (.done, session)
  | (.error (.exit code), session) => (.exit code, session)
  | (.error (.failure cause), session) => (.failure cause, session)

/-- Runs a command line. -/
def run (console : Console) (environment : Environment) (arguments : List (List Char))
    (changes : Changes) (disk : Disk) : Ending × Session :=
  match Request.read arguments with
  | .error error => (.usage error, .start console disk)
  | .ok request => settle console disk (perform environment changes request)

end Prologue.Command
