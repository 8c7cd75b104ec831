import Prologue.Command.Run

/-!
# The program

The outer layer: it takes a picture of the disk, runs the command on it, brings what has changed
back to the disk and prints what the command wrote.
-/

namespace Prologue.Main

open Command

/-- A path as the system takes it. -/
def systemPath (place : Place) : String :=
  String.ofList (Utf8.lossy (Disk.pathTo place).written)

/-- Adds everything below a directory, excluded directories apart. -/
partial def loadBelow (disk : Disk) (place : Place) : IO Disk := do
  let directory ← IO.FS.realPath (systemPath place)
  let mut disk := disk
  for entry in ← directory.readDir do
    let inner := place ++ [utf8 entry.fileName]
    if ← entry.path.isDir then
      disk := disk.put inner .directory
      if !excludedNames.contains (utf8 entry.fileName) then disk ← loadBelow disk inner
    else
      let content ← IO.FS.readBinFile entry.path
      disk := disk.put inner (.file content.data.toList)
  return disk

/-- Adds a place with the directories that lead to it and everything below it, if it is there. -/
def loadAt (disk : Disk) (place : Place) : IO Disk := do
  let target ← IO.FS.realPath (systemPath place)
  if !(← target.pathExists) then return disk
  let disk := (List.range place.length).foldl
    (fun disk length => if length = 0 then disk else disk.put (place.take length) .directory) disk
  if ← target.isDir then loadBelow (disk.put place .directory) place
  else
    let content ← IO.FS.readBinFile target
    return disk.put place (.file content.data.toList)

/-- Variables that settings are taken from. -/
def settingNames : List String :=
  ["RUNNERS_PATTERNS", "RUNNERS_OUTPUT", "RUNNERS_CWD", "RUNNERS_WORKERS"]

def loadEnvironment : IO Environment := do
  let mut environment := []
  for name in settingNames do
    if let some value ← IO.getEnv name then environment := (name, value.toList) :: environment
  return environment

/-- A picture of the working directory and of whatever else the words name. -/
def loadDisk (words : List String) : IO Disk := do
  let here := (Path.ofBytes (utf8 (← IO.currentDir).toString)).names
  let mut disk ← loadAt ⟨[], here⟩ here
  for word in words do
    let place := disk.resolve (Path.ofBytes (utf8 word))
    if !here.isPrefixOf place then disk ← loadAt disk place
  return disk

/-- Brings the items of a disk that are new or changed to the system. -/
def saveChanges (before after : Disk) : IO Unit := do
  for (place, item) in after.items do
    if before.item? place ≠ some item then
      match item with
      | .directory => IO.FS.createDirAll (systemPath place)
      | .file content =>
        IO.FS.createDirAll (systemPath place.dropLast)
        IO.FS.writeBinFile (systemPath place) ⟨content.toArray⟩

/-- Notices that are worth a line on the error stream. -/
def isLoud (notice : Notice) : Bool := notice.level ≠ .info

/-- Prints what a session wrote. -/
def printSession (session : Session) : IO Unit := do
  let stdout ← IO.getStdout
  let stderr ← IO.getStderr
  for notice in session.notices.filter isLoud do
    stderr.putStrLn (notice.level.name ++ ": " ++ String.ofList (Utf8.lossy notice.wording))
  stdout.putStr (String.ofList session.out)
  stderr.putStr (String.ofList session.err)
  stdout.flush
  stderr.flush

/-- Saves and prints what has come of steps; gives the exit code if they stopped. -/
def conclude (before : Disk) (result : Except Stop Unit) (session : Session) :
    IO (Option UInt32) := do
  saveChanges before session.disk
  printSession session
  match result with
  | .ok () => return none
  | .error (.exit code) => return some code.toUInt32
  | .error (.failure cause) =>
    (← IO.getStderr).putStrLn cause.message
    return some 1

/-- The console of the program, as wide as the environment says. -/
def loadConsole : IO Console := do
  let columns := (← IO.getEnv "COLUMNS").bind String.toNat?
  return .standard (columns.getD 80)

/-- Places at which two disks differ. -/
def differences (before after : Disk) : List Place :=
  let places := (before.items ++ after.items).map (·.1)
  places.filter fun place => before.item? place ≠ after.item? place

/-- Looks for changes again and again. -/
partial def watchLoop (console : Console) (words : List String) (settings : Settings) (root : Place)
    (disk : Disk) : IO UInt32 := do
  IO.sleep 500
  let seen ← loadDisk words
  let changes := (differences disk seen).map fun place => (Disk.pathTo place).written
  if changes.isEmpty then watchLoop console words settings root disk
  else
    let step := watchStep settings root ⟨fun _ => seen, changes⟩
    let (result, session) := step.run.run (.start console seen)
    match ← conclude seen result session with
    | some code => return code
    | none => watchLoop console words settings root session.disk

/-- Watches until the program is stopped. -/
def watch (console : Console) (words : List String) (environment : Environment)
    (overrides : Overrides) (disk : Disk) : IO UInt32 := do
  let steps : Action (Settings × Place) := do
    let settings ← resolveSettings environment overrides
    return (settings, ← watchStart settings)
  let (result, session) := steps.run.run (.start console disk)
  match ← conclude disk (result.map fun _ => ()) session, result with
  | some code, _ => return code
  | none, .ok (settings, root) => watchLoop console words settings root session.disk
  | none, .error _ => return 1

def usage : String :=
  "Usage: prologue COMMAND [OPTIONS] [PATHS]\n\n" ++
  "Validate, strip and index \"use runner\" directives.\n\n" ++
  "  extract    Extract runner and schema metadata from TypeScript files.\n" ++
  "  watch      Extract metadata, then extract again whenever a source file changes.\n" ++
  "  transform  Strip \"use runner\" directives from a file and report invalid ones.\n" ++
  "  check      Validate \"use runner\" directives without writing any output.\n"

/-- Runs the program. -/
def run (words : List String) : IO UInt32 := do
  match Request.read (words.map String.toList) with
  | .error error =>
    (← IO.getStderr).putStrLn (usage ++ "\nError: " ++ error.message)
    return 2
  | .ok .help =>
    (← IO.getStdout).putStr usage
    return 0
  | .ok request =>
    let environment ← loadEnvironment
    let named := words ++ environment.map fun (_, value) => String.ofList value
    let disk ← loadDisk named
    let console ← loadConsole
    match request with
    | .watch overrides => watch console named environment overrides disk
    | request =>
      let steps := perform environment ⟨[], false⟩ request
      let (result, session) := steps.run.run (.start console disk)
      return (← conclude disk result session).getD 0

end Prologue.Main

/-- The program's entry. -/
def main (words : List String) : IO UInt32 := Prologue.Main.run words
