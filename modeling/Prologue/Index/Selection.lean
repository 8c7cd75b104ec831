import Prologue.Glob.Pattern
import Prologue.Notice
import Prologue.Text.Blank

/-!
# Selection of files

Which files the index is made from: those that match one of a list of patterns and have no excluded
directory on their way. Patterns are tried in turn, each gives its files in the order of paths, and
no path comes twice.
-/

namespace Prologue

/-- Pieces of a text between its commas. -/
def splitAtCommas : List Char → List (List Char)
  | [] => [[]]
  | c :: rest =>
    if c = ',' then [] :: splitAtCommas rest
    else match splitAtCommas rest with
      | [] => [[c]]
      | piece :: pieces => (c :: piece) :: pieces

/-- The patterns of a setting: what stands between commas, without blanks around it. -/
def splitPatterns (patterns : List Char) : List (List Char) :=
  ((splitAtCommas patterns).map Text.trim).filter (!·.isEmpty)

/-- Names of directories that are left out. -/
def excludedNames : List Bytes := [utf8 "node_modules", utf8 "dist", utf8 ".nitro"]

/-- Whether a path goes through an excluded directory or has its name. -/
def isExcluded (path : Path) : Bool := path.parts.any excludedNames.contains

namespace Selection

/-- Whether a match below a directory counts as a source. -/
def admits (disk : Disk) (base path : Path) : Bool :=
  disk.isFile path && !((path.relativeTo? base).any isExcluded)

/-- Adds a path unless it is there already. -/
def insert (files : List Path) (path : Path) : List Path :=
  if files.contains path then files else files ++ [path]

/-- The files below a directory that match a pattern. -/
def matching (disk : Disk) (base : Path) (pattern : Glob.Pattern) : List Path :=
  (pattern.expand disk base).filter (admits disk base)

/-- Adds the files that match some of the patterns. A pattern that cannot be read is reported and
left out, unless it ends the search. -/
def extend (disk : Disk) (base : Path) :
    List Path → List (List Char) → Except Glob.PatternError (List Path) × List Notice
  | files, [] => (.ok files, [])
  | files, pattern :: rest =>
    match Glob.Pattern.read (Utf8.encode pattern) with
    | .ok parsed => extend disk base ((matching disk base parsed).foldl insert files) rest
    | .error error =>
      if error.isSkipped then
        let (result, notices) := extend disk base files rest
        (result, .invalidPattern (Utf8.encode pattern) error.message :: notices)
      else (.error error, [])

end Selection

/-- The files below a directory that match some of the patterns. -/
def selectFiles (disk : Disk) (patterns : List (List Char)) (base : Path) :
    Except Glob.PatternError (List Path) × List Notice :=
  Selection.extend disk base [] patterns

end Prologue
