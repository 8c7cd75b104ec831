import Prologue.Disk
import Prologue.Glob.Wildcard

/-!
# Patterns for paths

A pattern is a path whose names may hold wildcards. Two stars as a whole name stand for any number
of directories, and a slash at the end asks for directories. Expansion keeps the path it starts from
in front of what it finds, and double dots stay as they are written.
-/

namespace Prologue.Glob

/-- One name of a pattern. -/
inductive Segment where
  /-- Any number of directories. -/
  | anywhere
  | name (bytes : Bytes)
  | wild (pieces : List Piece)
  deriving DecidableEq, Repr

structure Pattern where
  first : Segment
  rest : List Segment
  directoriesOnly : Bool
  deriving DecidableEq, Repr

/-- What is wrong with a pattern. -/
inductive PatternError where
  | empty
  | rooted
  | doubleStar
  /-- It has no names. -/
  | hollow
  /-- It has no names and asks for a directory. -/
  | hollowDirectory
  deriving DecidableEq, Repr

def PatternError.message : PatternError → String
  | empty => "Unacceptable pattern: ''"
  | rooted => "Non-relative patterns are unsupported"
  | doubleStar => "Invalid pattern: '**' can only be an entire path component"
  | hollow => "tuple index out of range"
  | hollowDirectory => "'_TerminatingSelector' object has no attribute 'select_from'"

/-- Whether a search reports the pattern and goes on without it. A pattern without names ends it. -/
def PatternError.isSkipped : PatternError → Bool
  | empty | rooted | doubleStar => true
  | hollow | hollowDirectory => false

/-- Two stars. -/
def doubleStar : Bytes := [42, 42]

def Segment.read (bytes : Bytes) : Except PatternError Segment :=
  if bytes = doubleStar then .ok .anywhere
  else if bytes.includes doubleStar then .error .doubleStar
  else
    let codes := Utf8.scalars bytes
    .ok (if Piece.isWild codes then .wild (Piece.read codes) else .name bytes)

/-- Reads a pattern. -/
def Pattern.read (written : Bytes) : Except PatternError Pattern :=
  if written.isEmpty then .error .empty
  else
    let path := Path.ofBytes written
    if path.root ≠ .here then .error .rooted
    else
      let directoriesOnly := written.getLast? = some Path.slash
      match path.names.mapM Segment.read with
      | .error error => .error error
      | .ok [] => .error (if directoriesOnly then .hollowDirectory else .hollow)
      | .ok (first :: rest) => .ok ⟨first, rest, directoriesOnly⟩

/-- A path with more names at its end. -/
def below (path : Path) (names : List Bytes) : Path := ⟨path.root, path.names ++ names⟩

/-- Paths that one segment leads to; before another segment they have to be directories. -/
def Segment.expand (disk : Disk) (directory : Bool) (path : Path) : Segment → List Path
  | anywhere => path :: (disk.directoriesBelow path).map (below path)
  | name bytes =>
    let next := below path [bytes]
    if if directory then disk.isDirectory next else (disk.find? next).isSome then [next] else []
  | wild pieces =>
    ((disk.entries path).filter fun entry => Piece.allow pieces (Utf8.scalars entry)).filterMap
      fun entry =>
        let next := below path [entry]
        if directory && !disk.isDirectory next then none else some next

/-- Paths that segments lead to, one after the other. -/
def expandAll (disk : Disk) (directoriesOnly : Bool) : List Segment → Path → List Path
  | [], path => [path]
  | segment :: rest, path =>
    (segment.expand disk (directoriesOnly || !rest.isEmpty) path).flatMap
      (expandAll disk directoriesOnly rest)

/-- Paths below a directory that match a pattern, in the order of paths. The same path may come more
than once. -/
def Pattern.expand (disk : Disk) (base : Path) (pattern : Pattern) : List Path :=
  if disk.isDirectory base then
    (expandAll disk pattern.directoriesOnly (pattern.first :: pattern.rest) base).mergeSort
      Path.before
  else []

end Prologue.Glob
