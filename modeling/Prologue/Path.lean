import Prologue.Text.Utf8

/-!
# Paths

A path is a root and a list of names. Empty names and single dots vanish when a path is read, double
dots stay. A path that starts with exactly two slashes has a root of its own. Names are byte
strings, as a file system has them.
-/

namespace Prologue

/-- Where a path starts. -/
inductive Root where
  /-- In the current directory. -/
  | here
  | slash
  | doubleSlash
  deriving DecidableEq, Repr

structure Path where
  root : Root
  names : List Bytes
  deriving DecidableEq, Repr

namespace Path

def slash : UInt8 := 47

def dot : UInt8 := 46

/-- Pieces between the occurrences of a byte. -/
def splitOn (mark : UInt8) : Bytes → List Bytes
  | [] => [[]]
  | byte :: rest =>
    if byte = mark then [] :: splitOn mark rest
    else match splitOn mark rest with
      | [] => [[byte]]
      | piece :: pieces => (byte :: piece) :: pieces

/-- Whether a piece of a written path is a name. -/
def isName (piece : Bytes) : Bool := !piece.isEmpty && piece != [dot]

/-- The root that a written path starts with. -/
def rootOf (written : Bytes) : Root :=
  match (written.takeWhile (· == slash)).length with
  | 0 => .here
  | 2 => .doubleSlash
  | _ => .slash

/-- Reads a written path. -/
def ofBytes (written : Bytes) : Path := ⟨rootOf written, (splitOn slash written).filter isName⟩

/-- The current directory. -/
def here : Path := ⟨.here, []⟩

def Root.written : Root → Bytes
  | .here => []
  | .slash => [slash]
  | .doubleSlash => [slash, slash]

/-- The names with slashes between them. -/
def joined : List Bytes → Bytes
  | [] => []
  | [name] => name
  | name :: rest => name ++ slash :: joined rest

/-- A path as it is written. -/
def written (path : Path) : Bytes :=
  if path.root = .here && path.names.isEmpty then [dot]
  else Root.written path.root ++ joined path.names

/-- The root, if there is one, and the names. -/
def parts (path : Path) : List Bytes :=
  match path.root with
  | .here => path.names
  | root => Root.written root :: path.names

/-- A path below another one; a path with a root of its own replaces it. -/
def append (base path : Path) : Path :=
  match path.root with
  | .here => ⟨base.root, base.names ++ path.names⟩
  | _ => path

/-- The directory that holds what the path names. -/
def parent (path : Path) : Path := ⟨path.root, path.names.dropLast⟩

/-- The last name. -/
def name (path : Path) : Bytes := path.names.getLast?.getD []

/-- The end of the last name from its last dot on, unless the dot is its first or last character. -/
def suffix (path : Path) : Bytes :=
  let tail := path.name.reverse.takeWhile (· != dot)
  if tail.isEmpty || path.name.length ≤ tail.length + 1 then [] else dot :: tail.reverse

/-- The rest of a path below another one, if it is below it. -/
def relativeTo? (path base : Path) : Option Path :=
  if path.root = base.root && base.names.isPrefixOf path.names then
    some ⟨.here, path.names.drop base.names.length⟩
  else none

/-- Number of parts at which two paths agree. -/
def agreement : List Bytes → List Bytes → Nat
  | a :: as, b :: bs => if a = b then agreement as bs + 1 else 0
  | _, _ => 0

/-- Text order of names: by code point. -/
def nameBefore (a b : Bytes) : Bool :=
  go (Utf8.scalars a) (Utf8.scalars b)
where
  go : List Nat → List Nat → Bool
    | [], _ => true
    | _ :: _, [] => false
    | x :: xs, y :: ys => if x = y then go xs ys else x < y

/-- Order of paths: part by part. -/
def before (a b : Path) : Bool :=
  go a.parts b.parts
where
  go : List Bytes → List Bytes → Bool
    | [], _ => true
    | _ :: _, [] => false
    | x :: xs, y :: ys => if x = y then go xs ys else nameBefore x y

end Path

/-- Slashes in place of backslashes. -/
def forwardSlashes (written : Bytes) : Bytes :=
  written.map fun byte => if byte = 92 then Path.slash else byte

/-- A file name as seen from a directory. A file outside the directory is named by what follows the
parts that the two share; if they share none, its name stays as it is. -/
def relativeFilename (file : Bytes) (directory : Option Bytes) : Bytes :=
  let file := forwardSlashes file
  match directory with
  | none | some [] => file
  | some directory =>
    let path := Path.ofBytes file
    let base := Path.ofBytes (forwardSlashes directory)
    match path.relativeTo? base with
    | some rest => rest.written
    | none =>
      match Path.agreement path.parts base.parts with
      | 0 => file
      | shared => (Path.mk .here (path.parts.drop shared)).written

end Prologue
