import Prologue.Path
import Prologue.Text.Quoted

/-!
# The disk

A disk is a finite map from places to directories and files. A place is the list of names that leads
to it from the top, so it has no double dots: those are resolved while a path is followed, and every
directory on the way has to exist. A refusal names the path as it was asked for.

Names have any length, and so have paths and patterns: a system that limits them, or how deep a
search may go, fails in ways that are not found here.
-/

namespace Prologue

/-- The names that lead from the top of the disk to an item. -/
abbrev Place := List Bytes

inductive Item where
  | directory
  | file (content : Bytes)
  deriving DecidableEq, Repr

/-- Why the disk refuses a request. -/
inductive Refusal where
  | missing
  | occupied
  | notDirectory
  | isDirectory
  deriving DecidableEq, Repr

def Refusal.number : Refusal → Nat
  | missing => 2
  | occupied => 17
  | notDirectory => 20
  | isDirectory => 21

def Refusal.wording : Refusal → String
  | missing => "No such file or directory"
  | occupied => "File exists"
  | notDirectory => "Not a directory"
  | isDirectory => "Is a directory"

structure DiskError where
  refusal : Refusal
  path : Path
  deriving DecidableEq, Repr

def DiskError.message (error : DiskError) : String :=
  s!"[Errno {error.refusal.number}] " ++ error.refusal.wording ++ ": " ++
    Text.quotedBytes error.path.written

structure Disk where
  /-- Everything but the top directory, which always exists. -/
  items : List (Place × Item)
  /-- The place of the current directory. -/
  here : Place

namespace Disk

/-- The name of the directory above. -/
def above : Bytes := [Path.dot, Path.dot]

/-- What is at a place. -/
def item? (disk : Disk) (place : Place) : Option Item :=
  if place.isEmpty then some .directory else disk.items.lookup place

/-- The disk with an item at a place, which replaces what was there. -/
def put (disk : Disk) (place : Place) (item : Item) : Disk :=
  { disk with items := (place, item) :: disk.items.filter (·.1 != place) }

/-- The disk without the item at a place. -/
def erase (disk : Disk) (place : Place) : Disk :=
  { disk with items := disk.items.filter (·.1 != place) }

/-- One step from a place along a name. -/
def step (place : Place) (name : Bytes) : Place :=
  if name = above then place.dropLast else place ++ [name]

/-- Follows names from a place. Only the last name may lead to something that is not there. -/
def follow (disk : Disk) (place : Place) : List Bytes → Except Refusal Place
  | [] => .ok place
  | name :: rest =>
    match disk.item? place with
    | none => .error .missing
    | some (.file _) => .error .notDirectory
    | some .directory => disk.follow (step place name) rest

/-- Where a path starts. -/
def origin (disk : Disk) (path : Path) : Place :=
  if path.root = .here then disk.here else []

/-- The place that a path leads to. -/
def locate (disk : Disk) (path : Path) : Except Refusal Place :=
  disk.follow (disk.origin path) path.names

/-- What a path leads to. -/
def find? (disk : Disk) (path : Path) : Option Item :=
  (disk.locate path).toOption.bind disk.item?

def isDirectory (disk : Disk) (path : Path) : Bool := disk.find? path = some .directory

def isFile (disk : Disk) (path : Path) : Bool :=
  match disk.find? path with
  | some (.file _) => true
  | _ => false

/-- The place that a path would have if everything on its way were there: each pair of double dots
takes back the name before it. -/
def resolve (disk : Disk) (path : Path) : Place := path.names.foldl step (disk.origin path)

/-- The path from the top to a place. -/
def pathTo (place : Place) : Path := ⟨.slash, place⟩

/-- Names of the items in the directory that a path leads to. -/
def entries (disk : Disk) (path : Path) : List Bytes :=
  match disk.locate path with
  | .error _ => []
  | .ok place =>
    disk.items.filterMap fun (item, _) => if item.dropLast = place then item.getLast? else none

/-- The directories below the one that a path leads to, as names from there on. -/
def directoriesBelow (disk : Disk) (path : Path) : List (List Bytes) :=
  match disk.locate path with
  | .error _ => []
  | .ok place =>
    disk.items.filterMap fun (other, item) =>
      if item = .directory && place.isPrefixOf other && other != place then
        some (other.drop place.length)
      else none

/-- The content of a file. -/
def read (disk : Disk) (path : Path) : Except DiskError Bytes :=
  match disk.locate path with
  | .error refusal => .error ⟨refusal, path⟩
  | .ok place =>
    match disk.item? place with
    | none => .error ⟨.missing, path⟩
    | some .directory => .error ⟨.isDirectory, path⟩
    | some (.file content) => .ok content

/-- Writes a file, new or old, into a directory that exists. -/
def write (disk : Disk) (path : Path) (content : Bytes) : Except DiskError Disk :=
  match disk.locate path with
  | .error refusal => .error ⟨refusal, path⟩
  | .ok place =>
    if disk.item? place = some .directory then .error ⟨.isDirectory, path⟩
    else .ok (disk.put place (.file content))

/-- Deletes a file. -/
def delete (disk : Disk) (path : Path) : Except DiskError Disk :=
  match disk.locate path with
  | .error refusal => .error ⟨refusal, path⟩
  | .ok place =>
    match disk.item? place with
    | none => .error ⟨.missing, path⟩
    | some .directory => .error ⟨.isDirectory, path⟩
    | some (.file _) => .ok (disk.erase place)

/-- Makes one directory. -/
def makeDirectory (disk : Disk) (path : Path) : Except DiskError Disk :=
  match disk.locate path with
  | .error refusal => .error ⟨refusal, path⟩
  | .ok place =>
    match disk.item? place with
    | some _ => .error ⟨.occupied, path⟩
    | none => .ok (disk.put place .directory)

/-- Makes one directory unless it is there. -/
def requireDirectory (disk : Disk) (path : Path) : Except DiskError Disk :=
  match disk.makeDirectory path with
  | .ok disk => .ok disk
  | .error error => if disk.isDirectory path then .ok disk else .error error

/-- Makes a directory unless it is there, after those that lead to it; `depth` bounds how many of
those may be missing. A failure may come after the first directories were made. -/
def requireDirectories : Nat → Disk → Path → Except DiskError Unit × Disk
  | depth, disk, path =>
    match disk.requireDirectory path with
    | .ok disk => (.ok (), disk)
    | .error error =>
      match depth with
      | 0 => (.error error, disk)
      | depth + 1 =>
        if error.refusal = .missing then
          match requireDirectories depth disk path.parent with
          | (.error error, disk) => (.error error, disk)
          | (.ok (), disk) =>
            match disk.requireDirectory path with
            | .ok disk => (.ok (), disk)
            | .error error => (.error error, disk)
        else (.error error, disk)

/-- Makes the directory that is to hold a file, and those that lead to it. -/
def prepareFor (disk : Disk) (path : Path) : Except DiskError Unit × Disk :=
  requireDirectories path.names.length disk path.parent

end Disk

end Prologue
