import Prologue.Disk
import Prologue.Transform

/-!
# Transformation of a file

The bytes of the file are transformed as they are, whatever ends their lines.
-/

namespace Prologue

/-- Why a file could not be transformed. -/
inductive FileError where
  /-- There is no such file; the path is kept as it was given. -/
  | notFound (given : List Char)
  /-- The path holds a null character, as no name on a disk does. -/
  | nullCharacter
  | disk (cause : DiskError)
  | transform (cause : TransformError)
  deriving DecidableEq, Repr

def FileError.message : FileError → String
  | notFound given => "File not found: " ++ String.ofList given
  | nullCharacter => "embedded null byte"
  | disk cause => cause.message
  | transform cause => cause.message

/-- Checks a file and takes its directives out. -/
def transformFile (disk : Disk) (given : List Char) (directory : Option Bytes)
    (language : Option (List Char)) : Except FileError TransformResult :=
  let path := Path.ofBytes (Utf8.encode given)
  if given.contains (Char.ofNat 0) then .error .nullCharacter
  else match disk.read path with
    | .error cause =>
      if cause.refusal = .missing then .error (.notFound given) else .error (.disk cause)
    | .ok content => (transform content path.written directory language).mapError .transform

end Prologue
