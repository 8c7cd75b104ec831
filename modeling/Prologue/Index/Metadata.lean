import Prologue.Bytes

/-!
# Metadata

What the index says about a file: the runners it exports and the schemas that describe them.
-/

namespace Prologue

structure Runner where
  name : List Char
  line : Int
  deriving DecidableEq, Repr

structure Schema where
  name : List Char
  runnerName : Option (List Char)
  line : Int
  deriving DecidableEq, Repr

structure FileMetadata where
  /-- The file's name, which need not be UTF-8. -/
  file : Bytes
  runners : List Runner
  schemas : List Schema
  deriving DecidableEq, Repr

end Prologue
