/-!
# Byte strings

Source texts, file names and everything the tool prints are byte strings. Offsets count bytes,
lines end at a line feed and at nothing else, and a column is the distance to the last line feed.
-/

namespace Prologue

/-- A string of bytes, with no promise that it is UTF-8. -/
abbrev Bytes := List UInt8

/-- The UTF-8 bytes of a text. -/
def utf8 (text : String) : Bytes := text.toByteArray.data.toList

/-- The line feed, the only byte that ends a line. -/
def lineFeed : UInt8 := 10

/-- A place in a text by its row and its column, both counted from zero. -/
structure Point where
  row : Nat
  column : Nat
  deriving DecidableEq, Repr

namespace Bytes

/-- The bytes from `start` up to, but not including, `stop`; nothing when the two cross. -/
def slice (bytes : Bytes) (start stop : Nat) : Bytes := (bytes.take stop).drop start

/-- Where the line that holds `offset` begins. -/
def lineStart (bytes : Bytes) (offset : Nat) : Nat :=
  let before := bytes.take offset
  before.length - (before.reverse.takeWhile (· != lineFeed)).length

/-- Where the line that holds `offset` ends: at its line feed, or at the end of the text. -/
def lineStop (bytes : Bytes) (offset : Nat) : Nat :=
  min bytes.length (offset + ((bytes.drop offset).takeWhile (· != lineFeed)).length)

/-- Number of line feeds before `offset`. -/
def row (bytes : Bytes) (offset : Nat) : Nat := (bytes.take offset).count lineFeed

/-- Bytes between the last line feed before `offset` and `offset`. -/
def column (bytes : Bytes) (offset : Nat) : Nat := offset - bytes.lineStart offset

/-- The point of `offset`. -/
def pointAt (bytes : Bytes) (offset : Nat) : Point := ⟨bytes.row offset, bytes.column offset⟩

/-- Line number of `offset`, counted from one. -/
def line (bytes : Bytes) (offset : Nat) : Nat := bytes.row offset + 1

/-- Whether `part` occurs in `bytes` as a contiguous piece. -/
def includes (bytes part : Bytes) : Bool :=
  match bytes with
  | [] => part.isEmpty
  | _ :: rest => part.isPrefixOf bytes || includes rest part

end Bytes

end Prologue
