import Prologue.Directive.Analysis
import Prologue.Text.Blank

/-!
# Removal of directives

A flagged statement goes together with its line if nothing else stands on the line. Ranges are taken
out from the last to the first, so that the offsets of those still to go stay right. Each deletion is
noted with the points of its offsets, as they are in the text that it finds.
-/

namespace Prologue

/-- Items whose index is not in the list, in order. -/
def dropIndices {α : Type} (items : List α) (indices : List Int) : List α :=
  (items.zipIdx.filter fun (_, index) => !indices.contains (Int.ofNat index)).map (·.1)

/-- The bytes to remove with a statement: its whole line if only blanks share it. -/
def removalRange (source : Bytes) (start stop : Nat) : Nat × Nat :=
  let lineStart := source.lineStart start
  let lineStop := source.lineStop stop
  let clean := (source.slice lineStart start).all Text.isBlankByte &&
    (source.slice stop lineStop).all Text.isBlankByte
  if clean then (lineStart, min (lineStop + 1) source.length) else (start, stop)

/-- A text without the bytes from `start` to `stop`. -/
def cut (source : Bytes) (range : Nat × Nat) : Bytes :=
  source.take range.1 ++ source.drop range.2

/-- Ranges that begin later come first, then those that end later. -/
def laterFirst (a b : Nat × Nat) : Bool := b.1 < a.1 || (a.1 = b.1 && b.2 ≤ a.2)

/-- A deletion as it is noted: where the bytes began, where they ended and where the text goes on
behind them now. -/
structure Deletion where
  startByte : Nat
  oldEndByte : Nat
  newEndByte : Nat
  startPoint : Point
  oldEndPoint : Point
  newEndPoint : Point
  deriving DecidableEq, Repr

/-- The deletion of a range from a text. -/
def Deletion.of (source : Bytes) (range : Nat × Nat) : Deletion where
  startByte := range.1
  oldEndByte := range.2
  newEndByte := range.1
  startPoint := source.pointAt range.1
  oldEndPoint := source.pointAt range.2
  newEndPoint := source.pointAt range.1

/-- A text that ranges are taken out of, with the deletions made so far. -/
structure Buffer where
  bytes : Bytes
  deletions : List Deletion

/-- Takes out one range. -/
def Buffer.delete (buffer : Buffer) (range : Nat × Nat) : Buffer where
  bytes := cut buffer.bytes range
  deletions := buffer.deletions ++ [Deletion.of buffer.bytes range]

/-- Takes the ranges out of a text, from the last to the first. -/
def deleteRanges (source : Bytes) (ranges : List (Nat × Nat)) : Buffer :=
  (ranges.mergeSort laterFirst).foldl Buffer.delete ⟨source, []⟩

/-- A text without the given ranges. -/
def removeRanges (source : Bytes) (ranges : List (Nat × Nat)) : Bytes :=
  (deleteRanges source ranges).bytes

/-- The ranges to remove for an analysis. -/
def Analysis.ranges (analysis : Analysis) (source : Bytes) : List (Nat × Nat) :=
  analysis.flagged.map fun flagged =>
    removalRange source flagged.span.startByte.toNat flagged.span.endByte.toNat

/-- A source without the ranges, read again. The whole text is read, so the tree is right without a look
at the deletions. -/
def Source.remove (source : Source) (ranges : List (Nat × Nat)) : Source :=
  if ranges.isEmpty then source else Source.read source.dialect (removeRanges source.bytes ranges)

/-- A source without the directives of an analysis of it. -/
def Source.strip (source : Source) (analysis : Analysis) : Source :=
  source.remove (analysis.ranges source.bytes)

end Prologue
