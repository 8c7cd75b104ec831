import Mathlib.Data.List.Basic
import Prologue.Bytes
import Prologue.Proofs.Lists

/-!
# Lines of a byte string

`lineStart` counts back from an offset and `lineStop` counts on from it. Both are characterised by the
line feeds around the offset: none lies between the offset and either end of its line.
-/

namespace Prologue.Bytes

/-- What the bytes of a slice are. -/
theorem getElem?_slice (bytes : Bytes) (start stop i : Nat) :
    (bytes.slice start stop)[i]? = if start + i < stop then bytes[start + i]? else none := by
  rw [slice, List.getElem?_drop, List.getElem?_take]

theorem all_slice_iff (bytes : Bytes) (start stop : Nat) (p : UInt8 → Bool) :
    (bytes.slice start stop).all p = true ↔
      ∀ q byte, start ≤ q → q < stop → bytes[q]? = some byte → p byte = true := by
  rw [List.all_eq_true]
  constructor
  · intro h q byte hstart hstop hbyte
    apply h
    rw [List.mem_iff_getElem?]
    refine ⟨q - start, ?_⟩
    rw [getElem?_slice, show start + (q - start) = q by omega, if_pos hstop, hbyte]
  · intro h byte hmem
    obtain ⟨i, hi⟩ := List.mem_iff_getElem?.1 hmem
    rw [getElem?_slice] at hi
    split at hi
    · exact h (start + i) byte (by omega) (by assumption) hi
    · cases hi

theorem lineStop_le_length (bytes : Bytes) (offset : Nat) :
    bytes.lineStop offset ≤ bytes.length := Nat.min_le_left _ _

theorem le_lineStop {bytes : Bytes} {offset : Nat} (h : offset ≤ bytes.length) :
    offset ≤ bytes.lineStop offset := by
  unfold lineStop
  omega

theorem lineStop_eq {bytes : Bytes} {offset : Nat} (h : offset ≤ bytes.length) :
    bytes.lineStop offset = offset + ((bytes.drop offset).takeWhile (· != lineFeed)).length := by
  have hle := (List.takeWhile_prefix (l := bytes.drop offset) (· != lineFeed)).length_le
  rw [List.length_drop] at hle
  unfold lineStop
  omega

/-- No line feed stands between an offset and the end of its line. -/
theorem ne_lineFeed_of_lt_lineStop {bytes : Bytes} {offset q : Nat} (hle : offset ≤ q)
    (hlt : q < bytes.lineStop offset) : bytes[q]? ≠ some lineFeed := by
  have hlength := lineStop_le_length bytes offset
  rw [lineStop_eq (by omega)] at hlt
  intro h
  have hbyte := (getElem?_takeWhile_length (· != lineFeed) (bytes.drop offset)).1 (q - offset)
    lineFeed (by omega) (by rw [List.getElem?_drop, show offset + (q - offset) = q by omega, h])
  simp at hbyte

/-- A line that does not end with the text ends with a line feed. -/
theorem getElem?_lineStop {bytes : Bytes} {offset : Nat} (h : offset ≤ bytes.length)
    (hlt : bytes.lineStop offset < bytes.length) :
    bytes[bytes.lineStop offset]? = some lineFeed := by
  have hbyte := (getElem?_takeWhile_length (· != lineFeed) (bytes.drop offset)).2
    bytes[bytes.lineStop offset]
  rw [List.getElem?_drop, ← lineStop_eq h] at hbyte
  have hfeed := hbyte (List.getElem?_eq_getElem hlt)
  rw [List.getElem?_eq_getElem hlt]
  simpa using hfeed

theorem le_lineStop_iff {bytes : Bytes} {offset p : Nat} (hle : offset ≤ p)
    (hlt : p < bytes.length) :
    p ≤ bytes.lineStop offset ↔ ∀ q < p, offset ≤ q → bytes[q]? ≠ some lineFeed := by
  constructor
  · intro h q hq hoffset
    exact ne_lineFeed_of_lt_lineStop hoffset (by omega)
  · intro h
    by_contra hcon
    exact h (bytes.lineStop offset) (by omega) (le_lineStop (by omega))
      (getElem?_lineStop (by omega) (by omega))

theorem lineStart_le (bytes : Bytes) (offset : Nat) : bytes.lineStart offset ≤ offset := by
  simp only [lineStart, List.length_take]
  omega

/-- What precedes an offset, read backwards. -/
theorem getElem?_take_reverse {bytes : Bytes} {offset i : Nat} (hoffset : offset ≤ bytes.length)
    (hi : i < offset) : (bytes.take offset).reverse[i]? = bytes[offset - 1 - i]? := by
  have hlength : (bytes.take offset).length = offset := by
    rw [List.length_take]; omega
  rw [List.getElem?_reverse (by omega), hlength, List.getElem?_take, if_pos (by omega)]

theorem lineStart_eq {bytes : Bytes} {offset : Nat} (h : offset ≤ bytes.length) :
    bytes.lineStart offset =
      offset - ((bytes.take offset).reverse.takeWhile (· != lineFeed)).length := by
  simp only [lineStart, List.length_take]
  omega

theorem takeWhile_reverse_length_le (bytes : Bytes) (offset : Nat) :
    ((bytes.take offset).reverse.takeWhile (· != lineFeed)).length ≤ offset := by
  have hle := (List.takeWhile_prefix (l := (bytes.take offset).reverse) (· != lineFeed)).length_le
  rw [List.length_reverse, List.length_take] at hle
  omega

/-- No line feed stands between the start of a line and an offset on it. -/
theorem ne_lineFeed_of_lineStart_le {bytes : Bytes} {offset q : Nat}
    (hoffset : offset ≤ bytes.length) (hle : bytes.lineStart offset ≤ q) (hlt : q < offset) :
    bytes[q]? ≠ some lineFeed := by
  rw [lineStart_eq hoffset] at hle
  intro h
  have hback : offset - 1 - (offset - 1 - q) = q := by omega
  have hbyte := (getElem?_takeWhile_length (· != lineFeed) (bytes.take offset).reverse).1
    (offset - 1 - q) lineFeed (by omega)
    (by rw [getElem?_take_reverse hoffset (by omega), hback, h])
  simp at hbyte

/-- A line that does not start with the text starts behind a line feed. -/
theorem getElem?_lineStart {bytes : Bytes} {offset : Nat} (hoffset : offset ≤ bytes.length)
    (hpos : 0 < bytes.lineStart offset) :
    bytes[bytes.lineStart offset - 1]? = some lineFeed := by
  have hle := takeWhile_reverse_length_le bytes offset
  have hstart := lineStart_eq hoffset
  have hlt : bytes.lineStart offset - 1 < bytes.length := by
    have := lineStart_le bytes offset
    omega
  have hbyte := (getElem?_takeWhile_length (· != lineFeed) (bytes.take offset).reverse).2
    bytes[bytes.lineStart offset - 1]
  rw [getElem?_take_reverse hoffset (by omega),
    show offset - 1 - ((bytes.take offset).reverse.takeWhile (· != lineFeed)).length =
      bytes.lineStart offset - 1 by omega] at hbyte
  have hfeed := hbyte (List.getElem?_eq_getElem hlt)
  rw [List.getElem?_eq_getElem hlt]
  simpa using hfeed

theorem lineStart_le_iff {bytes : Bytes} {offset p : Nat} (hoffset : offset ≤ bytes.length) :
    bytes.lineStart offset ≤ p ↔ ∀ q < offset, p ≤ q → bytes[q]? ≠ some lineFeed := by
  constructor
  · intro h q hq hp
    exact ne_lineFeed_of_lineStart_le hoffset (by omega) hq
  · intro h
    by_contra hcon
    have := lineStart_le bytes offset
    exact h (bytes.lineStart offset - 1) (by omega) (by omega)
      (getElem?_lineStart hoffset (by omega))

end Prologue.Bytes
