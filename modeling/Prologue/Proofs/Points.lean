import Mathlib
import Prologue.Proofs.Deletion
import Prologue.Proofs.Lines

/-!
# Points and offsets

The row of an offset is a count of line feeds and its column a distance to the last of them. Here both
are compared with the text split into its lines: an offset is found again by going to the start of its
row and on by its column, and no other point of the text leads to it. A point is decided by the bytes
in front of it, so deletions that are made from the last range to the first find every range at the
points that it has in the whole text.
-/

namespace Prologue

/-- What points are ordered by: their rows, and within a row their columns. -/
def Point.key (point : Point) : Nat ×ₗ Nat := toLex (point.row, point.column)

theorem Point.key_lt_iff {first second : Point} :
    first.key < second.key ↔
      first.row < second.row ∨ first.row = second.row ∧ first.column < second.column :=
  Prod.Lex.toLex_lt_toLex

theorem Point.key_injective : Function.Injective Point.key := by
  intro first second h
  have hpair : (first.row, first.column) = (second.row, second.column) := toLex.injective h
  cases first
  cases second
  simpa using hpair

namespace Bytes

/-- What stands between the line feeds of a text. A text that ends in a line feed has an empty last
line. -/
def lines (bytes : Bytes) : List Bytes := List.splitOn lineFeed bytes

/-- Bytes of some lines, each with the line feed behind it. -/
def extent (lines : List Bytes) : Nat := (lines.map (·.length + 1)).sum

/-- Where a row starts: behind the lines of all rows in front of it. -/
def rowStart (bytes : Bytes) (row : Nat) : Nat := extent (bytes.lines.take row)

/-- The text has the point: its row is there, and its column is no further than the line reaches. -/
def HasPoint (bytes : Bytes) (point : Point) : Prop :=
  ∃ line, bytes.lines[point.row]? = some line ∧ point.column ≤ line.length

/-- The offset that a point names: its column is counted from the start of its row. -/
def offsetOf (bytes : Bytes) (point : Point) : Nat := bytes.rowStart point.row + point.column

/-! ## Lines -/

theorem lines_cons (byte : UInt8) (bytes : Bytes) :
    lines (byte :: bytes) =
      if byte = lineFeed then [] :: bytes.lines else bytes.lines.modifyHead (byte :: ·) := by
  rw [lines, List.splitOn, List.splitOnP_cons_eq_if_modifyHead]
  simp only [beq_iff_eq]
  rfl

theorem lines_append_lineFeed (front back : Bytes) :
    lines (front ++ lineFeed :: back) = front.lines ++ back.lines :=
  List.splitOnP_append_cons front back (beq_self_eq_true lineFeed)

/-- Bytes in front of a text that end no line belong to its first line. -/
theorem lines_append_of_not_mem {lead : Bytes} (h : lineFeed ∉ lead) (bytes : Bytes) :
    lines (lead ++ bytes) = bytes.lines.modifyHead (lead ++ ·) := by
  induction lead with
  | nil => exact (congrFun List.modifyHead_id bytes.lines).symm
  | cons byte lead ih =>
    rw [List.mem_cons, not_or] at h
    rw [List.cons_append, lines_cons, if_neg (Ne.symm h.1), ih h.2, List.modifyHead_modifyHead]
    rfl

theorem exists_lines_eq_cons (bytes : Bytes) : ∃ line rest, bytes.lines = line :: rest :=
  List.exists_cons_of_ne_nil (List.splitOnP_ne_nil _ _)

theorem length_lines (bytes : Bytes) : bytes.lines.length = bytes.count lineFeed + 1 := by
  induction bytes with
  | nil => rfl
  | cons byte bytes ih =>
    by_cases h : byte = lineFeed <;> simp [lines_cons, h, ih]

/-- Every byte of a text is in one of its lines or ends one of them. Only the last line has no line feed
behind it. -/
theorem extent_lines (bytes : Bytes) : extent bytes.lines = bytes.length + 1 := by
  induction bytes with
  | nil => rfl
  | cons byte bytes ih =>
    obtain ⟨line, rest, hlines⟩ := exists_lines_eq_cons bytes
    rw [hlines] at ih
    rw [lines_cons, hlines]
    split
    all_goals
      simp only [extent, List.modifyHead_cons, List.map_cons, List.sum_cons, List.length_cons,
        List.length_nil] at ih ⊢
      omega

/-! ## From points to offsets -/

theorem rowStart_succ {bytes line : Bytes} {row : Nat} (h : bytes.lines[row]? = some line) :
    bytes.rowStart (row + 1) = bytes.rowStart row + (line.length + 1) := by
  rw [rowStart, rowStart, List.take_add_one, h]
  simp [extent]

theorem monotone_rowStart (bytes : Bytes) : Monotone bytes.rowStart := by
  intro first second h
  apply List.Sublist.sum_le_sum
  · exact (List.take_sublist_take_left h).map _
  · exact fun _ _ => Nat.zero_le _

/-- A point lies in front of the row behind its own. -/
theorem offsetOf_lt_rowStart {bytes : Bytes} {point : Point} (h : bytes.HasPoint point) {row : Nat}
    (hrow : point.row < row) : bytes.offsetOf point < bytes.rowStart row := by
  obtain ⟨line, hline, hcolumn⟩ := h
  have hnext := rowStart_succ hline
  have hmono : bytes.rowStart (point.row + 1) ≤ bytes.rowStart row := bytes.monotone_rowStart hrow
  unfold offsetOf
  omega

theorem offsetOf_le_length {bytes : Bytes} {point : Point} (h : bytes.HasPoint point) :
    bytes.offsetOf point ≤ bytes.length := by
  have hrow : point.row < bytes.lines.length := by
    obtain ⟨line, hline, -⟩ := h
    exact (List.getElem?_eq_some_iff.1 hline).1
  have hlast := offsetOf_lt_rowStart h hrow
  rw [rowStart, List.take_length, extent_lines] at hlast
  omega

/-- Points of a text are ordered as the offsets that they name. -/
theorem offsetOf_lt_iff {bytes : Bytes} {first second : Point} (hfirst : bytes.HasPoint first)
    (hsecond : bytes.HasPoint second) :
    bytes.offsetOf first < bytes.offsetOf second ↔ first.key < second.key := by
  rw [Point.key_lt_iff]
  rcases Nat.lt_trichotomy first.row second.row with hrow | hrow | hrow
  · have hlt := offsetOf_lt_rowStart hfirst hrow
    refine iff_of_true (hlt.trans_le ?_) (Or.inl hrow)
    exact Nat.le_add_right _ _
  · simp [offsetOf, hrow]
  · have hlt := offsetOf_lt_rowStart hsecond hrow
    have hle : bytes.rowStart first.row ≤ bytes.offsetOf first := Nat.le_add_right _ _
    omega

theorem offsetOf_injective {bytes : Bytes} {first second : Point} (hfirst : bytes.HasPoint first)
    (hsecond : bytes.HasPoint second) (h : bytes.offsetOf first = bytes.offsetOf second) :
    first = second := by
  apply Point.key_injective
  apply le_antisymm
  · rw [← not_lt, ← offsetOf_lt_iff hsecond hfirst]
    omega
  · rw [← not_lt, ← offsetOf_lt_iff hfirst hsecond]
    omega

/-! ## From offsets to points -/

/-- At the start of a row the lines divide into those in front of it and those behind. -/
theorem lines_at_row {bytes : Bytes} {start : Nat} (hstart : start ≤ bytes.length)
    (hfeed : 0 < start → bytes[start - 1]? = some lineFeed) :
    bytes.lines.drop (bytes.row start) = lines (bytes.drop start) ∧
      bytes.rowStart (bytes.row start) = start := by
  cases start with
  | zero => exact ⟨rfl, rfl⟩
  | succ last =>
    have hbyte : bytes[last]? = some lineFeed := hfeed (Nat.succ_pos last)
    have htake : bytes.take (last + 1) = bytes.take last ++ [lineFeed] := by
      rw [List.take_add_one, hbyte]
      rfl
    have hlines : bytes.lines = lines (bytes.take last) ++ lines (bytes.drop (last + 1)) := by
      rw [← lines_append_lineFeed, ← List.singleton_append, ← List.append_assoc, ← htake,
        List.take_append_drop]
    have hrow : bytes.row (last + 1) = (lines (bytes.take last)).length := by
      rw [row, htake, List.count_append, length_lines]
      rfl
    constructor
    · rw [hlines, hrow, List.drop_left]
    · rw [rowStart, hlines, hrow, List.take_left, extent_lines, List.length_take,
        Nat.min_eq_left (by omega)]

/-- No line feed stands between the start of a line and an offset on it. -/
theorem not_mem_slice_lineStart {bytes : Bytes} {offset : Nat} (h : offset ≤ bytes.length) :
    lineFeed ∉ bytes.slice (bytes.lineStart offset) offset := by
  intro hmem
  obtain ⟨i, hi⟩ := List.mem_iff_getElem?.1 hmem
  rw [getElem?_slice] at hi
  split at hi
  next hlt => exact ne_lineFeed_of_lineStart_le h (Nat.le_add_right _ _) hlt hi
  next => cases hi

theorem row_lineStart {bytes : Bytes} {offset : Nat} (h : offset ≤ bytes.length) :
    bytes.row (bytes.lineStart offset) = bytes.row offset := by
  rw [row, row, take_eq_append bytes (lineStart_le bytes offset), List.count_append,
    List.count_eq_zero.2 (not_mem_slice_lineStart h), Nat.add_zero]

theorem hasPoint_pointAt {bytes : Bytes} {offset : Nat} (h : offset ≤ bytes.length) :
    bytes.HasPoint (bytes.pointAt offset) := by
  have hle := lineStart_le bytes offset
  obtain ⟨hdrop, -⟩ := lines_at_row (hle.trans h) (getElem?_lineStart h)
  obtain ⟨line, rest, hlines⟩ := exists_lines_eq_cons (bytes.drop offset)
  rw [row_lineStart h, drop_eq_append bytes hle, lines_append_of_not_mem (not_mem_slice_lineStart h),
    hlines, List.modifyHead_cons] at hdrop
  refine ⟨bytes.slice (bytes.lineStart offset) offset ++ line, ?_, ?_⟩
  · show bytes.lines[bytes.row offset]? = _
    rw [← List.head?_drop, hdrop, List.head?_cons]
  · show offset - bytes.lineStart offset ≤ _
    rw [List.length_append, slice, List.length_drop, List.length_take, Nat.min_eq_left h]
    exact Nat.le_add_right _ _

theorem offsetOf_pointAt {bytes : Bytes} {offset : Nat} (h : offset ≤ bytes.length) :
    bytes.offsetOf (bytes.pointAt offset) = offset := by
  have hle := lineStart_le bytes offset
  obtain ⟨-, hstart⟩ := lines_at_row (hle.trans h) (getElem?_lineStart h)
  rw [row_lineStart h] at hstart
  show bytes.rowStart (bytes.row offset) + (offset - bytes.lineStart offset) = offset
  rw [hstart, Nat.add_sub_cancel' hle]

theorem pointAt_offsetOf {bytes : Bytes} {point : Point} (h : bytes.HasPoint point) :
    bytes.pointAt (bytes.offsetOf point) = point := by
  have hle := offsetOf_le_length h
  exact offsetOf_injective (hasPoint_pointAt hle) h (offsetOf_pointAt hle)

/-- Every point of a text is the point of exactly one offset up to its length. -/
theorem bijOn_pointAt (bytes : Bytes) :
    Set.BijOn bytes.pointAt (Set.Iic bytes.length) {point | bytes.HasPoint point} := by
  have hinverse : Set.InvOn bytes.offsetOf bytes.pointAt (Set.Iic bytes.length)
      {point | bytes.HasPoint point} :=
    ⟨fun _ h => offsetOf_pointAt h, fun _ h => pointAt_offsetOf h⟩
  exact hinverse.bijOn (fun _ h => hasPoint_pointAt h) (fun _ h => offsetOf_le_length h)

theorem strictMonoOn_pointAt (bytes : Bytes) :
    StrictMonoOn (fun offset => (bytes.pointAt offset).key) (Set.Iic bytes.length) := by
  intro first hfirst second hsecond h
  apply (offsetOf_lt_iff (hasPoint_pointAt hfirst) (hasPoint_pointAt hsecond)).1
  rw [offsetOf_pointAt hfirst, offsetOf_pointAt hsecond]
  exact h

/-- The point of an offset is decided by the bytes in front of it. -/
theorem pointAt_congr {bytes other : Bytes} {offset : Nat}
    (h : other.take offset = bytes.take offset) : other.pointAt offset = bytes.pointAt offset := by
  simp only [pointAt, row, column, lineStart, h]

end Bytes

/-! ## Points under deletion -/

/-- One deletion leaves the offsets and the points of every range that is deleted later. -/
theorem Deletion.of_cut (source : Bytes) {range other : Nat × Nat} (hrange : range.1 ≤ range.2)
    (hother : other.1 ≤ other.2) (hlater : laterFirst range other = true)
    (hseparate : Separate range other) :
    Deletion.of (cut source range) other = Deletion.of source other := by
  -- An empty range may stand inside one that is deleted later, but it changes nothing.
  by_cases hempty : range.1 = range.2
  · rw [cut_of_eq source hempty]
  · have hstop := hseparate.le_of_laterFirst hlater (by omega)
    have hpoint : ∀ offset ≤ other.2,
        (cut source range).pointAt offset = source.pointAt offset := by
      intro offset hoffset
      exact Bytes.pointAt_congr (take_cut source hrange (by omega))
    rw [Deletion.of, Deletion.of, hpoint other.1 hother, hpoint other.2 (Nat.le_refl _)]

theorem deletions_foldl_delete (buffer : Buffer) {ranges : List (Nat × Nat)}
    (hbounds : ∀ range ∈ ranges, range.1 ≤ range.2)
    (hsorted : ranges.Pairwise fun a b => laterFirst a b = true)
    (hseparate : ranges.Pairwise Separate) :
    (ranges.foldl Buffer.delete buffer).deletions =
      buffer.deletions ++ ranges.map (Deletion.of buffer.bytes) := by
  induction ranges generalizing buffer with
  | nil => simp
  | cons range rest ih =>
    rw [List.forall_mem_cons] at hbounds
    rw [List.pairwise_cons] at hsorted hseparate
    -- The rest is deleted from a shorter text, in which it has the points of this one.
    have hrest : rest.map (Deletion.of (cut buffer.bytes range)) =
        rest.map (Deletion.of buffer.bytes) := by
      apply List.map_congr_left
      intro other hmem
      exact Deletion.of_cut buffer.bytes hbounds.1 (hbounds.2 other hmem) (hsorted.1 other hmem)
        (hseparate.1 other hmem)
    rw [List.foldl_cons, ih _ hbounds.2 hsorted.2 hseparate.2]
    show (buffer.deletions ++ [Deletion.of buffer.bytes range]) ++
      rest.map (Deletion.of (cut buffer.bytes range)) = _
    rw [hrest, List.append_assoc, List.singleton_append, List.map_cons]

/-- Separate ranges are deleted at the points that they have in the whole text. -/
theorem deletions_deleteRanges (source : Bytes) {ranges : List (Nat × Nat)}
    (hbounds : ∀ range ∈ ranges, range.1 ≤ range.2) (hseparate : ranges.Pairwise Separate) :
    (deleteRanges source ranges).deletions =
      (ranges.mergeSort laterFirst).map (Deletion.of source) := by
  have hperm := List.mergeSort_perm ranges laterFirst
  apply deletions_foldl_delete ⟨source, []⟩
  · exact fun range hmem => hbounds range (hperm.mem_iff.1 hmem)
  · exact pairwise_laterFirst ranges
  · exact hperm.symm.pairwise hseparate Separate.symm

/-- Offsets and points correspond one to one and in order, and the point of an offset depends only
on what stands before it, so that deletions from the last to the first note the right points. -/
theorem offsets_and_points_correspond (bytes : Bytes) :
    Set.BijOn bytes.pointAt (Set.Iic bytes.length) {point | bytes.HasPoint point} ∧
      (∀ offset ≤ bytes.length, ∀ point : Point,
        bytes.HasPoint point ∧ offset = bytes.offsetOf point ↔ point = bytes.pointAt offset) ∧
      StrictMonoOn (fun offset => (bytes.pointAt offset).key) (Set.Iic bytes.length) ∧
      (∀ (other : Bytes) (offset : Nat), other.take offset = bytes.take offset →
        other.pointAt offset = bytes.pointAt offset) ∧
      ∀ ranges : List (Nat × Nat), (∀ range ∈ ranges, range.1 ≤ range.2) →
        ranges.Pairwise Separate →
        (deleteRanges bytes ranges).deletions =
          (ranges.mergeSort laterFirst).map fun range =>
            { startByte := range.1
              oldEndByte := range.2
              newEndByte := range.1
              startPoint := bytes.pointAt range.1
              oldEndPoint := bytes.pointAt range.2
              newEndPoint := bytes.pointAt range.1 } := by
  refine ⟨bytes.bijOn_pointAt, ?_, bytes.strictMonoOn_pointAt, ?_, ?_⟩
  · intro offset hoffset point
    constructor
    · intro h
      rw [h.2, Bytes.pointAt_offsetOf h.1]
    · intro h
      rw [h]
      exact ⟨Bytes.hasPoint_pointAt hoffset, (Bytes.offsetOf_pointAt hoffset).symm⟩
  · intro other offset h
    exact Bytes.pointAt_congr h
  · intro ranges hbounds hseparate
    exact deletions_deleteRanges bytes hbounds hseparate

/-- A text with an empty line inside and another one at its end. -/
def gappedText : Bytes := utf8 "ab\n\ncd\n"

/-- The end of the text has a row of its own, and a line feed lies on the row that it ends. -/
theorem gappedText_points :
    let ranges := [(1, 3), (6, 7), (3, 4), (4, 4)]
    (gappedText.HasPoint ⟨3, 0⟩ ∧ gappedText.offsetOf ⟨3, 0⟩ = gappedText.length) ∧
      (∀ point, gappedText.HasPoint point → gappedText.offsetOf point = 2 → point = ⟨0, 2⟩) ∧
      (gappedText.pointAt 2).key < (gappedText.pointAt 3).key ∧
      Bytes.pointAt (utf8 "ab\n\n") 4 = gappedText.pointAt 4 ∧
      (ranges.Pairwise fun a b => a.2 ≤ b.1 ∨ b.2 ≤ a.1) ∧
      (deleteRanges gappedText ranges).deletions =
        [⟨6, 7, 6, ⟨2, 2⟩, ⟨3, 0⟩, ⟨2, 2⟩⟩, ⟨4, 4, 4, ⟨2, 0⟩, ⟨2, 0⟩, ⟨2, 0⟩⟩,
          ⟨3, 4, 3, ⟨1, 0⟩, ⟨2, 0⟩, ⟨1, 0⟩⟩, ⟨1, 3, 1, ⟨0, 1⟩, ⟨1, 0⟩, ⟨0, 1⟩⟩] := by
  intro ranges
  have hapart : ranges.Pairwise fun a b => a.2 ≤ b.1 ∨ b.2 ≤ a.1 := by decide
  have hsorted : ranges.mergeSort laterFirst = [(6, 7), (4, 4), (3, 4), (1, 3)] := by cbv
  have hend : (7 : Nat) ≤ gappedText.length := by decide +kernel
  obtain ⟨-, hunique, hmono, hfront, hdeletions⟩ := offsets_and_points_correspond gappedText
  refine ⟨?_, ?_, ?_, ?_, hapart, ?_⟩
  · obtain ⟨hpoint, hoffset⟩ := (hunique 7 hend ⟨3, 0⟩).2 (by decide +kernel)
    exact ⟨hpoint, hoffset.symm⟩
  · intro point hpoint hoffset
    exact ((hunique 2 (by omega) point).1 ⟨hpoint, hoffset.symm⟩).trans (by decide +kernel)
  · exact hmono (show 2 ≤ gappedText.length by omega) (show 3 ≤ gappedText.length by omega)
      (by decide)
  · exact hfront _ 4 (by decide +kernel)
  · rw [hdeletions ranges (by decide) (hapart.imp separate_of_le), hsorted]
    decide +kernel

end Prologue
