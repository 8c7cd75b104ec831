import Prologue.Proofs.Removal

/-!
# Line endings

Lines end at line feeds, and a carriage return in front of a line feed is a blank at the end of its
line. Removal treats a text whose line feeds all have carriage returns in front of them as it treats
the text without them: the ranges of statements are the same but for the returns counted in their
offsets, and what is left is the same but for the returns. A return goes with its line feed or
stays with it.
-/

namespace Prologue

/-- The byte that some texts have in front of every line feed. -/
def carriageReturn : UInt8 := 13

namespace Bytes

/-- A text with a carriage return in front of each of its line feeds. -/
def withReturns (bytes : Bytes) : Bytes :=
  bytes.flatMap fun byte => if byte = lineFeed then [carriageReturn, lineFeed] else [byte]

/-- Where an offset of a text lies in the text with returns: one further for each line feed in front
of it. -/
def shifted (bytes : Bytes) (offset : Nat) : Nat := offset + bytes.row offset

/-- Where a range of a text lies in the text with returns. -/
def shiftedRange (bytes : Bytes) (range : Nat × Nat) : Nat × Nat :=
  (bytes.shifted range.1, bytes.shifted range.2)

/-! ## Texts with returns -/

theorem withReturns_nil : withReturns [] = [] := rfl

theorem withReturns_cons (byte : UInt8) (bytes : Bytes) :
    withReturns (byte :: bytes) =
      (if byte = lineFeed then [carriageReturn, lineFeed] else [byte]) ++ bytes.withReturns :=
  List.flatMap_cons

theorem withReturns_append (first second : Bytes) :
    withReturns (first ++ second) = first.withReturns ++ second.withReturns :=
  List.flatMap_append

/-- A single line stays as it is. -/
theorem withReturns_of_not_mem {bytes : Bytes} (h : lineFeed ∉ bytes) :
    bytes.withReturns = bytes := by
  induction bytes with
  | nil => rfl
  | cons byte bytes ih =>
    rw [List.mem_cons, not_or] at h
    rw [withReturns_cons, if_neg (Ne.symm h.1), ih h.2, List.singleton_append]

theorem withReturns_lineFeed (bytes : Bytes) :
    withReturns (lineFeed :: bytes) = carriageReturn :: lineFeed :: bytes.withReturns := rfl

theorem getLast?_withReturns (bytes : Bytes) : bytes.withReturns.getLast? = bytes.getLast? := by
  rcases List.eq_nil_or_concat bytes with rfl | ⟨front, byte, rfl⟩
  · rfl
  · rw [List.concat_eq_append, withReturns_append, withReturns_cons]
    split
    next h => simp [withReturns_nil, h]
    next h => simp [withReturns_nil]

theorem length_withReturns (bytes : Bytes) :
    bytes.withReturns.length = bytes.length + bytes.count lineFeed := by
  induction bytes with
  | nil => rfl
  | cons byte bytes ih =>
    rw [withReturns_cons, List.length_append, ih, List.length_cons, List.count_cons]
    by_cases h : byte = lineFeed
    · simp only [h, if_true, List.length_cons, List.length_nil, beq_self_eq_true]
      omega
    · simp only [h, if_false, List.length_singleton, beq_iff_eq]
      omega

theorem shifted_of_append {bytes front back : Bytes} {offset : Nat} (h : bytes = front ++ back)
    (hoffset : offset = front.length) : bytes.shifted offset = front.withReturns.length := by
  rw [h, hoffset, shifted, row, List.take_left, length_withReturns]

theorem shifted_eq {bytes : Bytes} {offset : Nat} (h : offset ≤ bytes.length) :
    bytes.shifted offset = (withReturns (bytes.take offset)).length :=
  shifted_of_append (List.take_append_drop offset bytes).symm
    (by rw [List.length_take, Nat.min_eq_left h])

theorem shifted_congr {bytes other : Bytes} {offset : Nat}
    (h : bytes.take offset = other.take offset) : bytes.shifted offset = other.shifted offset := by
  rw [shifted, row, h, shifted, row]

theorem strictMono_shifted (bytes : Bytes) : StrictMono bytes.shifted := by
  intro first second h
  have hrow : bytes.row first ≤ bytes.row second :=
    (List.take_sublist_take_left (Nat.le_of_lt h)).count_le lineFeed
  exact Nat.add_lt_add_of_lt_of_le h hrow

theorem withReturns_split (bytes : Bytes) (offset : Nat) :
    bytes.withReturns = withReturns (bytes.take offset) ++ withReturns (bytes.drop offset) := by
  rw [← withReturns_append, List.take_append_drop]

theorem take_shifted {bytes : Bytes} {offset : Nat} (h : offset ≤ bytes.length) :
    bytes.withReturns.take (bytes.shifted offset) = withReturns (bytes.take offset) := by
  rw [shifted_eq h, bytes.withReturns_split offset, List.take_left]

theorem drop_shifted {bytes : Bytes} {offset : Nat} (h : offset ≤ bytes.length) :
    bytes.withReturns.drop (bytes.shifted offset) = withReturns (bytes.drop offset) := by
  rw [shifted_eq h, bytes.withReturns_split offset, List.drop_left]

/-! ## The line around an offset -/

/-- The first line of a text and what is left of the text. -/
theorem exists_line (bytes : Bytes) :
    ∃ line rest : Bytes, bytes = line ++ rest ∧ lineFeed ∉ line ∧
      ∀ byte ∈ rest.head?, byte = lineFeed := by
  refine ⟨bytes.takeWhile (· != lineFeed), bytes.dropWhile (· != lineFeed),
    List.takeWhile_append_dropWhile.symm, fun hmem => ?_, fun byte hbyte => ?_⟩
  · simpa using List.all_eq_true.1 List.all_takeWhile lineFeed hmem
  · have hstop := List.head?_dropWhile_not (· != lineFeed) bytes
    rw [Option.mem_def.1 hbyte] at hstop
    simpa using hstop

theorem takeWhile_line {line rest : Bytes} (hline : lineFeed ∉ line)
    (hrest : ∀ byte ∈ rest.head?, byte = lineFeed) :
    (line ++ rest).takeWhile (· != lineFeed) = line := by
  rw [List.takeWhile_append_of_pos]
  · cases rest with
    | nil => simp
    | cons byte rest => simp [hrest byte rfl]
  · intro byte hmem
    rw [bne_iff_ne]
    rintro rfl
    exact hline hmem

theorem slice_append (front middle back : Bytes) :
    slice (front ++ (middle ++ back)) front.length (front.length + middle.length) = middle := by
  rw [slice, ← List.append_assoc, ← List.length_append, List.take_left, List.drop_left]

theorem lineStart_append {front lead : Bytes} (hfront : ∀ byte ∈ front.getLast?, byte = lineFeed)
    (hlead : lineFeed ∉ lead) (behind : Bytes) :
    lineStart (front ++ (lead ++ behind)) (front.length + lead.length) = front.length := by
  have hbefore : (front ++ (lead ++ behind)).take (front.length + lead.length) = front ++ lead := by
    rw [← List.append_assoc, ← List.length_append, List.take_left]
  have hback : (front ++ lead).reverse.takeWhile (· != lineFeed) = lead.reverse := by
    rw [List.reverse_append]
    refine takeWhile_line (by simpa using hlead) ?_
    rwa [List.head?_reverse]
  simp only [lineStart, hbefore, hback, List.length_append, List.length_reverse]
  omega

theorem lineStop_append {trail rest : Bytes} (htrail : lineFeed ∉ trail)
    (hrest : ∀ byte ∈ rest.head?, byte = lineFeed) (before : Bytes) :
    lineStop (before ++ (trail ++ rest)) before.length = before.length + trail.length := by
  rw [lineStop_eq (by simp), List.drop_left, takeWhile_line htrail hrest]

end Bytes

/-! ## Excerpts -/

/-- A text around a part of it: the lines in front, what leads to the part on its first line, the part,
what trails behind it on its last line, and the rest from the line feed on. -/
structure Excerpt where
  front : Bytes
  lead : Bytes
  part : Bytes
  trail : Bytes
  rest : Bytes
  front_ends : ∀ byte ∈ front.getLast?, byte = lineFeed
  lead_plain : lineFeed ∉ lead
  trail_plain : lineFeed ∉ trail
  rest_starts : ∀ byte ∈ rest.head?, byte = lineFeed

namespace Excerpt

def text (excerpt : Excerpt) : Bytes :=
  excerpt.front ++ (excerpt.lead ++ (excerpt.part ++ (excerpt.trail ++ excerpt.rest)))

def start (excerpt : Excerpt) : Nat := excerpt.front.length + excerpt.lead.length

def stop (excerpt : Excerpt) : Nat := excerpt.start + excerpt.part.length

/-- Where the lines of the part end, with the line feed of the last one. -/
def lineEnd (excerpt : Excerpt) : Nat :=
  excerpt.stop + excerpt.trail.length + min 1 excerpt.rest.length

/-- Whether only blanks share the lines of the part. -/
def isAlone (excerpt : Excerpt) : Bool :=
  excerpt.lead.all Text.isBlankByte && excerpt.trail.all Text.isBlankByte

theorem exists_of_le {source : Bytes} {start stop : Nat} (hle : start ≤ stop)
    (hstop : stop ≤ source.length) :
    ∃ excerpt : Excerpt, excerpt.text = source ∧ excerpt.start = start ∧ excerpt.stop = stop := by
  obtain ⟨trail, rest, hbehind, htrail, hrest⟩ := Bytes.exists_line (source.drop stop)
  -- The line in front is read backwards.
  obtain ⟨back, above, hbefore, hback, habove⟩ := Bytes.exists_line (source.take start).reverse
  have hfront : source.take start = above.reverse ++ back.reverse := by
    rw [← List.reverse_append, ← hbefore, List.reverse_reverse]
  have hlength : above.length + back.length = start := by
    have hcount := congrArg List.length hfront
    simp only [List.length_take, List.length_append, List.length_reverse] at hcount
    omega
  refine ⟨⟨above.reverse, back.reverse, source.slice start stop, trail, rest, ?_, ?_, htrail, hrest⟩,
    ?_, ?_, ?_⟩
  · rwa [List.getLast?_reverse]
  · rwa [List.mem_reverse]
  · rw [text, ← hbehind, ← List.append_assoc, ← hfront, Bytes.append_slice_drop source hle]
  · rw [Excerpt.start, List.length_reverse, List.length_reverse, hlength]
  · simp only [Excerpt.stop, Excerpt.start, List.length_reverse, hlength, Bytes.slice,
      List.length_drop, List.length_take]
    omega

/-- The range of a part, read off its excerpt. -/
theorem removalRange_eq (excerpt : Excerpt) :
    removalRange excerpt.text excerpt.start excerpt.stop =
      if excerpt.isAlone then (excerpt.front.length, excerpt.lineEnd)
      else (excerpt.start, excerpt.stop) := by
  obtain ⟨front, lead, part, trail, rest, hfront, hlead, htrail, hrest⟩ := excerpt
  have hbefore : front ++ (lead ++ (part ++ (trail ++ rest))) =
      (front ++ (lead ++ part)) ++ (trail ++ rest) := by simp only [List.append_assoc]
  have hstop : front.length + lead.length + part.length = (front ++ (lead ++ part)).length := by
    simp only [List.length_append, Nat.add_assoc]
  have hlineStart := Bytes.lineStart_append hfront hlead (part ++ (trail ++ rest))
  have hlineStop := Bytes.lineStop_append htrail hrest (front ++ (lead ++ part))
  rw [← hbefore, ← hstop] at hlineStop
  have hleads := Bytes.slice_append front lead (part ++ (trail ++ rest))
  have htrails := Bytes.slice_append (front ++ (lead ++ part)) trail rest
  rw [← hbefore, ← hstop] at htrails
  have hend : min (front.length + lead.length + part.length + trail.length + 1)
      (front ++ (lead ++ (part ++ (trail ++ rest)))).length =
      front.length + lead.length + part.length + trail.length + min 1 rest.length := by
    simp only [List.length_append]
    omega
  simp only [removalRange, text, start, stop, lineEnd, isAlone, hlineStart, hlineStop, hleads,
    htrails, hend]
  rfl

theorem rest_cases (excerpt : Excerpt) :
    excerpt.rest = [] ∨ ∃ more, excerpt.rest = lineFeed :: more := by
  cases h : excerpt.rest with
  | nil => exact .inl rfl
  | cons byte more =>
    have hbyte := excerpt.rest_starts byte (by rw [h]; rfl)
    exact .inr ⟨more, by rw [hbyte]⟩

/-- The excerpt with returns. The return in front of the last line's feed trails behind the part. -/
def withReturns (excerpt : Excerpt) : Excerpt where
  front := excerpt.front.withReturns
  lead := excerpt.lead
  part := excerpt.part.withReturns
  trail := excerpt.trail ++ excerpt.rest.withReturns.take 1
  rest := excerpt.rest.withReturns.drop 1
  front_ends := by
    rw [Bytes.getLast?_withReturns]
    exact excerpt.front_ends
  lead_plain := excerpt.lead_plain
  trail_plain := by
    rw [List.mem_append, not_or]
    refine ⟨excerpt.trail_plain, ?_⟩
    rcases excerpt.rest_cases with h | ⟨more, h⟩
    · simp [h, Bytes.withReturns_nil]
    · rw [h, Bytes.withReturns_lineFeed, List.take_succ_cons, List.take_zero]
      decide
  rest_starts := by
    rcases excerpt.rest_cases with h | ⟨more, h⟩
    · simp [h, Bytes.withReturns_nil]
    · simp [h, Bytes.withReturns_lineFeed]

theorem text_withReturns (excerpt : Excerpt) :
    excerpt.withReturns.text = excerpt.text.withReturns := by
  simp only [text, withReturns, Bytes.withReturns_append, List.append_assoc,
    List.take_append_drop, Bytes.withReturns_of_not_mem excerpt.lead_plain,
    Bytes.withReturns_of_not_mem excerpt.trail_plain]

theorem isAlone_withReturns (excerpt : Excerpt) : excerpt.withReturns.isAlone = excerpt.isAlone := by
  have hreturn : (excerpt.rest.withReturns.take 1).all Text.isBlankByte = true := by
    rcases excerpt.rest_cases with h | ⟨more, h⟩
    · rw [h]
      rfl
    · rw [h]
      rfl
  simp only [isAlone, withReturns, List.all_append, hreturn, Bool.and_true]

theorem front_length_withReturns (excerpt : Excerpt) :
    excerpt.withReturns.front.length = excerpt.text.shifted excerpt.front.length :=
  (Bytes.shifted_of_append rfl rfl).symm

theorem start_withReturns (excerpt : Excerpt) :
    excerpt.withReturns.start = excerpt.text.shifted excerpt.start := by
  have hsplit : excerpt.text = (excerpt.front ++ excerpt.lead) ++
      (excerpt.part ++ (excerpt.trail ++ excerpt.rest)) := by simp only [text, List.append_assoc]
  have hlength : excerpt.start = (excerpt.front ++ excerpt.lead).length := List.length_append.symm
  rw [Bytes.shifted_of_append hsplit hlength, Bytes.withReturns_append, List.length_append,
    Bytes.withReturns_of_not_mem excerpt.lead_plain]
  rfl

theorem stop_withReturns (excerpt : Excerpt) :
    excerpt.withReturns.stop = excerpt.text.shifted excerpt.stop := by
  have hsplit : excerpt.text = (excerpt.front ++ (excerpt.lead ++ excerpt.part)) ++
      (excerpt.trail ++ excerpt.rest) := by simp only [text, List.append_assoc]
  have hlength : excerpt.stop = (excerpt.front ++ (excerpt.lead ++ excerpt.part)).length := by
    simp only [stop, start, List.length_append, Nat.add_assoc]
  rw [Bytes.shifted_of_append hsplit hlength, Bytes.withReturns_append, Bytes.withReturns_append,
    Bytes.withReturns_of_not_mem excerpt.lead_plain]
  simp only [stop, start, withReturns, List.length_append, Nat.add_assoc]

/-- The last line feed of the part's lines takes its return with it. -/
theorem lineEnd_withReturns (excerpt : Excerpt) :
    excerpt.withReturns.lineEnd = excerpt.text.shifted excerpt.lineEnd := by
  have hsplit : excerpt.text = (excerpt.front ++ (excerpt.lead ++ (excerpt.part ++
      (excerpt.trail ++ excerpt.rest.take 1)))) ++ excerpt.rest.drop 1 := by
    simp only [text, List.append_assoc, List.take_append_drop]
  have hlength : excerpt.lineEnd = (excerpt.front ++ (excerpt.lead ++ (excerpt.part ++
      (excerpt.trail ++ excerpt.rest.take 1)))).length := by
    simp only [lineEnd, stop, start, List.length_append, List.length_take, Nat.add_assoc]
  have hfeed : (Bytes.withReturns (excerpt.rest.take 1)).length =
      (excerpt.rest.withReturns.take 1).length + min 1 (excerpt.rest.withReturns.drop 1).length := by
    rcases excerpt.rest_cases with h | ⟨more, h⟩
    · rw [h]
      rfl
    · simp [h, Bytes.withReturns_lineFeed, Bytes.withReturns_nil]
  rw [Bytes.shifted_of_append hsplit hlength]
  simp only [Bytes.withReturns_append, Bytes.withReturns_of_not_mem excerpt.lead_plain,
    Bytes.withReturns_of_not_mem excerpt.trail_plain, List.length_append, hfeed, lineEnd, stop, start,
    withReturns, Nat.add_assoc]

end Excerpt

/-! ## Ranges and cuts -/

/-- The range of a statement is the same in the text with returns, but for its offsets. -/
theorem removalRange_withReturns {source : Bytes} {start stop : Nat} (hle : start ≤ stop)
    (hstop : stop ≤ source.length) :
    removalRange source.withReturns (source.shifted start) (source.shifted stop) =
      source.shiftedRange (removalRange source start stop) := by
  obtain ⟨excerpt, rfl, rfl, rfl⟩ := Excerpt.exists_of_le hle hstop
  rw [← excerpt.text_withReturns, ← excerpt.start_withReturns, ← excerpt.stop_withReturns,
    excerpt.withReturns.removalRange_eq, excerpt.removalRange_eq, excerpt.isAlone_withReturns,
    Bytes.shiftedRange]
  split
  · rw [excerpt.front_length_withReturns, excerpt.lineEnd_withReturns]
  · rw [excerpt.start_withReturns, excerpt.stop_withReturns]

theorem cut_withReturns {source : Bytes} {range : Nat × Nat} (hle : range.1 ≤ range.2)
    (hstop : range.2 ≤ source.length) :
    cut source.withReturns (source.shiftedRange range) = Bytes.withReturns (cut source range) := by
  rw [cut, cut, Bytes.shiftedRange, Bytes.take_shifted (Nat.le_trans hle hstop),
    Bytes.drop_shifted hstop, Bytes.withReturns_append]

/-- A cut leaves the offsets in front of it where they were. -/
theorem shiftedRange_cut {source : Bytes} {range other : Nat × Nat}
    (hrange : range.1 ≤ range.2) (hle : other.1 ≤ other.2) (hbefore : other.2 ≤ range.1) :
    Bytes.shiftedRange (cut source range) other = source.shiftedRange other := by
  rw [Bytes.shiftedRange, Bytes.shiftedRange, Bytes.shifted_congr (take_cut source hrange hbefore),
    Bytes.shifted_congr (take_cut source hrange (Nat.le_trans hle hbefore))]

/-- Cuts from the last to the first keep step with those in the text with returns. -/
theorem foldl_cut_withReturns (source : Bytes) (ranges : List (Nat × Nat))
    (hbounds : ∀ range ∈ ranges, range.1 ≤ range.2 ∧ range.2 ≤ source.length)
    (horder : ranges.Pairwise fun later earlier => earlier.2 ≤ later.1) :
    (ranges.map source.shiftedRange).foldl cut source.withReturns =
      Bytes.withReturns (ranges.foldl cut source) := by
  induction ranges generalizing source with
  | nil => rfl
  | cons range rest ih =>
    rw [List.forall_mem_cons] at hbounds
    rw [List.pairwise_cons] at horder
    obtain ⟨⟨hle, hstop⟩, hrest⟩ := hbounds
    have hmap : rest.map source.shiftedRange = rest.map (Bytes.shiftedRange (cut source range)) := by
      apply List.map_congr_left
      intro other hother
      exact (shiftedRange_cut hle (hrest other hother).1 (horder.1 other hother)).symm
    rw [List.map_cons, List.foldl_cons, List.foldl_cons, cut_withReturns hle hstop, hmap]
    refine ih (cut source range) (fun other hother => ⟨(hrest other hother).1, ?_⟩) horder.2
    have hbefore := horder.1 other hother
    simp only [cut, List.length_append, List.length_take]
    omega

/-- Of two disjoint ranges the one that is cut first lies behind the other one. -/
theorem le_of_laterFirst {a b : Nat × Nat} (hlater : laterFirst a b = true) (ha : a.1 ≤ a.2)
    (hapart : a.2 ≤ b.1 ∨ b.2 ≤ a.1) : b.2 ≤ a.1 := by
  simp only [laterFirst, Bool.or_eq_true, Bool.and_eq_true, decide_eq_true_eq] at hlater
  omega

theorem laterFirst_shiftedRange (source : Bytes) (a b : Nat × Nat) :
    laterFirst (source.shiftedRange a) (source.shiftedRange b) = laterFirst a b := by
  have hmono := source.strictMono_shifted
  simp only [laterFirst, Bytes.shiftedRange, hmono.lt_iff_lt, hmono.le_iff_le, hmono.injective.eq_iff]

theorem removeRanges_withReturns (source : Bytes) {ranges : List (Nat × Nat)}
    (hbounds : ∀ range ∈ ranges, range.1 ≤ range.2 ∧ range.2 ≤ source.length)
    (hapart : ranges.Pairwise fun a b => a.2 ≤ b.1 ∨ b.2 ≤ a.1) :
    removeRanges source.withReturns (ranges.map source.shiftedRange) =
      Bytes.withReturns (removeRanges source ranges) := by
  have hperm := List.mergeSort_perm ranges laterFirst
  have hsorted : (ranges.map source.shiftedRange).mergeSort laterFirst =
      (ranges.mergeSort laterFirst).map source.shiftedRange :=
    (List.map_mergeSort fun a _ b _ => (laterFirst_shiftedRange source a b).symm).symm
  have hboth := (pairwise_laterFirst ranges).and (hperm.symm.pairwise hapart Or.symm)
  rw [removeRanges_eq_foldl, removeRanges_eq_foldl, hsorted, foldl_cut_withReturns]
  · exact fun range hmem => hbounds range (hperm.mem_iff.1 hmem)
  · refine hboth.imp_of_mem ?_
    rintro a b ha - ⟨hlater, hdisjoint⟩
    exact le_of_laterFirst hlater (hbounds a (hperm.mem_iff.1 ha)).1 hdisjoint

/-- With a return in front of every line feed, the range of each statement moves with its offsets,
and what is left without the ranges is what was left before, with returns. -/
theorem removal_ignores_line_endings (source : Bytes) {spans : List (Nat × Nat)}
    (hspans : ∀ span ∈ spans, span.1 < span.2 ∧ source.isSolid span.1 = true ∧
      source.isSolid (span.2 - 1) = true)
    (hapart : spans.Pairwise fun a b => a.2 ≤ b.1 ∨ b.2 ≤ a.1) :
    (∀ span ∈ spans,
      removalRange source.withReturns (source.shifted span.1) (source.shifted span.2) =
        source.shiftedRange (removalRange source span.1 span.2)) ∧
    removeRanges source.withReturns (spans.map fun span =>
        removalRange source.withReturns (source.shifted span.1) (source.shifted span.2)) =
      Bytes.withReturns (removeRanges source (spans.map fun span =>
        removalRange source span.1 span.2)) := by
  have hwithin : ∀ span ∈ spans, span.2 ≤ source.length := by
    intro span hspan
    have hlast := Bytes.lt_length_of_isSolid (hspans span hspan).2.2
    omega
  have hranges : ∀ span ∈ spans,
      removalRange source.withReturns (source.shifted span.1) (source.shifted span.2) =
        source.shiftedRange (removalRange source span.1 span.2) := fun span hspan =>
    removalRange_withReturns (Nat.le_of_lt (hspans span hspan).1) (hwithin span hspan)
  have hdisjoint : (spans.map fun span => removalRange source span.1 span.2).Pairwise
      fun a b => a.2 ≤ b.1 ∨ b.2 ≤ a.1 := by
    rw [List.pairwise_map]
    refine hapart.imp_of_mem fun {a b} ha hb hab => ?_
    obtain ⟨hproper, hfirst, hlast⟩ := hspans a ha
    obtain ⟨hproper', hfirst', hlast'⟩ := hspans b hb
    exact removalRange_apart (Nat.le_of_lt hproper) (Nat.le_of_lt hproper') (hwithin a ha)
      (hwithin b hb) hfirst hfirst' (Bytes.endsSolid_of_isSolid hproper hlast)
      (Bytes.endsSolid_of_isSolid hproper' hlast') hab
  have hmoved : (spans.map fun span =>
      removalRange source.withReturns (source.shifted span.1) (source.shifted span.2)) =
      (spans.map fun span => removalRange source span.1 span.2).map source.shiftedRange := by
    rw [List.map_map]
    exact List.map_congr_left hranges
  refine ⟨hranges, ?_⟩
  rw [hmoved]
  apply removeRanges_withReturns source _ hdisjoint
  rw [List.forall_mem_map]
  intro span hspan
  have hproper := (hspans span hspan).1
  have hbounds := removalRange_bounds (Nat.le_of_lt hproper) (hwithin span hspan)
  omega

/-- A string on a line of its own, one that shares its line, and one at the end of the text. -/
theorem three_strings_removed :
    let source := utf8 "f()\n  'x' \n'y' g\n 'z'"
    let spans := [(18, 21), (6, 9), (11, 14)]
    (∀ span ∈ spans, span.1 < span.2 ∧ source.isSolid span.1 = true ∧
      source.isSolid (span.2 - 1) = true) ∧
    source.withReturns = utf8 "f()\r\n  'x' \r\n'y' g\r\n 'z'" ∧
    removeRanges source.withReturns (spans.map fun span =>
        removalRange source.withReturns (source.shifted span.1) (source.shifted span.2)) =
      utf8 "f()\r\n g\r\n" := by
  intro source spans
  have hspans : ∀ span ∈ spans, span.1 < span.2 ∧ source.isSolid span.1 = true ∧
      source.isSolid (span.2 - 1) = true := by decide +kernel
  have hranges : (spans.map fun span => removalRange source span.1 span.2) =
      [(17, 21), (4, 11), (11, 14)] := by decide +kernel
  have happart : [(17, 21), (4, 11), (11, 14)].Pairwise fun a b => a.2 ≤ b.1 ∨ b.2 ≤ a.1 := by
    decide
  have hleft := (removal_ignores_line_endings source hspans (by decide)).2
  rw [hranges, removeRanges_eq_keep _ _ (by decide) (happart.imp separate_of_le)] at hleft
  refine ⟨hspans, by decide +kernel, hleft.trans ?_⟩
  decide +kernel

end Prologue
