import Mathlib.Data.List.Basic
import Mathlib.Data.List.Pairwise
import Prologue.Directive.Removal

/-!
# Deletion of ranges

Ranges are cut out one after the other, from the last to the first. If no two of them share an offset,
the outcome is that of deleting all their offsets at once. An empty range deletes nothing, wherever it
lies, and a range may reach beyond the end of the text.
-/

namespace Prologue

namespace Bytes

/-- The bytes at the offsets that pass a test, in order. -/
def keep (bytes : Bytes) (test : Nat → Bool) : Bytes :=
  (bytes.zipIdx.filter fun (_, offset) => test offset).map (·.1)

theorem keep_append (first second : Bytes) (test : Nat → Bool) :
    (first ++ second).keep test =
      first.keep test ++ second.keep fun offset => test (first.length + offset) := by
  have hsecond : ∀ k, second.zipIdx k = second.zipIdx.map fun (byte, i) => (byte, k + i) := by
    intro k
    rw [List.zipIdx_eq_map_add]
  rw [keep, List.zipIdx_append, List.filter_append, List.map_append, hsecond, List.filter_map,
    List.map_map]
  simp [keep, Function.comp_def]

theorem keep_congr {bytes : Bytes} {test test' : Nat → Bool}
    (h : ∀ offset < bytes.length, test offset = test' offset) :
    bytes.keep test = bytes.keep test' := by
  unfold keep
  congr 1
  apply List.filter_congr
  rintro ⟨byte, offset⟩ hmem
  exact h offset (by simpa using List.snd_lt_of_mem_zipIdx hmem)

theorem keep_all {bytes : Bytes} {test : Nat → Bool}
    (h : ∀ offset < bytes.length, test offset = true) : bytes.keep test = bytes := by
  have hall : (bytes.zipIdx.filter fun (_, offset) => test offset) = bytes.zipIdx := by
    rw [List.filter_eq_self]
    rintro ⟨byte, offset⟩ hmem
    exact h offset (by simpa using List.snd_lt_of_mem_zipIdx hmem)
  rw [keep, hall, List.zipIdx_map_fst]

theorem keep_none {bytes : Bytes} {test : Nat → Bool}
    (h : ∀ offset < bytes.length, test offset = false) : bytes.keep test = [] := by
  rw [keep, List.map_eq_nil_iff, List.filter_eq_nil_iff]
  rintro ⟨byte, offset⟩ hmem
  simp [h offset (by simpa using List.snd_lt_of_mem_zipIdx hmem)]

theorem keep_sublist_keep {bytes : Bytes} {test test' : Nat → Bool}
    (h : ∀ offset, test offset = true → test' offset = true) :
    (bytes.keep test).Sublist (bytes.keep test') := by
  apply List.Sublist.map
  apply List.monotone_filter_right
  exact fun entry => h entry.2

theorem slice_self (bytes : Bytes) (offset : Nat) : bytes.slice offset offset = [] := by
  rw [slice, List.drop_take, Nat.sub_self, List.take_zero]

theorem drop_eq_append (bytes : Bytes) {start stop : Nat} (h : start ≤ stop) :
    bytes.drop start = bytes.slice start stop ++ bytes.drop stop := by
  have hdrop : bytes.drop stop = (bytes.drop start).drop (stop - start) := by
    rw [List.drop_drop, Nat.add_sub_cancel' h]
  rw [slice, List.drop_take, hdrop, List.take_append_drop]

theorem take_eq_append (bytes : Bytes) {start stop : Nat} (h : start ≤ stop) :
    bytes.take stop = bytes.take start ++ bytes.slice start stop := by
  conv => lhs; rw [← List.take_append_drop start (bytes.take stop)]
  rw [List.take_take, Nat.min_eq_left h]
  rfl

theorem append_slice_drop (bytes : Bytes) {start stop : Nat} (h : start ≤ stop) :
    bytes.take start ++ (bytes.slice start stop ++ bytes.drop stop) = bytes := by
  rw [← drop_eq_append bytes h, List.take_append_drop]

/-- What is kept of a text from an offset on. -/
def keepFrom (bytes : Bytes) (test : Nat → Bool) (offset : Nat) : Bytes :=
  keep (bytes.drop offset) fun i => test (offset + i)

theorem keepFrom_zero (bytes : Bytes) (test : Nat → Bool) :
    bytes.keepFrom test 0 = bytes.keep test := by
  simp only [keepFrom, List.drop_zero, Nat.zero_add]

theorem keepFrom_eq (bytes : Bytes) (test : Nat → Bool) {start stop : Nat} (h : start ≤ stop) :
    bytes.keepFrom test start =
      ((bytes.slice start stop).keep fun i => test (start + i)) ++ bytes.keepFrom test stop := by
  rw [keepFrom, drop_eq_append bytes h, keep_append, keepFrom]
  by_cases hstop : stop ≤ bytes.length
  · congr 2
    funext i
    rw [slice, List.length_drop, List.length_take]
    congr 1
    omega
  · rw [List.drop_eq_nil_of_le (by omega)]
    rfl

theorem keepFrom_eq_drop {bytes : Bytes} {test : Nat → Bool} {offset : Nat}
    (h : ∀ q, offset ≤ q → test q = true) : bytes.keepFrom test offset = bytes.drop offset :=
  keep_all fun i _ => h (offset + i) (Nat.le_add_right _ _)

/-- A piece of which all is kept. -/
theorem keepFrom_eq_append {bytes : Bytes} {test : Nat → Bool} {start stop : Nat}
    (hle : start ≤ stop) (h : ∀ q, start ≤ q → q < stop → test q = true) :
    bytes.keepFrom test start = bytes.slice start stop ++ bytes.keepFrom test stop := by
  rw [keepFrom_eq bytes test hle, keep_all]
  intro i hi
  rw [slice, List.length_drop, List.length_take] at hi
  exact h (start + i) (by omega) (by omega)

/-- A piece of which nothing is kept. -/
theorem keepFrom_of_none {bytes : Bytes} {test : Nat → Bool} {start stop : Nat}
    (hle : start ≤ stop) (h : ∀ q, start ≤ q → q < stop → test q = false) :
    bytes.keepFrom test start = bytes.keepFrom test stop := by
  rw [keepFrom_eq bytes test hle, keep_none, List.nil_append]
  intro i hi
  rw [slice, List.length_drop, List.length_take] at hi
  exact h (start + i) (by omega) (by omega)

/-- Where an offset stands among what is kept. -/
def keptBefore (bytes : Bytes) (test : Nat → Bool) (offset : Nat) : Nat :=
  (keep (bytes.take offset) test).length

theorem drop_keptBefore (bytes : Bytes) (test : Nat → Bool) (offset : Nat) :
    (bytes.keep test).drop (bytes.keptBefore test offset) = bytes.keepFrom test offset := by
  rw [← keepFrom_zero, keepFrom_eq bytes test (Nat.zero_le offset), keptBefore, slice,
    List.drop_zero]
  simp only [Nat.zero_add]
  exact List.drop_left

theorem keptBefore_add (bytes : Bytes) (test : Nat → Bool) {start stop : Nat} (h : start ≤ stop) :
    bytes.keptBefore test start +
        ((bytes.slice start stop).keep fun i => test (start + i)).length =
      bytes.keptBefore test stop := by
  rw [keptBefore, keptBefore, take_eq_append bytes h, keep_append, List.length_append]
  by_cases hstart : start ≤ bytes.length
  · rw [List.length_take, Nat.min_eq_left hstart]
  · have hnil : bytes.slice start stop = [] :=
      List.drop_eq_nil_of_le (by rw [List.length_take]; omega)
    rw [hnil]
    rfl

/-- A piece of which all is kept stays in one piece. -/
theorem slice_infix_keep {bytes : Bytes} {start stop : Nat} {test : Nat → Bool} (hle : start ≤ stop)
    (h : ∀ offset, start ≤ offset → offset < stop → test offset = true) :
    bytes.slice start stop <:+: bytes.keep test := by
  conv => rhs; rw [← append_slice_drop bytes hle]
  have hmiddle : ((bytes.slice start stop).keep fun offset =>
      test ((bytes.take start).length + offset)) = bytes.slice start stop := by
    apply keep_all
    intro offset hoffset
    simp only [slice, List.length_drop, List.length_take] at hoffset ⊢
    exact h _ (by omega) (by omega)
  rw [keep_append, keep_append, hmiddle]
  exact ⟨_, _, List.append_assoc _ _ _⟩

end Bytes

/-- Whether an offset lies in a range. -/
def covers (range : Nat × Nat) (offset : Nat) : Bool := range.1 ≤ offset && offset < range.2

/-- No offset lies in both ranges. -/
def Separate (a b : Nat × Nat) : Prop :=
  ∀ offset, covers a offset = true → covers b offset = false

theorem Separate.symm {a b : Nat × Nat} (h : Separate a b) : Separate b a := by
  intro offset hb
  cases ha : covers a offset with
  | false => rfl
  | true => rw [h offset ha] at hb; cases hb

theorem separate_of_le {a b : Nat × Nat} (h : a.2 ≤ b.1 ∨ b.2 ≤ a.1) : Separate a b := by
  intro offset
  simp only [covers, Bool.and_eq_true, decide_eq_true_eq, Bool.and_eq_false_iff,
    decide_eq_false_iff_not]
  omega

/-- Cutting an empty range changes nothing. -/
theorem cut_of_eq (source : Bytes) {range : Nat × Nat} (h : range.1 = range.2) :
    cut source range = source := by
  rw [cut, h, List.take_append_drop]

/-- A cut leaves what stands in front of it. -/
theorem take_cut (source : Bytes) {range : Nat × Nat} (hrange : range.1 ≤ range.2) {offset : Nat}
    (h : offset ≤ range.1) : (cut source range).take offset = source.take offset := by
  rw [cut, List.take_append, List.take_take, Nat.min_eq_left h, List.length_take]
  rcases Nat.le_total range.2 source.length with hwithin | hbeyond
  · rw [show offset - min range.1 source.length = 0 by omega, List.take_zero, List.append_nil]
  · rw [List.drop_eq_nil_of_le hbeyond, List.take_nil, List.append_nil]

/-- Of two separate ranges, the one that is cut later ends no later than the other starts, unless the
other is empty. -/
theorem Separate.le_of_laterFirst {range other : Nat × Nat} (hseparate : Separate range other)
    (hlater : laterFirst range other) (hproper : range.1 < range.2) : other.2 ≤ range.1 := by
  have hstart : other.1 ≤ range.1 := by
    simp only [laterFirst, Bool.or_eq_true, Bool.and_eq_true, decide_eq_true_eq] at hlater
    omega
  have hfirst := hseparate range.1 (by simp [covers, hproper])
  simp only [covers, Bool.and_eq_false_iff, decide_eq_false_iff_not] at hfirst
  omega

/-- A range that is cut early leaves the offsets in front of it where they were. Those behind it move,
but a range that starts no later and shares no offset with it covers none of them. -/
theorem covers_eq_false_of_laterFirst {range other : Nat × Nat} (hlater : laterFirst range other)
    (hseparate : Separate range other) (hproper : range.1 < range.2) {offset : Nat}
    (hoffset : range.1 ≤ offset) : covers other offset = false := by
  have hstop := hseparate.le_of_laterFirst hlater hproper
  simp only [covers, Bool.and_eq_false_iff, decide_eq_false_iff_not]
  omega

/-- Deleting the offsets of a range and further ones in front of it. -/
theorem keep_eq_of_covers (source : Bytes) {range : Nat × Nat} (hproper : range.1 < range.2)
    {test : Nat → Bool} (hbehind : ∀ offset, range.1 ≤ offset → test offset = true) :
    (source.keep fun offset => !covers range offset && test offset) =
      (cut source range).keep test := by
  have hfront : (Bytes.keep (source.take range.1) fun offset =>
      !covers range offset && test offset) = Bytes.keep (source.take range.1) test := by
    apply Bytes.keep_congr
    intro offset hoffset
    rw [List.length_take] at hoffset
    have hnone : covers range offset = false := by
      simp only [covers, Bool.and_eq_false_iff, decide_eq_false_iff_not]
      omega
    simp [hnone]
  have hmiddle : ((source.slice range.1 range.2).keep fun offset =>
      !covers range ((source.take range.1).length + offset) &&
        test ((source.take range.1).length + offset)) = [] := by
    apply Bytes.keep_none
    intro offset hoffset
    rw [Bytes.slice, List.length_drop, List.length_take] at hoffset
    have hcovered : covers range ((source.take range.1).length + offset) = true := by
      simp only [covers, List.length_take, Bool.and_eq_true, decide_eq_true_eq]
      omega
    rw [hcovered, Bool.not_true, Bool.false_and]
  rw [cut, Bytes.keep_append]
  conv => lhs; rw [← source.append_slice_drop (Nat.le_of_lt hproper)]
  rw [Bytes.keep_append, Bytes.keep_append, hfront, hmiddle, List.nil_append]
  congr 1
  apply Bytes.keep_congr
  intro offset hoffset
  -- Here the text reaches beyond the range, so both parts in front have their full lengths.
  simp only [Bytes.slice, List.length_drop, List.length_take] at hoffset ⊢
  rw [hbehind _ (by omega), hbehind _ (by omega)]
  simp only [covers, Bool.and_true, Bool.not_eq_true', Bool.and_eq_false_iff,
    decide_eq_false_iff_not]
  omega

theorem foldl_cut_eq_keep (source : Bytes) (ranges : List (Nat × Nat))
    (hbounds : ∀ range ∈ ranges, range.1 ≤ range.2)
    (hsorted : ranges.Pairwise fun a b => laterFirst a b = true)
    (hseparate : ranges.Pairwise Separate) :
    ranges.foldl cut source =
      source.keep fun offset => !ranges.any fun range => covers range offset := by
  induction ranges generalizing source with
  | nil => simp [Bytes.keep_all]
  | cons range rest ih =>
    rw [List.forall_mem_cons] at hbounds
    rw [List.pairwise_cons] at hsorted hseparate
    rw [List.foldl_cons, ih _ hbounds.2 hsorted.2 hseparate.2]
    simp only [List.any_cons, Bool.not_or]
    by_cases hempty : range.1 = range.2
    · rw [cut_of_eq source hempty]
      apply Bytes.keep_congr
      intro offset _
      have hnone : covers range offset = false := by
        simp only [covers, Bool.and_eq_false_iff, decide_eq_false_iff_not]
        omega
      simp [hnone]
    · have hproper : range.1 < range.2 := by have := hbounds.1; omega
      rw [keep_eq_of_covers source hproper]
      intro offset hoffset
      rw [Bool.not_eq_true', List.any_eq_false]
      intro other hother
      rw [covers_eq_false_of_laterFirst (hsorted.1 other hother) (hseparate.1 other hother)
        hproper hoffset]
      decide

theorem pairwise_laterFirst (ranges : List (Nat × Nat)) :
    (ranges.mergeSort laterFirst).Pairwise fun a b => laterFirst a b = true := by
  apply List.pairwise_mergeSort
  · intro a b c
    simp only [laterFirst, Bool.or_eq_true, Bool.and_eq_true, decide_eq_true_eq]
    omega
  · intro a b
    simp only [laterFirst, Bool.or_eq_true, Bool.and_eq_true, decide_eq_true_eq]
    omega

theorem bytes_foldl_delete (buffer : Buffer) (ranges : List (Nat × Nat)) :
    (ranges.foldl Buffer.delete buffer).bytes = ranges.foldl cut buffer.bytes := by
  induction ranges generalizing buffer with
  | nil => rfl
  | cons range rest ih => exact ih (buffer.delete range)

/-- The text that is left does not depend on what is noted. -/
theorem removeRanges_eq_foldl (source : Bytes) (ranges : List (Nat × Nat)) :
    removeRanges source ranges = (ranges.mergeSort laterFirst).foldl cut source :=
  bytes_foldl_delete ⟨source, []⟩ _

/-- Cutting out separate ranges one after the other deletes all their offsets at once. -/
theorem removeRanges_eq_keep (source : Bytes) (ranges : List (Nat × Nat))
    (hbounds : ∀ range ∈ ranges, range.1 ≤ range.2) (hseparate : ranges.Pairwise Separate) :
    removeRanges source ranges =
      source.keep fun offset => !ranges.any fun range => covers range offset := by
  have hperm := List.mergeSort_perm ranges laterFirst
  rw [removeRanges_eq_foldl, foldl_cut_eq_keep _ _ (fun range h => hbounds range (hperm.mem_iff.1 h))
    (pairwise_laterFirst ranges) (hperm.symm.pairwise hseparate Separate.symm)]
  apply Bytes.keep_congr
  intro offset _
  rw [hperm.any_eq]

/-- Ranges that are given in another order leave the same text. -/
theorem removeRanges_perm {ranges other : List (Nat × Nat)} (hperm : other.Perm ranges)
    (hbounds : ∀ range ∈ ranges, range.1 ≤ range.2) (hseparate : ranges.Pairwise Separate)
    (source : Bytes) : removeRanges source other = removeRanges source ranges := by
  have hother := removeRanges_eq_keep source other
    (fun range hmem => hbounds range (hperm.mem_iff.1 hmem))
    (hperm.symm.pairwise hseparate Separate.symm)
  rw [hother, removeRanges_eq_keep source ranges hbounds hseparate]
  apply Bytes.keep_congr
  intro offset _
  rw [hperm.any_eq]

/-- Where there is no range, nothing is taken out. -/
theorem Source.bytes_remove (source : Source) (ranges : List (Nat × Nat)) :
    (source.remove ranges).bytes = removeRanges source.bytes ranges := by
  rw [Source.remove]
  cases hempty : ranges.isEmpty with
  | false => rfl
  | true =>
    rw [List.isEmpty_iff.1 hempty]
    simp [removeRanges_eq_foldl]

/-- A source without separate ranges has exactly the bytes that lie in none of them, in order. The
order in which the ranges are given does not matter, for the text and for the tree. -/
theorem Source.remove_deletes_at_once (source : Source) {ranges : List (Nat × Nat)}
    (hbounds : ∀ range ∈ ranges, range.1 ≤ range.2) (hseparate : ranges.Pairwise Separate) :
    (source.remove ranges).bytes =
        (source.bytes.keep fun offset => !ranges.any fun range => covers range offset) ∧
      ∀ other : List (Nat × Nat), other.Perm ranges →
        source.remove other = source.remove ranges := by
  constructor
  · rw [source.bytes_remove, removeRanges_eq_keep _ _ hbounds hseparate]
  · intro other hperm
    have hempty : other.isEmpty = ranges.isEmpty := hperm.isEmpty_eq
    rw [Source.remove, Source.remove, hempty, removeRanges_perm hperm hbounds hseparate]

/-- A text of eight letters. -/
def eightLetters : Source where
  dialect := .typescript
  bytes := utf8 "abcdefgh"
  tree := .mk .program .plain 0 8 []

/-- Two ranges that touch, an empty one where the first of them starts and one beyond the end. -/
theorem eightLetters_removed :
    let ranges := [(4, 6), (2, 2), (7, 20), (2, 4)]
    (ranges.Pairwise fun a b => a.2 ≤ b.1 ∨ b.2 ≤ a.1) ∧
      (eightLetters.remove ranges).bytes = utf8 "abg" ∧
      eightLetters.remove [(2, 4), (4, 6), (7, 20), (2, 2)] = eightLetters.remove ranges := by
  intro ranges
  have hapart : ranges.Pairwise fun a b => a.2 ≤ b.1 ∨ b.2 ≤ a.1 := by decide
  obtain ⟨hbytes, horder⟩ := Source.remove_deletes_at_once eightLetters
    (show ∀ range ∈ ranges, range.1 ≤ range.2 by decide) (hapart.imp separate_of_le)
  have hkept : (eightLetters.bytes.keep fun offset =>
      !ranges.any fun range => covers range offset) = utf8 "abg" := by decide +kernel
  exact ⟨hapart, hbytes.trans hkept, horder _ (by decide)⟩

end Prologue
