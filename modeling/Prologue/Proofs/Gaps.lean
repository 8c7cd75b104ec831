import Mathlib.Data.List.Basic
import Prologue.Proofs.Characters
import Prologue.Proofs.Progress
import Prologue.Text.Blank

/-!
# Gaps between statements

In front of a statement stand blanks and comments, which are passed one after the other. `Gap` says so
step by step, and `State.front` passes exactly such a gap. What follows a gap has no say in how the gap
is read, so a gap may be followed by something else. It may even lose the blanks at its end, provided
that a line feed is left in front of them: the only comment that needs what follows it ends with its
line.
-/

namespace Prologue.Grammar

/-! ## Characters -/

theorem frontPoint_of_front {lead : UInt8} {rest : Bytes} {code width : Nat}
    (h : Utf8.front lead rest = .point code width) :
    frontPoint (lead :: rest) = some (code, width) := by
  rw [frontPoint]
  split
  next hlead =>
    rw [Utf8.front_of_lt hlead] at h
    obtain ⟨rfl, rfl⟩ := Utf8.Front.point.inj h
    rfl
  · rw [h]

/-- What stands at the front is a character, or a byte that belongs to none. -/
theorem frontPoint_cases {lead : UInt8} {rest : Bytes} {code width : Nat}
    (h : frontPoint (lead :: rest) = some (code, width)) :
    Utf8.front lead rest = .point code width ∨ code = 0x110000 ∧ width = 1 := by
  cases hfront : Utf8.front lead rest with
  | point code' width' =>
    rw [frontPoint_of_front hfront] at h
    obtain ⟨rfl, rfl⟩ := Prod.mk.inj (Option.some.inj h)
    exact .inl rfl
  | broken width' reason =>
    have hlead : ¬ lead < 0x80 := by
      intro hlead
      rw [Utf8.front_of_lt hlead] at hfront
      cases hfront
    rw [frontPoint, if_neg hlead, hfront] at h
    obtain ⟨rfl, rfl⟩ := Prod.mk.inj (Option.some.inj h)
    exact .inr ⟨rfl, rfl⟩

/-- What stands at the front depends on no more than which character is read there. -/
theorem frontPoint_congr {lead : UInt8} {rest rest' : Bytes}
    (h : ∀ code width, Utf8.front lead rest = .point code width ↔
      Utf8.front lead rest' = .point code width) :
    frontPoint (lead :: rest) = frontPoint (lead :: rest') := by
  rw [frontPoint, frontPoint]
  split
  · rfl
  cases hrest : Utf8.front lead rest with
  | point code width => rw [(h code width).1 hrest]
  | broken width reason =>
    cases hrest' : Utf8.front lead rest' with
    | point code width' =>
      rw [(h code width').2 hrest'] at hrest
      cases hrest
    | broken width' reason' => rfl

/-- A character goes on with continuations, and depends on nothing but its own bytes. -/
theorem frontPoint_eq {lead : UInt8} {rest : Bytes} {code width : Nat} (hcode : code ≠ 0x110000)
    (h : frontPoint (lead :: rest) = some (code, width)) :
    Utf8.isContinuation lead = false ∧ 0 < width ∧
      (∀ i < width - 1, ∃ byte, rest[i]? = some byte ∧ Utf8.isContinuation byte = true) ∧
      ∀ rest' : Bytes, rest'.take (width - 1) = rest.take (width - 1) →
        frontPoint (lead :: rest') = some (code, width) := by
  rcases frontPoint_cases h with hfront | ⟨hnone, -⟩
  · exact ⟨Utf8.isContinuation_lead_of_front hfront, Utf8.pos_of_front hfront,
      fun i hi => Utf8.continues_of_front hfront hi,
      fun rest' htake => frontPoint_of_front (Utf8.front_of_take hfront htake)⟩
  · exact absurd hnone hcode

/-- A character depends on the bytes up to the first one that continues nothing. -/
theorem frontPoint_append {lead stop : UInt8} {bytes : Bytes} (hmem : stop ∈ bytes)
    (hstop : Utf8.isContinuation stop = false) (x w : Bytes) :
    frontPoint (lead :: (bytes ++ x)) = frontPoint (lead :: (bytes ++ w)) := by
  have hpoint : ∀ {x w : Bytes} {code width : Nat},
      Utf8.front lead (bytes ++ x) = .point code width →
        Utf8.front lead (bytes ++ w) = .point code width := by
    intro x w code width h
    have hshort : width - 1 ≤ bytes.length := by
      by_contra hlong
      obtain ⟨i, hi, hbyte⟩ := List.getElem_of_mem hmem
      obtain ⟨byte, hat, hcontinues⟩ := Utf8.continues_of_front h (show i < width - 1 by omega)
      rw [List.getElem?_append_left hi, List.getElem?_eq_getElem hi, hbyte] at hat
      rw [← Option.some.inj hat, hstop] at hcontinues
      cases hcontinues
    apply Utf8.front_of_take h
    rw [List.take_append_of_le_length hshort, List.take_append_of_le_length hshort]
  exact frontPoint_congr fun code width => ⟨hpoint, hpoint⟩

/-- No line feed stands in a character behind its first byte. -/
theorem ne_lineFeed_of_frontPoint {lead : UInt8} {rest : Bytes} {code width : Nat}
    (h : frontPoint (lead :: rest) = some (code, width + 1)) :
    ∀ i < width, rest[i]? ≠ some lineFeed := by
  intro i hi hfeed
  rcases frontPoint_cases h with hfront | ⟨-, hwidth⟩
  · obtain ⟨byte, hbyte, hcontinues⟩ := Utf8.continues_of_front hfront hi
    obtain rfl := Option.some.inj (hbyte.symm.trans hfeed)
    revert hcontinues
    decide
  · omega

theorem frontPoint_pos {lead : UInt8} {rest : Bytes} :
    ∃ code width, frontPoint (lead :: rest) = some (code, width + 1) := by
  simp only [frontPoint]
  split
  · exact ⟨_, 0, rfl⟩
  · split
    next code width hfront =>
      have hpos := Utf8.pos_of_front hfront
      exact ⟨code, width - 1, by rw [Nat.sub_add_cancel hpos]⟩
    · exact ⟨_, 0, rfl⟩

theorem frontPoint_le {lead : UInt8} {rest : Bytes} {code width : Nat}
    (h : frontPoint (lead :: rest) = some (code, width)) : width ≤ rest.length + 1 := by
  rcases frontPoint_cases h with hfront | ⟨-, rfl⟩
  · obtain ⟨tail, hprefix, rfl, -⟩ := Utf8.spells_of_front hfront
    exact Nat.succ_le_succ hprefix.length_le
  · omega

/-! ## Lines -/

theorem characterRun_le (widthOf : Bytes → Nat) (skip : Nat) (bytes : Bytes) :
    characterRun widthOf skip bytes ≤ bytes.length := by
  induction bytes generalizing skip with
  | nil => simp [characterRun]
  | cons byte rest ih =>
    cases skip with
    | succ skip => simpa [characterRun] using ih skip
    | zero =>
      simp only [characterRun]
      split
      · omega
      next width _ => simpa using ih width

theorem lineLength_le (ends : Nat → Bool) (bytes : Bytes) : lineLength ends bytes ≤ bytes.length :=
  characterRun_le _ 0 bytes

/-- Behind a run of characters there is nothing left of it. -/
theorem characterRun_drop (widthOf : Bytes → Nat) (skip : Nat) (bytes : Bytes) :
    characterRun widthOf 0 (bytes.drop (characterRun widthOf skip bytes)) = 0 := by
  induction bytes generalizing skip with
  | nil => rfl
  | cons byte rest ih =>
    cases skip with
    | succ skip => exact ih skip
    | zero =>
      rw [characterRun]
      split
      next hend => simp only [List.drop_zero, characterRun, hend]
      next width _ => exact ih width

section

variable {ends : Nat → Bool}

theorem lineCharacter_of_frontPoint {bytes : Bytes} {code width : Nat}
    (h : frontPoint bytes = some (code, width)) :
    lineCharacter ends bytes = if ends code then 0 else width := by
  rw [lineCharacter, h]

theorem frontPoint_of_lineCharacter {lead : UInt8} {rest : Bytes} {width : Nat}
    (h : lineCharacter ends (lead :: rest) = width + 1) :
    ∃ code, frontPoint (lead :: rest) = some (code, width + 1) := by
  obtain ⟨code, found, hpoint⟩ := @frontPoint_pos lead rest
  rw [lineCharacter_of_frontPoint hpoint] at h
  split at h
  · cases h
  · exact ⟨code, h ▸ hpoint⟩

theorem lineLength_eq_zero_iff {lead : UInt8} {rest : Bytes} :
    lineLength ends (lead :: rest) = 0 ↔
      ∃ code width, frontPoint (lead :: rest) = some (code, width + 1) ∧ ends code = true := by
  obtain ⟨code, width, hpoint⟩ := @frontPoint_pos lead rest
  have hcharacter := @lineCharacter_of_frontPoint ends _ _ _ hpoint
  rw [lineLength, characterRun, hcharacter]
  constructor
  · intro h
    split at h
    next hzero => exact ⟨code, width, hpoint, by by_contra hgoes; simp [hgoes] at hzero⟩
    · cases h
  · rintro ⟨code', width', hpoint', hends⟩
    rw [hpoint] at hpoint'
    cases hpoint'
    rw [if_pos hends]

theorem ne_lineFeed_of_lt_lineRun (hfeed : ends 10 = true) (skip : Nat) (bytes : Bytes)
    (hskip : ∀ i < skip, bytes[i]? ≠ some lineFeed) :
    ∀ i < characterRun (lineCharacter ends) skip bytes, bytes[i]? ≠ some lineFeed := by
  induction bytes generalizing skip with
  | nil => simp [characterRun]
  | cons byte rest ih =>
    intro i hi
    cases skip with
    | succ skip =>
      simp only [characterRun] at hi
      cases i with
      | zero => exact hskip 0 (by omega)
      | succ i => exact ih skip (fun j hj => hskip (j + 1) (by omega)) i (by omega)
    | zero =>
      simp only [characterRun] at hi
      split at hi
      · omega
      next width hwidth =>
      obtain ⟨code, hpoint⟩ := frontPoint_of_lineCharacter hwidth
      cases i with
      | zero =>
        intro hbyte
        obtain rfl : byte = lineFeed := Option.some.inj hbyte
        rw [@lineCharacter_of_frontPoint _ (lineFeed :: rest) 10 1 rfl, if_pos hfeed] at hwidth
        cases hwidth
      | succ i => exact ih width (ne_lineFeed_of_frontPoint hpoint) i (by omega)

/-- A line holds no line feed. -/
theorem ne_lineFeed_of_lt_lineLength (hfeed : ends 10 = true) {bytes : Bytes} {i : Nat}
    (hi : i < lineLength ends bytes) : bytes[i]? ≠ some lineFeed :=
  ne_lineFeed_of_lt_lineRun hfeed 0 bytes (by omega) i hi

/-- Bytes at which a line ends, whatever follows them. -/
structure EndsLine (ends : Nat → Bool) (bytes : Bytes) : Prop where
  front : ∃ byte more, bytes = byte :: more ∧ Utf8.isContinuation byte = false
  stops : ∀ w, lineLength ends (bytes ++ w) = 0

theorem EndsLine.lt_length {bytes : Bytes} {width : Nat} (h : EndsLine ends (bytes.drop width)) :
    width < bytes.length := by
  obtain ⟨byte, more, hcons, _⟩ := h.front
  have hlength := congrArg List.length hcons
  rw [List.length_drop, List.length_cons] at hlength
  omega

/-- A line that is seen to end does not depend on what follows its end. -/
theorem lineRun_append {skip : Nat} {bytes x : Bytes} {width : Nat}
    (h : characterRun (lineCharacter ends) skip (bytes ++ x) = width)
    (hends : EndsLine ends (bytes.drop width)) (w : Bytes) :
    characterRun (lineCharacter ends) skip (bytes ++ w) = width := by
  induction bytes generalizing skip width with
  | nil =>
    obtain ⟨byte, more, hcons, _⟩ := hends.front
    simp at hcons
  | cons byte rest ih =>
    rw [List.cons_append] at h ⊢
    cases skip with
    | succ skip =>
      simp only [characterRun] at h ⊢
      subst h
      rw [List.drop_succ_cons] at hends
      rw [ih rfl hends]
    | zero =>
      cases width with
      | zero => exact hends.stops w
      | succ width =>
        obtain ⟨stop, more, hdrop, hstop⟩ := hends.front
        rw [List.drop_succ_cons] at hends hdrop
        have hmem : stop ∈ rest := by
          apply List.mem_of_mem_drop (i := width)
          rw [hdrop]
          exact List.mem_cons_self
        have hcharacter : lineCharacter ends (byte :: (rest ++ x)) =
            lineCharacter ends (byte :: (rest ++ w)) := by
          rw [lineCharacter, lineCharacter, frontPoint_append hmem hstop]
        simp only [characterRun, hcharacter] at h ⊢
        split at h
        · cases h
        next hfound =>
          rw [hfound]
          simp only
          rw [ih (Nat.succ.inj h) hends]

end

/-! ## Comments -/

theorem blockComment_spec {bytes : Bytes} {width : Nat}
    (h : commentLength.blockComment bytes = some width) :
    0 < width ∧ width ≤ bytes.length ∧ bytes[width - 1]? = some 47 := by
  induction bytes generalizing width with
  | nil => cases h
  | cons byte rest ih =>
    simp only [commentLength.blockComment] at h
    split at h
    next hclose =>
      obtain rfl := Option.some.inj h
      simp only [Bool.and_eq_true, beq_iff_eq] at hclose
      rcases rest with _ | ⟨next, more⟩
      · simp at hclose
      · simpa using hclose.2
    · obtain ⟨inner, hinner, rfl⟩ := Option.map_eq_some_iff.1 h
      obtain ⟨hpos, hle, hlast⟩ := ih hinner
      refine ⟨Nat.succ_pos _, by simpa using hle, ?_⟩
      rw [Nat.add_sub_cancel, List.getElem?_cons, if_neg (by omega)]
      exact hlast

theorem blockComment_append {bytes x : Bytes} {width : Nat}
    (h : commentLength.blockComment (bytes ++ x) = some width) (hle : width ≤ bytes.length)
    (w : Bytes) : commentLength.blockComment (bytes ++ w) = some width := by
  induction bytes generalizing width with
  | nil =>
    have := (blockComment_spec h).1
    simp at hle
    omega
  | cons byte rest ih =>
    rw [List.cons_append] at h ⊢
    simp only [commentLength.blockComment] at h ⊢
    cases rest with
    | nil =>
      -- A comment has two bytes at least, so one byte does not hold it.
      split at h
      · obtain rfl := Option.some.inj h
        simp at hle
      · obtain ⟨inner, hinner, rfl⟩ := Option.map_eq_some_iff.1 h
        have := (blockComment_spec hinner).1
        simp at hle
        omega
    | cons next more =>
      -- Whether the comment closes here is seen from `next`, so not from what follows.
      have hhead : (next :: more ++ x).head? = (next :: more ++ w).head? := rfl
      split at h
      next hclose =>
        rw [hhead] at hclose
        rw [if_pos hclose]
        exact h
      next hclose =>
        rw [hhead] at hclose
        rw [if_neg hclose]
        obtain ⟨inner, hinner, rfl⟩ := Option.map_eq_some_iff.1 h
        rw [ih hinner (by simpa using hle)]
        rfl

theorem commentLength_pos {bytes : Bytes} {width : Nat} (h : commentLength bytes = some width) :
    0 < width ∧ width ≤ bytes.length := by
  unfold commentLength at h
  split at h
  next rest =>
    obtain rfl := Option.some.inj h
    have := lineLength_le endsComment rest
    simp only [List.length_cons]
    omega
  next rest =>
    obtain ⟨inner, hinner, rfl⟩ := Option.map_eq_some_iff.1 h
    have := (blockComment_spec hinner).2.1
    simp only [List.length_cons]
    omega
  · cases h

/-! ## Gaps, step by step -/

/-- Width of the blank or the comment at the front; zero if neither stands there. -/
def itemWidth : Bytes → Nat
  | [] => 0
  | byte :: rest =>
    if byte = 32 || byte = 10 then 1
    else if byte = 47 then (commentLength (byte :: rest)).getD 0
    else match frontPoint (byte :: rest) with
      | some (code, width) => if isBlank code then width else 0
      | none => 0

/-- What is noted of a blank or comment at the front. -/
def itemKinds (bytes : Bytes) : List Kind := if bytes.head? = some 47 then [.comment] else []

/-- From one place to another there are blanks and comments only, of the given kinds. -/
inductive Gap : Bytes → Bytes → List Kind → Prop where
  | nil (r : Bytes) : Gap r r []
  | item {r v : Bytes} {kinds : List Kind} (hitem : 0 < itemWidth r)
      (hrest : Gap (r.drop (itemWidth r)) v kinds) : Gap r v (itemKinds r ++ kinds)
  | html {r v : Bytes} {kinds : List Kind} (hitem : itemWidth r = 0)
      (hhtml : 0 < Cursor.htmlWidth r) (hrest : Gap (r.drop (Cursor.htmlWidth r)) v kinds) :
      Gap r v (.htmlComment :: kinds)

/-- Neither a blank nor a comment stands at the front. -/
structure Stops (bytes : Bytes) : Prop where
  item : itemWidth bytes = 0
  html : Cursor.htmlWidth bytes = 0

theorem itemWidth_le (bytes : Bytes) : itemWidth bytes ≤ bytes.length := by
  cases bytes with
  | nil => exact Nat.le_refl _
  | cons byte rest =>
    simp only [itemWidth, List.length_cons]
    split
    · omega
    split
    · cases hcomment : commentLength (byte :: rest) with
      | none => simp
      | some width => simpa using (commentLength_pos hcomment).2
    split
    next code width hpoint =>
      split
      · exact frontPoint_le hpoint
      · omega
    · omega

theorem htmlWidth_le (bytes : Bytes) : Cursor.htmlWidth bytes ≤ bytes.length := by
  unfold Cursor.htmlWidth
  split
  · exact lineLength_le isLineEnd bytes
  · exact Nat.zero_le _

theorem Gap.suffix {r v : Bytes} {kinds : List Kind} (h : Gap r v kinds) : v <:+ r := by
  induction h with
  | nil r => exact List.suffix_rfl
  | item _ _ ih => exact ih.trans (List.drop_suffix _ _)
  | html _ _ _ ih => exact ih.trans (List.drop_suffix _ _)

theorem Gap.length_le {r v : Bytes} {kinds : List Kind} (h : Gap r v kinds) :
    v.length ≤ r.length := h.suffix.length_le

theorem exists_gap (r : Bytes) : ∃ v kinds, Gap r v kinds ∧ Stops v := by
  induction hlength : r.length using Nat.strongRecOn generalizing r with
  | ind n ih =>
    by_cases hitem : itemWidth r = 0
    · by_cases hhtml : Cursor.htmlWidth r = 0
      · exact ⟨r, [], .nil r, hitem, hhtml⟩
      · have hle := htmlWidth_le r
        obtain ⟨v, kinds, hgap, hstops⟩ := ih (r.drop (Cursor.htmlWidth r)).length
          (by rw [List.length_drop]; omega) _ rfl
        exact ⟨v, _, .html hitem (Nat.pos_of_ne_zero hhtml) hgap, hstops⟩
    · have hle := itemWidth_le r
      obtain ⟨v, kinds, hgap, hstops⟩ := ih (r.drop (itemWidth r)).length
        (by rw [List.length_drop]; omega) _ rfl
      exact ⟨v, _, .item (Nat.pos_of_ne_zero hitem) hgap, hstops⟩

/-! ## The front of a statement -/

namespace Cursor

theorem skipFrom_drop {bytes : Bytes} {skip : Nat} (h : skip ≤ bytes.length) (offset left : Nat)
    (notes : List Node) :
    skipFrom offset left notes skip bytes =
      skipFrom (offset + skip) (left - skip) notes 0 (bytes.drop skip) := by
  induction skip generalizing bytes offset left with
  | zero => simp
  | succ skip ih =>
    cases bytes with
    | nil => simp at h
    | cons byte rest =>
      rw [skipFrom, ih (by simpa using h), List.drop_succ_cons, Nat.sub_sub, Nat.add_assoc,
        Nat.add_comm 1 skip]

/-- The cursor behind the blank or comment at the front. -/
def passItem (cursor : Cursor) : Cursor :=
  { cursor.advance (itemWidth cursor.rest) with
    notes :=
      if cursor.rest.head? = some 47 then
        note .comment cursor.offset (itemWidth cursor.rest) :: cursor.notes
      else cursor.notes }

/-- The cursor behind the HTML comment at the front. -/
def passHtml (cursor : Cursor) : Cursor :=
  { cursor.advance (htmlWidth cursor.rest) with
    notes := note .htmlComment cursor.offset (htmlWidth cursor.rest) :: cursor.notes }

theorem skip_of_itemWidth_eq_zero {cursor : Cursor} (h : itemWidth cursor.rest = 0) :
    cursor.skip = cursor := by
  obtain ⟨bytes, offset, left, notes⟩ := cursor
  cases bytes with
  | nil => rfl
  | cons byte rest =>
    simp only [itemWidth] at h
    simp only [skip, skipFrom]
    split at h
    · cases h
    next hplain =>
    rw [if_neg hplain]
    split at h
    next hslash =>
      rw [if_pos hslash]
      split
      next hcomment => rw [hcomment] at h; cases h
      · rfl
    next hslash =>
      rw [if_neg hslash]
      split
      next hpoint =>
        rw [hpoint] at h
        simp only at h
        split at h
        · cases h
        next hblank => rw [if_neg hblank]
      · rfl

theorem skip_passItem {cursor : Cursor} (h : 0 < itemWidth cursor.rest) :
    cursor.passItem.skip = cursor.skip := by
  obtain ⟨bytes, offset, left, notes⟩ := cursor
  have hle := itemWidth_le bytes
  cases bytes with
  | nil => cases h
  | cons byte rest =>
    obtain ⟨width, hwidth⟩ : ∃ width, itemWidth (byte :: rest) = width + 1 :=
      ⟨itemWidth (byte :: rest) - 1, by simp only at h; omega⟩
    have hshort : width ≤ rest.length := by
      rw [hwidth, List.length_cons] at hle
      omega
    have hrest := fun notes => skipFrom_drop hshort (offset + 1) (left - 1) notes
    have hpassed : ∀ notes, skipFrom (offset + (width + 1)) (left - (width + 1)) notes 0
        ((byte :: rest).drop (width + 1)) =
        skipFrom (offset + 1) (left - 1) notes width rest := by
      intro notes
      rw [hrest, List.drop_succ_cons, Nat.sub_sub, Nat.add_assoc, Nat.add_comm 1 width]
    simp only [passItem, advance, skip, hwidth, hpassed, List.head?_cons, Option.some.injEq]
    simp only [itemWidth] at hwidth
    split at hwidth
    next hplain =>
      obtain rfl : width = 0 := by omega
      have hslash : byte ≠ 47 := by
        rintro rfl
        simp at hplain
      rw [if_neg hslash]
      simp only [skipFrom, hplain, if_true]
    next hplain =>
    split at hwidth
    next hslash =>
      cases hcomment : commentLength (byte :: rest) with
      | none => rw [hcomment] at hwidth; cases hwidth
      | some found =>
        rw [hcomment] at hwidth
        obtain rfl : found = width + 1 := hwidth
        rw [if_pos hslash]
        conv => rhs; rw [skipFrom, if_neg hplain, if_pos hslash, hcomment]
    next hslash =>
      rw [if_neg hslash]
      split at hwidth
      next code found hpoint =>
        split at hwidth
        next hblank =>
          obtain rfl : found = width + 1 := hwidth
          conv => rhs; rw [skipFrom, if_neg hplain, if_neg hslash, hpoint]
          simp only [hblank, if_true]
        · cases hwidth
      · cases hwidth

end Cursor

namespace State

/-- One round over an HTML comment. -/
def htmlRound (state : State) : Option State :=
  state.cursor.htmlComment?.map fun cursor => { state with cursor := cursor }

/-- A blank or comment at the front makes no difference to what is in front of the next statement. -/
theorem skip_rounds_passItem {state : State} (h : 0 < itemWidth state.cursor.rest) (bound : Nat) :
    (rounds htmlRound bound { state with cursor := state.cursor.passItem }).skip =
      (rounds htmlRound bound state).skip := by
  have hskip := Cursor.skip_passItem h
  cases bound with
  | zero => simp only [rounds, skip, hskip]
  | succ bound =>
    have hhtml : state.cursor.passItem.htmlComment? = state.cursor.htmlComment? := by
      rw [Cursor.htmlComment?_eq, Cursor.htmlComment?_eq, hskip]
    simp only [rounds, htmlRound, hhtml]
    cases hcomment : state.cursor.htmlComment? with
    | none => simp only [Option.map_none, skip, hskip]
    | some cursor =>
      have hskipped := (Cursor.passes_skip state.cursor.passItem).offset_le
      have hmoves : state.cursor.skip.offset < cursor.offset := by
        rw [Cursor.htmlComment?_eq] at hcomment
        split at hcomment
        · cases hcomment
        · obtain rfl := Option.some.inj hcomment
          simp only [Cursor.advance]
          omega
      have hpassed : state.cursor.offset < state.cursor.passItem.offset := by
        simp only [Cursor.passItem, Cursor.advance]
        omega
      rw [hskip] at hskipped
      simp only [Option.map_some]
      rw [if_neg (by omega), if_neg (by omega)]

theorem skip_rounds_htmlRound {state : State} {v : Bytes} {kinds : List Kind}
    (hgap : Gap state.cursor.rest v kinds) (hstops : Stops v)
    (hleft : state.cursor.left = state.cursor.rest.length) {bound : Nat}
    (hbound : state.cursor.rest.length ≤ bound) :
    ∃ notes,
      (rounds htmlRound bound state).skip =
        { state with cursor := ⟨v, state.cursor.offset + (state.cursor.rest.length - v.length),
          v.length, notes ++ state.cursor.notes⟩ } ∧
      notes.reverse.map (·.kind) = kinds := by
  generalize hrest : state.cursor.rest = r at hgap
  induction hgap generalizing state bound with
  | nil r =>
    have hskip : state.cursor.skip = state.cursor :=
      Cursor.skip_of_itemWidth_eq_zero (by rw [hrest]; exact hstops.item)
    have hnone : htmlRound state = none := by
      rw [htmlRound, Cursor.htmlComment?_eq, hskip, hrest, if_pos hstops.html]
      rfl
    have hrounds : rounds htmlRound bound state = state := by
      cases bound with
      | zero => rfl
      | succ bound => rw [rounds, hnone]
    refine ⟨[], ?_, rfl⟩
    rw [hrounds, skip, hskip]
    obtain ⟨⟨rest, offset, left, notes⟩, start, nodes⟩ := state
    simp only at hrest hleft
    simp [← hrest, hleft]
  | @item r v kinds hitem hgap ih =>
    subst hrest
    have hwidth := itemWidth_le state.cursor.rest
    have hlength := hgap.length_le
    rw [List.length_drop] at hlength
    obtain ⟨notes, hfront, hkinds⟩ := @ih ⟨state.cursor.passItem, state.start, state.nodes⟩
      hstops (by simp [Cursor.passItem, Cursor.advance, hleft]) bound
      (by simp [Cursor.passItem, Cursor.advance]; omega) rfl
    rw [skip_rounds_passItem hitem] at hfront
    refine ⟨notes ++ if state.cursor.rest.head? = some 47 then
      [note .comment state.cursor.offset (itemWidth state.cursor.rest)] else [], ?_, ?_⟩
    · rw [hfront]
      simp only [Cursor.passItem, Cursor.advance, List.length_drop, State.mk.injEq, Cursor.mk.injEq,
        true_and, and_true]
      refine ⟨by omega, ?_⟩
      split <;> simp
    · rw [itemKinds]
      split
      · rw [List.reverse_append, List.map_append, hkinds]
        rfl
      · simpa using hkinds
  | @html r v kinds hitem hhtml hgap ih =>
    subst hrest
    have hwidth := htmlWidth_le state.cursor.rest
    have hlength := hgap.length_le
    rw [List.length_drop] at hlength
    have hskip := Cursor.skip_of_itemWidth_eq_zero hitem
    have hround : htmlRound state = some { state with cursor := state.cursor.passHtml } := by
      rw [htmlRound, Cursor.htmlComment?_eq, hskip, if_neg (by omega)]
      rfl
    have hmoves : state.cursor.passHtml.offset ≠ state.cursor.offset := by
      simp only [Cursor.passHtml, Cursor.advance]
      omega
    cases bound with
    | zero => omega
    | succ bound =>
      obtain ⟨notes, hfront, hkinds⟩ := @ih ⟨state.cursor.passHtml, state.start, state.nodes⟩
        hstops (by simp [Cursor.passHtml, Cursor.advance, hleft]) bound
        (by simp [Cursor.passHtml, Cursor.advance]; omega) rfl
      refine ⟨notes ++ [note .htmlComment state.cursor.offset
        (Cursor.htmlWidth state.cursor.rest)], ?_, ?_⟩
      · rw [rounds, hround]
        simp only [hmoves, if_false]
        rw [hfront]
        simp only [Cursor.passHtml, Cursor.advance, List.length_drop, State.mk.injEq,
          Cursor.mk.injEq, true_and, and_true]
        exact ⟨by omega, by simp⟩
      · rw [List.reverse_append, List.map_append, hkinds]
        rfl

/-- What is passed in front of a statement is a gap. -/
theorem front_eq (state : State) {v : Bytes} {kinds : List Kind}
    (hgap : Gap state.cursor.rest v kinds) (hstops : Stops v)
    (hleft : state.cursor.left = state.cursor.rest.length) :
    ∃ notes,
      state.front =
        { state with cursor := ⟨v, state.cursor.offset + (state.cursor.rest.length - v.length),
          v.length, notes ++ state.cursor.notes⟩ } ∧
      notes.reverse.map (·.kind) = kinds :=
  skip_rounds_htmlRound hgap hstops hleft (Nat.le_of_eq hleft.symm)

end State

end Prologue.Grammar
