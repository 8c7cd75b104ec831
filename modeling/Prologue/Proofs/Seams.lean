import Prologue.Proofs.Gaps

/-!
# Gaps that are followed by something else

A gap `u ++ b` in front of `v`, whose end `b` consists of plain blanks, may lose that end and be
followed by anything: what is left is still passed in the same way. The condition is that the end is
empty or stands behind a line feed.
-/

namespace Prologue.Grammar

/-- The gap `u ++ b` may be cut between `u` and `b`, where `v` is what follows it. -/
structure Seam (u b v : Bytes) : Prop where
  blanks : ∀ byte ∈ b, Text.isBlankByte byte = true
  stops : Stops v
  more : v ≠ []
  feed : b = [] ∨ u = [] ∨ u.getLast? = some lineFeed

theorem Seam.drop {u b v : Bytes} (h : Seam u b v) (width : Nat) : Seam (u.drop width) b v := by
  refine ⟨h.blanks, h.stops, h.more, ?_⟩
  rcases h.feed with hb | hu | hlast
  · exact .inl hb
  · exact .inr (.inl (by rw [hu, List.drop_nil]))
  · by_cases hshort : width < u.length
    · rw [List.getLast?_drop, if_neg (by omega)]
      exact .inr (.inr hlast)
    · exact .inr (.inl (List.drop_eq_nil_of_le (by omega)))

theorem isBlankByte_cases {byte : UInt8} (h : Text.isBlankByte byte = true) :
    byte = 9 ∨ byte = 10 ∨ byte = 11 ∨ byte = 12 ∨ byte = 13 ∨ byte = 32 := by
  simp only [Text.isBlankByte, Bool.or_eq_true, Bool.and_eq_true, decide_eq_true_eq,
    UInt8.le_iff_toNat_le, ← UInt8.toNat_inj] at h ⊢
  simp at h ⊢
  omega

theorem itemWidth_blank {byte : UInt8} (h : Text.isBlankByte byte = true) (rest : Bytes) :
    itemWidth (byte :: rest) = 1 ∧ itemKinds (byte :: rest) = [] := by
  rcases isBlankByte_cases h with rfl | rfl | rfl | rfl | rfl | rfl <;> exact ⟨rfl, rfl⟩

/-- Plain blanks in front of a gap leave no trace. -/
theorem Gap.of_blanks {b x v : Bytes} {kinds : List Kind}
    (hblanks : ∀ byte ∈ b, Text.isBlankByte byte = true) (hstops : Stops v)
    (h : Gap (b ++ x) v kinds) : Gap x v kinds := by
  induction b generalizing kinds with
  | nil => exact h
  | cons byte rest ih =>
    rw [List.forall_mem_cons] at hblanks
    obtain ⟨hwidth, hkinds⟩ := itemWidth_blank hblanks.1 (rest ++ x)
    rw [List.cons_append] at h
    cases h with
    | nil => exact absurd hstops.item (by rw [hwidth]; decide)
    | item hitem hrest =>
      rw [hwidth, List.drop_one, List.tail_cons] at hrest
      rw [hkinds, List.nil_append]
      exact ih hblanks.2 hrest
    | html hitem => rw [hwidth] at hitem; cases hitem

theorem Gap.eq_nil {v : Bytes} {kinds : List Kind} (hstops : Stops v) (h : Gap v v kinds) :
    kinds = [] := by
  cases h with
  | nil => rfl
  | item hitem => rw [hstops.item] at hitem; cases hitem
  | html _ hhtml => rw [hstops.html] at hhtml; cases hhtml

/-! ## One step in front of a seam -/

/-- A character other than a line feed does not reach over the line feed at the end of `u`. -/
theorem frontPoint_le_of_getLast? {lead : UInt8} {u x : Bytes} {code width : Nat}
    (hlast : (lead :: u).getLast? = some lineFeed) (hlead : lead ≠ lineFeed)
    (h : frontPoint (lead :: (u ++ x)) = some (code, width)) : width ≤ u.length + 1 := by
  by_contra hlong
  have hu : u ≠ [] := by
    rintro rfl
    exact hlead (Option.some.inj hlast)
  have hpos := List.length_pos_iff.2 hu
  obtain ⟨width, rfl⟩ : ∃ n, width = n + 1 := ⟨width - 1, by omega⟩
  apply ne_lineFeed_of_frontPoint h (u.length - 1) (by omega)
  rw [List.getElem?_append_left (by omega), ← List.getLast?_eq_getElem?]
  rw [List.getLast?_cons_of_ne_nil hu] at hlast
  exact hlast

theorem itemWidth_of_isBlank {lead : UInt8} {rest : Bytes} {code width : Nat}
    (hpoint : frontPoint (lead :: rest) = some (code, width)) (hblank : isBlank code = true) :
    itemWidth (lead :: rest) = width := by
  have hascii : ∀ plain : UInt8, plain < 0x80 → lead = plain → code = plain.toNat ∧ width = 1 := by
    rintro plain hplain rfl
    simp only [frontPoint, if_pos hplain, Option.some.injEq, Prod.mk.injEq] at hpoint
    exact ⟨hpoint.1.symm, hpoint.2.symm⟩
  simp only [itemWidth]
  split
  next hplain =>
    simp only [Bool.or_eq_true, decide_eq_true_eq] at hplain
    rcases hplain with h | h
    · exact (hascii _ (by decide) h).2.symm
    · exact (hascii _ (by decide) h).2.symm
  split
  next hslash =>
    rw [(hascii _ (by decide) hslash).1] at hblank
    cases hblank
  · simp only [hpoint, hblank, if_true]

/-- What ends a line: a line feed at least, and nothing but blanks. -/
structure LineEnds (ends : Nat → Bool) : Prop where
  feed : ends 10 = true
  blank : ∀ code, ends code = true → isBlank code = true

theorem lineEnds_isLineEnd : LineEnds isLineEnd := by
  refine ⟨rfl, fun code hcode => ?_⟩
  simp only [isLineEnd, Bool.or_eq_true, decide_eq_true_eq] at hcode
  rcases hcode with (rfl | rfl) | rfl <;> rfl

theorem lineEnds_endsComment : LineEnds endsComment := by
  refine ⟨rfl, fun code hcode => ?_⟩
  rw [endsComment, Bool.or_eq_true, decide_eq_true_eq] at hcode
  rcases hcode with rfl | hcode
  · rfl
  · exact lineEnds_isLineEnd.blank code hcode

section

variable {u b v : Bytes}

/-- A step in front of a seam ends in the gap. -/
theorem Seam.width_le (hseam : Seam u b v) {width : Nat} {kinds : List Kind}
    (hrest : Gap ((u ++ (b ++ v)).drop width) v kinds) : width ≤ u.length + b.length := by
  have hlength := hrest.length_le
  have hmore := List.length_pos_iff.2 hseam.more
  rw [List.length_drop, List.length_append, List.length_append] at hlength
  omega

/-- A line in front of a seam ends in front of it, where a blank stands. -/
theorem Seam.endsLine (hseam : Seam u b v) (hfeed : b = [] ∨ u.getLast? = some lineFeed)
    {ends : Nat → Bool} (hends : LineEnds ends) {width : Nat} {kinds : List Kind}
    (hwidth : lineLength ends (u ++ (b ++ v)) = width)
    (hrest : Gap ((u ++ (b ++ v)).drop width) v kinds) : EndsLine ends (u.drop width) := by
  have hend : lineLength ends ((u ++ (b ++ v)).drop width) = 0 := by
    rw [← hwidth]
    exact characterRun_drop _ 0 _
  have hle := hseam.width_le hrest
  have hinside : width < u.length := by
    rcases hfeed with rfl | hlast
    · -- Behind the gap there is no blank, so the line ends within the gap.
      rw [List.nil_append] at hend
      by_contra hcon
      obtain rfl : width = u.length := by simp at hle; omega
      rw [List.drop_left] at hend
      obtain ⟨lead, rest, hv⟩ := List.exists_cons_of_ne_nil hseam.more
      have hstops := hseam.stops.item
      rw [hv] at hend hstops
      obtain ⟨code, n, hpoint, hcode⟩ := lineLength_eq_zero_iff.1 hend
      rw [itemWidth_of_isBlank hpoint (hends.blank code hcode)] at hstops
      cases hstops
    · by_contra hcon
      have hpos : 0 < u.length := by
        rcases u with _ | _
        · cases hlast
        · simp
      subst hwidth
      apply @ne_lineFeed_of_lt_lineLength ends hends.feed (u ++ (b ++ v)) (u.length - 1) (by omega)
      rw [List.getElem?_append_left (by omega), ← List.getLast?_eq_getElem?]
      exact hlast
  have hseam' := hseam.drop width
  rw [List.drop_append_of_le_length (Nat.le_of_lt hinside)] at hend hrest
  obtain ⟨lead, rest, hcons⟩ := List.exists_cons_of_ne_nil
    (List.length_pos_iff.1 (show 0 < (u.drop width).length by rw [List.length_drop]; omega))
  rw [hcons] at hend hrest hseam' ⊢
  rw [List.cons_append] at hend
  obtain ⟨code, n, hpoint, hcode⟩ := lineLength_eq_zero_iff.1 hend
  have hblank := hends.blank code hcode
  have hitem := itemWidth_of_isBlank hpoint hblank
  -- All bytes of the character that ends the line stand in front of the seam.
  have hwhole : n + 1 ≤ rest.length + 1 := by
    rcases hseam'.feed with rfl | hnil | hlast
    · generalize hfront : lead :: rest ++ ([] ++ v) = front at hrest
      rw [← List.cons_append, hfront] at hitem
      cases hrest with
      | nil => exact absurd hseam.stops.item (by omega)
      | item _ hgap =>
        rw [hitem, ← hfront] at hgap
        simpa using hseam'.width_le hgap
      | html hzero => omega
    · cases hnil
    · by_cases hlead : lead = lineFeed
      · subst hlead
        cases hpoint
        omega
      · exact frontPoint_le_of_getLast? hlast hlead hpoint
  obtain ⟨hlead, _, _, hsame⟩ := frontPoint_eq (by rintro rfl; cases hblank) hpoint
  refine ⟨⟨lead, rest, rfl, hlead⟩, fun w => ?_⟩
  rw [List.cons_append, lineLength_eq_zero_iff]
  refine ⟨code, n, hsame (rest ++ w) ?_, hcode⟩
  rw [Nat.add_sub_cancel, List.take_append_of_le_length (by omega),
    List.take_append_of_le_length (by omega)]

/-- A comment in front of a seam stays the same whatever follows the seam. -/
theorem Seam.commentLength_append (hseam : Seam u b v) (hu : u ≠ []) {width : Nat}
    {kinds : List Kind} (hwidth : commentLength (u ++ (b ++ v)) = some width)
    (hrest : Gap ((u ++ (b ++ v)).drop width) v kinds) (w : Bytes) :
    width ≤ u.length ∧ commentLength (u ++ w) = some width := by
  have hle := hseam.width_le hrest
  match u, hu with
  | [only], _ =>
    -- The mark of a comment has two bytes, and neither of them is a line feed.
    exfalso
    rcases hseam.feed with rfl | hnil | hlast
    · have hshort : width ≤ 1 := by simpa using hle
      rw [commentLength.eq_def] at hwidth
      split at hwidth
      · simp at hwidth
        omega
      · obtain ⟨inner, hinner, rfl⟩ := Option.map_eq_some_iff.1 hwidth
        omega
      · cases hwidth
    · cases hnil
    · obtain rfl : only = lineFeed := Option.some.inj hlast
      rw [commentLength.eq_def] at hwidth
      split at hwidth
      next heq => cases (List.cons.inj heq).1
      next heq => cases (List.cons.inj heq).1
      · cases hwidth
  | first :: second :: inner, _ =>
    have hseam' := hseam.drop 2
    rw [List.drop_succ_cons, List.drop_succ_cons, List.drop_zero] at hseam'
    rw [commentLength.eq_def] at hwidth
    split at hwidth
    next after heq =>
      obtain ⟨rfl, rfl, rfl⟩ : first = 47 ∧ second = 47 ∧ inner ++ (b ++ v) = after := by
        simpa using heq
      obtain rfl := Option.some.inj hwidth
      have hfeed : b = [] ∨ inner.getLast? = some lineFeed := by
        rcases hseam.feed with hb | hnil | hlast
        · exact .inl hb
        · cases hnil
        · rcases inner with _ | ⟨byte, more⟩
          · exact absurd hlast (by decide)
          · exact .inr (by simpa using hlast)
      have hends := hseam'.endsLine hfeed lineEnds_endsComment rfl hrest
      have hinside := hends.lt_length
      refine ⟨by simp only [List.length_cons]; omega, ?_⟩
      rw [List.cons_append, List.cons_append, commentLength, lineLength, lineRun_append rfl hends w]
      rfl
    next after heq =>
      obtain ⟨rfl, rfl, rfl⟩ : first = 47 ∧ second = 42 ∧ inner ++ (b ++ v) = after := by
        simpa using heq
      obtain ⟨n, hn, rfl⟩ := Option.map_eq_some_iff.1 hwidth
      obtain ⟨hpos, _, hlast⟩ := blockComment_spec hn
      have hinside : n ≤ inner.length := by
        -- The comment ends in a slash, and there is none among the blanks.
        by_contra hlong
        simp only [List.length_cons] at hle
        rw [List.getElem?_append_right (by omega), List.getElem?_append_left (by omega)] at hlast
        have hslash := hseam.blanks 47 (List.mem_of_getElem? hlast)
        exact absurd hslash (by decide)
      refine ⟨by simp only [List.length_cons]; omega, ?_⟩
      rw [List.cons_append, List.cons_append, commentLength, blockComment_append hn hinside w]
      rfl
    · cases hwidth

/-- A blank or a comment in front of a seam stays the same whatever follows the seam. -/
theorem Seam.itemWidth_append (hseam : Seam u b v) (hu : u ≠ []) {kinds : List Kind}
    (hitem : 0 < itemWidth (u ++ (b ++ v)))
    (hrest : Gap ((u ++ (b ++ v)).drop (itemWidth (u ++ (b ++ v)))) v kinds) (w : Bytes) :
    itemWidth (u ++ (b ++ v)) ≤ u.length ∧ itemWidth (u ++ w) = itemWidth (u ++ (b ++ v)) := by
  have hle := hseam.width_le hrest
  obtain ⟨byte, more, rfl⟩ := List.exists_cons_of_ne_nil hu
  simp only [List.cons_append] at hitem hrest hle ⊢
  simp only [itemWidth] at hitem hrest hle ⊢
  split at hitem
  next hplain => rw [if_pos hplain, if_pos hplain]; simp
  next hplain =>
  rw [if_neg hplain] at hrest hle ⊢
  rw [if_neg hplain]
  split at hitem
  next hslash =>
    rw [if_pos hslash] at hrest hle ⊢
    rw [if_pos hslash]
    cases hcomment : commentLength (byte :: (more ++ (b ++ v))) with
    | none => rw [hcomment] at hitem; cases hitem
    | some width =>
      rw [hcomment] at hrest
      obtain ⟨hinside, hsame⟩ := hseam.commentLength_append hu hcomment hrest w
      rw [List.cons_append] at hsame
      rw [hsame]
      exact ⟨hinside, rfl⟩
  next hslash =>
    rw [if_neg hslash] at hrest hle ⊢
    rw [if_neg hslash]
    obtain ⟨code, width, hpoint⟩ := @frontPoint_pos byte (more ++ (b ++ v))
    rw [hpoint] at hitem hrest hle ⊢
    simp only at hitem hrest hle ⊢
    split at hitem
    next hblank =>
      rw [if_pos hblank] at hrest hle ⊢
      have hinside : width + 1 ≤ more.length + 1 := by
        rcases hseam.feed with rfl | hnil | hlast
        · simpa using hle
        · cases hnil
        · exact frontPoint_le_of_getLast? hlast (by rintro rfl; simp [lineFeed] at hplain) hpoint
      have hcode : code ≠ 0x110000 := by
        rintro rfl
        cases hblank
      rw [(frontPoint_eq hcode hpoint).2.2.2 (more ++ w) (by
        rw [Nat.add_sub_cancel, List.take_append_of_le_length (by omega),
          List.take_append_of_le_length (by omega)])]
      exact ⟨hinside, by simp only [hblank, if_true]⟩
    · cases hitem

/-- An HTML comment in front of a seam stays the same whatever follows the seam. -/
theorem Seam.htmlWidth_append (hseam : Seam u b v) (hu : u ≠ []) {kinds : List Kind}
    (hhtml : 0 < Cursor.htmlWidth (u ++ (b ++ v)))
    (hrest : Gap ((u ++ (b ++ v)).drop (Cursor.htmlWidth (u ++ (b ++ v)))) v kinds) (w : Bytes) :
    Cursor.htmlWidth (u ++ (b ++ v)) ≤ u.length ∧
      Cursor.htmlWidth (u ++ w) = Cursor.htmlWidth (u ++ (b ++ v)) := by
  simp only [Cursor.htmlWidth] at hhtml hrest ⊢
  split at hhtml
  next hmark =>
    rw [if_pos hmark] at hrest ⊢
    have hends := hseam.endsLine (hseam.feed.imp_right (·.resolve_left hu)) lineEnds_isLineEnd rfl
      hrest
    have hinside := hends.lt_length
    -- The mark belongs to the line, so it stands in front of the seam too.
    have hmarked : ∀ mark : Bytes, (∀ rest, mark.length ≤ lineLength isLineEnd (mark ++ rest)) →
        mark <+: u ++ (b ++ v) → mark <+: u ++ w := by
      intro mark hlength hstarts
      obtain ⟨rest, hrest⟩ := hstarts
      have hshort := hlength rest
      rw [hrest] at hshort
      exact (List.prefix_of_prefix_length_le ⟨rest, hrest⟩ (List.prefix_append u _)
        (by omega)).trans (List.prefix_append u w)
    simp only [Bool.or_eq_true, List.isPrefixOf_iff_prefix] at hmark ⊢
    rw [if_pos (hmark.imp (hmarked _ fun rest => Nat.le_add_left 4 _)
      (hmarked _ fun rest => Nat.le_add_left 3 _))]
    exact ⟨Nat.le_of_lt hinside, lineRun_append rfl hends w⟩
  · cases hhtml

theorem itemKinds_append (hu : u ≠ []) (x w : Bytes) :
    itemKinds (u ++ x) = itemKinds (u ++ w) := by
  obtain ⟨byte, more, rfl⟩ := List.exists_cons_of_ne_nil hu
  rfl

theorem itemWidth_of_htmlWidth_pos {bytes : Bytes} (h : 0 < Cursor.htmlWidth bytes) :
    itemWidth bytes = 0 := by
  rw [Cursor.htmlWidth] at h
  split at h
  next hmark =>
    rw [Bool.or_eq_true, List.isPrefixOf_iff_prefix, List.isPrefixOf_iff_prefix] at hmark
    rcases hmark with ⟨rest, rfl⟩ | ⟨rest, rfl⟩
    · rfl
    · rfl
  · cases h

/-- What stands in front of a seam is passed in the same way whatever follows the seam. -/
theorem Gap.append_of_seam (hseam : Seam u b v) {kinds : List Kind}
    (h : Gap (u ++ (b ++ v)) v kinds) {w v' : Bytes} {kinds' : List Kind} (hgap : Gap w v' kinds') :
    Gap (u ++ w) v' (kinds ++ kinds') := by
  generalize hfront : u ++ (b ++ v) = front at h
  induction h generalizing u with
  | nil r =>
    obtain rfl : u = [] := by
      have := congrArg List.length hfront
      simp only [List.length_append] at this
      exact List.length_eq_zero_iff.1 (by omega)
    exact hgap
  | @item r v kinds hitem hrest ih =>
    subst hfront
    by_cases hu : u = []
    · subst hu
      have := (Gap.item hitem hrest).of_blanks hseam.blanks hseam.stops
      rw [this.eq_nil hseam.stops]
      exact hgap
    · obtain ⟨hinside, hsame⟩ := hseam.itemWidth_append hu hitem hrest w
      have hdrop : ∀ x, (u ++ x).drop (itemWidth (u ++ (b ++ v))) =
          u.drop (itemWidth (u ++ (b ++ v))) ++ x := fun x =>
        List.drop_append_of_le_length hinside
      rw [itemKinds_append hu _ w, List.append_assoc]
      refine .item (by rw [hsame]; exact hitem) ?_
      rw [hsame, hdrop]
      exact ih (hseam.drop _) (hdrop _).symm
  | @html r v kinds hitem hhtml hrest ih =>
    subst hfront
    by_cases hu : u = []
    · subst hu
      have := (Gap.html hitem hhtml hrest).of_blanks hseam.blanks hseam.stops
      rw [this.eq_nil hseam.stops]
      exact hgap
    · obtain ⟨hinside, hsame⟩ := hseam.htmlWidth_append hu hhtml hrest w
      have hdrop : ∀ x, (u ++ x).drop (Cursor.htmlWidth (u ++ (b ++ v))) =
          u.drop (Cursor.htmlWidth (u ++ (b ++ v))) ++ x := fun x =>
        List.drop_append_of_le_length hinside
      refine .html (itemWidth_of_htmlWidth_pos (by rw [hsame]; exact hhtml))
        (by rw [hsame]; exact hhtml) ?_
      rw [hsame, hdrop]
      exact ih (hseam.drop _) (hdrop _).symm

end

end Prologue.Grammar
