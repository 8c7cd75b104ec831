import Prologue.Proofs.Layout
import Prologue.Proofs.Seams

/-!
# Where readings end

No token reaches beyond the text, and neither does a comment; a string starts and stops with the same
quote. So a cursor that started at the beginning of a text stays in it, what follows the cursor is the
rest of the text, and the comments that it passed lie one behind the other in what it has behind it.
-/

namespace Prologue.Grammar

/-! ## Widths of tokens -/

theorem lt_length_of_drop {bytes rest : Bytes} {byte : UInt8} {n : Nat}
    (h : bytes.drop n = byte :: rest) : n < bytes.length := by
  have hlength := congrArg List.length h
  rw [List.length_drop, List.length_cons] at hlength
  omega

theorem nameLength_le (bytes : Bytes) : nameLength bytes ≤ bytes.length := by
  unfold nameLength
  split
  · split
    · omega
    · exact characterRun_le _ 0 _
  · omega

theorem digitRun_le (isMember : UInt8 → Bool) (bytes : Bytes) :
    digitRun isMember bytes ≤ bytes.length := by
  induction bytes with
  | nil => simp [digitRun]
  | cons byte rest ih =>
    rw [digitRun.eq_def, List.length_cons]
    simp only
    repeat' split
    all_goals omega

theorem digits_le (isMember : UInt8 → Bool) (bytes : Bytes) :
    digits isMember bytes ≤ bytes.length := by
  cases bytes with
  | nil => simp [digits]
  | cons byte rest =>
    have := digitRun_le isMember rest
    rw [digits, List.length_cons]
    split <;> omega

theorem exponentLength_le (bytes : Bytes) : exponentLength bytes ≤ bytes.length := by
  unfold exponentLength
  split
  next mark rest =>
    split
    · extract_lets sign
      have hdigits := digits_le isDigit (rest.drop sign)
      rw [List.length_drop] at hdigits
      rw [List.length_cons]
      split
      · exact Nat.zero_le _
      next n hrun =>
        rw [hrun] at hdigits
        omega
    · omega
  · omega

theorem bigMark_le {bytes : Bytes} {n : Nat} (h : n ≤ bytes.length) :
    bigMark bytes n ≤ bytes.length := by
  unfold bigMark
  split
  next hmark => exact lt_length_of_drop hmark
  · exact h

theorem radixLength_le (bytes : Bytes) : radixLength bytes ≤ bytes.length := by
  unfold radixLength
  split
  next mark rest =>
    have hdigits := fun isMember => digits_le isMember rest
    simp only [List.length_cons]
    repeat' split
    all_goals first | omega | exact Nat.succ_le_succ (Nat.succ_le_succ (hdigits _))
  · omega

theorem decimalLength_le (bytes : Bytes) : decimalLength bytes ≤ bytes.length := by
  have hwhole := digits_le isDigit bytes
  unfold decimalLength
  generalize digits isDigit bytes = whole at hwhole ⊢
  have hmantissa : ∀ fraction, whole + fraction ≤ bytes.length →
      (if whole = 0 && fraction ≤ 1 then 0
      else if fraction = 0 && exponentLength (bytes.drop (whole + fraction)) = 0 then
        bigMark bytes whole
      else whole + fraction + exponentLength (bytes.drop (whole + fraction))) ≤ bytes.length := by
    intro fraction hle
    have hexponent := exponentLength_le (bytes.drop (whole + fraction))
    rw [List.length_drop] at hexponent
    split
    · omega
    split
    · exact bigMark_le hwhole
    · omega
  apply hmantissa
  split
  next rest heq =>
    have hdigits := digits_le isDigit rest
    have hlength := congrArg List.length heq
    rw [List.length_drop, List.length_cons] at hlength
    omega
  · exact hwhole

theorem quotedLength_spec {quote : UInt8} {skip : Nat} {bytes : Bytes} {width : Nat}
    (h : quotedLength quote skip bytes = some width) :
    0 < width ∧ width ≤ bytes.length ∧ bytes[width - 1]? = some quote := by
  have hmore : ∀ {byte : UInt8} {rest : Bytes} {skip width : Nat},
      (∀ {width : Nat}, quotedLength quote skip rest = some width →
        0 < width ∧ width ≤ rest.length ∧ rest[width - 1]? = some quote) →
      (quotedLength quote skip rest).map (· + 1) = some width →
      0 < width ∧ width ≤ (byte :: rest).length ∧ (byte :: rest)[width - 1]? = some quote := by
    intro byte rest skip width ih h
    obtain ⟨inner, hinner, rfl⟩ := Option.map_eq_some_iff.1 h
    obtain ⟨hpos, hle, hlast⟩ := ih hinner
    refine ⟨Nat.succ_pos _, by simpa using hle, ?_⟩
    rw [Nat.add_sub_cancel, List.getElem?_cons, if_neg (by omega)]
    exact hlast
  induction bytes generalizing skip width with
  | nil => cases h
  | cons byte rest ih =>
    cases skip with
    | succ skip => exact hmore ih h
    | zero =>
      simp only [quotedLength] at h
      split at h
      next hquote =>
        obtain rfl := Option.some.inj h
        simp [hquote]
      split at h
      · cases h
      split at h
      · split at h
        · cases h
        · exact hmore ih h
      · exact hmore ih h

/-- A string starts and stops with the same quote. -/
theorem stringLength_spec {bytes : Bytes} {width : Nat} (h : stringLength bytes = some width) :
    1 < width ∧ width ≤ bytes.length ∧ ∃ quote, (quote = 34 ∨ quote = 39) ∧
      bytes[0]? = some quote ∧ bytes[width - 1]? = some quote := by
  unfold stringLength at h
  split at h
  next quote rest =>
    split at h
    next hquote =>
      obtain ⟨inner, hinner, rfl⟩ := Option.map_eq_some_iff.1 h
      obtain ⟨hpos, hle, hlast⟩ := quotedLength_spec hinner
      refine ⟨by omega, by simpa using hle, quote, by simpa using hquote, rfl, ?_⟩
      rw [Nat.add_sub_cancel, List.getElem?_cons, if_neg (by omega), hlast]
    · cases h
  · cases h

/-- The body of a regular expression ends with its slash. -/
theorem regexBody_spec {place : RegexPlace} {escaped : Bool} {bytes : Bytes} {width : Nat}
    (h : regexBody place escaped bytes = some width) :
    0 < width ∧ bytes[width - 1]? = some 47 := by
  have hmore : ∀ {byte : UInt8} {rest : Bytes} {place : RegexPlace} {escaped : Bool} {width : Nat},
      (∀ {place : RegexPlace} {escaped : Bool} {width : Nat},
        regexBody place escaped rest = some width → 0 < width ∧ rest[width - 1]? = some 47) →
      (regexBody place escaped rest).map (· + 1) = some width →
      0 < width ∧ (byte :: rest)[width - 1]? = some 47 := by
    intro byte rest place escaped width ih h
    obtain ⟨inner, hinner, rfl⟩ := Option.map_eq_some_iff.1 h
    obtain ⟨hpos, hlast⟩ := ih hinner
    refine ⟨Nat.succ_pos _, ?_⟩
    rw [Nat.add_sub_cancel, List.getElem?_cons, if_neg (by omega)]
    exact hlast
  induction bytes generalizing place escaped width with
  | nil => cases h
  | cons byte rest ih =>
    simp only [regexBody] at h
    split at h
    · cases h
    split at h
    · exact hmore ih h
    split at h
    · exact hmore ih h
    split at h
    · exact hmore ih h
    split at h
    next hslash =>
      obtain rfl := Option.some.inj h
      exact ⟨Nat.one_pos, by rw [hslash]; rfl⟩
    · exact hmore ih h

theorem regexBody_le {place : RegexPlace} {escaped : Bool} {bytes : Bytes} {width : Nat}
    (h : regexBody place escaped bytes = some width) : width ≤ bytes.length := by
  obtain ⟨hpos, hlast⟩ := regexBody_spec h
  have := (List.getElem?_eq_some_iff.1 hlast).1
  omega

theorem regexLength_le {bytes : Bytes} {width : Nat} (h : regexLength bytes = some width) :
    width ≤ bytes.length := by
  unfold regexLength at h
  split at h
  next first rest =>
    split at h
    · cases h
    split at h
    · cases h
    next n hbody =>
      obtain rfl := Option.some.inj h
      have hle := regexBody_le hbody
      have hflags := (List.takeWhile_prefix (fun b : UInt8 => 97 ≤ b && b ≤ 122)
        (l := (first :: rest).drop n)).length_le
      rw [List.length_drop] at hflags
      simp only [List.length_cons] at *
      omega
  · cases h

/-- The text of a template ends in front of an ASCII byte. -/
theorem templateRun_spec {skip : Nat} {bytes : Bytes} {width : Nat}
    (h : templateRun skip bytes = some width) : ∃ byte, bytes[width]? = some byte ∧ byte < 0x80 := by
  have hmore : ∀ {byte : UInt8} {rest : Bytes} {skip width : Nat},
      (∀ {skip width : Nat}, templateRun skip rest = some width →
        ∃ byte, rest[width]? = some byte ∧ byte < 0x80) →
      (templateRun skip rest).map (· + 1) = some width →
      ∃ next, (byte :: rest)[width]? = some next ∧ next < 0x80 := by
    intro byte rest skip width ih h
    obtain ⟨inner, hinner, rfl⟩ := Option.map_eq_some_iff.1 h
    exact ih hinner
  induction bytes generalizing skip width with
  | nil => cases h
  | cons byte rest ih =>
    cases skip with
    | succ skip => exact hmore ih h
    | zero =>
      simp only [templateRun] at h
      split at h
      next hend =>
        obtain rfl := Option.some.inj h
        exact ⟨96, by rw [hend]; rfl, by decide⟩
      split at h
      next hend =>
        obtain rfl := Option.some.inj h
        rw [Bool.and_eq_true, decide_eq_true_eq] at hend
        exact ⟨36, by rw [hend.1]; rfl, by decide⟩
      split at h
      · split at h
        · cases h
        · exact hmore ih h
      · exact hmore ih h

theorem templateRun_le {skip : Nat} {bytes : Bytes} {width : Nat}
    (h : templateRun skip bytes = some width) : width ≤ bytes.length := by
  obtain ⟨byte, hbyte, -⟩ := templateRun_spec h
  exact Nat.le_of_lt (List.getElem?_eq_some_iff.1 hbyte).1

theorem referenceLength_le {bytes : Bytes} {width : Nat} (h : referenceLength bytes = some width) :
    width ≤ bytes.length := by
  unfold referenceLength at h
  split at h
  next rest =>
    extract_lets hash isMember run at h
    split at h
    next hclose =>
      have := lt_length_of_drop hclose
      split at h
      · cases h
      · obtain rfl := Option.some.inj h
        rw [List.length_cons]
        omega
    · cases h
  · cases h

theorem markupStringLength_le {bytes : Bytes} {width : Nat}
    (h : markupStringLength bytes = some width) : width ≤ bytes.length := by
  unfold markupStringLength at h
  split at h
  next quote rest =>
    split at h
    · simp only at h
      split at h
      · obtain rfl := Option.some.inj h
        simp only [List.length_cons]
        omega
      · cases h
    · cases h
  · cases h

/-- No token reaches beyond the text. -/
theorem Token.length_le {token : Token} {bytes : Bytes} {width : Nat}
    (h : token.length bytes = some width) : width ≤ bytes.length := by
  cases takes_of_length h with
  | text hstarts => exact (List.isPrefixOf_iff_prefix.1 hstarts).length_le
  | word => exact nameLength_le bytes
  | name => exact nameLength_le bytes
  | @privateName rest hbytes =>
    rw [hbytes]
    exact Nat.succ_le_succ (nameLength_le rest)
  | radix => exact bigMark_le (radixLength_le bytes)
  | decimal => exact decimalLength_le bytes
  | string h => exact (stringLength_spec h).2.1
  | regex h => exact regexLength_le h
  | templateText hrun => exact templateRun_le hrun
  | markupText => exact (List.takeWhile_prefix _).length_le
  | reference h => exact referenceLength_le h
  | markupName => exact characterRun_le _ 0 bytes
  | markupString h => exact markupStringLength_le h
  | hashBang => exact (List.takeWhile_prefix _).length_le

/-! ## Ends of comments -/

/-- The last line of a comment holds more than blanks. -/
theorem endsSolid_of_comment {text : Bytes} {offset width : Nat}
    (h : commentLength (text.drop offset) = some width) :
    text.EndsSolid offset (offset + width) := by
  have hbyte : ∀ i, (text.drop offset)[i]? = text[offset + i]? := fun i => List.getElem?_drop
  unfold commentLength at h
  split at h
  next rest hcons =>
    -- A line comment holds no line feed at all.
    obtain rfl := Option.some.inj h
    rw [hcons] at hbyte
    have hfirst : text.isSolid offset = true := by
      rw [Bytes.isSolid, ← Nat.add_zero offset, ← hbyte 0]
      rfl
    refine ⟨offset, by omega, Nat.le_refl _, hfirst, fun i hi hle => ?_⟩
    rw [← Nat.add_sub_cancel' hle, ← hbyte]
    rcases hplace : i - offset with _ | _ | place
    · simp [lineFeed]
    · simp [lineFeed]
    · exact @ne_lineFeed_of_lt_lineLength endsComment rfl rest place (by omega)
  next rest hcons =>
    obtain ⟨inner, hinner, rfl⟩ := Option.map_eq_some_iff.1 h
    obtain ⟨hpos, _, hlast⟩ := blockComment_spec hinner
    rw [hcons] at hbyte
    apply Bytes.endsSolid_of_isSolid (by omega)
    rw [Bytes.isSolid, show offset + (inner + 2) - 1 = offset + (inner - 1 + 2) by omega, ← hbyte,
      List.getElem?_cons_succ, List.getElem?_cons_succ, hlast]
    decide
  · cases h

/-! ## Cursors in a text -/

/-- Where neither a blank nor a comment stands, there is no blank. -/
theorem isSolid_of_itemWidth_eq_zero {text : Bytes} {offset : Nat}
    (hitem : itemWidth (text.drop offset) = 0) (hmore : offset < text.length) :
    text.isSolid offset = true := by
  rw [List.drop_eq_getElem_cons hmore] at hitem
  rw [Bytes.isSolid, List.getElem?_eq_getElem hmore, Option.any_some, Bool.not_eq_true']
  by_contra hblank
  rw [(itemWidth_blank (Bool.not_eq_false _ ▸ hblank) _).1] at hitem
  cases hitem

namespace Cursor

/-- The cursor stands in the text, and the comments that it passed lie one behind the other. -/
structure Sound (text : Bytes) (cursor : Cursor) : Prop where
  rest : cursor.rest = text.drop cursor.offset
  within : cursor.offset ≤ text.length
  notes : ∀ note ∈ cursor.notes,
    note.start ≤ note.stop ∧ note.stop ≤ cursor.offset ∧ note.IsComment
  ordered : cursor.notes.Pairwise fun a b => b.stop ≤ a.start

namespace Sound

variable {text : Bytes} {cursor : Cursor}

theorem length_rest (h : cursor.Sound text) : cursor.rest.length = text.length - cursor.offset := by
  rw [h.rest, List.length_drop]

theorem advance (h : cursor.Sound text) {width : Nat} (hle : width ≤ cursor.rest.length) :
    (cursor.advance width).Sound text := by
  have hlength := h.length_rest
  have hwithin := h.within
  refine ⟨?_, ?_, fun note hmem => ?_, h.ordered⟩
  · simp only [Cursor.advance, h.rest, List.drop_drop]
  · simp only [Cursor.advance]
    omega
  · obtain ⟨hbounds, hstop, hcomment⟩ := h.notes note hmem
    exact ⟨hbounds, Nat.le_trans hstop (Nat.le_add_right _ _), hcomment⟩

/-- Passing a comment. -/
theorem advance_note (h : cursor.Sound text) {width : Nat} (hle : width ≤ cursor.rest.length)
    {kind : Kind} (hkind : kind = .comment ∨ kind = .htmlComment) :
    ({ cursor.advance width with
        notes := note kind cursor.offset width :: cursor.notes } : Cursor).Sound text := by
  have hmoved := h.advance hle
  refine ⟨hmoved.rest, hmoved.within, ?_, ?_⟩
  · rw [List.forall_mem_cons]
    exact ⟨⟨Nat.le_add_right _ _, Nat.le_refl _, hkind, rfl, rfl⟩, hmoved.notes⟩
  · rw [List.pairwise_cons]
    exact ⟨fun note hmem => (h.notes note hmem).2.1, h.ordered⟩

theorem passItem (h : cursor.Sound text) : cursor.passItem.Sound text := by
  have hle := itemWidth_le cursor.rest
  unfold Cursor.passItem
  split
  · exact h.advance_note hle (.inl rfl)
  · exact h.advance hle

/-- In front of a token stands no blank. -/
theorem skip (h : cursor.Sound text) :
    cursor.skip.Sound text ∧ itemWidth cursor.skip.rest = 0 := by
  induction hlength : cursor.rest.length using Nat.strongRecOn generalizing cursor with
  | ind n ih =>
    by_cases hitem : itemWidth cursor.rest = 0
    · rw [skip_of_itemWidth_eq_zero hitem]
      exact ⟨h, hitem⟩
    · have hle := itemWidth_le cursor.rest
      rw [← skip_passItem (Nat.pos_of_ne_zero hitem)]
      refine ih _ ?_ h.passItem rfl
      rw [show cursor.passItem.rest = cursor.rest.drop (itemWidth cursor.rest) from rfl,
        List.length_drop]
      omega

theorem htmlComment? (h : cursor.Sound text) {after : Cursor}
    (hhtml : cursor.htmlComment? = some after) : after.Sound text := by
  rw [htmlComment?_eq] at hhtml
  split at hhtml
  · cases hhtml
  · obtain rfl := Option.some.inj hhtml
    exact h.skip.1.advance_note (htmlWidth_le _) (.inr rfl)

/-- A byte in front of a token is no blank. -/
theorem isSolid (h : cursor.Sound text) (hitem : itemWidth cursor.rest = 0)
    (hmore : cursor.offset < text.length) : text.isSolid cursor.offset = true :=
  isSolid_of_itemWidth_eq_zero (h.rest ▸ hitem) hmore

end Sound

theorem impliedFrom_drop {dialect : Dialect} {context : Context} {bytes : Bytes} {skip : Nat}
    (h : skip ≤ bytes.length) (offset left : Nat) (notes : List Node) (asking : Bool) :
    impliedFrom dialect context offset left notes skip asking bytes =
      impliedFrom dialect context (offset + skip) (left - skip) notes 0 asking
        (bytes.drop skip) := by
  induction skip generalizing bytes offset left with
  | zero => simp
  | succ skip ih =>
    cases bytes with
    | nil => simp at h
    | cons byte rest =>
      rw [impliedFrom, ih (by simpa using h), List.drop_succ_cons, Nat.sub_sub, Nat.add_assoc,
        Nat.add_comm 1 skip]

/-- A semicolon is implied right here or behind a comment. -/
theorem Sound.impliedFrom {dialect : Dialect} {context : Context} {text : Bytes}
    {cursor after : Cursor} {asking : Bool} (h : cursor.Sound text)
    (himplied : impliedFrom dialect context cursor.offset cursor.left cursor.notes 0 asking
      cursor.rest = some after) :
    after.Sound text ∧
      ((asking = true ∧ after.offset = cursor.offset) ∨
        text.EndsSolid cursor.offset after.offset) := by
  induction hlength : cursor.rest.length using Nat.strongRecOn generalizing cursor asking with
  | ind n ih =>
    obtain ⟨bytes, offset, left, notes⟩ := cursor
    cases bytes with
    | nil =>
      cases asking
      · cases himplied
      · obtain rfl := Option.some.inj himplied
        exact ⟨h, .inl ⟨rfl, rfl⟩⟩
    | cons byte rest =>
      have hpast : ∀ {width : Nat} {notes' : List Node} {asking' : Bool},
          width + 1 ≤ (byte :: rest).length →
          Sound text ⟨(byte :: rest).drop (width + 1), offset + (width + 1), left - (width + 1),
            notes'⟩ →
          Cursor.impliedFrom dialect context (offset + 1) (left - 1) notes' width asking' rest =
            some after →
          after.Sound text ∧
            ((asking' = true ∧ after.offset = offset + (width + 1)) ∨
              text.EndsSolid (offset + (width + 1)) after.offset) := by
        intro width notes' asking' hle hsound hrest
        rw [impliedFrom_drop (by simpa using hle), Nat.sub_sub, Nat.add_assoc,
          Nat.add_comm 1 width] at hrest
        refine ih _ ?_ hsound hrest rfl
        rw [← hlength, List.length_drop, List.length_cons]
        omega
      simp only [Cursor.impliedFrom] at himplied
      split at himplied
      next hasked =>
        obtain rfl := Option.some.inj himplied
        exact ⟨h, .inl ⟨(Bool.and_eq_true_iff.1 hasked).1, rfl⟩⟩
      split at himplied
      next width hcomment =>
        have hle := (commentLength_pos hcomment).2
        obtain ⟨hsound, hend⟩ := hpast hle (h.advance_note hle (.inl rfl)) himplied
        have hrest : byte :: rest = text.drop offset := h.rest
        refine ⟨hsound, .inr ?_⟩
        rcases hend with ⟨_, heq⟩ | hsolid
        · rw [heq]
          exact endsSolid_of_comment (hrest ▸ hcomment)
        · exact hsolid.mono (Nat.le_add_right _ _)
      split at himplied
      next code width hpoint =>
        split at himplied
        · have hle := frontPoint_le hpoint
          obtain ⟨hsound, ⟨hfalse, _⟩ | hsolid⟩ := hpast hle (h.advance hle) himplied
          · cases hfalse
          · exact ⟨hsound, .inr (hsolid.mono (Nat.le_add_right _ _))⟩
        · cases himplied
      · cases himplied

theorem Sound.implied? {dialect : Dialect} {context : Context} {text : Bytes}
    {cursor after : Cursor} (h : cursor.Sound text)
    (himplied : cursor.implied? dialect context = some after) :
    after.Sound text ∧
      (after.offset = cursor.offset ∨ text.EndsSolid cursor.offset after.offset) := by
  obtain ⟨hsound, hend⟩ := h.impliedFrom himplied
  exact ⟨hsound, hend.imp_left And.right⟩

end Cursor

end Prologue.Grammar
