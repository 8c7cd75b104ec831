import Prologue.Proofs.Encoding
import Prologue.Proofs.Extent
import Prologue.Proofs.Lines

/-!
# Widths in valid texts

In a text that is valid UTF-8 no token, blank or comment ends inside a character: what is read byte by
byte ends with an ASCII byte or in front of one, and the rest is read character by character.
-/

namespace Prologue.Grammar

open Utf8 (Valid isContinuation_eq_false_of_lt)

/-! ## Widths -/

theorem valid_drop_takeWhile {p : UInt8 → Bool} (hp : ∀ byte, p byte = true → byte < 0x80)
    {bytes : Bytes} (h : Valid bytes) : Valid (bytes.drop (bytes.takeWhile p).length) := by
  induction bytes with
  | nil => exact h
  | cons byte rest ih =>
    rw [List.takeWhile_cons]
    split
    next hbyte => exact ih (h.tail (hp byte hbyte))
    · exact h

/-- What goes on to an ASCII byte ends in front of a character. -/
theorem valid_drop_takeWhile_of_stop {p : UInt8 → Bool}
    (hp : ∀ byte, p byte = false → byte < 0x80) {bytes : Bytes} (h : Valid bytes) :
    Valid (bytes.drop (bytes.takeWhile p).length) :=
  h.drop fun byte hbyte => isContinuation_eq_false_of_lt
    (hp byte ((getElem?_takeWhile_length p bytes).2 byte hbyte))

theorem valid_drop_of_all_take {p : UInt8 → Bool} (hp : ∀ byte, p byte = true → byte < 0x80)
    {bytes : Bytes} (h : Valid bytes) {n : Nat} (hall : (bytes.take n).all p = true) :
    Valid (bytes.drop n) := by
  induction n generalizing bytes with
  | zero => exact h
  | succ n ih =>
    cases bytes with
    | nil => exact h
    | cons byte rest =>
      rw [List.take_succ_cons, List.all_cons, Bool.and_eq_true] at hall
      exact ih (h.tail (hp byte hall.1)) hall.2

theorem lt_of_eq_or_eq {byte a b : UInt8} (ha : a < 0x80) (hb : b < 0x80)
    (h : (decide (byte = a) || decide (byte = b)) = true) : byte < 0x80 := by
  rcases Bool.or_eq_true_iff.1 h with h | h <;> rw [of_decide_eq_true h] <;> assumption

theorem isDigit_lt {byte : UInt8} (h : isDigit byte = true) : byte < 0x80 := by
  simp only [isDigit, Bool.and_eq_true, decide_eq_true_eq, UInt8.le_iff_toNat_le,
    UInt8.lt_iff_toNat_lt, UInt8.reduceToNat] at *
  omega

theorem isHexDigit_lt {byte : UInt8} (h : isHexDigit byte = true) : byte < 0x80 := by
  simp only [isHexDigit, isDigit, Bool.or_eq_true, Bool.and_eq_true, decide_eq_true_eq,
    UInt8.le_iff_toNat_le, UInt8.lt_iff_toNat_lt, UInt8.reduceToNat] at *
  omega

theorem valid_drop_frontPoint {bytes : Bytes} (h : Valid bytes) {code width : Nat}
    (hpoint : frontPoint bytes = some (code, width)) : Valid (bytes.drop width) := by
  cases bytes with
  | nil => cases hpoint
  | cons byte rest =>
    simp only [frontPoint] at hpoint
    split at hpoint
    next hascii =>
      obtain ⟨-, rfl⟩ := Prod.mk.inj (Option.some.inj hpoint)
      exact h.tail hascii
    · obtain ⟨-, code', width', hfront, hrest⟩ := h.front
      rw [hfront] at hpoint
      obtain ⟨-, rfl⟩ := Prod.mk.inj (Option.some.inj hpoint)
      exact hrest

theorem valid_drop_escapedPoint {bytes : Bytes} (h : Valid bytes) :
    Valid (bytes.drop (escapedPoint bytes)) := by
  unfold escapedPoint
  split
  next rest =>
    have hrest : Valid rest := ((h.tail (by decide)).tail (by decide)).tail (by decide)
    have hdigits := valid_drop_takeWhile (fun _ => isHexDigit_lt) hrest
    simp only
    split
    · exact h
    split
    next hclose =>
      rw [hclose] at hdigits
      rw [show (92 :: 117 :: 123 :: rest).drop ((rest.takeWhile isHexDigit).length + 4) =
        (rest.drop (rest.takeWhile isHexDigit).length).drop 1 by simp, hclose]
      exact hdigits.tail (by decide)
    · exact h
  next rest _ =>
    have hrest : Valid rest := (h.tail (by decide)).tail (by decide)
    split
    next hdigits =>
      rw [Bool.and_eq_true] at hdigits
      exact valid_drop_of_all_take (fun _ => isHexDigit_lt) hrest hdigits.2
    · exact h
  · exact h

theorem valid_drop_nameCharacter {bytes : Bytes} (h : Valid bytes) :
    Valid (bytes.drop (nameCharacter bytes)) := by
  cases bytes with
  | nil => exact h
  | cons byte rest =>
    simp only [nameCharacter]
    split
    next hascii =>
      split
      · exact h.tail hascii
      · exact valid_drop_escapedPoint h
    · obtain ⟨-, code, width, hfront, hrest⟩ := h.front
      rw [hfront]
      simp only
      split
      · exact h
      · exact hrest

/-- A run of characters of which the first is still to be passed. -/
theorem valid_drop_characterRun {widthOf : Bytes → Nat}
    (hwidth : ∀ {bytes : Bytes}, Valid bytes → Valid (bytes.drop (widthOf bytes))) {skip : Nat}
    {bytes : Bytes} (h : Valid (bytes.drop skip)) :
    Valid (bytes.drop (characterRun widthOf skip bytes)) := by
  induction bytes generalizing skip with
  | nil => simpa using h
  | cons byte rest ih =>
    cases skip with
    | succ skip => exact ih h
    | zero =>
      have hcharacter := hwidth h
      simp only [List.drop_zero] at hcharacter
      simp only [characterRun]
      split
      · exact h
      next width hfound =>
        rw [hfound] at hcharacter
        exact ih hcharacter

theorem valid_drop_nameLength {bytes : Bytes} (h : Valid bytes) :
    Valid (bytes.drop (nameLength bytes)) := by
  unfold nameLength
  split
  · split
    · exact h
    · exact valid_drop_characterRun valid_drop_nameCharacter h
  · exact h

theorem valid_drop_markupNameCharacter {bytes : Bytes} (h : Valid bytes) :
    Valid (bytes.drop (markupNameCharacter bytes)) := by
  cases bytes with
  | nil => exact h
  | cons byte rest =>
    rw [markupNameCharacter]
    split
    next hhyphen =>
      subst hhyphen
      exact h.tail (by decide)
    · exact valid_drop_nameCharacter h

/-! ## Numbers -/

theorem valid_drop_digitRun {isMember : UInt8 → Bool}
    (hmember : ∀ byte, isMember byte = true → byte < 0x80) {bytes : Bytes} (h : Valid bytes) :
    Valid (bytes.drop (digitRun isMember bytes)) := by
  induction bytes with
  | nil => exact h
  | cons byte rest ih =>
    rw [digitRun.eq_def]
    simp only
    split
    next hbyte => exact ih (h.tail (hmember byte hbyte))
    split
    next hmark =>
      subst hmark
      split
      · split
        · exact ih (h.tail (by decide))
        · exact h
      · exact h
    · exact h

theorem valid_drop_digits {isMember : UInt8 → Bool}
    (hmember : ∀ byte, isMember byte = true → byte < 0x80) {bytes : Bytes} (h : Valid bytes) :
    Valid (bytes.drop (digits isMember bytes)) := by
  cases bytes with
  | nil => exact h
  | cons byte rest =>
    rw [digits]
    split
    next hbyte => exact valid_drop_digitRun hmember (h.tail (hmember byte hbyte))
    · exact h

theorem valid_drop_exponentLength {bytes : Bytes} (h : Valid bytes) :
    Valid (bytes.drop (exponentLength bytes)) := by
  unfold exponentLength
  split
  next mark rest =>
    split
    next hmark =>
      have hrest : Valid rest := h.tail (lt_of_eq_or_eq (by decide) (by decide) hmark)
      extract_lets sign
      have hsign : Valid (rest.drop sign) := by
        subst sign
        split
        · split
          next hsign => exact hrest.tail (lt_of_eq_or_eq (by decide) (by decide) hsign)
          · exact hrest
        · exact hrest
      have hdigits := valid_drop_digits (fun _ => isDigit_lt) hsign
      split
      · exact h
      next n hrun =>
        rw [hrun, List.drop_drop] at hdigits
        rw [show n + 2 + sign = sign + (n + 1) + 1 by omega, List.drop_succ_cons]
        exact hdigits
    · exact h
  · exact h

theorem valid_drop_bigMark {bytes : Bytes} {n : Nat} (h : Valid (bytes.drop n)) :
    Valid (bytes.drop (bigMark bytes n)) := by
  unfold bigMark
  split
  next hmark =>
    rw [← List.drop_drop, hmark]
    rw [hmark] at h
    exact h.tail (by decide)
  · exact h

theorem valid_drop_radixLength {bytes : Bytes} (h : Valid bytes) :
    Valid (bytes.drop (radixLength bytes)) := by
  unfold radixLength
  split
  next mark rest =>
    have hrun : ∀ {isMember : UInt8 → Bool} {a b : UInt8}, a < 0x80 → b < 0x80 →
        (decide (mark = a) || decide (mark = b)) = true →
        (∀ byte, isMember byte = true → byte < 0x80) →
        Valid ((48 :: mark :: rest).drop (digits isMember rest + 2)) := by
      intro isMember a b ha hb hmark hmember
      exact valid_drop_digits hmember ((h.tail (by decide)).tail (lt_of_eq_or_eq ha hb hmark))
    have hwhole : ∀ {run : Nat}, (run ≠ 0 → Valid ((48 :: mark :: rest).drop (run + 2))) →
        Valid ((48 :: mark :: rest).drop (if run = 0 then 0 else run + 2)) := by
      intro run hvalid
      split
      · exact h
      next hne => exact hvalid hne
    apply hwhole
    split
    next hmark =>
      exact fun _ => hrun (by decide) (by decide) hmark fun _ => isHexDigit_lt
    split
    next hmark =>
      exact fun _ => hrun (by decide) (by decide) hmark fun _ =>
        lt_of_eq_or_eq (by decide) (by decide)
    split
    next hmark =>
      refine fun _ => hrun (by decide) (by decide) hmark fun byte hbyte => ?_
      simp only [Bool.and_eq_true, decide_eq_true_eq, UInt8.le_iff_toNat_le, UInt8.lt_iff_toNat_lt,
        UInt8.reduceToNat] at hbyte ⊢
      omega
    · exact fun hne => absurd rfl hne
  · exact h

theorem valid_drop_decimalLength {bytes : Bytes} (h : Valid bytes) :
    Valid (bytes.drop (decimalLength bytes)) := by
  have hwhole := valid_drop_digits (fun _ => isDigit_lt) h
  unfold decimalLength
  generalize digits isDigit bytes = whole at hwhole ⊢
  have hmantissa : ∀ fraction, Valid (bytes.drop (whole + fraction)) →
      Valid (bytes.drop (if whole = 0 && fraction ≤ 1 then 0
      else if fraction = 0 && exponentLength (bytes.drop (whole + fraction)) = 0 then
        bigMark bytes whole
      else whole + fraction + exponentLength (bytes.drop (whole + fraction)))) := by
    intro fraction hvalid
    split
    · exact h
    split
    · exact valid_drop_bigMark hwhole
    · rw [← List.drop_drop]
      exact valid_drop_exponentLength hvalid
  apply hmantissa
  split
  next rest heq =>
    rw [heq] at hwhole
    have hdigits := valid_drop_digits (fun _ => isDigit_lt) (hwhole.tail (by decide))
    rw [← List.drop_drop, heq]
    exact hdigits
  · exact hwhole

/-! ## Strings, templates and markup -/

theorem valid_drop_of_last {bytes : Bytes} (h : Valid bytes) {width : Nat} {byte : UInt8}
    (hpos : 0 < width) (hlast : bytes[width - 1]? = some byte) (hascii : byte < 0x80) :
    Valid (bytes.drop width) := by
  have hdrop := h.drop_of_ascii hlast hascii
  rwa [Nat.sub_add_cancel hpos] at hdrop

theorem valid_drop_regexLength {bytes : Bytes} (h : Valid bytes) {width : Nat}
    (hwidth : regexLength bytes = some width) : Valid (bytes.drop width) := by
  unfold regexLength at hwidth
  split at hwidth
  next first rest =>
    split at hwidth
    · cases hwidth
    split at hwidth
    · cases hwidth
    next n hbody =>
      obtain rfl := Option.some.inj hwidth
      obtain ⟨hpos, hlast⟩ := regexBody_spec hbody
      have hbehind := valid_drop_of_last (h.tail (by decide)) hpos hlast (by decide)
      rw [show n + 1 + (((first :: rest).drop n).takeWhile fun b => 97 ≤ b && b ≤ 122).length =
          n + (((first :: rest).drop n).takeWhile fun b => 97 ≤ b && b ≤ 122).length + 1 by omega,
        List.drop_succ_cons, ← List.drop_drop]
      refine valid_drop_takeWhile (fun byte hbyte => ?_) hbehind
      simp only [Bool.and_eq_true, decide_eq_true_eq, UInt8.le_iff_toNat_le, UInt8.lt_iff_toNat_lt,
        UInt8.reduceToNat] at hbyte ⊢
      omega
  · cases hwidth

theorem valid_drop_referenceLength {bytes : Bytes} (h : Valid bytes) {width : Nat}
    (hwidth : referenceLength bytes = some width) : Valid (bytes.drop width) := by
  unfold referenceLength at hwidth
  split at hwidth
  next rest =>
    extract_lets hash isMember run at hwidth
    split at hwidth
    next hclose =>
      split at hwidth
      · cases hwidth
      · obtain rfl := Option.some.inj hwidth
        refine @valid_drop_of_last _ h _ 59 (by omega) ?_ (by decide)
        rw [show hash + run + 2 - 1 = hash + run + 1 by omega, List.getElem?_cons_succ,
          ← Nat.add_zero (hash + run), ← List.getElem?_drop, hclose]
        rfl
    · cases hwidth
  · cases hwidth

theorem valid_drop_markupStringLength {bytes : Bytes} (h : Valid bytes) {width : Nat}
    (hwidth : markupStringLength bytes = some width) : Valid (bytes.drop width) := by
  unfold markupStringLength at hwidth
  split at hwidth
  next quote rest =>
    split at hwidth
    next hquote =>
      have hascii := lt_of_eq_or_eq (by decide) (by decide) hquote
      simp only at hwidth
      split at hwidth
      next hlt =>
        obtain rfl := Option.some.inj hwidth
        have hclose := (getElem?_takeWhile_length (· != quote) rest).2 _
          (List.getElem?_eq_getElem hlt)
        refine valid_drop_of_last h (by omega) ?_ hascii
        rw [show (rest.takeWhile (· != quote)).length + 2 - 1 =
          (rest.takeWhile (· != quote)).length + 1 by omega, List.getElem?_cons_succ,
          List.getElem?_eq_getElem hlt]
        simpa using hclose
      · cases hwidth
    · cases hwidth
  · cases hwidth

theorem ne_lineFeed_eq_false {byte : UInt8} (h : (byte != lineFeed) = false) : byte < 0x80 := by
  rw [bne_eq_false_iff_eq] at h
  rw [h]
  decide

/-- No token ends inside a character. -/
theorem Token.valid_drop {token : Token} {bytes : Bytes} (h : Valid bytes) {width : Nat}
    (hwidth : token.length bytes = some width) : Valid (bytes.drop width) := by
  cases takes_of_length hwidth with
  | text hstarts =>
    obtain ⟨rest, rfl⟩ := List.isPrefixOf_iff_prefix.1 hstarts
    rw [List.drop_left]
    rw [Utf8.utf8_eq_encode] at h
    exact h.of_encode_append
  | word => exact valid_drop_nameLength h
  | name => exact valid_drop_nameLength h
  | privateName hbytes =>
    subst hbytes
    exact valid_drop_nameLength (h.tail (by decide))
  | radix => exact valid_drop_bigMark (valid_drop_radixLength h)
  | decimal => exact valid_drop_decimalLength h
  | string hstring =>
    obtain ⟨hwide, -, quote, hquote, -, hlast⟩ := stringLength_spec hstring
    refine valid_drop_of_last h (by omega) hlast ?_
    rcases hquote with rfl | rfl <;> decide
  | regex hregex => exact valid_drop_regexLength h hregex
  | templateText hrun =>
    obtain ⟨byte, hbyte, hascii⟩ := templateRun_spec hrun
    refine h.drop fun next hnext => isContinuation_eq_false_of_lt ?_
    rwa [← Option.some.inj (hbyte.symm.trans hnext)]
  | markupText =>
    refine valid_drop_takeWhile_of_stop (fun byte hstop => ?_) h
    simp only [Bool.not_eq_false', Bool.or_eq_true, decide_eq_true_eq] at hstop
    rcases hstop with (((rfl | rfl) | rfl) | rfl) | rfl <;> decide
  | reference hreference => exact valid_drop_referenceLength h hreference
  | markupName => exact valid_drop_characterRun valid_drop_markupNameCharacter h
  | markupString hstring => exact valid_drop_markupStringLength h hstring
  | hashBang => exact valid_drop_takeWhile_of_stop (fun _ => ne_lineFeed_eq_false) h

/-! ## Blanks and comments -/

theorem valid_drop_lineCharacter {ends : Nat → Bool} {bytes : Bytes} (h : Valid bytes) :
    Valid (bytes.drop (lineCharacter ends bytes)) := by
  rw [lineCharacter]
  split
  next hpoint =>
    split
    · exact h
    · exact valid_drop_frontPoint h hpoint
  · exact h

theorem valid_drop_lineLength {ends : Nat → Bool} {bytes : Bytes} (h : Valid bytes) :
    Valid (bytes.drop (lineLength ends bytes)) :=
  valid_drop_characterRun valid_drop_lineCharacter h

theorem valid_drop_commentLength {bytes : Bytes} (h : Valid bytes) {width : Nat}
    (hwidth : commentLength bytes = some width) : Valid (bytes.drop width) := by
  unfold commentLength at hwidth
  split at hwidth
  next rest =>
    obtain rfl := Option.some.inj hwidth
    exact valid_drop_lineLength ((h.tail (by decide)).tail (by decide))
  next rest =>
    obtain ⟨inner, hinner, rfl⟩ := Option.map_eq_some_iff.1 hwidth
    obtain ⟨hpos, -, hlast⟩ := blockComment_spec hinner
    exact valid_drop_of_last ((h.tail (by decide)).tail (by decide)) hpos hlast (by decide)
  · cases hwidth

theorem valid_drop_itemWidth {bytes : Bytes} (h : Valid bytes) :
    Valid (bytes.drop (itemWidth bytes)) := by
  cases bytes with
  | nil => exact h
  | cons byte rest =>
    simp only [itemWidth]
    split
    next hblank => exact h.tail (lt_of_eq_or_eq (by decide) (by decide) hblank)
    split
    · cases hcomment : commentLength (byte :: rest) with
      | none => exact h
      | some width => exact valid_drop_commentLength h hcomment
    split
    next hpoint =>
      split
      · exact valid_drop_frontPoint h hpoint
      · exact h
    · exact h

theorem valid_drop_htmlWidth {bytes : Bytes} (h : Valid bytes) :
    Valid (bytes.drop (Cursor.htmlWidth bytes)) := by
  unfold Cursor.htmlWidth
  split
  · exact valid_drop_lineLength h
  · exact h

end Prologue.Grammar
