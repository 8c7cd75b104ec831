import Mathlib.Data.List.Basic
import Prologue.Proofs.Characters
import Prologue.Proofs.Deletion

/-!
# Texts and their bytes

Decoding inverts encoding: a byte string decodes to a text exactly if it is the text's encoding. The
encoding is self-synchronising, because the first byte of a character continues none and the others all
do. So a valid byte string can be cut in two at every offset at which no byte continues a character, in
particular in front of an ASCII byte and behind one.
-/

namespace Prologue.Utf8

/-! ## One character -/

theorem toNat_byte {n : Nat} (h : n < 256) : (UInt8.ofNat n).toNat = n :=
  UInt8.toNat_ofNat_of_lt' h

/-- The byte that carries the last six bits of a number. -/
def carrying (n : Nat) : UInt8 := UInt8.ofNat (0x80 + n % 64)

theorem toNat_carrying (n : Nat) : (carrying n).toNat = 0x80 + n % 64 := toNat_byte (by omega)

theorem isContinuation_carrying (n : Nat) : isContinuation (carrying n) = true := by
  rw [isContinuation_iff, toNat_carrying]
  omega

theorem payload_carrying (n : Nat) : payload (carrying n) = n % 64 := by
  rw [payload, toNat_carrying]
  omega

theorem encodeChar_eq (c : Char) :
    encodeChar c =
      if c.toNat < 0x80 then [UInt8.ofNat c.toNat]
      else if c.toNat < 0x800 then [UInt8.ofNat (0xC0 + c.toNat / 64), carrying c.toNat]
      else if c.toNat < 0x10000 then
        [UInt8.ofNat (0xE0 + c.toNat / 4096), carrying (c.toNat / 64), carrying c.toNat]
      else
        [UInt8.ofNat (0xF0 + c.toNat / 262144), carrying (c.toNat / 4096), carrying (c.toNat / 64),
          carrying c.toNat] := by
  simp [encodeChar, carrying]

theorem encodeChar_eq_utf8EncodeChar (c : Char) : encodeChar c = String.utf8EncodeChar c := by
  have hvalid : c.toNat < 0xD800 ∨ (0xDFFF < c.toNat ∧ c.toNat < 0x110000) := c.valid
  have hcarry : ∀ n, carrying n = UInt8.ofNat (n % 64 + 0x80) := fun n => by
    rw [carrying, Nat.add_comm]
  rw [encodeChar_eq, String.utf8EncodeChar, show c.val.toNat = c.toNat from rfl]
  simp only [hcarry]
  generalize c.toNat = n at hvalid ⊢
  by_cases hone : n < 0x80
  · rw [if_pos hone, if_pos (by omega)]
  by_cases htwo : n < 0x800
  · rw [if_neg hone, if_pos htwo, if_neg (show ¬ n ≤ 127 by omega),
      if_pos (show n ≤ 2047 by omega), show 0xC0 + n / 64 = n / 64 % 32 + 192 by omega]
  by_cases hthree : n < 0x10000
  · rw [if_neg hone, if_neg htwo, if_pos hthree, if_neg (show ¬ n ≤ 127 by omega),
      if_neg (show ¬ n ≤ 2047 by omega), if_pos (show n ≤ 65535 by omega),
      show 0xE0 + n / 4096 = n / 4096 % 16 + 224 by omega]
  · rw [if_neg hone, if_neg htwo, if_neg hthree, if_neg (show ¬ n ≤ 127 by omega),
      if_neg (show ¬ n ≤ 2047 by omega), if_neg (show ¬ n ≤ 65535 by omega),
      show 0xF0 + n / 262144 = n / 262144 % 8 + 240 by omega]

/-- The bytes of a character spell it. -/
theorem spells_encodeChar (c : Char) :
    ∃ lead tail, encodeChar c = lead :: tail ∧ Spells lead tail c.toNat := by
  have hvalid : c.toNat < 0xD800 ∨ (0xDFFF < c.toNat ∧ c.toNat < 0x110000) := c.valid
  rw [encodeChar_eq]
  generalize c.toNat = n at hvalid ⊢
  split
  next hone =>
    have hfirst : (UInt8.ofNat n).toNat = n := toNat_byte (by omega)
    exact ⟨_, _, rfl, .one ((announced_eq_some_iff _ _).2 (by omega)) hfirst⟩
  split
  next hone htwo =>
    have hfirst : (UInt8.ofNat (0xC0 + n / 64)).toNat = 0xC0 + n / 64 := toNat_byte (by omega)
    refine ⟨_, _, rfl, .two ((announced_eq_some_iff _ _).2 (by omega))
      (isContinuation_carrying _) ?_⟩
    rw [payload_carrying, hfirst]
    omega
  split
  next hone htwo hthree =>
    have hfirst : (UInt8.ofNat (0xE0 + n / 4096)).toNat = 0xE0 + n / 4096 :=
      toNat_byte (by omega)
    refine ⟨_, _, rfl, .three ((announced_eq_some_iff _ _).2 (by omega)) ?_
      (isContinuation_carrying _) ?_⟩
    · rw [admitsSecond_iff, hfirst, toNat_carrying]
      exact ⟨isContinuation_carrying _, by omega⟩
    · rw [payload_carrying, payload_carrying, hfirst]
      omega
  next hone htwo hthree =>
    have hfirst : (UInt8.ofNat (0xF0 + n / 262144)).toNat = 0xF0 + n / 262144 :=
      toNat_byte (by omega)
    refine ⟨_, _, rfl, .four ((announced_eq_some_iff _ _).2 (by omega)) ?_
      (isContinuation_carrying _) (isContinuation_carrying _) ?_⟩
    · rw [admitsSecond_iff, hfirst, toNat_carrying]
      exact ⟨isContinuation_carrying _, by omega⟩
    · rw [payload_carrying, payload_carrying, payload_carrying, hfirst]
      omega

/-- The first byte of a character continues no other, all that follow it do, and it is read from the
front whatever stands behind it. -/
theorem front_encodeChar (c : Char) :
    ∃ lead tail, encodeChar c = lead :: tail ∧ isContinuation lead = false ∧
      (∀ byte ∈ tail, isContinuation byte = true) ∧
      ∀ rest, front lead (tail ++ rest) = .point c.toNat (tail.length + 1) := by
  obtain ⟨lead, tail, hbytes, hspells⟩ := spells_encodeChar c
  exact ⟨lead, tail, hbytes, hspells.isContinuation_lead, hspells.isContinuation_of_mem,
    hspells.front_eq⟩

theorem carrying_eq {byte : UInt8} {n : Nat} (h : isContinuation byte = true)
    (hpayload : n % 64 = payload byte) : carrying n = byte := by
  rw [isContinuation_iff] at h
  rw [payload] at hpayload
  apply UInt8.toNat_inj.1
  rw [toNat_carrying]
  omega

theorem toNat_ofNat_of_valid {n : Nat} (h : n < 0xD800 ∨ (0xDFFF < n ∧ n < 0x110000)) :
    (Char.ofNat n).toNat = n := by
  rw [Char.ofNat, dif_pos h]
  rfl

/-- Bytes that spell a character are its own. -/
theorem Spells.encodeChar_ofNat {lead : UInt8} {tail : Bytes} {code : Nat}
    (h : Spells lead tail code) : encodeChar (Char.ofNat code) = lead :: tail := by
  have hbyte : ∀ {n : Nat}, n = lead.toNat → UInt8.ofNat n = lead := by
    rintro n rfl
    exact UInt8.ofNat_toNat
  have hlow : ∀ byte, payload byte < 64 := fun byte => Nat.mod_lt _ (by decide)
  cases h with
  | one hlead hcode =>
    rw [announced_eq_some_iff] at hlead
    rw [encodeChar_eq, toNat_ofNat_of_valid (by omega), if_pos (by omega), hbyte hcode.symm]
  | @two b _ hlead hb hcode =>
    rw [announced_eq_some_iff] at hlead
    have := hlow b
    rw [encodeChar_eq, toNat_ofNat_of_valid (by omega), if_neg (by omega), if_pos (by omega),
      hbyte (by omega), carrying_eq hb (by omega)]
  | @three b c _ hlead hb hc hcode =>
    rw [announced_eq_some_iff] at hlead
    rw [admitsSecond_iff] at hb
    have := hlow b
    have := hlow c
    have hb' := (isContinuation_iff b).1 hb.1
    have hpayload : payload b = b.toNat - 128 := by rw [payload]; omega
    rw [encodeChar_eq, toNat_ofNat_of_valid (by omega), if_neg (by omega), if_neg (by omega),
      if_pos (by omega), hbyte (by omega), carrying_eq hb.1 (by omega), carrying_eq hc (by omega)]
  | @four b c d _ hlead hb hc hd hcode =>
    rw [announced_eq_some_iff] at hlead
    rw [admitsSecond_iff] at hb
    have := hlow b
    have := hlow c
    have := hlow d
    have hb' := (isContinuation_iff b).1 hb.1
    have hpayload : payload b = b.toNat - 128 := by rw [payload]; omega
    rw [encodeChar_eq, toNat_ofNat_of_valid (by omega), if_neg (by omega), if_neg (by omega),
      if_neg (by omega), hbyte (by omega), carrying_eq hb.1 (by omega), carrying_eq hc (by omega),
      carrying_eq hd (by omega)]

/-- A character that is read from the front stands there with its own bytes. -/
theorem encodeChar_of_front {lead : UInt8} {rest : Bytes} {code width : Nat}
    (h : front lead rest = .point code width) :
    encodeChar (Char.ofNat code) = lead :: rest.take (width - 1) := by
  obtain ⟨tail, ⟨more, rfl⟩, rfl, hspells⟩ := spells_of_front h
  rw [Nat.add_sub_cancel, List.take_left]
  exact hspells.encodeChar_ofNat

/-! ## Whole texts -/

theorem encode_cons (c : Char) (text : List Char) : encode (c :: text) = encodeChar c ++ encode text :=
  List.flatMap_cons

theorem encode_append (first second : List Char) :
    encode (first ++ second) = encode first ++ encode second :=
  List.flatMap_append

/-- A string has the bytes of its characters. -/
theorem utf8_eq_encode (text : String) : utf8 text = encode text.toList := by
  rw [utf8, encode, ← String.ofList_toList (s := text), String.toByteArray_ofList, List.utf8Encode,
    String.toList_ofList, List.data_toByteArray]
  exact List.flatMap_congr fun c _ => (encodeChar_eq_utf8EncodeChar c).symm

theorem decodeFrom_skip (position : Nat) (tail rest : Bytes) :
    decodeFrom position tail.length (tail ++ rest) =
      decodeFrom (position + tail.length) 0 rest := by
  induction tail generalizing position with
  | nil => rfl
  | cons byte tail ih =>
    rw [List.length_cons, List.cons_append, decodeFrom, ih, Nat.add_assoc, Nat.add_comm 1]

theorem decodeFrom_encode (position : Nat) (text : List Char) :
    decodeFrom position 0 (encode text) = .ok text := by
  induction text generalizing position with
  | nil => rfl
  | cons c text ih =>
    obtain ⟨lead, tail, hbytes, -, -, hfront⟩ := front_encodeChar c
    rw [encode_cons, hbytes, List.cons_append]
    simp only [decodeFrom, hfront, Nat.add_sub_cancel, decodeFrom_skip, ih, Char.ofNat_toNat]

/-- What was decoded are the bytes behind those that were skipped. -/
theorem encode_of_decodeFrom {position skip : Nat} {bytes : Bytes} {text : List Char}
    (h : decodeFrom position skip bytes = .ok text) : encode text = bytes.drop skip := by
  induction bytes generalizing position skip text with
  | nil =>
    obtain rfl := Except.ok.inj h
    simp [encode]
  | cons byte rest ih =>
    cases skip with
    | succ skip => exact ih h
    | zero =>
      simp only [decodeFrom] at h
      split at h
      · cases h
      next code width hfront =>
        split at h
        next more hmore =>
          obtain rfl := Except.ok.inj h
          rw [encode_cons, encodeChar_of_front hfront, ih hmore, List.cons_append,
            List.take_append_drop, List.drop_zero]
        · cases h

/-- Decoding inverts encoding. -/
theorem decode_eq_ok_iff (bytes : Bytes) (text : List Char) :
    decode bytes = .ok text ↔ encode text = bytes := by
  constructor
  · exact fun h => encode_of_decodeFrom h
  · rintro rfl
    exact decodeFrom_encode 0 text

/-! ## Code points of any bytes -/

/-- What is read as a character is no surrogate, so it is never taken for a stray byte. -/
theorem not_surrogate_of_front {lead : UInt8} {rest : Bytes} {code width : Nat}
    (h : front lead rest = .point code width) : ¬ (0xD800 ≤ code ∧ code < 0xE000) := by
  intro hcode
  have hnull : Char.ofNat code = Char.ofNat 0 := by
    rw [Char.ofNat, dif_neg (by simp only [Nat.isValidChar]; omega)]
    rfl
  -- No surrogate is a character, so the bytes would be those of the first character of all.
  have hbytes := encodeChar_of_front h
  rw [hnull, show encodeChar (Char.ofNat 0) = [0] by decide] at hbytes
  obtain rfl := (List.cons.inj hbytes).1.symm
  rw [front_of_lt (by decide)] at h
  obtain ⟨rfl, -⟩ := Front.point.inj h
  exact absurd hcode.1 (by decide)

/-- The bytes that a code point of a byte string stands for. -/
def scalarBytes (code : Nat) : Bytes :=
  if 0xD800 ≤ code ∧ code < 0xE000 then [UInt8.ofNat code] else encodeChar (Char.ofNat code)

theorem scalarBytes_stray (byte : UInt8) : scalarBytes (0xDC00 + byte.toNat) = [byte] := by
  have hlt := byte.toNat_lt
  rw [scalarBytes, if_pos (by omega), List.cons.injEq]
  refine ⟨UInt8.toNat_inj.1 ?_, rfl⟩
  rw [UInt8.toNat_ofNat']
  omega

theorem flatMap_scalarsFrom (skip : Nat) (bytes : Bytes) :
    (scalarsFrom skip bytes).flatMap scalarBytes = bytes.drop skip := by
  induction bytes generalizing skip with
  | nil => simp [scalarsFrom]
  | cons byte rest ih =>
    cases skip with
    | succ skip => exact ih skip
    | zero =>
      rw [scalarsFrom]
      split
      next width reason hfront =>
        rw [List.flatMap_cons, scalarBytes_stray, ih, List.singleton_append, List.drop_zero,
          List.drop_zero]
      next code width hfront =>
        rw [List.flatMap_cons, scalarBytes, if_neg (not_surrogate_of_front hfront),
          encodeChar_of_front hfront, ih, List.cons_append, List.take_append_drop, List.drop_zero]

/-- No two byte strings have the same code points, whether they are valid or not. -/
theorem scalars_injective : Function.Injective scalars := by
  intro first second h
  have hbytes := congrArg (List.flatMap scalarBytes) h
  rwa [scalars, scalars, flatMap_scalarsFrom, flatMap_scalarsFrom, List.drop_zero, List.drop_zero]
    at hbytes

/-! ## Valid texts -/

/-- The bytes of some text. -/
def Valid (bytes : Bytes) : Prop := ∃ text, encode text = bytes

theorem valid_encode (text : List Char) : Valid (encode text) := ⟨text, rfl⟩

theorem valid_nil : Valid [] := ⟨[], rfl⟩

theorem valid_encodeChar (c : Char) : Valid (encodeChar c) := ⟨[c], by simp [encode]⟩

theorem Valid.decode {bytes : Bytes} (h : Valid bytes) :
    ∃ text, Utf8.decode bytes = .ok text := by
  obtain ⟨text, htext⟩ := h
  exact ⟨text, (decode_eq_ok_iff bytes text).2 htext⟩

theorem Valid.append {first second : Bytes} (hfirst : Valid first) (hsecond : Valid second) :
    Valid (first ++ second) := by
  obtain ⟨a, rfl⟩ := hfirst
  obtain ⟨b, rfl⟩ := hsecond
  exact ⟨a ++ b, encode_append a b⟩

/-- A text that is not empty begins with a character. -/
theorem Valid.front {lead : UInt8} {rest : Bytes} (h : Valid (lead :: rest)) :
    isContinuation lead = false ∧
      ∃ code width, Utf8.front lead rest = .point code (width + 1) ∧ Valid (rest.drop width) := by
  obtain ⟨_ | ⟨c, text⟩, htext⟩ := h
  · cases htext
  · obtain ⟨first, tail, hbytes, hfirst, -, hfront⟩ := front_encodeChar c
    rw [encode_cons, hbytes, List.cons_append] at htext
    obtain ⟨rfl, rfl⟩ := List.cons.inj htext
    refine ⟨hfirst, _, _, hfront _, ?_⟩
    rw [List.drop_left]
    exact valid_encode text

/-- What stands behind a text in a text is a text. -/
theorem Valid.of_encode_append {text : List Char} {bytes : Bytes}
    (h : Valid (encode text ++ bytes)) : Valid bytes := by
  induction text with
  | nil => exact h
  | cons c text ih =>
    obtain ⟨lead, tail, hbytes, -, -, hfront⟩ := front_encodeChar c
    rw [encode_cons, hbytes, List.append_assoc, List.cons_append] at h
    obtain ⟨-, code, width, hread, hrest⟩ := h.front
    rw [hfront, Front.point.injEq] at hread
    obtain rfl : width = tail.length := by omega
    rw [List.drop_left] at hrest
    exact ih hrest

/-- A text can be cut in front of every byte that continues no character. -/
theorem Valid.drop {bytes : Bytes} (h : Valid bytes) {n : Nat}
    (hbyte : ∀ byte, bytes[n]? = some byte → isContinuation byte = false) :
    Valid (bytes.drop n) := by
  obtain ⟨text, rfl⟩ := h
  induction text generalizing n with
  | nil => simpa [encode] using valid_nil
  | cons c text ih =>
    obtain ⟨lead, tail, hbytes, -, htail, -⟩ := front_encodeChar c
    rcases Nat.eq_zero_or_pos n with rfl | hpos
    · exact valid_encode _
    rw [encode_cons, hbytes, List.cons_append, List.getElem?_cons, if_neg (by omega)] at hbyte
    have hbeyond : tail.length ≤ n - 1 := by
      by_contra hinside
      have hlt : n - 1 < tail.length := by omega
      rw [List.getElem?_append_left hlt, List.getElem?_eq_getElem hlt] at hbyte
      have hcontinues := htail _ (List.getElem_mem hlt)
      rw [hbyte _ rfl] at hcontinues
      cases hcontinues
    rw [List.getElem?_append_right hbeyond] at hbyte
    have hrest := ih hbyte
    rwa [encode_cons, hbytes, List.cons_append, List.drop_cons hpos, List.drop_append,
      List.drop_eq_nil_of_le hbeyond, List.nil_append]

/-- What stands in front of a text in a text is a text. -/
theorem Valid.of_append {first second : Bytes} (h : Valid (first ++ second))
    (hsecond : Valid second) : Valid first := by
  obtain ⟨text, htext⟩ := h
  induction text generalizing first with
  | nil =>
    rw [(List.append_eq_nil_iff.1 htext.symm).1]
    exact valid_nil
  | cons c text ih =>
    rcases first with _ | ⟨byte, first⟩
    · exact valid_nil
    obtain ⟨lead, tail, hbytes, -, htail, -⟩ := front_encodeChar c
    rw [encode_cons, hbytes, List.cons_append, List.cons_append, List.cons.injEq] at htext
    obtain ⟨rfl, hrest⟩ := htext
    rcases List.append_eq_append_iff.1 hrest with ⟨more, rfl, hmore⟩ | ⟨cut, rfl, rfl⟩
    · rw [← List.cons_append, ← hbytes]
      exact (valid_encodeChar c).append (ih hmore)
    · -- The cut falls into the character only where its continuation is empty.
      rcases cut with _ | ⟨next, cut⟩
      · rw [List.append_nil] at hbytes
        exact hbytes ▸ valid_encodeChar c
      · have hcontinues := htail next (by simp)
        rw [hsecond.front.1] at hcontinues
        cases hcontinues

theorem Valid.slice {bytes : Bytes} {start stop : Nat} (hstart : Valid (bytes.drop start))
    (hstop : Valid (bytes.drop stop)) : Valid (bytes.slice start stop) := by
  rcases Nat.le_total start stop with hle | hle
  · rw [bytes.drop_eq_append hle] at hstart
    exact hstart.of_append hstop
  · rw [Bytes.slice, List.drop_eq_nil_of_le (by rw [List.length_take]; omega)]
    exact valid_nil

/-- A text can be cut behind an ASCII byte in front. -/
theorem Valid.tail {byte : UInt8} {rest : Bytes} (h : Valid (byte :: rest)) (hascii : byte < 0x80) :
    Valid rest := by
  obtain ⟨-, code, width, hfront, hrest⟩ := h.front
  rw [front_of_lt hascii, Front.point.injEq] at hfront
  obtain rfl : width = 0 := by omega
  exact hrest

/-- A text can be cut behind every ASCII byte. -/
theorem Valid.drop_of_ascii {bytes : Bytes} (h : Valid bytes) {n : Nat} {byte : UInt8}
    (hbyte : bytes[n]? = some byte) (hascii : byte < 0x80) : Valid (bytes.drop (n + 1)) := by
  have hfront : Valid (bytes.drop n) := by
    apply h.drop
    intro other hother
    obtain rfl := Option.some.inj (hbyte.symm.trans hother)
    exact isContinuation_eq_false_of_lt hascii
  obtain ⟨hlt, rfl⟩ := List.getElem?_eq_some_iff.1 hbyte
  rw [List.drop_eq_getElem_cons hlt] at hfront
  exact hfront.tail hascii

/-! ## Boundaries and deletion -/

/-- The offset lies in front of a character or at the end of the text. -/
def Boundary (text : List Char) (offset : Nat) : Prop :=
  ∃ front, front <+: text ∧ (encode front).length = offset

theorem boundary_of_valid_drop {text : List Char} {offset : Nat}
    (hle : offset ≤ (encode text).length) (h : Valid ((encode text).drop offset)) :
    Boundary text offset := by
  have hfront : Valid ((encode text).take offset) := by
    apply Valid.of_append _ h
    rw [List.take_append_drop]
    exact valid_encode text
  obtain ⟨front, hfrontText⟩ := hfront
  obtain ⟨back, hback⟩ := h
  have htext : front ++ back = text := by
    have hdecode := (decode_eq_ok_iff (encode text) (front ++ back)).2
      (by rw [encode_append, hfrontText, hback, List.take_append_drop])
    exact Except.ok.inj (hdecode.symm.trans (decodeFrom_encode 0 text))
  refine ⟨front, ⟨back, htext⟩, ?_⟩
  rw [hfrontText, List.length_take, Nat.min_eq_left hle]

theorem Boundary.valid_drop {text : List Char} {offset : Nat} (h : Boundary text offset) :
    offset ≤ (encode text).length ∧ Valid ((encode text).drop offset) := by
  obtain ⟨front, ⟨back, rfl⟩, rfl⟩ := h
  rw [encode_append, List.length_append, List.drop_left]
  exact ⟨Nat.le_add_right _ _, valid_encode back⟩

/-- The characters of a text that starts at an offset, each with where it starts and stops. -/
def placed (offset : Nat) : List Char → List (Char × Nat × Nat)
  | [] => []
  | c :: text =>
    let stop := offset + (encodeChar c).length
    (c, offset, stop) :: placed stop text

theorem mem_placed {offset : Nat} {text : List Char} {entry : Char × Nat × Nat}
    (h : entry ∈ placed offset text) :
    ∃ front back, text = front ++ entry.1 :: back ∧
      entry.2 = (offset + (encode front).length, offset + (encode (front ++ [entry.1])).length) := by
  induction text generalizing offset with
  | nil => cases h
  | cons c text ih =>
    rcases List.mem_cons.1 h with rfl | h
    · exact ⟨[], text, rfl, by simp [encode]⟩
    · obtain ⟨front, back, htext, hplace⟩ := ih h
      refine ⟨c :: front, back, by rw [htext, List.cons_append], ?_⟩
      rw [hplace, List.cons_append, encode_cons, encode_cons, List.length_append,
        List.length_append, Nat.add_assoc, Nat.add_assoc]

/-- No boundary lies inside a character. -/
theorem Boundary.outside {text : List Char} {entry : Char × Nat × Nat} (hmem : entry ∈ placed 0 text)
    {offset : Nat} (h : Boundary text offset) : offset ≤ entry.2.1 ∨ entry.2.2 ≤ offset := by
  obtain ⟨front, back, rfl, hplace⟩ := mem_placed hmem
  obtain ⟨other, hother, rfl⟩ := h
  have hprefix : ∀ {a b : List Char}, a <+: b → (encode a).length ≤ (encode b).length := by
    rintro a b ⟨rest, rfl⟩
    rw [encode_append, List.length_append]
    exact Nat.le_add_right _ _
  rw [hplace, Nat.zero_add, Nat.zero_add]
  have hlonger : front ++ [entry.1] <+: front ++ entry.1 :: back := ⟨back, by simp⟩
  rcases Nat.lt_or_ge front.length other.length with hlt | hge
  · right
    exact hprefix (List.prefix_of_prefix_length_le hlonger hother (by simpa [Nat.succ_le_iff] using hlt))
  · left
    exact hprefix (List.prefix_of_prefix_length_le hother (List.prefix_append _ _) hge)

theorem placed_lt {offset : Nat} {text : List Char} {entry : Char × Nat × Nat}
    (h : entry ∈ placed offset text) : entry.2.1 < entry.2.2 := by
  obtain ⟨front, back, -, hplace⟩ := mem_placed h
  obtain ⟨lead, tail, hbytes, -⟩ := front_encodeChar entry.1
  rw [hplace, encode_append, List.length_append]
  simp [encode, hbytes]

/-- Deletion that takes all bytes of a character or none leaves the characters it does not take. -/
theorem keep_encode (text : List Char) {offset : Nat} {test : Nat → Bool}
    (h : ∀ entry ∈ placed offset text, ∀ i, entry.2.1 ≤ i → i < entry.2.2 →
      test i = test entry.2.1) :
    (Bytes.keep (encode text) fun i => test (offset + i)) =
      encode (((placed offset text).filter fun entry => test entry.2.1).map (·.1)) := by
  induction text generalizing offset with
  | nil => rfl
  | cons c text ih =>
    rw [placed, List.forall_mem_cons] at h
    have hrest := ih h.2
    have hfirst : (Bytes.keep (encodeChar c) fun i => test (offset + i)) =
        if test offset then encodeChar c else [] := by
      split
      next hkept =>
        exact Bytes.keep_all fun i hi => by
          rw [h.1 (offset + i) (Nat.le_add_right _ _) (Nat.add_lt_add_left hi _), hkept]
      next hcut =>
        exact Bytes.keep_none fun i hi => by
          rw [h.1 (offset + i) (Nat.le_add_right _ _) (Nat.add_lt_add_left hi _)]
          exact Bool.not_eq_true _ ▸ hcut
    rw [encode_cons, Bytes.keep_append, hfirst, placed]
    simp only [← Nat.add_assoc, hrest, List.filter_cons]
    split
    · rw [List.map_cons, encode_cons]
    · rfl

/-- The characters of a text that lie wholly in none of the ranges. -/
def outside (ranges : List (Nat × Nat)) (text : List Char) : List Char :=
  ((placed 0 text).filter fun (_, start, stop) =>
    !ranges.any fun range => range.1 ≤ start && stop ≤ range.2).map (·.1)

/-- Cutting out separate ranges that begin and end at boundaries leaves a text, which consists of the
characters outside the ranges. -/
theorem removeRanges_encode (text : List Char) (ranges : List (Nat × Nat))
    (hbounds : ∀ range ∈ ranges, range.1 ≤ range.2)
    (hboundary : ∀ range ∈ ranges, Boundary text range.1 ∧ Boundary text range.2)
    (hseparate : ranges.Pairwise Separate) :
    removeRanges (encode text) ranges = encode (outside ranges text) := by
  have hcovers : ∀ entry ∈ placed 0 text, ∀ i, entry.2.1 ≤ i → i < entry.2.2 →
      (ranges.any fun range => covers range i) =
        ranges.any fun range => range.1 ≤ entry.2.1 && entry.2.2 ≤ range.2 := by
    intro entry hentry i hstart hstop
    rw [Bool.eq_iff_iff, List.any_eq_true, List.any_eq_true]
    refine exists_congr fun range => and_congr_right fun hrange => ?_
    have hfirst := (hboundary range hrange).1.outside hentry
    have hlast := (hboundary range hrange).2.outside hentry
    simp only [covers, Bool.and_eq_true, decide_eq_true_eq]
    omega
  rw [removeRanges_eq_keep _ _ hbounds hseparate]
  have hkeep := @keep_encode text 0 (fun i => !ranges.any fun range => covers range i)
    fun entry hentry i hstart hstop => by
      rw [hcovers entry hentry i hstart hstop,
        hcovers entry hentry _ (Nat.le_refl _) (placed_lt hentry)]
  simp only [Nat.zero_add] at hkeep
  rw [hkeep, outside]
  congr 2
  refine List.filter_congr fun entry hentry => ?_
  rw [hcovers entry hentry _ (Nat.le_refl _) (placed_lt hentry)]

end Prologue.Utf8
