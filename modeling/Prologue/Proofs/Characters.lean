import Mathlib.Data.List.Basic
import Prologue.Text.Utf8

/-!
# Characters of one to four bytes

A character is a lead byte, which announces the width, and as many continuations as are announced, with
further bounds on the second byte of the longer forms. `Spells` lists the four forms. Reading from the
front finds a character exactly if one of the forms stands there, so nothing behind it has a say.
-/

namespace Prologue.Utf8

/-! ## Classes of bytes -/

theorem isContinuation_iff (byte : UInt8) :
    isContinuation byte = true ↔ 128 ≤ byte.toNat ∧ byte.toNat < 192 := by
  rw [isContinuation, Bool.and_eq_true, decide_eq_true_eq, decide_eq_true_eq,
    UInt8.le_iff_toNat_le, UInt8.lt_iff_toNat_lt]
  rfl

theorem isContinuation_eq_false_of_lt {byte : UInt8} (h : byte < 0x80) :
    isContinuation byte = false := by
  have hlt : byte.toNat < 128 := UInt8.lt_iff_toNat_lt.1 h
  rw [← Bool.not_eq_true, isContinuation_iff]
  omega

theorem admitsSecond_iff (lead second : UInt8) :
    admitsSecond lead second = true ↔
      isContinuation second = true ∧
      (lead.toNat = 0xE0 → 0xA0 ≤ second.toNat) ∧ (lead.toNat = 0xED → second.toNat < 0xA0) ∧
      (lead.toNat = 0xF0 → 0x90 ≤ second.toNat) ∧ (lead.toNat = 0xF4 → second.toNat < 0x90) := by
  have hlead : ∀ byte : UInt8, lead = byte ↔ lead.toNat = byte.toNat := fun _ =>
    UInt8.toNat_inj.symm
  simp only [admitsSecond, Bool.and_eq_true, hlead, UInt8.reduceToNat]
  refine and_congr_right fun _ => ?_
  split
  · simp [UInt8.le_iff_toNat_le]; omega
  split
  · simp [UInt8.lt_iff_toNat_lt]; omega
  split
  · simp [UInt8.le_iff_toNat_le]; omega
  split
  · simp [UInt8.lt_iff_toNat_lt]; omega
  · simp; omega

theorem announced_eq_some_iff (lead : UInt8) (width : Nat) :
    announced lead = some width ↔
      (width = 1 ∧ lead.toNat < 0x80) ∨ (width = 2 ∧ 0xC2 ≤ lead.toNat ∧ lead.toNat < 0xE0) ∨
      (width = 3 ∧ 0xE0 ≤ lead.toNat ∧ lead.toNat < 0xF0) ∨
      (width = 4 ∧ 0xF0 ≤ lead.toNat ∧ lead.toNat < 0xF5) := by
  simp only [announced, UInt8.lt_iff_toNat_lt, UInt8.reduceToNat]
  repeat' split
  all_goals simp only [Option.some.injEq, reduceCtorEq, false_iff]
  all_goals omega

theorem isContinuation_eq_false_of_announced {lead : UInt8} {width : Nat}
    (h : announced lead = some width) : isContinuation lead = false := by
  rw [announced_eq_some_iff] at h
  rw [← Bool.not_eq_true, isContinuation_iff]
  omega

/-! ## The four forms -/

/-- A lead byte and the bytes behind it are those of the character with the given code. -/
inductive Spells : UInt8 → Bytes → Nat → Prop
  | one {lead : UInt8} {code : Nat} (hlead : announced lead = some 1) (hcode : lead.toNat = code) :
    Spells lead [] code
  | two {lead b : UInt8} {code : Nat} (hlead : announced lead = some 2)
    (hb : isContinuation b = true) (hcode : lead.toNat % 32 * 64 + payload b = code) :
    Spells lead [b] code
  | three {lead b c : UInt8} {code : Nat} (hlead : announced lead = some 3)
    (hb : admitsSecond lead b = true) (hc : isContinuation c = true)
    (hcode : lead.toNat % 16 * 4096 + payload b * 64 + payload c = code) :
    Spells lead [b, c] code
  | four {lead b c d : UInt8} {code : Nat} (hlead : announced lead = some 4)
    (hb : admitsSecond lead b = true) (hc : isContinuation c = true)
    (hd : isContinuation d = true)
    (hcode : lead.toNat % 8 * 262144 + payload b * 4096 + payload c * 64 + payload d = code) :
    Spells lead [b, c, d] code

section

variable {lead : UInt8} {tail rest : Bytes} {code width : Nat}

theorem Spells.announced_eq (h : Spells lead tail code) :
    announced lead = some (tail.length + 1) := by
  cases h with
  | one hlead | two hlead | three hlead | four hlead => exact hlead

theorem Spells.isContinuation_lead (h : Spells lead tail code) : isContinuation lead = false :=
  isContinuation_eq_false_of_announced h.announced_eq

theorem Spells.isContinuation_of_mem (h : Spells lead tail code) :
    ∀ byte ∈ tail, isContinuation byte = true := by
  cases h with
  | one => simp
  | two _ hb => simpa using hb
  | three _ hb hc => simpa using ⟨((admitsSecond_iff _ _).1 hb).1, hc⟩
  | four _ hb hc hd => simpa using ⟨((admitsSecond_iff _ _).1 hb).1, hc, hd⟩

/-- A character is read from the front whatever stands behind it. -/
theorem Spells.front_eq (h : Spells lead tail code) (rest : Bytes) :
    front lead (tail ++ rest) = .point code (tail.length + 1) := by
  unfold front
  cases h with
  | one hlead hcode => simp [hlead, hcode]
  | two hlead hb hcode => simp [hlead, hb, hcode]
  | three hlead hb hc hcode => simp [hlead, hb, hc, hcode]
  | four hlead hb hc hd hcode => simp [hlead, hb, hc, hd, hcode]

theorem front_of_lt (h : lead < 0x80) (rest : Bytes) : front lead rest = .point lead.toNat 1 := by
  have hone : announced lead = some 1 := by rw [announced, if_pos h]
  exact (Spells.one hone rfl).front_eq rest

/-- What is read from the front has one of the four forms. -/
theorem spells_of_front (h : front lead rest = .point code width) :
    ∃ tail, tail <+: rest ∧ width = tail.length + 1 ∧ Spells lead tail code := by
  unfold front at h
  split at h
  · cases h
  next hlead =>
    obtain ⟨hcode, rfl⟩ := Front.point.inj h
    exact ⟨[], List.nil_prefix, rfl, .one hlead hcode⟩
  next b more hlead =>
    split at h
    next hb =>
      obtain ⟨hcode, rfl⟩ := Front.point.inj h
      exact ⟨[b], ⟨more, rfl⟩, rfl, .two hlead hb hcode⟩
    · cases h
  next b c more hlead =>
    split at h
    · cases h
    next hb =>
    split at h
    · cases h
    next hc =>
      rw [Bool.not_eq_true, Bool.not_eq_false'] at hb hc
      obtain ⟨hcode, rfl⟩ := Front.point.inj h
      exact ⟨[b, c], ⟨more, rfl⟩, rfl, .three hlead hb hc hcode⟩
  next b c d more hlead =>
    split at h
    · cases h
    next hb =>
    split at h
    · cases h
    next hc =>
    split at h
    · cases h
    next hd =>
      rw [Bool.not_eq_true, Bool.not_eq_false'] at hb hc hd
      obtain ⟨hcode, rfl⟩ := Front.point.inj h
      exact ⟨[b, c, d], ⟨more, rfl⟩, rfl, .four hlead hb hc hd hcode⟩
  -- The text ends inside of the character.
  · repeat' split at h
    all_goals cases h
  · split at h <;> cases h
  · cases h

theorem pos_of_front (h : front lead rest = .point code width) : 0 < width := by
  obtain ⟨tail, -, rfl, -⟩ := spells_of_front h
  exact Nat.succ_pos _

theorem isContinuation_lead_of_front (h : front lead rest = .point code width) :
    isContinuation lead = false := by
  obtain ⟨tail, -, -, hspells⟩ := spells_of_front h
  exact hspells.isContinuation_lead

/-- Behind the lead byte a character goes on with continuations. -/
theorem continues_of_front (h : front lead rest = .point code width) {i : Nat}
    (hi : i < width - 1) : ∃ byte, rest[i]? = some byte ∧ isContinuation byte = true := by
  obtain ⟨tail, ⟨more, rfl⟩, rfl, hspells⟩ := spells_of_front h
  rw [Nat.add_sub_cancel] at hi
  refine ⟨tail[i], ?_, hspells.isContinuation_of_mem _ (List.getElem_mem hi)⟩
  rw [List.getElem?_append_left hi, List.getElem?_eq_getElem hi]

/-- A character depends on nothing but its own bytes. -/
theorem front_of_take (h : front lead rest = .point code width) {rest' : Bytes}
    (htake : rest'.take (width - 1) = rest.take (width - 1)) :
    front lead rest' = .point code width := by
  obtain ⟨tail, ⟨more, rfl⟩, rfl, hspells⟩ := spells_of_front h
  rw [Nat.add_sub_cancel, List.take_left] at htake
  rw [← List.take_append_drop tail.length rest', htake]
  exact hspells.front_eq _

end

end Prologue.Utf8
