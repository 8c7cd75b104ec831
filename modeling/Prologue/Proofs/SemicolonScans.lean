import Prologue.Proofs.LongScans

/-!
# Implied semicolons and returns

Whether a semicolon is implied depends on blanks, comments and line feeds. A return in front of a line
feed is a blank that the rule passes over, so the rule gives the same answer without the returns.
-/

namespace Prologue.Grammar

open Bytes (Unbroken Broken bare bareWidth isPaired)

/-! ## Blanks and comments -/

/-- A passage with more bytes in front of it. -/
def Passage.behind (width : Nat) : Passage → Passage
  | blocked => blocked
  | passed more fresh => passed (width + more) fresh

/-- The passage without the returns of the bytes that it goes over. -/
def Passage.bare (bytes : Bytes) : Passage → Passage
  | blocked => blocked
  | passed width fresh => passed (bytes.bareWidth width) fresh

theorem Passage.behind_behind (first second : Nat) (passage : Passage) :
    (passage.behind second).behind first = passage.behind (first + second) := by
  cases passage with
  | blocked => rfl
  | passed width fresh => exact congrArg (passed · fresh) (Nat.add_assoc ..).symm

theorem Passage.bare_behind_return (rest : Bytes) (passage : Passage) :
    (passage.behind 1).bare (13 :: rest) = passage.bare rest := by
  cases passage with
  | blocked => rfl
  | passed width fresh => rw [behind, bare, bare, Nat.add_comm, Bytes.bareWidth_return]

theorem Passage.bare_behind {byte : UInt8} (hbyte : byte ≠ 13) (rest : Bytes) (passage : Passage) :
    (passage.behind 1).bare (byte :: rest) = (passage.bare rest).behind 1 := by
  cases passage with
  | blocked => rfl
  | passed width fresh =>
    rw [behind, bare, bare, behind, Nat.add_comm, Bytes.bareWidth_cons hbyte, Nat.add_comm]

theorem passNotes_eq {whole seenBreak : Bool} {ends : Nat → Bool} {place : Place} (width skip : Nat) (bytes : Bytes) :
    passNotes whole ends seenBreak place width skip bytes =
      (passNotes whole ends seenBreak place 0 skip bytes).behind width := by
  induction bytes generalizing seenBreak place width skip with
  | nil => rfl
  | cons byte rest ih =>
    -- Both scans go on behind the byte, one of them with `width` more bytes.
    have hnext : ∀ seen place skip, passNotes whole ends seen place (width + 1) skip rest =
        (passNotes whole ends seen place (0 + 1) skip rest).behind width := by
      intro seen place skip
      rw [ih, ih (0 + 1), Passage.behind_behind, Nat.zero_add]
    cases skip with
    | succ skip => exact hnext _ _ _
    | zero =>
      cases place with
      | between =>
        simp only [passNotes]
        split
        · split
          · exact hnext _ _ _
          · exact hnext _ _ _
          · rfl
        split
        · split
          · exact hnext _ _ _
          · rfl
        · rfl
      | inBlock =>
        simp only [passNotes]
        split
        · split
          · rfl
          · exact hnext _ _ _
        · exact hnext _ _ _

/-- Blanks and comments are passed alike without the returns. -/
theorem passNotes_bare {ends : Nat → Bool} (hfeed : ends 10 = true) (hends : ends 13 = false)
    {bytes : Bytes} (hpaired : bytes.isPaired = true) (whole seenBreak : Bool) (place : Place)
    (skip : Nat) :
    passNotes whole ends seenBreak place 0 (bytes.bareWidth skip) (bare bytes) =
      (passNotes whole ends seenBreak place 0 skip bytes).bare bytes := by
  induction bytes generalizing seenBreak place skip with
  | nil => rfl
  | cons byte rest ih =>
    have hrest := (Bytes.isPaired_cons.1 hpaired).2
    by_cases hreturn : byte = 13
    · subst hreturn
      have hnext : ∀ skip, passNotes whole ends seenBreak place 0 (bareWidth rest skip) (bare rest) =
          (passNotes whole ends seenBreak place 1 skip rest).bare (13 :: rest) := by
        intro skip
        rw [passNotes_eq 1, Passage.bare_behind_return, ih hrest]
      rw [Bytes.bare_return]
      cases skip with
      | succ skip => exact hnext skip
      | zero =>
        have hpass : passNotes whole ends seenBreak place 0 0 (13 :: rest) =
            passNotes whole ends seenBreak place 1 0 rest := by
          cases place with
          | between => rfl
          | inBlock => simp [passNotes, startsLineEnd, frontPoint, hends]
        rw [hpass, ← hnext]
        rfl
    have hnext : ∀ seen place skip,
        passNotes whole ends seen place (0 + 1) (bareWidth rest skip) (bare rest) =
          (passNotes whole ends seen place (0 + 1) skip rest).bare (byte :: rest) := by
      intro seen place skip
      rw [passNotes_eq (0 + 1), passNotes_eq (0 + 1), Nat.zero_add, Passage.bare_behind hreturn,
        ih hrest]
    rw [Bytes.bare_cons hreturn]
    cases skip with
    | succ skip =>
      rw [Bytes.bareWidth_cons hreturn]
      exact hnext _ _ skip
    | zero =>
      rw [Bytes.bareWidth_zero]
      cases place with
      | between =>
        by_cases hslash : byte = 47
        · simp only [passNotes, if_pos hslash]
          rcases rest with _ | ⟨mark, more⟩
          · rfl
          by_cases hmark : mark = 13
          · subst hmark
            obtain ⟨more, rfl, -⟩ := Bytes.isPaired_return hrest
            rfl
          have hmore := fun place skip => hnext seenBreak place skip
          rw [Bytes.bare_cons hmark] at hmore ⊢
          by_cases hline : mark = 47
          · subst hline
            have hlength := lineLength_bare hfeed hrest
            rw [Bytes.bare_cons hmark] at hlength
            simp only [hlength]
            exact hmore .between _
          by_cases hblock : mark = 42
          · subst hblock
            exact hmore .inBlock 1
          · simp [hline, hblock, Passage.bare]
        · obtain ⟨hpoint, hwidth⟩ := frontPoint_bare byte hrest
          simp only [passNotes, if_neg hslash, hpoint]
          split
          next code n hfound =>
            split
            · rw [← hnext, hwidth hfound]
            · rfl
          · rfl
      | inBlock =>
        have hclosed : ((bare rest).head? == some 47) = (rest.head? == some 47) :=
          Bytes.head?_bare_beq hrest (by decide) (by decide)
        have hbreak : startsLineEnd ends (byte :: bare rest) = startsLineEnd ends (byte :: rest) := by
          rw [startsLineEnd, startsLineEnd, (frontPoint_bare byte hrest).1]
        simp only [passNotes, Bool.and_eq_true, hclosed, hbreak]
        split
        next hstop =>
          obtain ⟨more, rfl⟩ := List.head?_eq_some_iff.1 (beq_iff_eq.1 hstop.2)
          have hslash : (bare more).head? = some 47 ↔ more.head? = some 47 :=
            Bytes.head?_bare_eq_some (Bytes.isPaired_cons.1 hrest).2 (by decide) (by decide)
          have hmore := hnext seenBreak .between 1
          rw [Bytes.bareWidth_cons (by decide), Bytes.bareWidth_zero] at hmore
          rw [Bytes.bare_cons (by decide)] at hmore ⊢
          simp only [List.tail_cons, bne_iff_ne, ne_eq, hslash, hmore]
          split
          · rw [Passage.bare, Bytes.bareWidth_cons hreturn, Bytes.bareWidth_cons (by decide)]
            rfl
          · rfl
        · exact hnext _ _ 0

/-! ## What starts a statement -/

theorem startsAlphabetic_of_frontPoint {bytes : Bytes} {code width : Nat}
    (h : frontPoint bytes = some (code, width)) :
    startsAlphabetic bytes = Text.isAlphabetic code := by
  rw [startsAlphabetic, h, Option.any_some]

theorem lineLocal_startsAlphabetic : LineLocal startsAlphabetic := by
  intro line rest hline hrest
  rcases line with _ | ⟨byte, line⟩
  · have hnone : startsAlphabetic [] = false := rfl
    rw [List.nil_append, hnone]
    cases hrest with
    | ended => exact hnone
    | feed => exact (startsAlphabetic_of_frontPoint rfl).trans (by decide +kernel)
    | pair => exact (startsAlphabetic_of_frontPoint rfl).trans (by decide +kernel)
  · rw [startsAlphabetic, startsAlphabetic, List.cons_append, frontPoint_append_broken hrest]

theorem lineLocal_startsOperatorWord : LineLocal startsOperatorWord := by
  intro line rest hline hrest
  have hshort : Unbroken (utf8 "in") := Bytes.unbroken_of_all rfl
  have hlong : Unbroken (utf8 "instanceof") := Bytes.unbroken_of_all rfl
  have hin := lineLocal_startsWith hshort hline hrest
  have hinstanceof := lineLocal_startsWith hlong hline hrest
  simp only [startsWith] at hin hinstanceof
  -- A letter behind the word stands on the same line.
  have hletter : ∀ count ≤ line.length,
      startsAlphabetic ((line ++ rest).drop count) = startsAlphabetic (line.drop count) := by
    intro count hcount
    rw [List.drop_append_of_le_length hcount]
    exact lineLocal_startsAlphabetic (unbroken_drop hline count) hrest
  rw [startsOperatorWord, startsOperatorWord, hin, hinstanceof]
  split
  next hword =>
    rw [hletter 2 (List.isPrefixOf_iff_prefix.1 hword).length_le]
    split
    · rfl
    cases hwhole : (utf8 "instanceof").isPrefixOf line with
    | false => rfl
    | true => rw [hletter 10 (List.isPrefixOf_iff_prefix.1 hwhole).length_le]
  · rfl

theorem lineLocal_startsStatement (dialect : Dialect) (context : Context) :
    LineLocal (startsStatement dialect context) := by
  intro line rest hline hrest
  rcases line with _ | ⟨byte, line⟩
  · cases hrest <;> rfl
  have hword := lineLocal_startsOperatorWord hline hrest
  have hhead : ∀ mark : UInt8, mark ≠ 10 → mark ≠ 13 →
      ((line ++ rest).head? == some mark) = (line.head? == some mark) := by
    intro mark hfeed hreturn
    rw [Bool.eq_iff_iff, beq_iff_eq, beq_iff_eq, Bytes.head?_append_broken hrest hfeed hreturn]
  simp only [List.cons_append] at hword
  simp only [List.cons_append, startsStatement, hword, bne, hhead 43 (by decide) (by decide),
    hhead 45 (by decide) (by decide), hhead 61 (by decide) (by decide)]
  -- Only the digit behind a point is still looked for in the whole text.
  rcases line with _ | ⟨next, line⟩
  · cases hrest <;> rfl
  · rfl

theorem endsNote_feed (dialect : Dialect) : endsNote dialect 10 = true := by
  cases h : dialect.typed <;> simp [endsNote, h, isLineEnd]

theorem endsNote_return (dialect : Dialect) : endsNote dialect 13 = false := by
  cases h : dialect.typed <;> simp [endsNote, h, isLineEnd]

theorem breaksAfterLine_bare (dialect : Dialect) (context : Context) {bytes : Bytes}
    (hpaired : bytes.isPaired = true) :
    breaksAfterLine dialect context (bare bytes) = breaksAfterLine dialect context bytes := by
  have hpass := passNotes_bare (endsNote_feed dialect) (endsNote_return dialect) hpaired true false
    .between 0
  rw [Bytes.bareWidth_zero] at hpass
  rw [breaksAfterLine, breaksAfterLine, hpass]
  cases passNotes true (endsNote dialect) false .between 0 0 bytes with
  | blocked => rfl
  | passed width fresh =>
    simp only [Passage.bare]
    rw [Bytes.bare_drop, LineLocal.bare (lineLocal_startsStatement dialect context)
      (Bytes.isPaired_drop hpaired width)]

/-! ## Where a statement ends -/

theorem typedBreak_brace (dialect : Dialect) (context : Context) (rest : Bytes) :
    typedBreak dialect context 0 (125 :: rest) =
      if (rest.dropWhile fun byte => isBreakable byte.toNat).head? = some 58 then context == .operand
      else true := by
  rw [typedBreak, if_pos rfl]
  split
  next hcolon => rw [hcolon]; rfl
  next hother =>
    refine (if_neg fun hhead => ?_).symm
    obtain ⟨more, hmore⟩ := List.head?_eq_some_iff.1 hhead
    exact hother more hmore

theorem typedBreak_bare (dialect : Dialect) (context : Context) {bytes : Bytes}
    (hpaired : bytes.isPaired = true) (skip : Nat) :
    typedBreak dialect context (bytes.bareWidth skip) (bare bytes) =
      typedBreak dialect context skip bytes := by
  induction bytes generalizing skip with
  | nil => rfl
  | cons byte rest ih =>
    have hrest := (Bytes.isPaired_cons.1 hpaired).2
    by_cases hreturn : byte = 13
    · subst hreturn
      cases skip with
      | succ skip => exact ih hrest skip
      | zero => exact ih hrest 0
    rw [Bytes.bare_cons hreturn]
    cases skip with
    | succ skip =>
      rw [Bytes.bareWidth_cons hreturn]
      exact ih hrest skip
    | zero =>
      rw [Bytes.bareWidth_zero]
      by_cases hbrace : byte = 125
      · subst hbrace
        rw [typedBreak_brace, typedBreak_brace, Bytes.dropWhile_bare rfl,
          List.suffix_iff_eq_drop.1 (List.dropWhile_suffix _)]
        simp only [Bytes.head?_bare_eq_some (Bytes.isPaired_drop hrest _)
          (show (58 : UInt8) ≠ 10 by decide) (show (58 : UInt8) ≠ 13 by decide)]
      obtain ⟨hpoint, hwidth⟩ := frontPoint_bare byte hrest
      rw [typedBreak, typedBreak, hpoint, breaksAfterLine_bare dialect context hrest]
      simp only [if_neg hbrace]
      split
      · rfl
      split
      next code n hfound =>
        have hnext := ih hrest n
        rw [hwidth hfound] at hnext
        rw [hnext]
      · rfl

theorem untypedBreak_bare (dialect : Dialect) (context : Context) {bytes : Bytes}
    (hpaired : bytes.isPaired = true) (skip : Nat) :
    untypedBreak dialect context (bytes.bareWidth skip) (bare bytes) =
      untypedBreak dialect context skip bytes := by
  induction bytes generalizing skip with
  | nil => rfl
  | cons byte rest ih =>
    have hrest := (Bytes.isPaired_cons.1 hpaired).2
    by_cases hreturn : byte = 13
    · subst hreturn
      cases skip with
      | succ skip => exact ih hrest skip
      | zero => exact ih hrest 0
    cases skip with
    | succ skip =>
      rw [Bytes.bareWidth_cons hreturn, Bytes.bare_cons hreturn]
      exact ih hrest skip
    | zero =>
      have hpass := @passNotes_bare isLineEnd rfl rfl _ hpaired false false .between 0
      rw [Bytes.bareWidth_zero] at hpass
      obtain ⟨hpoint, hwidth⟩ := frontPoint_bare byte hrest
      have hdrop := Bytes.bare_drop (byte :: rest)
      rw [Bytes.bare_cons hreturn] at hpass hdrop
      rw [Bytes.bareWidth_zero, Bytes.bare_cons hreturn, untypedBreak, untypedBreak, hpoint, hpass]
      split
      · cases passNotes false isLineEnd false .between 0 0 (byte :: rest) with
        | blocked => rfl
        | passed width fresh =>
          have htail := Bytes.head?_bare (Bytes.isPaired_drop hpaired width)
          have hmark : ∀ mark : UInt8, mark ≠ 10 → mark ≠ 13 →
              ((bare ((byte :: rest).drop width)).head? != some mark) =
                (((byte :: rest).drop width).head? != some mark) := by
            intro mark hfeed hreturn
            rw [bne, bne, Bytes.head?_bare_beq (Bytes.isPaired_drop hpaired width) hfeed hreturn]
          have hnext : untypedBreak dialect context (bareWidth (byte :: rest) width - 1) (bare rest) =
              untypedBreak dialect context (width - 1) rest := by
            rw [← ih hrest]
            cases width with
            | zero => rfl
            | succ width => rw [Bytes.bareWidth_cons hreturn]; rfl
          simp only [Passage.bare, hdrop, hmark 44 (by decide) (by decide),
            hmark 61 (by decide) (by decide), hnext]
          rw [htail, Option.isNone_map]
      split
      · rfl
      split
      next code n hfound =>
        have hnext := ih hrest n
        have hbehind := Bytes.bare_drop rest n
        rw [hwidth hfound] at hnext hbehind
        rw [hnext, hbehind, breaksAfterLine_bare dialect context (Bytes.isPaired_drop hrest n)]
      · rfl

/-- A semicolon is implied in the same places without the returns. -/
theorem impliesSemicolon_bare (dialect : Dialect) (context : Context) {bytes : Bytes}
    (hpaired : bytes.isPaired = true) :
    impliesSemicolon dialect context (bare bytes) = impliesSemicolon dialect context bytes := by
  have htyped := typedBreak_bare dialect context hpaired 0
  have huntyped := untypedBreak_bare dialect context hpaired 0
  rw [Bytes.bareWidth_zero] at htyped huntyped
  rw [impliesSemicolon, impliesSemicolon, htyped, huntyped]

end Prologue.Grammar
