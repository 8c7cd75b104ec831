import Prologue.Proofs.Returns

/-!
# Scans that stay on their line

Names, numbers, regular expressions and fixed spellings do not go beyond the end of their line, so what
is found at the front of a text depends on its first line alone. The line is the same with and without
returns, and so are the tokens found in it.
-/

namespace Prologue.Grammar

open Bytes (Unbroken Broken)

/-- What a scan finds depends on the first line alone. -/
def LineLocal {α : Type} (scan : Bytes → α) : Prop :=
  ∀ {line rest : Bytes}, line.Unbroken → rest.Broken → scan (line ++ rest) = scan line

theorem LineLocal.bare {α : Type} {scan : Bytes → α} (h : LineLocal scan) {bytes : Bytes}
    (hpaired : bytes.isPaired = true) : scan bytes.bare = scan bytes := by
  obtain ⟨line, rest, rfl, hline, hrest⟩ := Bytes.exists_unbroken hpaired
  rw [Bytes.bare_line hline, h hline hrest.bare, h hline hrest]

/-- A scan that stays on the first line takes the same bytes with and without returns. -/
theorem LineLocal.width {scan : Bytes → Option Nat} (h : LineLocal scan)
    (hle : ∀ {bytes width}, scan bytes = some width → width ≤ bytes.length) {bytes : Bytes}
    (hpaired : bytes.isPaired = true) : scan bytes.bare = (scan bytes).map bytes.bareWidth := by
  obtain ⟨line, rest, rfl, hline, hrest⟩ := Bytes.exists_unbroken hpaired
  rw [h.bare hpaired, h hline hrest]
  cases hscan : scan line with
  | none => rfl
  | some width =>
    have hwidth := hle hscan
    rw [Option.map_some, Bytes.bareWidth_eq]
    · rw [List.length_append]
      omega
    · rw [List.take_append_of_le_length hwidth]
      exact fun hmem => hline.not_mem (List.mem_of_mem_take hmem)

section

variable {line rest : Bytes}

/-! ## Characters -/

theorem getElem?_broken (hrest : rest.Broken) {byte : UInt8}
    (h : (line ++ rest)[line.length]? = some byte) : Utf8.isContinuation byte = false := by
  rw [List.getElem?_append_right (Nat.le_refl _), Nat.sub_self] at h
  cases hrest with
  | ended => cases h
  | feed rest => rw [← Option.some.inj h]; rfl
  | pair rest => rw [← Option.some.inj h]; rfl

/-- A character does not go beyond its line. -/
theorem front_append_broken (hrest : rest.Broken) (lead : UInt8) {code width : Nat} :
    Utf8.front lead (line ++ rest) = .point code width ↔ Utf8.front lead line = .point code width := by
  constructor
  · intro h
    apply Utf8.front_of_take h
    rw [List.take_append_of_le_length]
    by_contra hlong
    obtain ⟨byte, hbyte, hcontinues⟩ :=
      Utf8.continues_of_front h (show line.length < width - 1 by omega)
    rw [getElem?_broken hrest hbyte] at hcontinues
    cases hcontinues
  · intro h
    obtain ⟨tail, ⟨more, rfl⟩, rfl, hspells⟩ := Utf8.spells_of_front h
    rw [List.append_assoc]
    exact hspells.front_eq (more ++ rest)

theorem frontPoint_append_broken (hrest : rest.Broken) (byte : UInt8) :
    frontPoint (byte :: (line ++ rest)) = frontPoint (byte :: line) :=
  frontPoint_congr fun _ _ => front_append_broken hrest byte

/-- That a number of bytes of a class stand at the front. -/
theorem all_take_append_broken (hrest : rest.Broken) {p : UInt8 → Bool} (hfeed : p 10 = false)
    (hreturn : p 13 = false) (count : Nat) :
    (((line ++ rest).take count).length = count ∧ ((line ++ rest).take count).all p = true) ↔
      ((line.take count).length = count ∧ (line.take count).all p = true) := by
  induction line generalizing count with
  | nil =>
    cases count with
    | zero => simp
    | succ count =>
      cases hrest with
      | ended => rfl
      | feed rest => simp [hfeed]
      | pair rest => simp [hreturn]
  | cons byte line ih =>
    cases count with
    | zero => simp
    | succ count =>
      simp only [List.cons_append, List.take_succ_cons, List.length_cons, Nat.add_right_cancel_iff,
        List.all_cons, Bool.and_eq_true]
      rw [and_left_comm, ih count, and_left_comm]

/-- A spelling without line breaks stands on the first line or not at all. -/
theorem prefix_append_broken (hrest : rest.Broken) {spelling : Bytes} (hspelling : spelling.Unbroken) :
    spelling <+: line ++ rest ↔ spelling <+: line := by
  induction spelling generalizing line with
  | nil => simp
  | cons byte spelling ih =>
    rw [Bytes.unbroken_cons] at hspelling
    cases line with
    | cons first line =>
      rw [List.cons_append, List.cons_prefix_cons, List.cons_prefix_cons, ih hspelling.2]
    | nil =>
      cases hrest with
      | ended => rfl
      | feed rest => simp [hspelling.1.1]
      | pair rest => simp [hspelling.1.2]

theorem escapedPoint_braced (rest : Bytes) :
    escapedPoint (92 :: 117 :: 123 :: rest) =
      if (rest.takeWhile isHexDigit).isEmpty then 0
      else if (rest.drop (rest.takeWhile isHexDigit).length).head? = some 125 then
        (rest.takeWhile isHexDigit).length + 4
      else 0 := by
  rw [escapedPoint]
  split
  · rfl
  cases rest.drop (rest.takeWhile isHexDigit).length with
  | nil => rfl
  | cons byte more => by_cases h : byte = 125 <;> simp [h]

theorem escapedPoint_short {rest : Bytes} (h : rest.head? ≠ some 123) :
    escapedPoint (92 :: 117 :: rest) =
      if (rest.take 4).length = 4 ∧ (rest.take 4).all isHexDigit = true then 6 else 0 := by
  rw [escapedPoint]
  · simp only [Bool.and_eq_true, decide_eq_true_eq]
  · rintro more rfl
    exact h rfl

theorem escapedPoint_of_ne {bytes : Bytes} (h : ¬ [92, 117] <+: bytes) : escapedPoint bytes = 0 := by
  rw [escapedPoint]
  · rintro more rfl
    exact h ⟨123 :: more, rfl⟩
  · rintro more rfl
    exact h ⟨more, rfl⟩

theorem lineLocal_escapedPoint : LineLocal escapedPoint := by
  intro line rest hline hrest
  have hmark : Unbroken [92, 117] := by simp [Unbroken]
  by_cases hescape : [92, 117] <+: line
  · obtain ⟨line, rfl⟩ := hescape
    have hbrace : (line ++ rest).head? = some 123 ↔ line.head? = some 123 :=
      Bytes.head?_append_broken hrest (by decide) (by decide)
    by_cases hbraced : line.head? = some 123
    · obtain ⟨line, rfl⟩ : ∃ more, line = 123 :: more := List.head?_eq_some_iff.1 hbraced
      have hdigits : (line ++ rest).takeWhile isHexDigit = line.takeWhile isHexDigit :=
        Bytes.takeWhile_append_broken hrest rfl rfl
      have hclosed : ((line ++ rest).drop (line.takeWhile isHexDigit).length).head? = some 125 ↔
          (line.drop (line.takeWhile isHexDigit).length).head? = some 125 := by
        rw [List.drop_append_of_le_length (List.takeWhile_prefix _).length_le]
        exact Bytes.head?_append_broken hrest (by decide) (by decide)
      show escapedPoint (92 :: 117 :: 123 :: (line ++ rest)) = escapedPoint (92 :: 117 :: 123 :: line)
      rw [escapedPoint_braced, escapedPoint_braced, hdigits]
      simp only [hclosed]
    · show escapedPoint (92 :: 117 :: (line ++ rest)) = escapedPoint (92 :: 117 :: line)
      rw [escapedPoint_short (mt hbrace.1 hbraced), escapedPoint_short hbraced]
      simp only [all_take_append_broken hrest (p := isHexDigit) rfl rfl]
  · rw [escapedPoint_of_ne hescape,
      escapedPoint_of_ne (mt (prefix_append_broken hrest hmark).1 hescape)]

/-! ## Names -/

theorem escapedPoint_le (bytes : Bytes) : escapedPoint bytes ≤ bytes.length := by
  by_cases hescape : [92, 117] <+: bytes
  · obtain ⟨bytes, rfl⟩ := hescape
    by_cases hbraced : bytes.head? = some 123
    · obtain ⟨bytes, rfl⟩ : ∃ more, bytes = 123 :: more := List.head?_eq_some_iff.1 hbraced
      show escapedPoint (92 :: 117 :: 123 :: bytes) ≤ bytes.length + 3
      rw [escapedPoint_braced]
      split
      · exact Nat.zero_le _
      split
      next hclosed =>
        obtain ⟨more, hmore⟩ := List.head?_eq_some_iff.1 hclosed
        have hlt := lt_length_of_drop hmore
        omega
      · exact Nat.zero_le _
    · show escapedPoint (92 :: 117 :: bytes) ≤ bytes.length + 2
      rw [escapedPoint_short hbraced]
      split
      next hdigits =>
        rw [List.length_take] at hdigits
        omega
      · exact Nat.zero_le _
  · rw [escapedPoint_of_ne hescape]
    exact Nat.zero_le _

theorem nameCharacter_le (bytes : Bytes) : nameCharacter bytes ≤ bytes.length := by
  cases bytes with
  | nil => exact Nat.le_refl _
  | cons byte rest =>
    rw [nameCharacter]
    split
    · split
      · exact Nat.succ_le_succ (Nat.zero_le _)
      · exact escapedPoint_le _
    next hlead =>
      split
      next code width hfront =>
        have hwidth : frontPoint (byte :: rest) = some (code, width) := by
          rw [frontPoint, if_neg hlead, hfront]
        split
        · exact Nat.zero_le _
        · exact frontPoint_le hwidth
      · exact Nat.zero_le _

theorem lineLocal_nameCharacter : LineLocal nameCharacter := by
  intro line rest hline hrest
  cases line with
  | nil => cases hrest <;> rfl
  | cons byte line =>
    rw [List.cons_append, nameCharacter, nameCharacter]
    split
    · rw [← List.cons_append, lineLocal_escapedPoint hline hrest]
    cases hown : Utf8.front byte line with
    | point code width => rw [(front_append_broken hrest byte).2 hown]
    | broken width reason =>
      cases hboth : Utf8.front byte (line ++ rest) with
      | point code width' =>
        rw [(front_append_broken hrest byte).1 hboth] at hown
        cases hown
      | broken width' reason' => rfl

theorem characterRun_append_broken {widthOf : Bytes → Nat} (hlocal : LineLocal widthOf)
    (hle : ∀ bytes, widthOf bytes ≤ bytes.length) (hrest : rest.Broken) (hline : line.Unbroken)
    {skip : Nat} (hskip : skip ≤ line.length) :
    characterRun widthOf skip (line ++ rest) = characterRun widthOf skip line := by
  induction line generalizing skip with
  | nil =>
    obtain rfl : skip = 0 := Nat.le_zero.1 hskip
    have hnone : widthOf rest = 0 := (hlocal hline hrest).trans (Nat.le_zero.1 (hle []))
    cases rest with
    | nil => rfl
    | cons byte rest => simp only [List.nil_append, characterRun, hnone]
  | cons byte line ih =>
    have hrun := (Bytes.unbroken_cons.1 hline).2
    cases skip with
    | succ skip =>
      simp only [List.cons_append, characterRun]
      rw [ih hrun (Nat.le_of_succ_le_succ hskip)]
    | zero =>
      have hcharacter := hlocal hline hrest
      have hwithin := hle (byte :: line)
      rw [List.cons_append] at hcharacter ⊢
      rw [characterRun, characterRun, hcharacter]
      split
      · rfl
      next width hwidth =>
        rw [hwidth] at hwithin
        rw [ih hrun (Nat.le_of_succ_le_succ hwithin)]

/-- A run of characters stays on the first line if each of them does. -/
theorem lineLocal_characterRun {widthOf : Bytes → Nat} (hlocal : LineLocal widthOf)
    (hle : ∀ bytes, widthOf bytes ≤ bytes.length) : LineLocal (characterRun widthOf 0) :=
  fun hline hrest => characterRun_append_broken hlocal hle hrest hline (Nat.zero_le _)

theorem lineLocal_nameLength : LineLocal nameLength := by
  intro line rest hline hrest
  cases line with
  | nil => cases hrest <;> rfl
  | cons byte line =>
    have hrun := lineLocal_characterRun lineLocal_nameCharacter nameCharacter_le hline hrest
    rw [List.cons_append] at hrun ⊢
    rw [nameLength, nameLength, hrun]

theorem markupNameCharacter_le (bytes : Bytes) : markupNameCharacter bytes ≤ bytes.length := by
  cases bytes with
  | nil => exact Nat.le_refl _
  | cons byte rest =>
    rw [markupNameCharacter]
    split
    · exact Nat.succ_le_succ (Nat.zero_le _)
    · exact nameCharacter_le _

theorem lineLocal_markupNameCharacter : LineLocal markupNameCharacter := by
  intro line rest hline hrest
  cases line with
  | nil => cases hrest <;> rfl
  | cons byte line =>
    rw [List.cons_append, markupNameCharacter, markupNameCharacter, ← List.cons_append,
      lineLocal_nameCharacter hline hrest]

theorem lineLocal_markupNameRun : LineLocal markupNameRun :=
  lineLocal_characterRun lineLocal_markupNameCharacter markupNameCharacter_le

/-! ## Numbers -/

theorem any_head?_append_broken (hrest : rest.Broken) {p : UInt8 → Bool} (hfeed : p 10 = false)
    (hreturn : p 13 = false) : (line ++ rest).head?.any p = line.head?.any p := by
  cases line with
  | cons byte line => rfl
  | nil =>
    cases hrest with
    | ended => rfl
    | feed rest => exact hfeed
    | pair rest => exact hreturn

theorem digitRun_cons (p : UInt8 → Bool) (byte : UInt8) (rest : Bytes) :
    digitRun p (byte :: rest) =
      if p byte then digitRun p rest + 1
      else if byte = 95 ∧ rest.head?.any p = true then digitRun p rest + 1 else 0 := by
  rw [digitRun.eq_def]
  cases rest with
  | nil => simp
  | cons next rest => by_cases hbyte : byte = 95 <;> simp [hbyte]

theorem digitRun_append_broken (hrest : rest.Broken) {p : UInt8 → Bool}
    (hfeed : p 10 = false) (hreturn : p 13 = false) :
    digitRun p (line ++ rest) = digitRun p line := by
  induction line with
  | nil =>
    cases hrest with
    | ended => rfl
    | feed rest => simp [digitRun_cons, hfeed, digitRun]
    | pair rest => simp [digitRun_cons, hreturn, digitRun]
  | cons byte line ih =>
    rw [List.cons_append, digitRun_cons, digitRun_cons, ih,
      any_head?_append_broken hrest hfeed hreturn]

theorem digits_append_broken (hrest : rest.Broken) {p : UInt8 → Bool}
    (hfeed : p 10 = false) (hreturn : p 13 = false) :
    digits p (line ++ rest) = digits p line := by
  cases line with
  | nil =>
    cases hrest with
    | ended => rfl
    | feed rest => simp [digits, hfeed]
    | pair rest => simp [digits, hreturn]
  | cons byte line =>
    rw [List.cons_append, digits, digits, digitRun_append_broken hrest hfeed hreturn]

theorem lineLocal_exponentLength : LineLocal exponentLength := by
  intro line rest hline hrest
  rcases line with _ | ⟨mark, _ | ⟨sign, line⟩⟩
  · cases hrest <;> rfl
  · have hnone : ∀ {byte : UInt8} {more : Bytes}, byte = 10 ∨ byte = 13 →
        exponentLength (mark :: byte :: more) = 0 := by
      rintro byte more (rfl | rfl) <;> simp [exponentLength, digits, isDigit]
    cases hrest with
    | ended => rfl
    | feed rest => exact (hnone (.inl rfl)).trans (by simp [exponentLength, digits])
    | pair rest => exact (hnone (.inr rfl)).trans (by simp [exponentLength, digits])
  · have hdigits : ∀ count ≤ 1, digits isDigit ((sign :: (line ++ rest)).drop count) =
        digits isDigit ((sign :: line).drop count) := by
      intro count hcount
      rw [← List.cons_append, List.drop_append_of_le_length (Nat.le_trans hcount (by simp)),
        digits_append_broken hrest rfl rfl]
    simp only [List.cons_append, exponentLength]
    split
    · rw [hdigits _ (by split <;> omega)]
    · rfl

theorem bigMark_append_broken (hrest : rest.Broken) {count : Nat} (h : count ≤ line.length) :
    bigMark (line ++ rest) count = bigMark line count := by
  have hhead : ((line ++ rest).drop count).head? = some 110 ↔ (line.drop count).head? = some 110 := by
    rw [List.drop_append_of_le_length h]
    exact Bytes.head?_append_broken hrest (by decide) (by decide)
  have hmark : ∀ bytes : Bytes, bigMark bytes count =
      if (bytes.drop count).head? = some 110 then count + 1 else count := by
    intro bytes
    rw [bigMark]
    split
    next hcons => rw [hcons]; rfl
    next hother =>
      rw [if_neg]
      intro hmark
      obtain ⟨more, hmore⟩ := List.head?_eq_some_iff.1 hmark
      exact hother more hmore
  rw [hmark, hmark]
  simp only [hhead]

theorem lineLocal_radixLength : LineLocal radixLength := by
  intro line rest hline hrest
  rcases line with _ | ⟨zero, _ | ⟨mark, line⟩⟩
  · cases hrest <;> rfl
  · cases hrest with
    | ended => rfl
    | feed rest => by_cases hzero : zero = 48 <;> simp [radixLength, hzero]
    | pair rest => by_cases hzero : zero = 48 <;> simp [radixLength, hzero]
  · by_cases hzero : zero = 48
    · subst hzero
      simp only [List.cons_append, radixLength, digits_append_broken hrest (p := isHexDigit) rfl rfl,
        digits_append_broken hrest (p := fun b => decide (b = 48) || decide (b = 49)) rfl rfl,
        digits_append_broken hrest (p := fun b => decide (48 ≤ b) && decide (b ≤ 55)) rfl rfl]
    · simp [radixLength, hzero]

/-- Length of the fraction at the front, its point included; zero when none stands there. -/
def fractionLength : Bytes → Nat
  | 46 :: rest => digits isDigit rest + 1
  | _ => 0

theorem decimalLength_eq (bytes : Bytes) :
    decimalLength bytes =
      let whole := digits isDigit bytes
      let fraction := fractionLength (bytes.drop whole)
      if whole = 0 && fraction ≤ 1 then 0
      else
        let exponent := exponentLength (bytes.drop (whole + fraction))
        if fraction = 0 && exponent = 0 then bigMark bytes whole else whole + fraction + exponent :=
  rfl

theorem fractionLength_le (bytes : Bytes) : fractionLength bytes ≤ bytes.length := by
  unfold fractionLength
  split
  · exact Nat.succ_le_succ (digits_le _ _)
  · exact Nat.zero_le _

theorem lineLocal_fractionLength : LineLocal fractionLength := by
  intro line rest hline hrest
  cases line with
  | nil => cases hrest <;> rfl
  | cons point line =>
    by_cases hpoint : point = 46
    · subst hpoint
      simp only [List.cons_append, fractionLength, digits_append_broken hrest (p := isDigit) rfl rfl]
    · simp [fractionLength, hpoint]

theorem unbroken_drop (hline : line.Unbroken) (count : Nat) : Unbroken (line.drop count) :=
  fun byte hmem => hline byte (List.mem_of_mem_drop hmem)

theorem lineLocal_decimalLength : LineLocal decimalLength := by
  intro line rest hline hrest
  have hwhole : digits isDigit (line ++ rest) = digits isDigit line :=
    digits_append_broken hrest rfl rfl
  have hle := digits_le isDigit line
  have hfraction : fractionLength ((line ++ rest).drop (digits isDigit line)) =
      fractionLength (line.drop (digits isDigit line)) := by
    rw [List.drop_append_of_le_length hle, lineLocal_fractionLength (unbroken_drop hline _) hrest]
  have hexponent : exponentLength ((line ++ rest).drop
      (digits isDigit line + fractionLength (line.drop (digits isDigit line)))) =
      exponentLength (line.drop
        (digits isDigit line + fractionLength (line.drop (digits isDigit line)))) := by
    have hshort := fractionLength_le (line.drop (digits isDigit line))
    rw [List.length_drop] at hshort
    rw [List.drop_append_of_le_length (by omega),
      lineLocal_exponentLength (unbroken_drop hline _) hrest]
  rw [decimalLength_eq, decimalLength_eq]
  simp only [hwhole, hfraction, hexponent, bigMark_append_broken hrest hle]

theorem lineLocal_numberLength : LineLocal numberLength := by
  intro line rest hline hrest
  rw [numberLength, numberLength, lineLocal_radixLength hline hrest,
    lineLocal_decimalLength hline hrest]
  split
  · rfl
  · rw [bigMark_append_broken hrest (radixLength_le line)]

/-! ## Regular expressions and references -/

theorem regexBody_append_broken (hrest : rest.Broken) (place : RegexPlace) (escaped : Bool) :
    regexBody place escaped (line ++ rest) = regexBody place escaped line := by
  induction line generalizing place escaped with
  | nil =>
    -- A return is passed, but not the line feed behind it.
    cases hrest with
    | ended => rfl
    | feed rest => rfl
    | pair rest => cases place <;> cases escaped <;> rfl
  | cons byte line ih =>
    cases place <;> simp only [List.cons_append, regexBody, ih]

theorem lineLocal_regexLength : LineLocal regexLength := by
  intro line rest hline hrest
  rcases line with _ | ⟨slash, _ | ⟨first, line⟩⟩
  · cases hrest <;> rfl
  · by_cases hslash : slash = 47
    · subst hslash
      cases hrest <;> rfl
    · cases hrest <;> simp [regexLength, hslash]
  · by_cases hslash : slash = 47
    · subst hslash
      have hbody := @regexBody_append_broken (first :: line) rest hrest .outside false
      rw [List.cons_append] at hbody
      simp only [List.cons_append, regexLength, hbody]
      split
      · rfl
      split
      · rfl
      next width hwidth =>
        have hle := regexBody_le hwidth
        rw [← List.cons_append, List.drop_append_of_le_length hle,
          Bytes.takeWhile_append_broken hrest rfl rfl]
    · simp [regexLength, hslash]

/-- Length of the mark for a number at the front of a reference. -/
def hashLength : Bytes → Nat
  | 35 :: 120 :: _ => 2
  | 35 :: 88 :: _ => 2
  | 35 :: _ => 1
  | _ => 0

/-- The class of the characters behind such a mark. -/
def isReferenceByte (hash : Nat) : UInt8 → Bool :=
  if hash = 0 then isLetter else if hash = 1 then isDigit else isHexDigit

theorem referenceLength_cons (rest : Bytes) :
    referenceLength (38 :: rest) =
      let run := ((rest.drop (hashLength rest)).takeWhile (isReferenceByte (hashLength rest))).length
      if (rest.drop (hashLength rest + run)).head? = some 59 then
        if run = 0 then none else some (hashLength rest + run + 2)
      else none := by
  rw [referenceLength.eq_def]
  split
  next more heq =>
    obtain rfl := (List.cons.inj heq).2
    dsimp only
    split
    next hclosed => exact (if_pos (congrArg List.head? hclosed)).symm
    next hopen =>
      refine (if_neg fun hclosed => ?_).symm
      obtain ⟨more, hmore⟩ := List.head?_eq_some_iff.1 hclosed
      exact hopen more hmore
  next hother => exact absurd rfl (hother rest)

theorem lineLocal_hashLength : LineLocal hashLength := by
  intro line rest hline hrest
  rcases line with _ | ⟨hash, _ | ⟨mark, line⟩⟩
  · cases hrest <;> rfl
  · by_cases hhash : hash = 35
    · subst hhash
      cases hrest <;> rfl
    · cases hrest <;> simp [hashLength, hhash]
  · by_cases hhash : hash = 35
    · subst hhash
      by_cases hx : mark = 120
      · subst hx
        rfl
      · by_cases hX : mark = 88
        · subst hX
          rfl
        · simp [hashLength, hx, hX]
    · simp [hashLength, hhash]

theorem hashLength_le (bytes : Bytes) : hashLength bytes ≤ bytes.length := by
  unfold hashLength
  split
  · exact Nat.succ_le_succ (Nat.succ_le_succ (Nat.zero_le _))
  · exact Nat.succ_le_succ (Nat.succ_le_succ (Nat.zero_le _))
  · exact Nat.succ_le_succ (Nat.zero_le _)
  · exact Nat.zero_le _

theorem lineLocal_referenceLength : LineLocal referenceLength := by
  intro line rest hline hrest
  cases line with
  | nil => cases hrest <;> rfl
  | cons mark line =>
    by_cases hmark : mark = 38
    · subst hmark
      have hrun := (Bytes.unbroken_cons.1 hline).2
      have hhash := lineLocal_hashLength hrun hrest
      have hclass : isReferenceByte (hashLength line) 10 = false ∧
          isReferenceByte (hashLength line) 13 = false := by
        unfold isReferenceByte
        split
        · exact ⟨rfl, rfl⟩
        · split <;> exact ⟨rfl, rfl⟩
      have hdrop : (line ++ rest).drop (hashLength line) = line.drop (hashLength line) ++ rest :=
        List.drop_append_of_le_length (hashLength_le line)
      have htaken := @Bytes.takeWhile_append_broken (line.drop (hashLength line)) rest hrest _
        hclass.1 hclass.2
      have hle := (List.takeWhile_prefix (isReferenceByte (hashLength line))
        (l := line.drop (hashLength line))).length_le
      rw [List.length_drop] at hle
      have hclosed := @Bytes.head?_append_broken (line.drop (hashLength line +
        ((line.drop (hashLength line)).takeWhile (isReferenceByte (hashLength line))).length)) rest
        hrest 59 (by decide) (by decide)
      rw [← List.drop_append_of_le_length (by have := hashLength_le line; omega)] at hclosed
      rw [List.cons_append, referenceLength_cons, referenceLength_cons]
      simp only [hhash, hdrop, htaken, hclosed]
    · simp [referenceLength, hmark]

end

/-! ## Tokens -/

/-- Tokens that stay on their line. -/
def Token.isLocal : Token → Bool
  | word _ | name _ | privateName | number | regex | reference | markupName => true
  | text spelling longer => (spelling :: longer).all fun other =>
    (utf8 other).all fun byte => byte != 10 && byte != 13
  | _ => false

theorem lineLocal_startsWith {spelling : String} (h : (utf8 spelling).Unbroken) :
    LineLocal (startsWith spelling) := by
  intro line rest _ hrest
  rw [startsWith, startsWith, Bool.eq_iff_iff, List.isPrefixOf_iff_prefix,
    List.isPrefixOf_iff_prefix, prefix_append_broken hrest h]

theorem Token.lineLocal_length {token : Token} (h : token.isLocal = true) :
    LineLocal token.length := by
  intro line rest hline hrest
  have hname := lineLocal_nameLength hline hrest
  have htake : (line ++ rest).take (nameLength line) = line.take (nameLength line) :=
    List.take_append_of_le_length (nameLength_le line)
  cases token with
  | text spelling longer =>
    have hspelling : ∀ other ∈ spelling :: longer,
        startsWith other (line ++ rest) = startsWith other line := by
      intro other hother
      have hplain := Bytes.unbroken_of_all (List.all_eq_true.1 h other hother)
      exact lineLocal_startsWith hplain hline hrest
    rw [List.forall_mem_cons] at hspelling
    have hlonger : longer.any (startsWith · (line ++ rest)) = longer.any (startsWith · line) := by
      rw [Bool.eq_iff_iff, List.any_eq_true, List.any_eq_true]
      exact exists_congr fun other => and_congr_right fun hother => by rw [hspelling.2 other hother]
    rw [length, length, hspelling.1, hlonger]
  | word spelling => simp only [length, wordLength, hname, htake]
  | name reserved =>
    rw [length, length, hname]
    split
    · rfl
    · rw [htake]
  | privateName =>
    cases line with
    | nil => cases hrest <;> rfl
    | cons mark line =>
      by_cases hmark : mark = 35
      · subst hmark
        simp only [List.cons_append, length,
          lineLocal_nameLength (Bytes.unbroken_cons.1 hline).2 hrest]
      · simp [length, hmark]
  | number => exact lineLocal_numberLength hline hrest
  | regex => exact lineLocal_regexLength hline hrest
  | reference => exact lineLocal_referenceLength hline hrest
  | markupName =>
    rw [length, length, hname, lineLocal_markupNameRun hline hrest]
  | _ => cases h

end Prologue.Grammar
