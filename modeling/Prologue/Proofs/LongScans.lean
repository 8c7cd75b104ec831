import Prologue.Proofs.LineScans
import Prologue.Proofs.Openings

/-!
# Scans over several lines

Strings, templates, markup and comments may go over several lines. With and without returns they take
the same bytes, the returns apart.
-/

namespace Prologue.Grammar

open Bytes (Unbroken Broken bare bareWidth isPaired)

section

variable {byte : UInt8} {rest : Bytes}

/-! ## Characters -/

/-- A character stays the same without the returns behind it, and holds none. -/
theorem frontPoint_bare (byte : UInt8) (hpaired : rest.isPaired = true) :
    frontPoint (byte :: bare rest) = frontPoint (byte :: rest) ∧
      ∀ {code width}, frontPoint (byte :: rest) = some (code, width + 1) →
        rest.bareWidth width = width := by
  obtain ⟨line, rest, rfl, hline, hrest⟩ := Bytes.exists_unbroken hpaired
  rw [Bytes.bare_line hline, frontPoint_append_broken hrest.bare, frontPoint_append_broken hrest]
  refine ⟨rfl, fun {code width} hpoint => ?_⟩
  have hwidth := Nat.le_of_succ_le_succ (frontPoint_le hpoint)
  apply Bytes.bareWidth_eq
  · rw [List.length_append]
    omega
  · rw [List.take_append_of_le_length hwidth]
    exact fun hmem => hline.not_mem (List.mem_of_mem_take hmem)

/-! ## Lines -/

theorem lineRun_bare {ends : Nat → Bool} (hfeed : ends 10 = true) {bytes : Bytes}
    (hpaired : bytes.isPaired = true) (skip : Nat) :
    characterRun (lineCharacter ends) (bytes.bareWidth skip) (bare bytes) =
      bytes.bareWidth (characterRun (lineCharacter ends) skip bytes) := by
  induction bytes generalizing skip with
  | nil => rfl
  | cons byte rest ih =>
    have hrest := (Bytes.isPaired_cons.1 hpaired).2
    by_cases hreturn : byte = 13
    · subst hreturn
      rw [Bytes.bare_return]
      cases skip with
      | succ skip =>
        rw [characterRun, Bytes.bareWidth_return, Bytes.bareWidth_return]
        exact ih hrest skip
      | zero =>
        -- The line feed behind the return ends the line, whether or not the return does.
        obtain ⟨more, rfl, -⟩ := Bytes.isPaired_return hpaired
        have hstop : ∀ rest, characterRun (lineCharacter ends) 0 (10 :: rest) = 0 :=
          fun rest => lineLength_eq_zero_iff.2 ⟨10, 0, rfl, hfeed⟩
        have hcharacter := @lineCharacter_of_frontPoint ends (13 :: 10 :: more) 13 1 rfl
        rw [Bytes.bareWidth_zero, Bytes.bare_cons (by decide), hstop, characterRun, hcharacter]
        cases ends 13 with
        | true => rfl
        | false =>
          simp only [Bool.false_eq_true, if_false]
          rw [hstop, Bytes.bareWidth_return, Bytes.bareWidth_zero]
    · rw [Bytes.bare_cons hreturn]
      cases skip with
      | succ skip =>
        rw [Bytes.bareWidth_cons hreturn, characterRun, characterRun, ih hrest,
          Bytes.bareWidth_cons hreturn]
      | zero =>
        obtain ⟨hpoint, hwidth⟩ := frontPoint_bare byte hrest
        have hcharacter : lineCharacter ends (byte :: bare rest) =
            lineCharacter ends (byte :: rest) := by rw [lineCharacter, lineCharacter, hpoint]
        rw [Bytes.bareWidth_zero, characterRun, characterRun, hcharacter]
        split
        · rfl
        next width hfound =>
          obtain ⟨code, hfront⟩ := frontPoint_of_lineCharacter hfound
          rw [Bytes.bareWidth_cons hreturn, ← ih hrest, hwidth hfront]

/-- A line takes the same bytes without the returns. -/
theorem lineLength_bare {ends : Nat → Bool} (hfeed : ends 10 = true) {bytes : Bytes}
    (hpaired : bytes.isPaired = true) :
    lineLength ends (bare bytes) = bytes.bareWidth (lineLength ends bytes) := by
  have hrun := lineRun_bare hfeed hpaired 0
  rwa [Bytes.bareWidth_zero] at hrun

/-! ## Escapes -/

theorem takeWhile_take_append_broken {line : Bytes} (hrest : rest.Broken) {p : UInt8 → Bool}
    (hfeed : p 10 = false) (hreturn : p 13 = false) (count : Nat) :
    ((line ++ rest).take count).takeWhile p = (line.take count).takeWhile p := by
  induction line generalizing count with
  | nil =>
    cases count with
    | zero => rfl
    | succ count =>
      cases hrest with
      | ended => rfl
      | feed rest => simp [hfeed]
      | pair rest => simp [hreturn]
  | cons byte line ih =>
    cases count with
    | zero => rfl
    | succ count => simp only [List.cons_append, List.take_succ_cons, List.takeWhile_cons, ih count]

/-- An escape that does not begin with a line break stays on its line. -/
theorem escapeLength_append_broken {line : Bytes} (hbyte : byte ≠ 13) (hline : line.Unbroken)
    (hfeed : byte ≠ 10) (hrest : rest.Broken) :
    escapeLength (92 :: byte :: (line ++ rest)) = escapeLength (92 :: byte :: line) := by
  have hmark : Unbroken (92 :: byte :: line) :=
    Bytes.unbroken_cons.2 ⟨by decide, Bytes.unbroken_cons.2 ⟨⟨hfeed, hbyte⟩, hline⟩⟩
  have hdigits := @all_take_append_broken line rest hrest isHexDigit rfl rfl 2
  have hpoint := lineLocal_escapedPoint hmark hrest
  have hoctal := @takeWhile_take_append_broken rest line hrest
    (fun b => decide (48 ≤ b) && decide (b ≤ 55)) rfl rfl 2
  simp only [List.cons_append] at hpoint
  simp only [escapeLength, Bool.and_eq_true, decide_eq_true_eq, hdigits, hpoint, hoctal, if_neg hbyte]

theorem escapeLength_le (hbyte : byte ≠ 13) (line : Bytes) :
    escapeLength (92 :: byte :: line) ≤ (92 :: byte :: line).length := by
  have hpoint := escapedPoint_le (92 :: byte :: line)
  simp only [escapeLength, if_neg hbyte, List.length_cons] at hpoint ⊢
  split
  · split
    next hdigits =>
      simp only [Bool.and_eq_true, decide_eq_true_eq, List.length_take] at hdigits
      omega
    · omega
  split
  · exact hpoint
  split
  · have hrun := (List.takeWhile_prefix (fun b : UInt8 => decide (48 ≤ b) && decide (b ≤ 55))
      (l := line.take 2)).length_le
    rw [List.length_take] at hrun
    omega
  · omega

theorem escapeLength_bare {bytes : Bytes} (hpaired : bytes.isPaired = true) :
    escapeLength (bare bytes) = bytes.bareWidth (escapeLength bytes) := by
  rcases bytes with _ | ⟨mark, rest⟩
  · rfl
  by_cases hreturn : mark = 13
  · subst hreturn
    obtain ⟨more, rfl, -⟩ := Bytes.isPaired_return hpaired
    rfl
  rw [Bytes.bare_cons hreturn]
  by_cases hmark : mark = 92
  · subst hmark
    have hpairedRest := (Bytes.isPaired_cons.1 hpaired).2
    rcases rest with _ | ⟨byte, rest⟩
    · rfl
    by_cases hbyte : byte = 13
    · subst hbyte
      obtain ⟨more, rfl, -⟩ := Bytes.isPaired_return hpairedRest
      rfl
    rw [Bytes.bare_cons hbyte]
    by_cases hfeed : byte = 10
    · subst hfeed
      rfl
    obtain ⟨line, rest, rfl, hline, hrest⟩ :=
      Bytes.exists_unbroken (Bytes.isPaired_cons.1 hpairedRest).2
    have hle := escapeLength_le hbyte line
    rw [Bytes.bare_line hline, escapeLength_append_broken hbyte hline hfeed hrest.bare,
      escapeLength_append_broken hbyte hline hfeed hrest, Bytes.bareWidth_eq]
    · simp only [List.length_cons, List.length_append] at hle ⊢
      omega
    · rw [← List.cons_append, ← List.cons_append, List.take_append_of_le_length hle]
      intro hmem
      have hin := List.mem_of_mem_take hmem
      simp [Ne.symm hbyte, hline.not_mem] at hin
  · simp [escapeLength, hmark]

/-! ## Strings and templates -/

theorem map_bareWidth_cons (hbyte : byte ≠ 13) (found : Option Nat) :
    (found.map rest.bareWidth).map (· + 1) = (found.map (· + 1)).map (bareWidth (byte :: rest)) := by
  rw [Option.map_map, Option.map_map]
  congr 1
  funext width
  exact (Bytes.bareWidth_cons hbyte rest width).symm

theorem map_bareWidth_return (found : Option Nat) :
    found.map rest.bareWidth = (found.map (· + 1)).map (bareWidth (13 :: rest)) := by
  rw [Option.map_map]
  rfl

theorem quotedLength_bare {quote : UInt8} (hquote : quote = 34 ∨ quote = 39) {bytes : Bytes}
    (hpaired : bytes.isPaired = true) (skip : Nat) :
    quotedLength quote (bytes.bareWidth skip) (bare bytes) =
      (quotedLength quote skip bytes).map bytes.bareWidth := by
  induction bytes generalizing skip with
  | nil => rfl
  | cons byte rest ih =>
    have hrest := (Bytes.isPaired_cons.1 hpaired).2
    by_cases hreturn : byte = 13
    · subst hreturn
      cases skip with
      | succ skip =>
        rw [Bytes.bareWidth_return, Bytes.bare_return, ih hrest, quotedLength, map_bareWidth_return]
      | zero =>
        obtain ⟨more, rfl, -⟩ := Bytes.isPaired_return hpaired
        rcases hquote with rfl | rfl <;> rfl
    rw [Bytes.bare_cons hreturn]
    cases skip with
    | succ skip =>
      rw [Bytes.bareWidth_cons hreturn, quotedLength, quotedLength, ih hrest,
        map_bareWidth_cons hreturn]
    | zero =>
      have hescape := escapeLength_bare hpaired
      rw [Bytes.bare_cons hreturn] at hescape
      have hplain := ih hrest 0
      rw [Bytes.bareWidth_zero] at hplain ⊢
      rw [quotedLength, quotedLength, hescape, hplain]
      split
      · rw [Option.map_some, Bytes.bareWidth_cons hreturn, Bytes.bareWidth_zero]
      split
      · rfl
      split
      · cases escapeLength (byte :: rest) with
        | zero => rfl
        | succ width =>
          rw [Bytes.bareWidth_cons hreturn]
          simp only [ih hrest, map_bareWidth_cons hreturn]
      · rw [map_bareWidth_cons hreturn]

theorem stringLength_bare {bytes : Bytes} (hpaired : bytes.isPaired = true) :
    stringLength (bare bytes) = (stringLength bytes).map bytes.bareWidth := by
  rcases bytes with _ | ⟨quote, rest⟩
  · rfl
  by_cases hreturn : quote = 13
  · subst hreturn
    obtain ⟨more, rfl, -⟩ := Bytes.isPaired_return hpaired
    rfl
  have hquoted := fun hquote => @quotedLength_bare quote hquote _ (Bytes.isPaired_cons.1 hpaired).2 0
  rw [Bytes.bareWidth_zero] at hquoted
  rw [Bytes.bare_cons hreturn, stringLength, stringLength]
  split
  next hquote =>
    rw [hquoted (by simpa using hquote), map_bareWidth_cons hreturn]
  · rfl

theorem templateRun_bare {bytes : Bytes} (hpaired : bytes.isPaired = true) (skip : Nat) :
    templateRun (bytes.bareWidth skip) (bare bytes) =
      (templateRun skip bytes).map bytes.bareWidth := by
  induction bytes generalizing skip with
  | nil => rfl
  | cons byte rest ih =>
    have hrest := (Bytes.isPaired_cons.1 hpaired).2
    by_cases hreturn : byte = 13
    · subst hreturn
      cases skip with
      | succ skip =>
        rw [Bytes.bareWidth_return, Bytes.bare_return, ih hrest, templateRun, map_bareWidth_return]
      | zero =>
        have hplain := ih hrest 0
        rw [Bytes.bareWidth_zero] at hplain ⊢
        rw [Bytes.bare_return, hplain, map_bareWidth_return]
        rfl
    rw [Bytes.bare_cons hreturn]
    cases skip with
    | succ skip =>
      rw [Bytes.bareWidth_cons hreturn, templateRun, templateRun, ih hrest,
        map_bareWidth_cons hreturn]
    | zero =>
      have hescape := escapeLength_bare hpaired
      rw [Bytes.bare_cons hreturn] at hescape
      have hplain := ih hrest 0
      have hbrace : ((bare rest).head? == some 123) = (rest.head? == some 123) :=
        Bytes.head?_bare_beq hrest (by decide) (by decide)
      rw [Bytes.bareWidth_zero] at hplain ⊢
      rw [templateRun, templateRun, hescape, hplain]
      simp only [Bool.and_eq_true, hbrace]
      split
      · rfl
      split
      · rfl
      split
      · cases escapeLength (byte :: rest) with
        | zero => rfl
        | succ width =>
          rw [Bytes.bareWidth_cons hreturn]
          simp only [ih hrest, map_bareWidth_cons hreturn]
      · rw [map_bareWidth_cons hreturn]

/-! ## Markup -/

theorem markupTextLength_bare (bytes : Bytes) :
    markupTextLength (bare bytes) = bytes.bareWidth (markupTextLength bytes) :=
  Bytes.length_takeWhile_bare rfl bytes

theorem markupStringLength_bare {bytes : Bytes} (hpaired : bytes.isPaired = true) :
    markupStringLength (bare bytes) = (markupStringLength bytes).map bytes.bareWidth := by
  rcases bytes with _ | ⟨quote, rest⟩
  · rfl
  by_cases hreturn : quote = 13
  · subst hreturn
    obtain ⟨more, rfl, -⟩ := Bytes.isPaired_return hpaired
    rfl
  rw [Bytes.bare_cons hreturn, markupStringLength, markupStringLength]
  split
  next hquote =>
    have hrun := Bytes.takeWhile_bare (p := (· != quote)) (bne_iff_ne.2 (Ne.symm hreturn)) rest
    have hstop := List.head?_dropWhile_not (· != quote) rest
    have hsplit := List.takeWhile_append_dropWhile (p := (· != quote)) (l := rest)
    rw [hrun]
    generalize rest.takeWhile (· != quote) = run at hsplit ⊢
    generalize rest.dropWhile (· != quote) = tail at hsplit hstop
    subst hsplit
    cases tail with
    | nil => simp
    | cons mark more =>
      obtain rfl : mark = quote := by simpa using hstop
      have hwidth : bareWidth (mark :: (run ++ mark :: more)) (run.length + 2) =
          (bare run).length + 2 := by
        rw [Bytes.bareWidth_cons hreturn, Bytes.bareWidth_add, List.drop_left,
          Bytes.bareWidth_cons hreturn, Bytes.bareWidth_zero, bareWidth, List.take_left]
      simp [Bytes.bare_append, Bytes.bare_cons hreturn, hwidth]
  · rfl

/-! ## Tokens -/

/-- The spellings of punctuation are not empty and hold no line breaks. -/
def Token.isPlain : Token → Bool
  | text spelling longer => !(utf8 spelling).isEmpty && (text spelling longer).isLocal
  | _ => true

namespace Token

theorem templateText_eq (bytes : Bytes) :
    templateText.length bytes = (templateRun 0 bytes).filter (0 < ·) := by
  rw [length]
  rcases templateRun 0 bytes with _ | _ | width <;> rfl

theorem markupText_eq (bytes : Bytes) :
    markupText.length bytes = (some (markupTextLength bytes)).filter (0 < ·) := by
  rw [length]
  cases markupTextLength bytes <;> rfl

/-- Every token takes something. -/
theorem length_pos_of_isPlain {token : Token} (htoken : token.isPlain = true) {bytes : Bytes}
    {width : Nat} (h : token.length bytes = some width) : 0 < width := by
  refine (takes_of_length h).pos fun spelling longer heq => ?_
  rw [heq, isPlain, Bool.and_eq_true, Bool.not_eq_true', List.isEmpty_eq_false_iff] at htoken
  exact htoken.1

end Token

/-- What takes something takes something without the returns too, if it takes no return alone. -/
theorem bareWidth_pos_iff {bytes : Bytes} (hpaired : bytes.isPaired = true) {width : Nat}
    (hle : width ≤ bytes.length) (hreturn : bytes.head? = some 13 → width ≠ 1) :
    0 < bytes.bareWidth width ↔ 0 < width := by
  rcases width with _ | width
  · rfl
  rcases bytes with _ | ⟨byte, rest⟩
  · cases hle
  refine iff_of_true ?_ (Nat.succ_pos width)
  by_cases hbyte : byte = 13
  · subst hbyte
    obtain ⟨more, rfl, -⟩ := Bytes.isPaired_return hpaired
    rcases width with _ | width
    · exact absurd rfl (hreturn rfl)
    · rw [Bytes.bareWidth_return, Bytes.bareWidth_cons (by decide)]
      exact Nat.succ_pos _
  · rw [Bytes.bareWidth_cons hbyte]
    exact Nat.succ_pos _

namespace Token

/-- A token takes the same bytes without the returns. -/
theorem length_bare {token : Token} (htoken : token.isPlain = true) {bytes : Bytes}
    (hpaired : bytes.isPaired = true) :
    token.length (bare bytes) = (token.length bytes).map bytes.bareWidth := by
  by_cases hlocal : token.isLocal = true
  · exact LineLocal.width (lineLocal_length hlocal) length_le hpaired
  cases token with
  | string => exact stringLength_bare hpaired
  | markupString => exact markupStringLength_bare hpaired
  | templateText =>
    have hrun := templateRun_bare hpaired 0
    rw [Bytes.bareWidth_zero] at hrun
    rw [templateText_eq, templateText_eq, hrun]
    cases hfound : templateRun 0 bytes with
    | none => rfl
    | some width =>
      have hpos : 0 < bytes.bareWidth width ↔ 0 < width := by
        refine bareWidth_pos_iff hpaired (templateRun_le hfound) fun hhead => ?_
        obtain ⟨rest, rfl⟩ := List.head?_eq_some_iff.1 hhead
        obtain ⟨more, rfl, -⟩ := Bytes.isPaired_return hpaired
        obtain ⟨_, hmore, rfl⟩ := Option.map_eq_some_iff.1 hfound
        obtain ⟨inner, _, rfl⟩ := Option.map_eq_some_iff.1 hmore
        omega
      simp [Option.filter, hpos]
  | markupText =>
    have hpos : 0 < bytes.bareWidth (markupTextLength bytes) ↔ 0 < markupTextLength bytes := by
      refine bareWidth_pos_iff hpaired (List.takeWhile_prefix _).length_le fun hhead => ?_
      obtain ⟨rest, rfl⟩ := List.head?_eq_some_iff.1 hhead
      obtain ⟨more, rfl, -⟩ := Bytes.isPaired_return hpaired
      exact Nat.succ_succ_ne_one _
    rw [markupText_eq, markupText_eq, markupTextLength_bare]
    simp [Option.filter, hpos]
  | hashBang =>
    have hmark : Unbroken (utf8 "#!") := Bytes.unbroken_of_all rfl
    rw [length, length, LineLocal.bare (lineLocal_startsWith hmark) hpaired,
      Bytes.length_takeWhile_bare rfl]
    split <;> rfl
  | text spelling longer => exact absurd (Bool.and_eq_true_iff.1 htoken).2 hlocal
  | _ => exact absurd rfl hlocal

end Token

/-! ## Comments -/

theorem blockComment_bare {bytes : Bytes} (hpaired : bytes.isPaired = true) :
    commentLength.blockComment (bare bytes) =
      (commentLength.blockComment bytes).map bytes.bareWidth := by
  induction bytes with
  | nil => rfl
  | cons byte rest ih =>
    have hrest := (Bytes.isPaired_cons.1 hpaired).2
    by_cases hreturn : byte = 13
    · subst hreturn
      rw [Bytes.bare_return, ih hrest, map_bareWidth_return]
      rfl
    have hslash : ((bare rest).head? == some 47) = (rest.head? == some 47) :=
      Bytes.head?_bare_beq hrest (by decide) (by decide)
    rw [Bytes.bare_cons hreturn, commentLength.blockComment, commentLength.blockComment, ih hrest]
    simp only [Bool.and_eq_true, hslash]
    split
    next hclosed =>
      obtain ⟨more, rfl⟩ := List.head?_eq_some_iff.1 (beq_iff_eq.1 hclosed.2)
      rw [Option.map_some, Bytes.bareWidth_cons hreturn, Bytes.bareWidth_cons (by decide)]
      rfl
    · rw [map_bareWidth_cons hreturn]

/-- A comment takes the same bytes without the returns. -/
theorem commentLength_bare {bytes : Bytes} (hpaired : bytes.isPaired = true) :
    commentLength (bare bytes) = (commentLength bytes).map bytes.bareWidth := by
  rcases bytes with _ | ⟨slash, rest⟩
  · rfl
  by_cases hreturn : slash = 13
  · subst hreturn
    obtain ⟨more, rfl, -⟩ := Bytes.isPaired_return hpaired
    rfl
  rw [Bytes.bare_cons hreturn]
  by_cases hslash : slash = 47
  · subst hslash
    have hrest := (Bytes.isPaired_cons.1 hpaired).2
    rcases rest with _ | ⟨mark, rest⟩
    · rfl
    by_cases hmark : mark = 13
    · subst hmark
      obtain ⟨more, rfl, -⟩ := Bytes.isPaired_return hrest
      rfl
    have hmore := (Bytes.isPaired_cons.1 hrest).2
    rw [Bytes.bare_cons hmark]
    by_cases hline : mark = 47
    · subst hline
      rw [commentLength, commentLength, lineLength_bare rfl hmore, Option.map_some,
        Bytes.bareWidth_cons (by decide), Bytes.bareWidth_cons (by decide)]
    by_cases hblock : mark = 42
    · subst hblock
      rw [commentLength, commentLength, blockComment_bare hmore, Option.map_map, Option.map_map]
      congr 1
    · simp [commentLength, hline, hblock]
  · simp [commentLength, hslash]

end

end Prologue.Grammar
