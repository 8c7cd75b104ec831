import Mathlib
import Prologue.Proofs.Agreement
import Prologue.Proofs.Consoles
import Prologue.Proofs.LetterCase
import Prologue.Proofs.SharedParts

/-!
# Brackets in messages

What a message quotes comes from the file names that were given and from the text of a directive that
is misspelled. Names with no opening bracket make messages with none. A misspelled directive is one
edit away from the directive, so it never holds both brackets.
-/

namespace Prologue

/-! ## Opening brackets -/

theorem eq_of_ofNat_eq_bracket {code : Nat} (h : Char.ofNat code = '[') : code = 91 := by
  have hcode := congrArg Char.toNat h
  rw [Char.toNat_ofNat] at hcode
  split at hcode
  next => exact hcode
  next => exact absurd hcode (by decide)

theorem eq_bracket_of_toNat {c : Char} (h : c.toNat = 91) : c = '[' := by
  rw [← Char.ofNat_toNat c, h]

namespace Text

set_option maxRecDepth 4000 in
theorem bracket_lt_lowerRuns : ∀ run ∈ lowerRuns, 91 < (run.first : Int) + run.shift := by
  decide +kernel

theorem eq_bracket_of_lowerCode {code : Nat} (h : lowerCode code = 91) : code = 91 := by
  rcases lowerCode_eq_or code with hsame | ⟨run, hrun, ⟨hfirst, -, -⟩, hmoved⟩
  · rw [← hsame, h]
  · have hshift := bracket_lt_lowerRuns run hrun
    omega

/-- No letter has a bracket for its lower case. -/
theorem bracket_mem_of_mem_lowerFrom {before text : List Char} (h : '[' ∈ lowerFrom before text) :
    '[' ∈ text := by
  induction text generalizing before with
  | nil => exact h
  | cons c rest ih =>
    rw [lowerFrom_cons] at h
    rcases List.mem_append.1 h with h | h
    · split at h
      · exact absurd h (by decide)
      rw [lowerChar] at h
      split at h
      · exact absurd h (by decide)
      have hcode := eq_bracket_of_lowerCode (eq_of_ofNat_eq_bracket (List.mem_singleton.1 h).symm)
      rw [eq_bracket_of_toNat hcode]
      exact List.mem_cons_self
    · exact List.mem_cons_of_mem _ (ih h)

end Text

namespace Utf8

theorem bracket_mem_of_mem_encode {text : List Char} (h : 91 ∈ encode text) : '[' ∈ text := by
  obtain ⟨c, hc, hbyte⟩ := List.mem_flatMap.1 h
  have hcode : c.toNat = 91 := by
    have hlt : c.toNat < 0x110000 := by
      have hvalid : c.toNat < 0xD800 ∨ (0xDFFF < c.toNat ∧ c.toNat < 0x110000) := c.valid
      omega
    have hcarry (n : Nat) : (91 : UInt8) ≠ carrying n := by
      intro heq
      have hnat := congrArg UInt8.toNat heq
      rw [toNat_carrying, show (91 : UInt8).toNat = 91 from rfl] at hnat
      omega
    have hlead {n : Nat} (hn : n < 256) (heq : (91 : UInt8) = UInt8.ofNat n) : n = 91 := by
      rw [← toNat_byte hn, ← heq]
      rfl
    rw [encodeChar_eq] at hbyte
    split_ifs at hbyte
    · exact hlead (by omega) (List.mem_singleton.1 hbyte)
    -- The bytes of a character that takes more than one lie beyond ASCII.
    all_goals
      simp only [List.mem_cons, List.not_mem_nil, or_false, hcarry] at hbyte
      have := hlead (by omega) hbyte
      omega
  exact eq_bracket_of_toNat hcode ▸ hc

theorem bracket_mem_of_mem_lossy {bytes : Bytes} (h : '[' ∈ lossy bytes) : 91 ∈ bytes := by
  obtain ⟨code, hmem, hcode⟩ := List.mem_map.1 h
  split at hcode
  next => exact absurd hcode (by decide)
  next =>
    have hbytes := flatMap_scalarsFrom 0 bytes
    rw [List.drop_zero] at hbytes
    rw [← hbytes, List.mem_flatMap]
    exact ⟨code, hmem, by rw [eq_of_ofNat_eq_bracket hcode]; decide⟩

end Utf8

namespace Path

/-- No name of a path holds an opening bracket. -/
def Bracketless (path : Path) : Prop := ∀ name ∈ path.names, 91 ∉ name

theorem bracketless_ofBytes {written : Bytes} (h : 91 ∉ written) : (ofBytes written).Bracketless :=
  fun _ hname hbyte => h (mem_of_mem_splitOn (List.mem_of_mem_filter hname) hbyte).1

theorem not_mem_joined {names : List Bytes} (h : ∀ name ∈ names, 91 ∉ name) :
    91 ∉ joined names := by
  fun_induction joined names with
  | case1 => exact List.not_mem_nil
  | case2 name => exact h name (List.mem_singleton_self _)
  | case3 name rest hrest ih =>
    rw [List.forall_mem_cons] at h
    rw [List.mem_append, List.mem_cons, not_or, not_or]
    exact ⟨h.1, by decide, ih h.2⟩

theorem not_mem_rootWritten (root : Root) : 91 ∉ Root.written root := by
  cases root <;> decide

theorem Bracketless.not_mem_written {path : Path} (h : path.Bracketless) : 91 ∉ path.written := by
  rw [written]
  split
  next => decide
  next =>
    rw [List.mem_append, not_or]
    exact ⟨not_mem_rootWritten path.root, not_mem_joined h⟩

theorem Bracketless.not_mem_suffix {path : Path} (h : path.Bracketless) : 91 ∉ path.suffix := by
  have hname : 91 ∉ path.name := by
    rw [name]
    cases hlast : path.names.getLast? with
    | none => exact List.not_mem_nil
    | some last => exact h last (List.mem_of_getLast? hlast)
  simp only [suffix]
  split
  next => exact List.not_mem_nil
  next =>
    rw [List.mem_cons, List.mem_reverse, not_or]
    exact ⟨by decide, fun hmem =>
      hname (List.mem_reverse.1 ((List.takeWhile_prefix _).subset hmem))⟩

theorem Bracketless.not_mem_parts {path : Path} (h : path.Bracketless) :
    ∀ part ∈ path.parts, 91 ∉ part := by
  rw [parts]
  split
  next => exact h
  next root hroot =>
    rw [List.forall_mem_cons]
    exact ⟨not_mem_rootWritten _, h⟩

end Path

theorem bracket_not_mem_forwardSlashes {written : Bytes} (h : 91 ∉ written) :
    91 ∉ forwardSlashes written := by
  intro hmem
  obtain ⟨byte, hbyte, heq⟩ := List.mem_map.1 hmem
  split at heq
  next => exact absurd heq (by decide)
  next => exact h (heq ▸ hbyte)

/-- A file's name has no opening bracket seen from a directory if it has none where it is written.
-/
theorem bracket_not_mem_relativeFilename {file : Bytes} (h : 91 ∉ file) (directory : Option Bytes) :
    91 ∉ relativeFilename file directory := by
  have hfile := bracket_not_mem_forwardSlashes h
  have hpath := Path.bracketless_ofBytes hfile
  simp only [relativeFilename]
  split
  next => exact hfile
  next => exact hfile
  next =>
    split
    next rest hrest =>
      rw [Path.relativeTo?] at hrest
      split at hrest
      next =>
        rw [← Option.some.inj hrest]
        exact Path.Bracketless.not_mem_written fun name hname =>
          hpath name (List.mem_of_mem_drop hname)
      next => exact absurd hrest (by simp)
    next =>
      split
      next => exact hfile
      next => exact Path.Bracketless.not_mem_written fun part hpart =>
          hpath.not_mem_parts part (List.mem_of_mem_drop hpart)

/-! ## Diagnostics -/

/-- One edit puts at most one new character into a text. -/
theorem Edit.not_mem_or_not_mem {α : Type} {first second : List α} (h : Edit first second) {x y : α}
    (hne : x ≠ y) (hx : x ∉ second) (hy : y ∉ second) : x ∉ first ∨ y ∉ first := by
  cases h with
  | insert front back a =>
    simp only [List.mem_append, List.mem_cons, not_or] at hx ⊢
    exact Or.inl ⟨hx.1, hx.2.2⟩
  | remove front back a =>
    simp only [List.mem_append, List.mem_cons, not_or] at hx hy ⊢
    by_cases hxa : x = a
    · exact Or.inr ⟨hy.1, fun hya => hne (hxa.trans hya.symm), hy.2⟩
    · exact Or.inl ⟨hx.1, hxa, hx.2⟩
  | replace front back a b =>
    simp only [List.mem_append, List.mem_cons, not_or] at hx hy ⊢
    by_cases hxa : x = a
    · exact Or.inr ⟨hy.1, fun hya => hne (hxa.trans hya.symm), hy.2.2⟩
    · exact Or.inl ⟨hx.1, hxa, hx.2.2⟩

theorem not_mem_or_not_mem_of_distance {text : List Char} (h : editDistance text useRunner = 1) :
    '[' ∉ text ∨ ']' ∉ text := by
  have hedits := edits_editDistance text useRunner
  rw [h] at hedits
  cases hedits with
  | more edit edits =>
    cases edits
    exact edit.not_mem_or_not_mem (by decide) (by decide) (by decide)

namespace Console

theorem isPlain_toDigits (n : Nat) : isPlain (Nat.toDigits 10 n) = true := by
  rw [isPlain_iff]
  intro c hc
  have hdigit : 48 ≤ c.toNat ∧ c.toNat ≤ 57 :=
    Char.isDigit_iff_toNat.1 (Nat.isDigit_of_mem_toDigits (by decide) (by decide) hc)
  refine ⟨?_, ?_, ?_, ?_⟩
  · rintro rfl
    exact absurd hdigit (by decide)
  · rintro rfl
    exact absurd hdigit (by decide)
  · rintro rfl
    exact absurd hdigit (by decide)
  · simp only [Markup.isHidden, List.contains_eq_mem, decide_eq_false_iff_not, List.mem_cons,
      List.not_mem_nil, or_false]
    omega

theorem bracket_not_mem_decimal (n : Int) : '[' ∉ Json.decimal n := by
  have hdigits (n : Nat) : '[' ∉ Nat.toDigits 10 n := fun hmem =>
    (isPlain_iff.1 (isPlain_toDigits n) _ hmem).1 rfl
  cases n with
  | ofNat n => exact hdigits n
  | negSucc n =>
    rw [Json.decimal, List.mem_cons, not_or]
    exact ⟨by decide, hdigits _⟩

/-- A text that cannot hold a tag, for want of a bracket. -/
def LacksBracket (text : List Char) : Prop := '[' ∉ text ∨ ']' ∉ text

theorem lacksBracket_of_misspelled {text : List Char} (h : editDistance text useRunner = 1) :
    LacksBracket (Flaw.misspelled text).message.toList := by
  have hmessage : (Flaw.misspelled text).message.toList =
      '"' :: (text ++ "\" looks like a typo. Did you mean \"use runner\"?".toList) := by
    simp [Flaw.message]
  rw [hmessage]
  refine (not_mem_or_not_mem_of_distance h).imp (fun hopen => ?_) fun hclose => ?_
  · rw [List.mem_cons, List.mem_append, not_or, not_or]
    exact ⟨by decide, hopen, by decide⟩
  · rw [List.mem_cons, List.mem_append, not_or, not_or]
    exact ⟨by decide, hclose, by decide⟩

theorem lacksBracket_of_misplaced (location : Location) :
    LacksBracket (Flaw.misplaced location).message.toList := by
  cases location <;> exact Or.inl (by decide)

theorem lacksBracket_message {source : Source} {analysis : Analysis}
    (h : source.analyze = .ok analysis) {diagnostic : Diagnostic}
    (hmem : diagnostic ∈ analysis.diagnostics) :
    LacksBracket diagnostic.flaw.message.toList := by
  have hexpected := source.analyze_eq (source.legible_of_analyze h)
  rw [h] at hexpected
  rw [Except.ok.inj hexpected, Analysis.expected_diagnostics, List.mem_filterMap] at hmem
  obtain ⟨sighting, -, hdiagnostic⟩ := hmem
  obtain ⟨flaw, hflaw, rfl⟩ := Option.map_eq_some_iff.1 hdiagnostic
  show LacksBracket flaw.message.toList
  rw [Sighting.flaw?] at hflaw
  split at hflaw
  next hdistance =>
    rw [← Option.some.inj hflaw]
    exact lacksBracket_of_misspelled hdistance
  next =>
    split at hflaw
    next =>
      rw [← Option.some.inj hflaw]
      exact lacksBracket_of_misplaced _
    next =>
      split at hflaw
      next => exact absurd hflaw (by simp)
      next =>
        rw [← Option.some.inj hflaw]
        exact Or.inl (by decide)

theorem bracket_not_mem_kind (flaw : Flaw) : '[' ∉ flaw.kind.toList := by
  cases flaw <;> rw [Flaw.kind] <;> decide

/-- No cell in the table of what an analysis finds fault with can hold a tag. -/
theorem lacksBracket_rowOf {source : Source} {analysis : Analysis}
    (h : source.analyze = .ok analysis) {row : Row}
    (hrow : row ∈ analysis.diagnostics.map Table.rowOf) {cell : List Char} (hcell : cell ∈ row) :
    LacksBracket cell := by
  obtain ⟨diagnostic, hmem, rfl⟩ := List.mem_map.1 hrow
  simp only [Table.rowOf, List.mem_cons, List.not_mem_nil, or_false] at hcell
  rcases hcell with rfl | rfl | rfl | rfl
  · exact Or.inl (bracket_not_mem_decimal _)
  · exact Or.inl (bracket_not_mem_decimal _)
  · exact Or.inl (bracket_not_mem_kind _)
  · exact lacksBracket_message h hmem

end Console

end Prologue
