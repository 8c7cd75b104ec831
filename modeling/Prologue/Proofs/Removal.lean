import Prologue.Proofs.Deletion
import Prologue.Proofs.Layout
import Prologue.Proofs.Lines

/-!
# What is removed

A flagged statement takes its lines with it if only blanks share them. Which offsets go is stated
here in terms of line feeds and blanks around the statement, and the ranges that are cut out are
shown to hold exactly these. In a well laid tree no two of the ranges meet: a range that grows to the
ends of its lines grows over blanks only, and every other flagged statement has something else on its
first line and on its last.
-/

namespace Prologue

namespace Bytes

variable (source : Bytes)

/-- The offset lies in front of `start` on the same line. -/
def LeadsTo (start offset : Nat) : Prop :=
  offset < start ∧ ∀ q < start, offset ≤ q → source[q]? ≠ some lineFeed

/-- The offset lies behind what ends at `stop` on the same line, whose line feed is included. -/
def TrailsFrom (stop offset : Nat) : Prop :=
  (stop ≤ offset ∧ offset < source.length) ∧
    ∀ q < offset, stop ≤ q → source[q]? ≠ some lineFeed

/-- Only blanks share the first and the last line of what lies between `start` and `stop`. -/
def StandsAlone (start stop : Nat) : Prop :=
  ∀ offset < source.length,
    source.LeadsTo start offset ∨ source.TrailsFrom stop offset → source.isSolid offset = false

/-- The offset goes when what lies between `start` and `stop` goes. -/
def GoesWith (start stop offset : Nat) : Prop :=
  (start ≤ offset ∧ offset < stop) ∨
    (source.StandsAlone start stop ∧
      (source.LeadsTo start offset ∨ source.TrailsFrom stop offset))

instance (start offset : Nat) : Decidable (source.LeadsTo start offset) :=
  inferInstanceAs (Decidable (_ ∧ _))

instance (stop offset : Nat) : Decidable (source.TrailsFrom stop offset) :=
  inferInstanceAs (Decidable (_ ∧ _))

instance (start stop : Nat) : Decidable (source.StandsAlone start stop) :=
  inferInstanceAs (Decidable (∀ offset < source.length, _ → _))

instance (start stop offset : Nat) : Decidable (source.GoesWith start stop offset) :=
  inferInstanceAs (Decidable (_ ∨ _))

variable {source} {start stop offset : Nat}

theorem isSolid_eq_false_iff :
    source.isSolid offset = false ↔
      ∀ byte, source[offset]? = some byte → Text.isBlankByte byte = true := by
  unfold isSolid
  cases source[offset]? <;> simp

theorem leadsTo_iff (hstart : start ≤ source.length) :
    source.LeadsTo start offset ↔ source.lineStart start ≤ offset ∧ offset < start := by
  rw [LeadsTo, ← lineStart_le_iff hstart, and_comm]

theorem trailsFrom_iff :
    source.TrailsFrom stop offset ↔
      stop ≤ offset ∧ offset < source.length ∧ offset ≤ source.lineStop stop := by
  constructor
  · rintro ⟨⟨hle, hlt⟩, h⟩
    exact ⟨hle, hlt, (le_lineStop_iff hle hlt).2 h⟩
  · rintro ⟨hle, hlt, h⟩
    exact ⟨⟨hle, hlt⟩, (le_lineStop_iff hle hlt).1 h⟩

/-- The line feed behind the last line is a blank, so it does not matter that it is looked at. -/
theorem standsAlone_iff (hstart : start ≤ source.length) (hstop : stop ≤ source.length) :
    source.StandsAlone start stop ↔
      ((source.slice (source.lineStart start) start).all Text.isBlankByte &&
        (source.slice stop (source.lineStop stop)).all Text.isBlankByte) = true := by
  rw [Bool.and_eq_true, all_slice_iff, all_slice_iff]
  constructor
  · intro h
    have hblank : ∀ q byte, source[q]? = some byte →
        source.LeadsTo start q ∨ source.TrailsFrom stop q → Text.isBlankByte byte = true := by
      intro q byte hbyte hshares
      have hq := (List.getElem?_eq_some_iff.1 hbyte).1
      exact isSolid_eq_false_iff.1 (h q hq hshares) byte hbyte
    refine ⟨fun q byte hle hlt hbyte => hblank q byte hbyte (.inl ?_),
      fun q byte hle hlt hbyte => hblank q byte hbyte (.inr ?_)⟩
    · exact (leadsTo_iff hstart).2 ⟨hle, hlt⟩
    · have hlength := lineStop_le_length source stop
      exact trailsFrom_iff.2 ⟨hle, by omega, by omega⟩
  · rintro ⟨hfront, hback⟩ q hq hshares
    rw [isSolid_eq_false_iff]
    intro byte hbyte
    rcases hshares with hleads | htrails
    · rw [leadsTo_iff hstart] at hleads
      exact hfront q byte hleads.1 hleads.2 hbyte
    · obtain ⟨hle, hlt, hline⟩ := trailsFrom_iff.1 htrails
      rcases Nat.lt_or_eq_of_le hline with hinner | hfeed
      · exact hback q byte hle hinner hbyte
      · rw [hfeed, getElem?_lineStop hstop (by omega)] at hbyte
        obtain rfl := Option.some.inj hbyte
        decide

end Bytes

/-! ## The range of one statement -/

section

variable {source : Bytes} {start stop : Nat}

theorem removalRange_of_standsAlone (hstart : start ≤ source.length) (hstop : stop ≤ source.length)
    (h : source.StandsAlone start stop) :
    removalRange source start stop =
      (source.lineStart start, min (source.lineStop stop + 1) source.length) := by
  rw [Bytes.standsAlone_iff hstart hstop] at h
  rw [removalRange, if_pos h]

theorem removalRange_of_not_standsAlone (hstart : start ≤ source.length)
    (hstop : stop ≤ source.length) (h : ¬ source.StandsAlone start stop) :
    removalRange source start stop = (start, stop) := by
  rw [Bytes.standsAlone_iff hstart hstop] at h
  rw [removalRange, if_neg h]

/-- The range holds its statement and ends in the text. -/
theorem removalRange_bounds (hle : start ≤ stop) (hstop : stop ≤ source.length) :
    (removalRange source start stop).1 ≤ start ∧ stop ≤ (removalRange source start stop).2 ∧
      (removalRange source start stop).2 ≤ source.length := by
  have hlineStart := source.lineStart_le start
  have hlineStop := Bytes.le_lineStop hstop
  have hlength := source.lineStop_le_length stop
  by_cases h : source.StandsAlone start stop
  · rw [removalRange_of_standsAlone (by omega) hstop h]
    exact ⟨hlineStart, by omega, by omega⟩
  · rw [removalRange_of_not_standsAlone (by omega) hstop h]
    exact ⟨Nat.le_refl _, Nat.le_refl _, hstop⟩

/-- The range holds exactly the offsets that go with its statement. -/
theorem covers_removalRange_iff {offset : Nat} (hle : start ≤ stop) (hstop : stop ≤ source.length)
    (hoffset : offset < source.length) :
    covers (removalRange source start stop) offset = true ↔ source.GoesWith start stop offset := by
  have hstart : start ≤ source.length := by omega
  have hlineStart := source.lineStart_le start
  have hlineStop := Bytes.le_lineStop hstop
  rw [Bytes.GoesWith, Bytes.leadsTo_iff hstart, Bytes.trailsFrom_iff]
  by_cases h : source.StandsAlone start stop
  · rw [removalRange_of_standsAlone hstart hstop h]
    simp only [covers, Bool.and_eq_true, decide_eq_true_eq, h, true_and]
    omega
  · rw [removalRange_of_not_standsAlone hstart hstop h]
    simp [covers, h]

/-- A range that grows over the rest of its last line stops short of what is no blank. -/
theorem lineStop_lt_of_isSolid {next : Nat} (h : source.StandsAlone start stop) (hnext : stop ≤ next)
    (hsolid : source.isSolid next = true) : source.lineStop stop < next := by
  by_contra hcon
  have hlength := Bytes.lt_length_of_isSolid hsolid
  have hblank := h next hlength (.inr (Bytes.trailsFrom_iff.2 ⟨hnext, hlength, by omega⟩))
  rw [hsolid] at hblank
  cases hblank

/-- A range that grows over the front of its first line stops short of what is no blank. -/
theorem lt_lineStart_of_isSolid {previous : Nat} (hstart : start ≤ source.length)
    (h : source.StandsAlone start stop) (hprevious : previous < start)
    (hsolid : source.isSolid previous = true) : previous < source.lineStart start := by
  by_contra hcon
  have hblank := h previous (by omega)
    (.inl ((Bytes.leadsTo_iff hstart).2 ⟨by omega, hprevious⟩))
  rw [hsolid] at hblank
  cases hblank

end

/-- The ranges of two statements, one behind the other, do not meet. -/
theorem removalRange_le_of_stop_le {source : Bytes} {start stop start' stop' : Nat}
    (hle : start ≤ stop) (hle' : start' ≤ stop') (hlength : stop' ≤ source.length)
    (horder : stop ≤ start') (hlast : source.EndsSolid start stop)
    (hfirst : source.isSolid start' = true) :
    (removalRange source start stop).2 ≤ (removalRange source start' stop').1 := by
  by_cases halone : source.StandsAlone start stop
  · have hnext := lineStop_lt_of_isSolid halone horder hfirst
    rw [removalRange_of_standsAlone (by omega) (by omega) halone]
    by_cases hbalone : source.StandsAlone start' stop'
    · rw [removalRange_of_standsAlone (by omega) hlength hbalone]
      -- The line feed behind the first statement stands in front of the second one's line.
      by_contra hcon
      have hfeed : source[source.lineStop stop]? = some lineFeed :=
        Bytes.getElem?_lineStop (by omega) (by omega)
      exact Bytes.ne_lineFeed_of_lineStart_le (by omega) (by omega) hnext hfeed
    · rw [removalRange_of_not_standsAlone (by omega) hlength hbalone]
      omega
  · rw [removalRange_of_not_standsAlone (by omega) (by omega) halone]
    by_cases hbalone : source.StandsAlone start' stop'
    · -- The line feed in front of the second statement's line stands behind the first one's last line.
      obtain ⟨q, hbefore, _, hsolid, hline⟩ := hlast
      have hprevious := lt_lineStart_of_isSolid (by omega) hbalone (by omega) hsolid
      rw [removalRange_of_standsAlone (by omega) hlength hbalone]
      by_contra hcon
      exact hline (source.lineStart start' - 1) (by omega) (by omega)
        (Bytes.getElem?_lineStart (by omega) (by omega))
    · rw [removalRange_of_not_standsAlone (by omega) hlength hbalone]
      exact horder

/-- The ranges of two statements that do not overlap do not overlap. -/
theorem removalRange_apart {source : Bytes} {start stop start' stop' : Nat} (hle : start ≤ stop)
    (hle' : start' ≤ stop') (hlength : stop ≤ source.length) (hlength' : stop' ≤ source.length)
    (hfirst : source.isSolid start = true) (hfirst' : source.isSolid start' = true)
    (hlast : source.EndsSolid start stop) (hlast' : source.EndsSolid start' stop')
    (hapart : stop ≤ start' ∨ stop' ≤ start) :
    (removalRange source start stop).2 ≤ (removalRange source start' stop').1 ∨
      (removalRange source start' stop').2 ≤ (removalRange source start stop).1 := by
  rcases hapart with hbefore | hbehind
  · exact .inl (removalRange_le_of_stop_le hle hle' hlength' hbefore hlast hfirst')
  · exact .inr (removalRange_le_of_stop_le hle' hle hlength hbehind hlast' hfirst)

/-! ## The ranges of an analysis -/

/-- Offset of the first byte of a flagged statement. -/
def Flagged.start (flagged : Flagged) : Nat := flagged.span.startByte.toNat

/-- Offset behind the last byte of a flagged statement. -/
def Flagged.stop (flagged : Flagged) : Nat := flagged.span.endByte.toNat

namespace Analysis

/-- The offset lies in a flagged statement. -/
def Flags (analysis : Analysis) (offset : Nat) : Prop :=
  ∃ flagged ∈ analysis.flagged, flagged.start ≤ offset ∧ offset < flagged.stop

/-- The offset goes with a flagged statement. -/
def Deletes (analysis : Analysis) (source : Bytes) (offset : Nat) : Prop :=
  ∃ flagged ∈ analysis.flagged, source.GoesWith flagged.start flagged.stop offset

instance (analysis : Analysis) (offset : Nat) : Decidable (analysis.Flags offset) :=
  inferInstanceAs (Decidable (∃ flagged ∈ analysis.flagged, _))

instance (analysis : Analysis) (source : Bytes) (offset : Nat) :
    Decidable (analysis.Deletes source offset) :=
  inferInstanceAs (Decidable (∃ flagged ∈ analysis.flagged, _))

/-- What is known of the flagged statements of a well laid source: they are not empty, do not end with
a line feed, lie in the text and do not overlap, and neither do their ranges. -/
structure Clear (analysis : Analysis) (source : Bytes) : Prop where
  proper : ∀ flagged ∈ analysis.flagged, flagged.start < flagged.stop
  ends : ∀ flagged ∈ analysis.flagged, source[flagged.stop - 1]? ≠ some lineFeed
  within : ∀ flagged ∈ analysis.flagged, flagged.stop ≤ source.length
  apart : analysis.flagged.Pairwise fun a b => a.stop ≤ b.start ∨ b.stop ≤ a.start
  disjoint : (analysis.ranges source).Pairwise fun a b => a.2 ≤ b.1 ∨ b.2 ≤ a.1

end Analysis

/-- The ranges are those of the sighted statements. -/
theorem Source.expected_ranges (source : Source) :
    (Analysis.expected source source.tree.scopes).ranges source.bytes =
      source.sightings.map fun sighting =>
        removalRange source.bytes sighting.statement.start sighting.statement.stop := by
  have hflagged : (Analysis.expected source source.tree.scopes).flagged =
      source.sightings.map (·.flagged source.bytes) := Analysis.expected_flagged source _
  rw [Analysis.ranges, hflagged, List.map_map]
  rfl

theorem Source.WellLaid.clear {source : Source} (h : source.WellLaid) :
    (Analysis.expected source source.tree.scopes).Clear source.bytes := by
  have hflagged : (Analysis.expected source source.tree.scopes).flagged =
      source.sightings.map (·.flagged source.bytes) := Analysis.expected_flagged source _
  refine ⟨?_, ?_, ?_, ?_, ?_⟩
  · rw [hflagged, List.forall_mem_map]
    exact fun sighting hmem => (h.compact_of_mem hmem).1.bounds
  · rw [hflagged, List.forall_mem_map]
    exact fun sighting hmem => (h.compact_of_mem hmem).1.last.ne_lineFeed
  · rw [hflagged, List.forall_mem_map]
    exact fun sighting hmem => (h.compact_of_mem hmem).2
  · rw [hflagged, List.pairwise_map]
    exact h.sightings_apart
  · rw [source.expected_ranges, List.pairwise_map]
    refine h.sightings_apart.imp_of_mem ?_
    intro a b ha hb hapart
    obtain ⟨hacompact, halength⟩ := h.compact_of_mem ha
    obtain ⟨hbcompact, hblength⟩ := h.compact_of_mem hb
    exact removalRange_apart (Nat.le_of_lt hacompact.bounds) (Nat.le_of_lt hbcompact.bounds) halength
      hblength hacompact.first hbcompact.first hacompact.last hbcompact.last hapart

/-- The ranges that are removed from a well laid source are disjoint, each holds its statement and ends
in the text, and no two scopes flag a common byte. -/
theorem Source.removal_ranges_disjoint (source : Source) (hlaid : source.WellLaid)
    (hlegible : source.Legible) :
    ∃ analysis, source.analyze = .ok analysis ∧
      ((analysis.ranges source.bytes).Pairwise fun a b => a.2 ≤ b.1 ∨ b.2 ≤ a.1) ∧
      (∀ flagged ∈ analysis.flagged, flagged.start < flagged.stop ∧
        (removalRange source.bytes flagged.start flagged.stop).1 ≤ flagged.start ∧
        flagged.stop ≤ (removalRange source.bytes flagged.start flagged.stop).2 ∧
        (removalRange source.bytes flagged.start flagged.stop).2 ≤ source.bytes.length) ∧
      analysis.scopes.Pairwise fun a b =>
        ∀ x ∈ a.flagged, ∀ y ∈ b.flagged, x.stop ≤ y.start ∨ y.stop ≤ x.start := by
  have hclear := hlaid.clear
  refine ⟨_, source.analyze_eq hlegible, hclear.disjoint, ?_, ?_⟩
  · intro flagged hmem
    have hproper := hclear.proper flagged hmem
    exact ⟨hproper, removalRange_bounds (Nat.le_of_lt hproper) (hclear.within flagged hmem)⟩
  · exact (List.pairwise_flatMap.1 hclear.apart).2

/-- The directive on a line of its own, and again in a function that shares its line. -/
def twoDirectives : Source where
  dialect := .typescript
  bytes := utf8 "  'use runner'\nasync function f() \x7b 'use runner' \x7d"
  tree := .mk .program .plain 0 50
    [.mk .expressionStatement .plain 2 14 [.mk .string .plain 2 14 []],
      .mk .functionDeclaration .plain 15 50
        [.mk .asyncModifier .plain 15 20 [], .mk .identifier .name 30 31 [],
          .mk .parameters .plain 31 33 [],
          .mk .statementBlock .body 34 50
            [.mk .expressionStatement .plain 36 48 [.mk .string .plain 36 48 []]]]]

theorem twoDirectives_wellLaid : twoDirectives.WellLaid := by decide

theorem twoDirectives_legible : twoDirectives.Legible := by
  have hok : twoDirectives.analyze.isOk = true := by decide
  cases h : twoDirectives.analyze with
  | ok analysis => exact twoDirectives.legible_of_analyze h
  | error fault => rw [h] at hok; cases hok

theorem twoDirectives_ranges_disjoint :
    twoDirectives.WellLaid ∧ twoDirectives.Legible ∧
      ∃ analysis, twoDirectives.analyze = .ok analysis ∧
        (analysis.ranges twoDirectives.bytes).Pairwise fun a b => a.2 ≤ b.1 ∨ b.2 ≤ a.1 := by
  obtain ⟨analysis, hanalyze, hdisjoint, _⟩ := Source.removal_ranges_disjoint twoDirectives
    twoDirectives_wellLaid twoDirectives_legible
  exact ⟨twoDirectives_wellLaid, twoDirectives_legible, analysis, hanalyze, hdisjoint⟩

/-! ## The text that is left -/

/-- Stripping takes the ranges out, also where there are none. -/
theorem Source.bytes_strip (source : Source) (analysis : Analysis) :
    (source.strip analysis).bytes =
      removeRanges source.bytes (analysis.ranges source.bytes) :=
  source.bytes_remove _

namespace Analysis.Clear

variable {analysis : Analysis}

/-- Taking the ranges out one after the other deletes what goes with the flagged statements. -/
theorem strip_bytes {source : Source} (h : analysis.Clear source.bytes) :
    (source.strip analysis).bytes =
      source.bytes.keep fun offset => !decide (analysis.Deletes source.bytes offset) := by
  have hbounds : ∀ range ∈ analysis.ranges source.bytes, range.1 ≤ range.2 := by
    rw [ranges, List.forall_mem_map]
    intro flagged hmem
    have hproper := h.proper flagged hmem
    have hrange := removalRange_bounds (Nat.le_of_lt hproper) (h.within flagged hmem)
    exact Nat.le_trans hrange.1 (Nat.le_trans (Nat.le_of_lt hproper) hrange.2.1)
  rw [source.bytes_strip, removeRanges_eq_keep _ _ hbounds (h.disjoint.imp separate_of_le)]
  apply Bytes.keep_congr
  intro offset hoffset
  congr 1
  rw [ranges, List.any_map, Bool.eq_iff_iff, List.any_eq_true, decide_eq_true_eq]
  refine exists_congr fun flagged => and_congr_right fun hmem => ?_
  exact covers_removalRange_iff (Nat.le_of_lt (h.proper flagged hmem)) (h.within flagged hmem)
    hoffset

variable {source : Bytes}

/-- Outside the flagged statements only blanks are deleted. -/
theorem flags_of_deletes (h : analysis.Clear source) {offset : Nat}
    (hdeletes : analysis.Deletes source offset)
    (hsolid : source.isSolid offset = true) : analysis.Flags offset := by
  obtain ⟨flagged, hmem, hinside | ⟨halone, hshares⟩⟩ := hdeletes
  · exact ⟨flagged, hmem, hinside⟩
  · have hproper := h.proper flagged hmem
    have hwithin := h.within flagged hmem
    have hlength : offset < source.length := by
      rcases hshares with hleads | htrails
      · have := hleads.1
        omega
      · exact htrails.1.2
    rw [halone offset hlength hshares] at hsolid
    cases hsolid

/-- What is deleted shares its line with a byte of a flagged statement. -/
theorem exists_flags_of_deletes (h : analysis.Clear source) {place offset : Nat}
    (hplace : place ≤ source.length) (hstart : source.lineStart place ≤ offset)
    (hstop : offset ≤ source.lineStop place)
    (hdeletes : analysis.Deletes source offset) :
    ∃ near, source.lineStart place ≤ near ∧ near ≤ source.lineStop place ∧
      analysis.Flags near := by
  obtain ⟨flagged, hmem, hinside | ⟨_, hleads | htrails⟩⟩ := hdeletes
  · exact ⟨offset, hstart, hstop, flagged, hmem, hinside⟩
  · -- No line feed stands between the offset and the first byte of the statement.
    have hproper := h.proper flagged hmem
    have hwithin := h.within flagged hmem
    refine ⟨flagged.start, by have := hleads.1; omega, ?_, flagged, hmem, Nat.le_refl _, hproper⟩
    by_contra hcon
    exact hleads.2 (source.lineStop place) (by omega) hstop
      (Bytes.getElem?_lineStop hplace (by omega))
  · -- No line feed stands between the last byte of the statement and the offset.
    have hproper := h.proper flagged hmem
    refine ⟨flagged.stop - 1, ?_, by have := htrails.1; omega, flagged, hmem, by omega, by omega⟩
    by_contra hcon
    have hfeed := Bytes.getElem?_lineStart hplace (by omega)
    by_cases hlast : source.lineStart place - 1 = flagged.stop - 1
    · exact h.ends flagged hmem (hlast ▸ hfeed)
    · exact htrails.2 (source.lineStart place - 1) (by omega) (by omega) hfeed

end Analysis.Clear

/-- Stripping a well laid source deletes the flagged statements and the blanks that share their
lines with nothing else. All else is left in order, byte by byte and line by line. -/
theorem Source.strip_deletes_directives_only (source : Source) (hlaid : source.WellLaid)
    (hlegible : source.Legible) :
    ∃ analysis, source.analyze = .ok analysis ∧
      (source.strip analysis).bytes =
        (source.bytes.keep fun offset => !decide (analysis.Deletes source.bytes offset)) ∧
      (source.bytes.keep fun offset =>
        source.bytes.isSolid offset && !decide (analysis.Flags offset)).Sublist
          (source.strip analysis).bytes ∧
      ∀ place ≤ source.bytes.length,
        (∀ near, source.bytes.lineStart place ≤ near → near ≤ source.bytes.lineStop place →
          ¬ analysis.Flags near) →
        source.bytes.slice (source.bytes.lineStart place) (source.bytes.lineStop place + 1) <:+:
          (source.strip analysis).bytes := by
  have hclear := hlaid.clear
  refine ⟨_, source.analyze_eq hlegible, hclear.strip_bytes, ?_, ?_⟩
  · rw [hclear.strip_bytes]
    apply Bytes.keep_sublist_keep
    intro offset hkept
    simp only [Bool.and_eq_true, Bool.not_eq_true', decide_eq_false_iff_not] at hkept ⊢
    exact fun hdeletes => hkept.2 (hclear.flags_of_deletes hdeletes hkept.1)
  · intro place hplace hline
    rw [hclear.strip_bytes]
    have hlineStart := source.bytes.lineStart_le place
    have hlineStop := Bytes.le_lineStop hplace
    apply Bytes.slice_infix_keep (by omega)
    intro offset hstart hstop
    rw [Bool.not_eq_true', decide_eq_false_iff_not]
    intro hdeletes
    obtain ⟨near, hfirst, hlast, hflags⟩ :=
      hclear.exists_flags_of_deletes hplace hstart (by omega) hdeletes
    exact hline near hfirst hlast hflags

/-- The first line goes and the second one is left without the directive. -/
theorem twoDirectives_strip :
    twoDirectives.WellLaid ∧ twoDirectives.Legible ∧
      ∃ analysis, twoDirectives.analyze = .ok analysis ∧
        (twoDirectives.strip analysis).bytes = utf8 "async function f() \x7b  \x7d" := by
  obtain ⟨analysis, hanalyze, hbytes, _⟩ := Source.strip_deletes_directives_only twoDirectives
    twoDirectives_wellLaid twoDirectives_legible
  have hkept : (twoDirectives.analyze.toOption.map fun analysis =>
      twoDirectives.bytes.keep fun offset =>
        !decide (analysis.Deletes twoDirectives.bytes offset)) =
      some (utf8 "async function f() \x7b  \x7d") := by decide +kernel
  rw [hanalyze] at hkept
  exact ⟨twoDirectives_wellLaid, twoDirectives_legible, analysis, hanalyze,
    hbytes.trans (Option.some.inj hkept)⟩

end Prologue
