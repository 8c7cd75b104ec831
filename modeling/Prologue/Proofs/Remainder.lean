import Prologue.Proofs.Pieces
import Prologue.Proofs.Removal

/-!
# What is left of a text

Between two statements the removal of directives takes blanks only: the rest of a line behind a
directive, and the front of a line before one. So the comments there stay, and what is left of a text
falls into the pieces of the text without the directives, if every other statement is still read as
itself where it now stands.
-/

namespace Prologue

open Grammar

/-! ## Gaps after the removal -/

/-- A bound that separates the offsets with a property from those without it. -/
theorem exists_cut {o p : Nat} (hle : o ≤ p) {P : Nat → Prop}
    (hdown : ∀ q, o ≤ q → q + 1 < p → P (q + 1) → P q) :
    ∃ cut, o ≤ cut ∧ cut ≤ p ∧ (∀ q, o ≤ q → q < cut → P q) ∧ ∀ q, cut ≤ q → q < p → ¬ P q := by
  induction hle with
  | refl => exact ⟨o, Nat.le_refl _, Nat.le_refl _, fun q _ _ => by omega, fun q _ _ => by omega⟩
  | @step p hle ih =>
    have hle : o ≤ p := hle
    obtain ⟨cut, hlow, hhigh, hbelow, habove⟩ := ih fun q hq hlt => hdown q hq (by omega)
    by_cases hp : P p
    · refine ⟨p + 1, by omega, Nat.le_refl _, fun q hq hlt => ?_, fun q _ _ => by omega⟩
      have hcut : cut = p := by
        by_contra hne
        obtain ⟨k, rfl⟩ : ∃ k, p = k + 1 := ⟨p - 1, by omega⟩
        exact habove k (by omega) (by omega) (hdown k (by omega) (by omega) hp)
      by_cases hq' : q = p
      · exact hq' ▸ hp
      · exact hbelow q hq (by omega)
    · refine ⟨cut, hlow, by omega, hbelow, fun q hq hlt => ?_⟩
      by_cases hq' : q = p
      · exact hq' ▸ hp
      · exact habove q hq (by omega)

namespace Analysis

/-- Whether an offset is left by the removal. -/
def keeps (analysis : Analysis) (source : Bytes) (offset : Nat) : Bool :=
  !decide (analysis.Deletes source offset)

theorem keeps_eq_true_iff {analysis : Analysis} {source : Bytes} {offset : Nat} :
    analysis.keeps source offset = true ↔ ¬ analysis.Deletes source offset := by
  rw [keeps, Bool.not_eq_true', decide_eq_false_iff_not]

theorem keeps_eq_false_iff {analysis : Analysis} {source : Bytes} {offset : Nat} :
    analysis.keeps source offset = false ↔ analysis.Deletes source offset := by
  rw [keeps, Bool.not_eq_false', decide_eq_true_eq]

variable {analysis : Analysis} {source : Bytes}

/-- The offset goes with what was flagged before `place`. -/
def Trails (analysis : Analysis) (source : Bytes) (place offset : Nat) : Prop :=
  ∃ flagged ∈ analysis.flagged, flagged.stop ≤ place ∧
    source.StandsAlone flagged.start flagged.stop ∧ source.TrailsFrom flagged.stop offset

/-- The offset goes with what is flagged from `place` on. -/
def Leads (analysis : Analysis) (source : Bytes) (place offset : Nat) : Prop :=
  ∃ flagged ∈ analysis.flagged, place ≤ flagged.start ∧
    source.StandsAlone flagged.start flagged.stop ∧ source.LeadsTo flagged.start offset

/-- Between two offsets with no flagged byte between them, the removal takes the first bytes and the
last ones; the latter are the front of a line. -/
theorem exists_kept_between (hclear : analysis.Clear source) {o p : Nat} (hle : o ≤ p)
    (hfree : ∀ flagged ∈ analysis.flagged, flagged.stop ≤ o ∨ p ≤ flagged.start) :
    ∃ a b, (o ≤ a ∧ a ≤ b ∧ b ≤ p) ∧ (∀ q, o ≤ q → q < a → analysis.Deletes source q) ∧
      (∀ q, a ≤ q → q < b → ¬ analysis.Deletes source q) ∧
      (∀ q, b ≤ q → q < p → analysis.Deletes source q) ∧
      (b < p → (∃ flagged ∈ analysis.flagged, p ≤ flagged.start) ∧
        (a < b → source[b - 1]? = some lineFeed)) := by
  have hdeletes : ∀ q, o ≤ q → q < p → (analysis.Deletes source q ↔
      analysis.Trails source o q ∨ analysis.Leads source p q) := by
    intro q hq hlt
    constructor
    · rintro ⟨flagged, hmem, hinside | ⟨halone, hleads | htrails⟩⟩
      · have := hfree flagged hmem
        omega
      · refine .inr ⟨flagged, hmem, ?_, halone, hleads⟩
        have := hfree flagged hmem
        have := hclear.proper flagged hmem
        have := hleads.1
        omega
      · refine .inl ⟨flagged, hmem, ?_, halone, htrails⟩
        have := hfree flagged hmem
        have := hclear.proper flagged hmem
        have := htrails.1
        omega
    · rintro (⟨flagged, hmem, _, halone, htrails⟩ | ⟨flagged, hmem, _, halone, hleads⟩)
      · exact ⟨flagged, hmem, .inr ⟨halone, .inr htrails⟩⟩
      · exact ⟨flagged, hmem, .inr ⟨halone, .inl hleads⟩⟩
  obtain ⟨a, hoa, hap, htrails, hnottrails⟩ := exists_cut hle
    (P := analysis.Trails source o) fun q hq _ ⟨flagged, hmem, hbefore, halone, hbounds, hline⟩ =>
      ⟨flagged, hmem, hbefore, halone, by omega, fun i hi => hline i (by omega)⟩
  obtain ⟨b, hab, hbp, hnotleads, hleads⟩ := exists_cut hap
    (P := fun q => ¬ analysis.Leads source p q) fun q _ hlt hnot ⟨flagged, hmem, hbehind, halone,
      hbounds, hline⟩ =>
        hnot ⟨flagged, hmem, hbehind, halone, by omega, fun i hi hq => hline i hi (by omega)⟩
  refine ⟨a, b, ⟨hoa, hab, hbp⟩, ?_, ?_, ?_, fun hlt => ?_⟩
  · exact fun q hq hlt => (hdeletes q hq (by omega)).2 (.inl (htrails q hq hlt))
  · intro q hq hlt h
    rcases (hdeletes q (by omega) (by omega)).1 h with h | h
    · exact hnottrails q hq (by omega) h
    · exact hnotleads q hq hlt h
  · exact fun q hq hlt => (hdeletes q (by omega) hlt).2 (.inr (not_not.1 (hleads q hq hlt)))
  · obtain ⟨flagged, hmem, hbehind, halone, hbounds, hline⟩ := not_not.1 (hleads b (by omega) hlt)
    refine ⟨⟨flagged, hmem, hbehind⟩, fun hab' => ?_⟩
    -- The offset in front of `b` does not lead to the same statement, so a line feed stands there.
    by_contra hfeed
    refine hnotleads (b - 1) (by omega) (by omega) ⟨flagged, hmem, hbehind, halone, by omega, ?_⟩
    intro q hq hle
    by_cases hq' : q = b - 1
    · exact hq' ▸ hfeed
    · exact hline q hq (by omega)

/-- Outside the flagged statements blanks go and nothing else. -/
theorem blank_of_deletes (hclear : analysis.Clear source) {o p : Nat}
    (hfree : ∀ flagged ∈ analysis.flagged, flagged.stop ≤ o ∨ p ≤ flagged.start) {start stop : Nat}
    (hstart : o ≤ start) (hstop : stop ≤ p)
    (h : ∀ q, start ≤ q → q < stop → analysis.Deletes source q) :
    ∀ byte ∈ source.slice start stop, Text.isBlankByte byte = true := by
  rw [← List.all_eq_true, Bytes.all_slice_iff]
  intro q byte hq hlt hbyte
  by_contra hsolid
  obtain ⟨flagged, hmem, hinside⟩ := hclear.flags_of_deletes (h q hq hlt) (by
    rw [Bytes.isSolid, hbyte]
    simpa using hsolid)
  have := hfree flagged hmem
  omega

end Analysis

namespace Grammar

/-- The bytes may stand in front of any gap. -/
def Carries (u : Bytes) (kinds : List Kind) : Prop :=
  ∀ {w v : Bytes} {kinds' : List Kind}, Gap w v kinds' → Gap (u ++ w) v (kinds ++ kinds')

theorem carries_nil : Carries [] [] := fun h => h

theorem Carries.append {u u' : Bytes} {kinds kinds' : List Kind} (h : Carries u kinds)
    (h' : Carries u' kinds') : Carries (u ++ u') (kinds ++ kinds') := by
  intro w v later hgap
  rw [List.append_assoc, List.append_assoc]
  exact h (h' hgap)

end Grammar

namespace Analysis

variable {analysis : Analysis} {source : Bytes}

/-- What is left of a gap in front of a statement may stand in front of any gap. -/
theorem exists_carries (hclear : analysis.Clear source) {o p : Nat} {kinds : List Kind}
    (hgap : Gap (source.drop o) (source.drop p) kinds) (hle : o ≤ p)
    (hfree : ∀ flagged ∈ analysis.flagged, flagged.stop ≤ o ∨ p ≤ flagged.start)
    (hstops : Stops (source.drop p)) (hmore : source.drop p ≠ []) :
    ∃ u, source.keepFrom (analysis.keeps source) o =
        u ++ source.keepFrom (analysis.keeps source) p ∧ Carries u kinds := by
  obtain ⟨a, b, ⟨hoa, hab, hbp⟩, hfirst, hkept, hlast, hfeed⟩ := exists_kept_between hclear hle hfree
  refine ⟨source.slice a b, ?_, ?_⟩
  · rw [Bytes.keepFrom_of_none hoa fun q hq hlt => keeps_eq_false_iff.2 (hfirst q hq hlt),
      Bytes.keepFrom_eq_append hab fun q hq hlt => keeps_eq_true_iff.2 (hkept q hq hlt),
      Bytes.keepFrom_of_none hbp fun q hq hlt => keeps_eq_false_iff.2 (hlast q hq hlt)]
  · have hblank := blank_of_deletes hclear hfree (Nat.le_refl o) (by omega) hfirst
    have hseam : Seam (source.slice a b) (source.slice b p) (source.drop p) := by
      refine ⟨blank_of_deletes hclear hfree (by omega) (Nat.le_refl p) hlast, hstops, hmore, ?_⟩
      by_cases hlt : b < p
      · obtain ⟨⟨flagged, hmem, hbehind⟩, hline⟩ := hfeed hlt
        by_cases hab' : a < b
        · have := hclear.proper flagged hmem
          have := hclear.within flagged hmem
          refine .inr (.inr ?_)
          rw [Bytes.slice, List.getLast?_drop, if_neg (by rw [List.length_take]; omega),
            List.getLast?_take, if_neg (by omega), hline hab']
          rfl
        · exact .inr (.inl (by rw [show a = b by omega, Bytes.slice_self]))
      · exact .inl (by rw [show b = p by omega, Bytes.slice_self])
    rw [Bytes.drop_eq_append source hoa, Bytes.drop_eq_append source hab,
      Bytes.drop_eq_append source hbp] at hgap
    intro w v kinds' hgap'
    exact Gap.append_of_seam hseam (hgap.of_blanks hblank hstops) hgap'

/-- What is left of the gap at the end of a text. -/
theorem gap_keepFrom (hclear : analysis.Clear source) {o : Nat} {kinds : List Kind}
    (hgap : Gap (source.drop o) [] kinds)
    (hfree : ∀ flagged ∈ analysis.flagged, flagged.stop ≤ o) :
    Gap (source.keepFrom (analysis.keeps source) o) [] kinds := by
  have hle : o ≤ max o source.length := Nat.le_max_left _ _
  have hend : source.drop (max o source.length) = [] :=
    List.drop_eq_nil_of_le (Nat.le_max_right _ _)
  generalize max o source.length = p at hle hend
  have hfree' : ∀ flagged ∈ analysis.flagged, flagged.stop ≤ o ∨ p ≤ flagged.start :=
    fun flagged hmem => .inl (hfree flagged hmem)
  obtain ⟨a, b, ⟨hoa, hab, hbp⟩, hfirst, hkept, _, hfeed⟩ := exists_kept_between hclear hle hfree'
  obtain rfl : b = p := by
    by_contra hne
    obtain ⟨⟨flagged, hmem, hbehind⟩, _⟩ := hfeed (by omega)
    have := hfree flagged hmem
    have := hclear.proper flagged hmem
    omega
  have hblank := blank_of_deletes hclear hfree' (Nat.le_refl o) (by omega) hfirst
  rw [Bytes.keepFrom_of_none hoa fun q hq hlt => keeps_eq_false_iff.2 (hfirst q hq hlt),
    Bytes.keepFrom_eq_append hab fun q hq hlt => keeps_eq_true_iff.2 (hkept q hq hlt),
    Bytes.keepFrom, hend]
  rw [Bytes.drop_eq_append source hoa, Bytes.drop_eq_append source hab, hend] at hgap
  exact hgap.of_blanks hblank ⟨rfl, rfl⟩

end Analysis

/-! ## Pieces after the removal -/

/-- The statements that are no directives. -/
def withoutDirectives (outline : List Entry) : List Entry :=
  outline.filter fun entry => !entry.isDirective

theorem withoutDirectives_append (first second : List Entry) :
    withoutDirectives (first ++ second) = withoutDirectives first ++ withoutDirectives second :=
  List.filter_append first second

theorem htmlEntries_append (first second : List Kind) :
    htmlEntries (first ++ second) = htmlEntries first ++ htmlEntries second := by
  rw [htmlEntries, List.filter_append, List.map_append]
  rfl

theorem withoutDirectives_htmlEntries (kinds : List Kind) :
    withoutDirectives (htmlEntries kinds) = htmlEntries kinds := by
  rw [withoutDirectives, List.filter_eq_self]
  intro entry hmem
  obtain ⟨kind, _, rfl⟩ := List.mem_map.1 hmem
  rfl

theorem withoutDirectives_entries (piece : Piece) :
    withoutDirectives piece.entries =
      htmlEntries piece.kinds ++ if piece.entry.isDirective then [] else [piece.entry] := by
  rw [Piece.entries, withoutDirectives_append, withoutDirectives_htmlEntries]
  congr 1
  cases h : piece.entry.isDirective <;> simp [withoutDirectives, h]

/-- Where an offset of a text stands in what is left of it. -/
def Analysis.place (analysis : Analysis) (source : Bytes) (offset : Nat) : Nat :=
  source.keptBefore (analysis.keeps source) offset

/-- The profile of what is left of a statement. -/
def Profile.left (analysis : Analysis) (source : Bytes) (profile : Profile) : Profile where
  start := analysis.place source profile.start
  stop := analysis.place source profile.stop
  entry := profile.entry
  functions := profile.functions.map withoutDirectives

namespace Grammar

/-- In the text that is left, the statement is read as itself without the directives in it. -/
def Piece.Survives (dialect : Dialect) (analysis : Analysis) (source : Bytes) (piece : Piece) :
    Prop :=
  ∃ width node,
    statementAt dialect (source.keepFrom (analysis.keeps source) piece.place) =
      some (width, node) ∧
    analysis.place source piece.place + width =
      analysis.place source (piece.place + piece.width) ∧
    node.entry (source.keepFrom (analysis.keeps source) piece.place) = piece.entry ∧
    node.outlines (source.keepFrom (analysis.keeps source) piece.place) =
      piece.outlines.map withoutDirectives

/-- The second piece is what is left of the first. -/
structure Piece.Becomes (analysis : Analysis) (source : Bytes) (piece piece' : Piece) : Prop where
  start : piece'.place = analysis.place source piece.place
  stop : piece'.place + piece'.width = analysis.place source (piece.place + piece.width)
  entry : piece'.entry = piece.entry
  outlines : piece'.outlines = piece.outlines.map withoutDirectives

/-- What is left of pieces, given the comments that are carried over from in front of them. -/
inductive Remains (analysis : Analysis) (source : Bytes) :
    List Kind → List Piece → List Kind → List Piece → List Kind → Prop where
  | stop {carried last : List Kind} : Remains analysis source carried [] last [] (carried ++ last)
  | drop {carried last last' : List Kind} {piece : Piece} {pieces pieces' : List Piece}
      (hdirective : piece.entry.isDirective = true) (hplain : piece.outlines = [])
      (hrest : Remains analysis source (carried ++ piece.kinds) pieces last pieces' last') :
      Remains analysis source carried (piece :: pieces) last pieces' last'
  | keep {carried last last' : List Kind} {piece piece' : Piece} {pieces pieces' : List Piece}
      (hother : piece.entry.isDirective = false) (hkinds : piece'.kinds = carried ++ piece.kinds)
      (hbecomes : piece.Becomes analysis source piece')
      (hrest : Remains analysis source [] pieces last pieces' last') :
      Remains analysis source carried (piece :: pieces) last (piece' :: pieces') last'

section

variable {analysis : Analysis} {source : Bytes} {carried last last' : List Kind}
  {pieces pieces' : List Piece}

theorem Remains.moduleOutline_eq (h : Remains analysis source carried pieces last pieces' last') :
    moduleOutline pieces' last' =
      htmlEntries carried ++ withoutDirectives (moduleOutline pieces last) := by
  induction h with
  | stop =>
    rw [moduleOutline, List.flatMap_nil, List.nil_append, moduleOutline, List.flatMap_nil,
      List.nil_append, withoutDirectives_htmlEntries, htmlEntries_append]
  | drop hdirective _ _ ih =>
    rw [ih, htmlEntries_append, moduleOutline_cons, withoutDirectives_append,
      withoutDirectives_entries, if_pos hdirective, List.append_nil, List.append_assoc]
  | keep hother hkinds hbecomes _ ih =>
    rw [moduleOutline_cons, ih, moduleOutline_cons, withoutDirectives_append,
      withoutDirectives_entries, if_neg (by rw [hother]; decide), Piece.entries, hkinds,
      htmlEntries_append, hbecomes.entry, List.append_assoc, List.append_assoc, List.append_assoc]
    rfl

theorem Remains.outlines_eq (h : Remains analysis source carried pieces last pieces' last') :
    pieces'.flatMap Piece.outlines = (pieces.flatMap Piece.outlines).map withoutDirectives := by
  induction h with
  | stop => rfl
  | drop _ hplain _ ih => rw [ih, List.flatMap_cons, hplain, List.nil_append]
  | keep _ _ hbecomes _ ih =>
    rw [List.flatMap_cons, List.flatMap_cons, List.map_append, hbecomes.outlines, ih]

theorem Remains.profiles_eq (h : Remains analysis source carried pieces last pieces' last') :
    pieces'.map Piece.profile =
      ((pieces.map Piece.profile).filter (!·.entry.isDirective)).map
        (Profile.left analysis source) := by
  induction h with
  | stop => rfl
  | drop hdirective _ _ ih =>
    rw [ih, List.map_cons, List.filter_cons_of_neg (by simp [Piece.profile, hdirective])]
  | keep hother _ hbecomes _ ih =>
    rw [List.map_cons, ih, List.map_cons,
      List.filter_cons_of_pos (by simp [Piece.profile, hother]), List.map_cons]
    congr 1
    rw [Piece.profile, hbecomes.stop, hbecomes.start, hbecomes.entry, hbecomes.outlines]
    rfl

end

end Grammar

theorem Analysis.place_add_length {analysis : Analysis} {source gap : Bytes} {o p : Nat}
    (hle : o ≤ p) (h : source.keepFrom (analysis.keeps source) o =
      gap ++ source.keepFrom (analysis.keeps source) p) :
    analysis.place source o + gap.length = analysis.place source p := by
  rw [Bytes.keepFrom_eq source _ hle] at h
  rw [← List.append_cancel_right h]
  exact Bytes.keptBefore_add source _ hle

theorem Analysis.drop_keepFrom {analysis : Analysis} {source : Bytes} {o p width : Nat}
    (h : analysis.place source o + width = analysis.place source p) :
    (source.keepFrom (analysis.keeps source) o).drop width =
      source.keepFrom (analysis.keeps source) p := by
  rw [← Bytes.drop_keptBefore, ← Bytes.drop_keptBefore, List.drop_drop]
  congr 1

/-- What is left of a text falls into what is left of its pieces. -/
theorem reads_keepFrom {dialect : Dialect} {analysis : Analysis} {source : Bytes}
    (hclear : analysis.Clear source) {o : Nat} {r : Bytes} {pieces : List Piece} {last : List Kind}
    (h : Reads dialect o r pieces last) (hr : source.drop o = r)
    (hflagged : ∀ flagged ∈ analysis.flagged, flagged.stop ≤ o ∨ ∃ piece ∈ pieces,
      piece.place ≤ flagged.start ∧ flagged.stop ≤ piece.place + piece.width)
    (hgone : ∀ piece ∈ pieces, piece.entry.isDirective = true → piece.outlines = [] ∧
      ∀ q, piece.place ≤ q → q < piece.place + piece.width → analysis.Deletes source q)
    (hsurvives : ∀ piece ∈ pieces, piece.entry.isDirective = false →
      piece.Survives dialect analysis source)
    {u : Bytes} {carried : List Kind} (hu : Carries u carried) (o' : Nat)
    (ho' : o' + u.length = analysis.place source o) :
    ∃ pieces' last',
      Reads dialect o' (u ++ source.keepFrom (analysis.keeps source) o) pieces' last' ∧
        Remains analysis source carried pieces last pieces' last' := by
  induction h generalizing u carried o' with
  | @stop o r last hgap =>
    subst hr
    have hleft := Analysis.gap_keepFrom hclear hgap fun flagged hmem => by
      rcases hflagged flagged hmem with h | ⟨piece, hpiece, _⟩
      · exact h
      · cases hpiece
    exact ⟨[], carried ++ last, .stop (hu hleft), .stop⟩
  | @step o r v kinds last width node pieces hgap hread hreads ih =>
    subst hr
    have hlength := hgap.length_le
    generalize hplace : o + ((source.drop o).length - v.length) = place at *
    have hv : v = source.drop place := by
      conv => lhs; rw [List.suffix_iff_eq_drop.1 hgap.suffix]
      rw [← hplace, List.drop_drop]
    subst hv
    have hrest : source.drop (place + width) = (source.drop place).drop width := by
      rw [List.drop_drop]
    rw [List.forall_mem_cons] at hgone hsurvives
    obtain ⟨_, _, hstands, _⟩ := statementAt_eq_some_iff.1 hread
    have hlater : ∀ piece ∈ pieces, place + width ≤ piece.place := by
      rw [← hrest] at hreads
      exact fun piece hmem => (hreads.of_mem hmem).1
    have hfree : ∀ flagged ∈ analysis.flagged, flagged.stop ≤ o ∨ place ≤ flagged.start := by
      intro flagged hmem
      rcases hflagged flagged hmem with h | ⟨piece, hpiece, hinside⟩
      · exact .inl h
      rcases List.mem_cons.1 hpiece with rfl | hpiece
      · exact .inr hinside.1
      · have := hlater piece hpiece
        exact .inr (by omega)
    have hflagged' : ∀ flagged ∈ analysis.flagged, flagged.stop ≤ place + width ∨
        ∃ piece ∈ pieces, piece.place ≤ flagged.start ∧
          flagged.stop ≤ piece.place + piece.width := by
      intro flagged hmem
      rcases hflagged flagged hmem with h | ⟨piece, hpiece, hinside⟩
      · exact .inl (by omega)
      rcases List.mem_cons.1 hpiece with rfl | hpiece
      · exact .inl hinside.2
      · exact .inr ⟨piece, hpiece, hinside⟩
    obtain ⟨gap, hleft, hcarries⟩ := Analysis.exists_carries hclear hgap (by omega) hfree
      hstands.stops hstands.more
    have hstart := Analysis.place_add_length (by omega) hleft
    rw [hleft]
    cases hdirective : (Piece.entry ⟨kinds, place, source.drop place, width, node⟩).isDirective with
    | true =>
      obtain ⟨hplain, hdeleted⟩ := hgone.1 hdirective
      have hnone : source.keepFrom (analysis.keeps source) place =
          [] ++ source.keepFrom (analysis.keeps source) (place + width) :=
        Bytes.keepFrom_of_none (Nat.le_add_right place width)
          fun q hq hlt => Analysis.keeps_eq_false_iff.2 (hdeleted q hq hlt)
      have hsame := Analysis.place_add_length (Nat.le_add_right place width) hnone
      obtain ⟨pieces', last', hreads', hremains⟩ := ih hrest hflagged' hgone.2 hsurvives.2
        (hu.append hcarries) o' (by
          simp only [List.length_append, List.length_nil] at hsame ⊢
          omega)
      refine ⟨pieces', last', ?_, .drop hdirective hplain hremains⟩
      rw [hnone, ← List.append_assoc]
      exact hreads'
    | false =>
      obtain ⟨width', node', hread', hwidth, hentry, houtlines⟩ := hsurvives.1 hdirective
      have hbehind := Analysis.drop_keepFrom hwidth
      simp only at hread' hwidth hentry houtlines hbehind
      generalize hnow : source.keepFrom (analysis.keeps source) place = now at *
      have hplace' : o' + ((u ++ (gap ++ now)).length - now.length) =
          analysis.place source place := by
        simp only [List.length_append]
        omega
      obtain ⟨pieces', last', hreads', hremains⟩ := ih hrest hflagged' hgone.2 hsurvives.2
        carries_nil (o' + ((u ++ (gap ++ now)).length - now.length) + width')
        (by rw [hplace', List.length_nil, Nat.add_zero, hwidth])
      refine ⟨⟨carried ++ (kinds ++ []), _, _, width', node'⟩ :: pieces', last',
        .step (hu (hcarries (.nil now))) hread' (by rw [hbehind]; exact hreads'), ?_⟩
      refine .keep hdirective (by rw [List.append_nil]) ⟨hplace', ?_, hentry, houtlines⟩ hremains
      rw [hplace']
      exact hwidth

/-- A line for the shell and its line feed are left. -/
theorem not_deletes_of_le_opening {dialect : Dialect} {analysis : Analysis} {source : Bytes}
    {pieces : List Piece} {last : List Kind} (hclear : analysis.Clear source)
    (h : Falls dialect source pieces last)
    (hflagged : ∀ flagged ∈ analysis.flagged, ∃ piece ∈ pieces,
      piece.place ≤ flagged.start ∧ flagged.stop ≤ piece.place + piece.width)
    (hopening : (State.opening source).cursor.offset ≠ 0) {q : Nat}
    (hq : q ≤ (State.opening source).cursor.offset) : ¬ analysis.Deletes source q := by
  have hrest := State.opening_rest hopening
  generalize hoffset : (State.opening source).cursor.offset = offset at hrest hq
  rintro ⟨flagged, hmem, hgoes⟩
  obtain ⟨piece, hpiece, hinside⟩ := hflagged flagged hmem
  obtain ⟨hplace, htext, hread⟩ := h.of_mem hpiece
  obtain ⟨_, _, hstands, _⟩ := statementAt_eq_some_iff.1 hread
  have hproper := hclear.proper flagged hmem
  have hwithin := hclear.within flagged hmem
  rw [hoffset] at hplace
  obtain ⟨rest, hfeed⟩ : ∃ rest, source.drop offset = lineFeed :: rest := by
    rcases hrest with hnil | hhead
    · rw [List.drop_eq_nil_iff] at hnil
      omega
    · obtain ⟨rest, hrest⟩ := List.head?_eq_some_iff.1 hhead
      exact ⟨rest, hrest⟩
  have hbehind : offset < piece.place := by
    rcases Nat.lt_or_eq_of_le hplace with hlt | heq
    · exact hlt
    · have hstops := hstands.stops.item
      rw [htext, ← heq, hfeed] at hstops
      cases hstops
  have hbyte : source[offset]? = some lineFeed := by
    have : (source.drop offset)[0]? = source[offset + 0]? := List.getElem?_drop
    rw [hfeed] at this
    simpa using this.symm
  rcases hgoes with hin | ⟨_, hleads | htrails⟩
  · omega
  · exact hleads.2 offset (by omega) hq hbyte
  · have := htrails.1
    omega

/-- What is left of a text that falls into pieces falls into what is left of them. -/
theorem exists_falls_keep {dialect : Dialect} {analysis : Analysis} {source : Bytes}
    {pieces : List Piece} {last : List Kind} (hclear : analysis.Clear source)
    (h : Falls dialect source pieces last)
    (hflagged : ∀ flagged ∈ analysis.flagged, ∃ piece ∈ pieces,
      piece.place ≤ flagged.start ∧ flagged.stop ≤ piece.place + piece.width)
    (hgone : ∀ piece ∈ pieces, piece.entry.isDirective = true → piece.outlines = [] ∧
      ∀ q, piece.place ≤ q → q < piece.place + piece.width → analysis.Deletes source q)
    (hsurvives : ∀ piece ∈ pieces, piece.entry.isDirective = false →
      piece.Survives dialect analysis source) :
    ∃ pieces' last', Falls dialect (source.keep (analysis.keeps source)) pieces' last' ∧
      Remains analysis source [] pieces last pieces' last' := by
  have hkept : (State.opening source).cursor.offset ≠ 0 →
      ∀ q, q ≤ (State.opening source).cursor.offset → analysis.keeps source q = true :=
    fun hopening q hq => Analysis.keeps_eq_true_iff.2
      (not_deletes_of_le_opening hclear h hflagged hopening hq)
  have hrest := @State.opening_rest source
  have hle := State.opening_offset_le source
  have hreads := reads_keepFrom hclear h rfl
    (fun flagged hmem => .inr (hflagged flagged hmem)) hgone hsurvives carries_nil
    (State.opening source).cursor.offset
  generalize hoffset : (State.opening source).cursor.offset = offset at *
  have hplace : offset + ([] : Bytes).length = analysis.place source offset := by
    by_cases hopening : offset = 0
    · rw [hopening]
      rfl
    · rw [Analysis.place, Bytes.keptBefore, Bytes.keep_all, List.length_take, List.length_nil]
      · omega
      · intro q hq
        rw [List.length_take] at hq
        exact hkept hopening q (by omega)
  obtain ⟨pieces', last', hreads, hremains⟩ := hreads hplace
  refine ⟨pieces', last', ?_, hremains⟩
  rw [List.nil_append] at hreads
  by_cases hopening : offset = 0
  · rw [hopening, Bytes.keepFrom_zero] at hreads
    rw [Falls, hreads.opening_eq]
    exact hreads
  · have hkept := hkept hopening
    have hlength : (source.take offset).length = offset := by
      rw [List.length_take]
      omega
    have hsplit : source.keep (analysis.keeps source) =
        source.take offset ++ source.keepFrom (analysis.keeps source) offset := by
      rw [← Bytes.keepFrom_zero, Bytes.keepFrom_eq_append (Nat.zero_le offset) fun q _ hlt =>
        hkept q (Nat.le_of_lt hlt)]
      rfl
    have hfeed : source.keepFrom (analysis.keeps source) offset = [] ∨
        (source.keepFrom (analysis.keeps source) offset).head? = some lineFeed := by
      rcases hrest hopening with hnil | hhead
      · exact .inl (by rw [Bytes.keepFrom, hnil]; rfl)
      · obtain ⟨rest, hrest⟩ := List.head?_eq_some_iff.1 hhead
        have hfirst : source.slice offset (offset + 1) = [lineFeed] := by
          rw [Bytes.slice, List.drop_take, hrest, Nat.add_sub_cancel_left]
          rfl
        rw [Bytes.keepFrom_eq_append (Nat.le_add_right offset 1) fun q _ hlt => hkept q (by omega),
          hfirst]
        exact .inr rfl
    have hsame : (State.opening (source.keep (analysis.keeps source))).cursor.offset = offset := by
      rw [hsplit, State.opening_append (y := source.drop offset)
        (by rw [List.take_append_drop, hlength, hoffset]) (by
          rw [← List.length_pos_iff, hlength]
          omega) hfeed, hlength]
    rw [Falls, hsame, hsplit, List.drop_left' hlength]
    exact hreads

end Prologue
