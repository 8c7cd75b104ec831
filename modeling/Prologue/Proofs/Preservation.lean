import Prologue.Proofs.Remainder
import Prologue.Proofs.Weaving

/-!
# What stripping preserves

A statement that stands behind every directive is read after the stripping as it was before. One in
front of a directive need not be: where no semicolon ends it, it may go on behind the place of the
directive. If every such statement survives, then the stripped text has no fault, and every scope has
the statements that it had, without its directives. A statement that ends with a semicolon and is read
alike whatever follows it survives, so the source alone shows that such statements do.
-/

namespace Prologue

open Grammar

/-! ## Directives among the statements of a scope -/

theorem Entry.isDirective_entry_iff {source : Bytes} {statement : Node} :
    (statement.entry source).isDirective = true ↔
      ∃ text, statement.stringText? source = some text ∧ editDistance text useRunner ≤ 1 := by
  have hnear : ∀ text : List Char,
      (decide (text = useRunner) || nearMatch text useRunner) = true ↔
        editDistance text useRunner ≤ 1 := by
    intro text
    rw [Bool.or_eq_true, decide_eq_true_eq, nearMatch_eq_true_iff, ← editDistance_eq_zero_iff]
    omega
  simp only [Entry.isDirective, Node.entry, Node.stringText?]
  cases statement.literal? source with
  | none => simp
  | some bytes =>
    cases hdecode : Utf8.decode bytes with
    | error fault => simp [hdecode, Except.toOption]
    | ok text => simp only [hdecode, hnear, Except.toOption, Option.some.injEq, exists_eq_left']

/-- The sighted statements of a scope are its directives. -/
theorem Scope.mem_map_sightings {source : Bytes} {scope : Scope} {statement : Node} :
    statement ∈ (scope.sightings source).map (·.statement) ↔
      statement ∈ scope.container.statements ∧ (statement.entry source).isDirective = true := by
  rw [List.mem_map, Entry.isDirective_entry_iff]
  constructor
  · rintro ⟨sighting, hmem, rfl⟩
    obtain ⟨_, hat, htext, hnear⟩ := Scope.mem_sightings.1 hmem
    exact ⟨List.mem_of_getElem? hat, sighting.text, htext, hnear⟩
  · rintro ⟨hmem, text, htext, hnear⟩
    obtain ⟨index, hat⟩ := List.mem_iff_getElem?.1 hmem
    exact ⟨⟨scope, index, statement, text⟩, Scope.mem_sightings.2 ⟨rfl, hat, htext, hnear⟩, rfl⟩

/-- Dropping the flagged statements of a scope drops its directives. -/
theorem Scope.dropIndices_outline (source : Bytes) (scope : Scope) :
    dropIndices (scope.container.outline source)
        ((scope.report source).flagged.map fun flagged => (flagged.index : Int)) =
      withoutDirectives (scope.container.outline source) := by
  have hindices : ∀ entry ∈ (scope.container.outline source).zipIdx,
      (!(((scope.report source).flagged.map fun flagged => (flagged.index : Int)).contains
        (Int.ofNat entry.2))) = !entry.1.isDirective := by
    rintro ⟨entry, index⟩ hmem
    rw [List.mem_zipIdx_iff_getElem?, Node.outline, List.getElem?_map] at hmem
    obtain ⟨statement, hat, rfl⟩ := Option.map_eq_some_iff.1 hmem
    congr 1
    rw [Bool.eq_iff_iff, List.contains_iff_mem, Scope.report_flagged, List.map_map, List.mem_map,
      Entry.isDirective_entry_iff]
    constructor
    · rintro ⟨sighting, hsighting, hindex⟩
      obtain ⟨_, hat', htext, hnear⟩ := Scope.mem_sightings.1 hsighting
      obtain rfl : sighting.index = index := Int.ofNat.inj hindex
      obtain rfl := Option.some.inj (hat.symm.trans hat')
      exact ⟨sighting.text, htext, hnear⟩
    · rintro ⟨text, htext, hnear⟩
      exact ⟨⟨scope, index, statement, text⟩, Scope.mem_sightings.2 ⟨rfl, hat, htext, hnear⟩, rfl⟩
  rw [dropIndices, withoutDirectives, List.filter_congr hindices]
  conv => rhs; rw [← List.zipIdx_map_fst 0 (scope.container.outline source), List.filter_map]
  rfl

/-! ## Pieces and flagged statements -/

/-- What is known of a source without faults that falls into pieces. -/
structure Source.Parted (source : Source) (pieces : List Piece) (last : List Kind) : Prop where
  laid : source.WellLaid
  tree : source.tree = parse source.dialect source.bytes
  falls : Falls source.dialect source.bytes pieces last

namespace Source.Parted

variable {source : Source} {pieces : List Piece} {last : List Kind}

theorem eq_read (h : source.Parted pieces last) :
    source = Source.read source.dialect source.bytes := by
  rw [Source.read, ← h.tree]

theorem mem_statements (h : source.Parted pieces last) {piece : Piece} (hpiece : piece ∈ pieces) :
    piece.node.shift piece.place ∈ source.tree.statements ∧
      (piece.node.shift piece.place).kind ≠ .htmlComment := by
  have hkind : (piece.node.shift piece.place).kind.isNote = false := by
    rw [Node.kind_shift]
    exact (kind_of_statementAt (h.falls.of_mem hpiece).2.2).1
  refine ⟨List.mem_filter.2 ⟨h.tree ▸ h.falls.piece_mem hpiece,
    counts_of_isNote_eq_false hkind⟩, ?_⟩
  intro hhtml
  rw [hhtml] at hkind
  cases hkind

/-- Every flagged statement lies in a piece. -/
theorem exists_piece (h : source.Parted pieces last) {flagged : Flagged}
    (hmem : flagged ∈ (Analysis.expected source source.tree.scopes).flagged) :
    ∃ piece ∈ pieces, piece.place ≤ flagged.start ∧ flagged.stop ≤ piece.place + piece.width := by
  rw [Analysis.expected_flagged] at hmem
  obtain ⟨sighting, hsighting, rfl⟩ := List.mem_map.1 hmem
  have hstatement : sighting.statement ∈ source.sightings.map (·.statement) :=
    List.mem_map_of_mem hsighting
  rw [Source.map_statement_sightings, List.mem_append] at hstatement
  rcases hstatement with hown | hbelow
  · have hchild := (Scope.sightings_sublist source.bytes (.module source.tree)).subset hown
    rw [Scope.container, h.tree] at hchild
    rcases h.falls.mem_children hchild with ⟨hnote, _⟩ | ⟨piece, hpiece, heq⟩
    · have hliteral := Scope.isSome_literal_of_mem hown
      rw [Node.literal?] at hliteral
      split at hliteral
      next hkind => rw [hkind] at hnote; cases hnote
      · cases hliteral
    · obtain ⟨hstart, hstop⟩ := h.falls.piece_bounds hpiece
      rw [← heq] at hstart hstop
      exact ⟨piece, hpiece, Nat.le_of_eq hstart.symm, Nat.le_of_eq hstop⟩
  · obtain ⟨child, hchild, hsighted⟩ := List.mem_flatMap.1 hbelow
    have horderly := h.laid.orderly.child hchild
    have hinside := Node.sighted_inside horderly _ hsighted
    rw [h.tree] at hchild
    rcases h.falls.mem_children hchild with ⟨hnote, hempty⟩ | ⟨piece, hpiece, heq⟩
    · rw [Node.sighted_eq_nil (plain_of_isNote hnote hempty)] at hsighted
      cases hsighted
    · obtain ⟨hstart, hstop⟩ := h.falls.piece_bounds hpiece
      rw [← heq] at hstart hstop
      rw [hstart, hstop] at hinside
      exact ⟨piece, hpiece, hinside⟩

theorem mem_flagged {scope : Scope} (hscope : scope ∈ source.tree.scopes) {statement : Node}
    (hmem : statement ∈ (scope.sightings source.bytes).map (·.statement)) :
    ∃ flagged ∈ (Analysis.expected source source.tree.scopes).flagged,
      flagged.start = statement.start ∧ flagged.stop = statement.stop := by
  obtain ⟨sighting, hsighting, rfl⟩ := List.mem_map.1 hmem
  rw [Analysis.expected_flagged]
  exact ⟨_, List.mem_map_of_mem (List.mem_flatMap.2 ⟨scope, hscope, hsighting⟩), rfl, rfl⟩

/-- A directive that is a piece of its own is flagged, and it holds no function. -/
theorem directive_gone (h : source.Parted pieces last) {piece : Piece} (hpiece : piece ∈ pieces)
    (hdirective : piece.entry.isDirective = true) :
    piece.outlines = [] ∧ ∀ q, piece.place ≤ q → q < piece.place + piece.width →
      (Analysis.expected source source.tree.scopes).Deletes source.bytes q := by
  obtain ⟨hentry, houtlines⟩ := h.falls.piece_entry hpiece
  have hchild := h.falls.piece_mem hpiece
  rw [← h.tree] at hchild
  rw [← hentry] at hdirective
  have hsighted : piece.node.shift piece.place ∈
      ((Scope.module source.tree).sightings source.bytes).map (·.statement) := by
    rw [Scope.mem_map_sightings]
    refine ⟨List.mem_filter.2 ⟨hchild, counts_of_isNote_eq_false ?_⟩, hdirective⟩
    rw [Node.kind_shift]
    exact (kind_of_statementAt (h.falls.of_mem hpiece).2.2).1
  have hliteral := Scope.isSome_literal_of_mem hsighted
  have hcompact := (h.laid.compact.child hchild).self hliteral
  refine ⟨?_, fun q hq hlt => ?_⟩
  · rw [← houtlines, Node.outlines, Node.bodies_eq_nil hcompact.plain, List.map_nil]
  · obtain ⟨flagged, hmem, hstart, hstop⟩ := mem_flagged (List.mem_cons_self ..) hsighted
    obtain ⟨hplace, hend⟩ := h.falls.piece_bounds hpiece
    exact ⟨flagged, hmem, .inl (by omega)⟩

/-- A statement with a directive in one of its functions holds a flagged statement. -/
theorem exists_flagged_of_mem (h : source.Parted pieces last) {piece : Piece}
    (hpiece : piece ∈ pieces) {outline : List Entry} (houtline : outline ∈ piece.outlines)
    {entry : Entry} (hentry : entry ∈ outline) (hdirective : entry.isDirective = true) :
    ∃ flagged ∈ (Analysis.expected source source.tree.scopes).flagged,
      piece.place < flagged.stop ∧ flagged.start < piece.place + piece.width := by
  have hchild := h.falls.piece_mem hpiece
  rw [← h.tree] at hchild
  rw [← (h.falls.piece_entry hpiece).2, Node.outlines,
    ← Node.container_scopesUnder _ (some source.tree), List.map_map] at houtline
  obtain ⟨scope, hscope, rfl⟩ := List.mem_map.1 houtline
  obtain ⟨statement, hstatement, rfl⟩ := List.mem_map.1 hentry
  have hsighted := Scope.mem_map_sightings.2 ⟨hstatement, hdirective⟩
  obtain ⟨flagged, hmem, hstart, hstop⟩ := @mem_flagged source _
    (List.mem_cons_of_mem _ (List.mem_flatMap.2 ⟨_, hchild, hscope⟩)) _ hsighted
  have horderly := h.laid.orderly.child hchild
  have hinside := @Node.sighted_inside source.bytes _ (some source.tree) horderly
    statement (List.mem_flatMap.2 ⟨scope, hscope, hsighted⟩)
  have hproper := h.laid.clear.proper flagged hmem
  have hbounds := h.falls.piece_bounds hpiece
  exact ⟨flagged, hmem, by omega, by omega⟩

/-- What is removed behind a directive does not reach into a later statement. -/
theorem not_trailsFrom (h : source.Parted pieces last) {piece : Piece} (hpiece : piece ∈ pieces)
    {start stop offset : Nat} (hstop : stop ≤ piece.place) (hoffset : piece.place ≤ offset)
    (halone : source.bytes.StandsAlone start stop) : ¬ source.bytes.TrailsFrom stop offset := by
  intro htrails
  obtain ⟨hplace, htext, hread⟩ := h.falls.of_mem hpiece
  obtain ⟨_, _, hstands, _⟩ := statementAt_eq_some_iff.1 hread
  rw [htext] at hstands
  have hlength := htrails.1.2
  have hsolid := isSolid_of_itemWidth_eq_zero hstands.stops.item (by omega)
  have hblank := halone piece.place (by omega) (.inr ⟨⟨hstop, by omega⟩, fun i hi =>
    htrails.2 i (by omega)⟩)
  rw [hsolid] at hblank
  cases hblank

/-- Behind the last directive the text is left as it is. -/
theorem not_deletes_behind (h : source.Parted pieces last) {piece : Piece} (hpiece : piece ∈ pieces)
    (hbehind : ∀ flagged ∈ (Analysis.expected source source.tree.scopes).flagged,
      flagged.stop ≤ piece.place) (offset : Nat) (hoffset : piece.place ≤ offset) :
    ¬ (Analysis.expected source source.tree.scopes).Deletes source.bytes offset := by
  rintro ⟨flagged, hmem, hgoes⟩
  have hstop := hbehind flagged hmem
  have hproper := h.laid.clear.proper flagged hmem
  rcases hgoes with hinside | ⟨halone, hleads | htrails⟩
  · omega
  · have := hleads.1
    omega
  · exact h.not_trailsFrom hpiece hstop hoffset halone htrails

end Source.Parted

/-! ## The stripped source -/

namespace Source

/-- Whether in the given text the statement is read, where it stands without the directives, over all
that is left of it, as the statement it was with the functions it had, less the directives in them. -/
def survivesIn (source : Source) (analysis : Analysis) (text : Bytes) (statement : Node) : Bool :=
  let start := analysis.place source.bytes statement.start
  match statementAt source.dialect (text.drop start) with
  | some (width, node) =>
    start + width = analysis.place source.bytes statement.stop &&
      node.entry (text.drop start) = statement.entry source.bytes &&
      node.outlines (text.drop start) = (statement.outlines source.bytes).map withoutDirectives
  | none => false

/-- Whether the statement is read in the stripped text as what is left of it. -/
def survives (source : Source) (analysis : Analysis) (statement : Node) : Bool :=
  source.survivesIn analysis (source.strip analysis).bytes statement

variable {source : Source} {analysis : Analysis}

theorem strip_eq_read (htree : source.tree = parse source.dialect source.bytes) :
    source.strip analysis = Source.read source.dialect (source.strip analysis).bytes := by
  rw [strip, remove]
  split
  · rw [read, ← htree]
  · rfl

theorem strip_bytes_eq (h : analysis.Clear source.bytes) :
    (source.strip analysis).bytes = source.bytes.keep (analysis.keeps source.bytes) :=
  h.strip_bytes

theorem drop_strip_bytes (h : analysis.Clear source.bytes) (offset : Nat) :
    (source.strip analysis).bytes.drop (analysis.place source.bytes offset) =
      source.bytes.keepFrom (analysis.keeps source.bytes) offset := by
  rw [strip_bytes_eq h]
  exact Bytes.drop_keptBefore _ _ _

theorem survives_iff {statement : Node} :
    source.survives analysis statement = true ↔
      ∃ width node, statementAt source.dialect ((source.strip analysis).bytes.drop
          (analysis.place source.bytes statement.start)) = some (width, node) ∧
        analysis.place source.bytes statement.start + width =
          analysis.place source.bytes statement.stop ∧
        node.entry ((source.strip analysis).bytes.drop
          (analysis.place source.bytes statement.start)) = statement.entry source.bytes ∧
        node.outlines ((source.strip analysis).bytes.drop
          (analysis.place source.bytes statement.start)) =
            (statement.outlines source.bytes).map withoutDirectives := by
  simp only [survives, survivesIn]
  cases statementAt source.dialect ((source.strip analysis).bytes.drop
      (analysis.place source.bytes statement.start)) with
  | none => simp
  | some found =>
    obtain ⟨width, node⟩ := found
    simp only [Bool.and_eq_true, decide_eq_true_eq, Option.some.injEq, Prod.mk.injEq, and_assoc]
    constructor
    · exact fun h => ⟨width, node, rfl, rfl, h⟩
    · rintro ⟨_, _, rfl, rfl, h⟩
      exact h

/-- Of every scope the statements that are not flagged in it. -/
def remaining (source : Source) (analysis : Analysis) : List (List Entry) :=
  List.zipWith (fun outline report => dropIndices outline
      (report.flagged.map fun flagged => (flagged.index : Int)))
    source.outlines analysis.scopes

/-- What stripping preserves: no fault arises, every scope has the statements that it had less the
flagged ones, and, beyond these sequences, every statement of the module covers what is left of it.
-/
structure Preserved (source : Source) (analysis : Analysis) : Prop where
  faultless : (source.strip analysis).hasError = false
  outlines : (source.strip analysis).outlines = source.remaining analysis
  profiles : (source.strip analysis).profiles =
    (source.profiles.filter (!·.entry.isDirective)).map (Profile.left analysis source.bytes)

namespace Parted

variable {pieces : List Piece} {last : List Kind}

/-- A statement that is kept whole survives where it is read as it was. -/
theorem survives_of_kept (h : source.Parted pieces last) {piece : Piece} (hpiece : piece ∈ pieces)
    (hfree : ∀ flagged ∈ (Analysis.expected source source.tree.scopes).flagged,
      flagged.stop ≤ piece.place ∨ piece.place + piece.width ≤ flagged.start)
    (hkept : ∀ q, piece.place ≤ q → q < piece.place + piece.width →
      ¬ (Analysis.expected source source.tree.scopes).Deletes source.bytes q)
    (hread : statementAt source.dialect (source.bytes.keepFrom
        ((Analysis.expected source source.tree.scopes).keeps source.bytes) piece.place) =
      some (piece.width, piece.node)) :
    piece.Survives source.dialect (Analysis.expected source source.tree.scopes) source.bytes := by
  have hleft := @Bytes.keepFrom_eq_append source.bytes _ _ _ (Nat.le_add_right piece.place _)
    fun q hq hlt => Analysis.keeps_eq_true_iff.2 (hkept q hq hlt)
  have hchild := h.falls.piece_mem hpiece
  rw [← h.tree] at hchild
  have horderly := h.laid.orderly.child hchild
  have hinside := (h.laid.orderly.self.inside _ hchild).2
  have hwithin := h.laid.within
  obtain ⟨hstart, hstop⟩ := h.falls.piece_bounds hpiece
  obtain ⟨hentry, houtlines⟩ := h.falls.piece_entry hpiece
  have hlength : (source.bytes.take piece.place).length = piece.place := by
    rw [List.length_take]
    omega
  -- With the front of the source before it, what is left begins as the source does.
  have hsame : ∀ rest, (source.bytes.take piece.place ++ (source.bytes.slice piece.place
      (piece.place + piece.width) ++ rest)).take (piece.place + piece.width) =
        source.bytes.take (piece.place + piece.width) := by
    intro rest
    rw [← List.append_assoc, ← Bytes.take_eq_append _ (Nat.le_add_right _ _),
      List.take_append_of_le_length (by rw [List.length_take]; omega), List.take_take, Nat.min_self]
  have hfront : ∀ rest, (source.bytes.take piece.place ++ rest).drop piece.place = rest := fun rest =>
    List.drop_left' hlength
  have hnone : piece.outlines.map withoutDirectives = piece.outlines := by
    rw [List.map_congr_left (g := id), List.map_id]
    intro outline houtline
    apply List.filter_eq_self.2
    intro entry hentry
    rw [Bool.not_eq_true']
    by_contra hdirective
    obtain ⟨flagged, hmem, hbehind, hbefore⟩ :=
      h.exists_flagged_of_mem hpiece houtline hentry (by simpa using hdirective)
    have := hfree flagged hmem
    omega
  refine ⟨piece.width, piece.node, hread, ?_, ?_, ?_⟩
  · rw [← Analysis.place_add_length (Nat.le_add_right _ _) hleft, Bytes.slice, List.length_drop,
      List.length_take]
    omega
  · rw [← hentry, hleft, ← hfront (_ ++ _), ← Node.entry_shift]
    exact Node.entry_congr horderly (by rw [hstop, hsame])
  · rw [hnone, ← houtlines, hleft, ← hfront (_ ++ _), ← Node.outlines_shift]
    exact Node.outlines_congr horderly (by rw [hstop, hsame])

/-- A statement behind all directives survives, and the others do if they are read as they were. -/
theorem piece_survives (h : source.Parted pieces last) {piece : Piece} (hpiece : piece ∈ pieces)
    (hsurvives : (∃ flagged ∈ (Analysis.expected source source.tree.scopes).flagged,
        piece.place < flagged.stop) →
      source.survives (Analysis.expected source source.tree.scopes)
        (piece.node.shift piece.place) = true) :
    piece.Survives source.dialect (Analysis.expected source source.tree.scopes) source.bytes := by
  obtain ⟨hstart, hstop⟩ := h.falls.piece_bounds hpiece
  obtain ⟨hentry, houtlines⟩ := h.falls.piece_entry hpiece
  by_cases hbefore : ∃ flagged ∈ (Analysis.expected source source.tree.scopes).flagged,
      piece.place < flagged.stop
  · have hfound := hsurvives hbefore
    rw [survives_iff, hstart, hstop, hentry, houtlines] at hfound
    simp only [drop_strip_bytes h.laid.clear] at hfound
    exact hfound
  · obtain ⟨_, htext, hread⟩ := h.falls.of_mem hpiece
    have hbehind : ∀ flagged ∈ (Analysis.expected source source.tree.scopes).flagged,
        flagged.stop ≤ piece.place := by
      intro flagged hmem
      by_contra hcon
      exact hbefore ⟨flagged, hmem, by omega⟩
    have hkept := h.not_deletes_behind hpiece hbehind
    refine h.survives_of_kept hpiece (fun flagged hmem => .inl (hbehind flagged hmem))
      (fun q hq _ => hkept q hq) ?_
    rw [Bytes.keepFrom_eq_drop fun q hq => Analysis.keeps_eq_true_iff.2 (hkept q hq), ← htext]
    exact hread

end Parted

/-- Dropping the flagged statements of every scope drops the directives. -/
theorem remaining_expected (source : Source) :
    source.remaining (Analysis.expected source source.tree.scopes) =
      source.outlines.map withoutDirectives := by
  rw [remaining, outlines, Scope.all_eq, Analysis.expected, List.zipWith_map, List.zipWith_self,
    List.map_map]
  exact List.map_congr_left fun scope _ => scope.dropIndices_outline source.bytes

/-- If the statements in front of a directive survive, the rest of the source is preserved. -/
theorem Parted.preserved {pieces : List Piece} {last : List Kind} (h : source.Parted pieces last)
    (hsurvives : ∀ piece ∈ pieces, piece.entry.isDirective = false →
      piece.Survives source.dialect (Analysis.expected source source.tree.scopes) source.bytes) :
    source.Preserved (Analysis.expected source source.tree.scopes) := by
  have hclear := h.laid.clear
  obtain ⟨pieces', last', hfalls, hremains⟩ := exists_falls_keep hclear h.falls
    (fun flagged hmem => h.exists_piece hmem) (fun piece hpiece => h.directive_gone hpiece) hsurvives
  have houtlines := h.falls.outlines_read
  have hprofiles := h.falls.profiles_read
  rw [← h.eq_read] at houtlines hprofiles
  refine ⟨?_, ?_, ?_⟩ <;> rw [strip_eq_read h.tree, strip_bytes_eq hclear]
  · exact hfalls.hasError_read
  · rw [hfalls.outlines_read, hremains.moduleOutline_eq, hremains.outlines_eq,
      source.remaining_expected, houtlines]
    rfl
  · rw [hfalls.profiles_read, hremains.profiles_eq, hprofiles]

theorem Parted.preserved_of_survives {pieces : List Piece} {last : List Kind}
    (h : source.Parted pieces last)
    (hsurvives : ∀ statement ∈ source.tree.statements,
      statement.kind ≠ .htmlComment → (statement.entry source.bytes).isDirective = false →
      (∃ flagged ∈ (Analysis.expected source source.tree.scopes).flagged,
        statement.start < flagged.stop) →
      source.survives (Analysis.expected source source.tree.scopes) statement = true) :
    source.Preserved (Analysis.expected source source.tree.scopes) := by
  refine h.preserved fun piece hpiece hother => h.piece_survives hpiece fun hbefore => ?_
  obtain ⟨hmem, hkind⟩ := h.mem_statements hpiece
  refine hsurvives _ hmem hkind ?_ ?_
  · rw [(h.falls.piece_entry hpiece).1]
    exact hother
  · rw [(h.falls.piece_bounds hpiece).1]
    exact hbefore

/-- If the rest of the source is preserved, every statement in front of a directive survives. -/
theorem Preserved.survives {pieces : List Piece} {last : List Kind}
    (hparted : source.Parted pieces last)
    (h : source.Preserved (Analysis.expected source source.tree.scopes)) {piece : Piece}
    (hpiece : piece ∈ pieces) (hother : piece.entry.isDirective = false) :
    source.survives (Analysis.expected source source.tree.scopes)
      (piece.node.shift piece.place) = true := by
  have hclear := hparted.laid.clear
  have hprofiles := hparted.falls.profiles_read
  rw [← hparted.eq_read] at hprofiles
  have hstripped := @strip_eq_read source (Analysis.expected source source.tree.scopes) hparted.tree
  have hfaultless := h.faultless
  rw [hstripped] at hfaultless
  obtain ⟨pieces', last', hfalls⟩ := exists_falls hfaultless
  have hmem : piece.profile.left (Analysis.expected source source.tree.scopes) source.bytes ∈
      pieces'.map Piece.profile := by
    rw [← hfalls.profiles_read, ← hstripped, h.profiles, hprofiles]
    refine List.mem_map_of_mem (List.mem_filter.2 ⟨List.mem_map_of_mem hpiece, ?_⟩)
    rw [Piece.profile, hother]
    rfl
  obtain ⟨piece', hpiece', hprofile⟩ := List.mem_map.1 hmem
  obtain ⟨_, htext, hread⟩ := hfalls.of_mem hpiece'
  obtain ⟨hstart, hstop⟩ := hparted.falls.piece_bounds hpiece
  obtain ⟨hentry, houtlines⟩ := hparted.falls.piece_entry hpiece
  obtain ⟨hplace, hend, hsame, hfunctions⟩ := Profile.mk.inj hprofile
  rw [survives_iff, hstart, hstop, hentry, houtlines]
  simp only [Piece.profile] at hplace hend hsame hfunctions
  rw [← hplace, ← hend, ← htext]
  exact ⟨piece'.width, piece'.node, hread, rfl, hsame, hfunctions⟩

end Source

/-- Stripping preserves the rest of a faultless source exactly if every other statement in front of
a directive is read, in the stripped text, as what is left of it. -/
theorem Source.strip_preserves_iff (dialect : Dialect) (bytes : Bytes)
    (hlegible : (Source.read dialect bytes).Legible)
    (hfaultless : (Source.read dialect bytes).hasError = false) :
    ∃ analysis, (Source.read dialect bytes).analyze = .ok analysis ∧
      ((Source.read dialect bytes).Preserved analysis ↔
        ∀ statement ∈ (Source.read dialect bytes).tree.statements,
          statement.kind ≠ .htmlComment → (statement.entry bytes).isDirective = false →
          (∃ flagged ∈ analysis.flagged, statement.start < flagged.stop) →
          (Source.read dialect bytes).survives analysis statement = true) := by
  obtain ⟨pieces, last, hfalls⟩ := exists_falls hfaultless
  have hparted : (Source.read dialect bytes).Parted pieces last :=
    ⟨Source.read_wellLaid dialect bytes, rfl, hfalls⟩
  refine ⟨_, (Source.read dialect bytes).analyze_eq hlegible, fun h => ?_, fun h => ?_⟩
  · intro statement hmem hhtml hother _
    obtain ⟨hchild, hcounts⟩ := List.mem_filter.1 hmem
    rcases hfalls.mem_children hchild with ⟨hnote, _⟩ | ⟨piece, hpiece, rfl⟩
    · -- The only other note that counts as a statement is an error.
      have herror : statement.kind = .error := by
        revert hnote hcounts hhtml
        generalize statement.kind = kind
        cases kind <;> decide
      rw [hasError, Node.has_eq, Bool.or_eq_false_iff, List.any_eq_false] at hfaultless
      have hnone := hfaultless.2 statement hchild
      rw [Node.has_eq, herror] at hnone
      simp at hnone
    · rw [(hfalls.piece_entry hpiece).1] at hother
      exact h.survives hparted hpiece hother
  · exact hparted.preserved_of_survives h

/-- A directive behind a statement, and one in a function that follows. -/
def semicolons : Bytes := utf8 "a;\n'use runner' // b \nasync () => \x7b 'use runner'; c \x7d"

theorem semicolons_legible : (Source.read .typescript semicolons).Legible := by
  have hok : (Source.read .typescript semicolons).analyze.isOk = true := by decide +kernel
  cases h : (Source.read .typescript semicolons).analyze with
  | ok analysis => exact Source.legible_of_analyze _ h
  | error fault => rw [h] at hok; cases hok

theorem semicolons_faultless : (Source.read .typescript semicolons).hasError = false := by
  decide +kernel

/-- Both directives go and all else is preserved. -/
theorem semicolons_preserved :
    (Source.read .typescript semicolons).Legible ∧
      (Source.read .typescript semicolons).hasError = false ∧
      ∃ analysis, (Source.read .typescript semicolons).analyze = .ok analysis ∧
        analysis.flagged.length = 2 ∧
        (Source.read .typescript semicolons).Preserved analysis := by
  obtain ⟨analysis, hanalyze, hiff⟩ := Source.strip_preserves_iff .typescript semicolons
    semicolons_legible semicolons_faultless
  have hclear := (Source.read_wellLaid .typescript semicolons).clear
  have hexpected := (Source.read .typescript semicolons).analyze_eq semicolons_legible
  obtain rfl := Except.ok.inj (hexpected.symm.trans hanalyze)
  have hsurvives : ((Source.read .typescript semicolons).analyze.toOption.map fun analysis =>
      decide (analysis.flagged.length = 2) &&
      decide (∀ statement ∈ (Source.read .typescript semicolons).tree.statements,
        (statement.entry semicolons).isDirective = false →
          (Source.read .typescript semicolons).survivesIn analysis
            (semicolons.keep (analysis.keeps semicolons)) statement = true)) = some true := by
    decide +kernel
  rw [hanalyze] at hsurvives
  simp only [Except.toOption, Option.map_some, Option.some.injEq, Bool.and_eq_true,
    decide_eq_true_eq] at hsurvives
  refine ⟨semicolons_legible, semicolons_faultless, _, hanalyze, hsurvives.1, hiff.2 ?_⟩
  intro statement hmem _ hother _
  rw [Source.survives, Source.strip_bytes_eq hclear]
  exact hsurvives.2 statement hmem hother

/-- A directive between a statement that no semicolon ends and one in parentheses. -/
def unterminated : Bytes := utf8 "foo\n\"use runner\";\n(bar)\n"

/-- The two statements around the directive become one call. -/
theorem unterminated_merged :
    (Source.read .typescript unterminated).hasError = false ∧
      ∃ analysis, (Source.read .typescript unterminated).analyze = .ok analysis ∧
        ((Source.read .typescript unterminated).remaining analysis).map List.length = [2] ∧
        ((Source.read .typescript unterminated).strip analysis).outlines.map List.length = [1] ∧
        ¬ (Source.read .typescript unterminated).Preserved analysis := by
  have hcounts : ((Source.read .typescript unterminated).analyze.toOption.map fun analysis =>
      (((Source.read .typescript unterminated).remaining analysis).map List.length,
        ((Source.read .typescript unterminated).strip analysis).outlines.map List.length)) =
      some ([2], [1]) := by
    decide +kernel
  cases hanalyze : (Source.read .typescript unterminated).analyze with
  | error fault => rw [hanalyze] at hcounts; cases hcounts
  | ok analysis =>
    rw [hanalyze] at hcounts
    obtain ⟨hremaining, hstripped⟩ := Prod.mk.inj (Option.some.inj hcounts)
    refine ⟨by decide +kernel, analysis, rfl, hremaining, hstripped, fun hpreserved => ?_⟩
    rw [hpreserved.outlines, hremaining] at hstripped
    cases hstripped

/-! ## Statements that end with a semicolon -/

/-- A statement that ends with a semicolon and is read alike whatever follows it. -/
structure Terminated (dialect : Dialect) (text : Bytes) : Prop where
  semicolon : text.getLast? = some 59
  reads : ∀ rest, statementAt dialect (text ++ rest) = statementAt dialect text

example : Terminated .typescript (utf8 "debugger;") := ⟨rfl, fun rest => by cbv⟩

theorem Terminated.isSolid {dialect : Dialect} {bytes : Bytes} {start stop : Nat}
    (h : Terminated dialect (bytes.slice start stop)) (hstop : stop ≤ bytes.length) :
    bytes.isSolid (stop - 1) = true := by
  have hlast := h.semicolon
  have hlt : start < stop := by
    by_contra hcon
    rw [Bytes.slice, List.drop_eq_nil_of_le (by rw [List.length_take]; omega)] at hlast
    cases hlast
  have hlength : (bytes.slice start stop).length = stop - start := by
    rw [Bytes.slice, List.length_drop, List.length_take]
    omega
  rw [List.getLast?_eq_getElem?, hlength, Bytes.getElem?_slice, if_pos (by omega),
    show start + (stop - start - 1) = stop - 1 by omega] at hlast
  rw [Bytes.isSolid, hlast]
  rfl

/-- A statement that ends with a semicolon survives if it holds no directive. -/
theorem Source.Parted.survives_of_terminated {source : Source} {pieces : List Piece}
    {last : List Kind} (h : source.Parted pieces last) {piece : Piece} (hpiece : piece ∈ pieces)
    (hfree : ∀ flagged ∈ (Analysis.expected source source.tree.scopes).flagged,
      flagged.stop ≤ piece.place ∨ piece.place + piece.width ≤ flagged.start)
    (hterminated : Terminated source.dialect
      (source.bytes.slice piece.place (piece.place + piece.width))) :
    piece.Survives source.dialect (Analysis.expected source source.tree.scopes) source.bytes := by
  obtain ⟨_, htext, hread⟩ := h.falls.of_mem hpiece
  have hchild := h.falls.piece_mem hpiece
  rw [← h.tree] at hchild
  have hstop := (h.laid.orderly.self.inside _ hchild).2
  rw [(h.falls.piece_bounds hpiece).2] at hstop
  have hsolid := hterminated.isSolid (Nat.le_trans hstop h.laid.within)
  have hkept : ∀ q, piece.place ≤ q → q < piece.place + piece.width →
      ¬ (Analysis.expected source source.tree.scopes).Deletes source.bytes q := by
    rintro q hq hlt ⟨flagged, hmem, hgoes⟩
    have hproper := h.laid.clear.proper flagged hmem
    rcases hfree flagged hmem with hbehind | hbefore
    · rcases hgoes with hinside | ⟨halone, hleads | htrails⟩
      · omega
      · have := hleads.1
        omega
      · exact h.not_trailsFrom hpiece hbehind hq halone htrails
    · rcases hgoes with hinside | ⟨halone, hleads | htrails⟩
      · omega
      · -- The semicolon stands on the line of the directive, so that is not all the line holds.
        have hblank := halone _ (Bytes.lt_length_of_isSolid hsolid)
          (.inl ⟨by omega, fun i hi hle => hleads.2 i hi (by omega)⟩)
        rw [hsolid] at hblank
        cases hblank
      · have := htrails.1.1
        omega
  refine h.survives_of_kept hpiece hfree hkept ?_
  rw [Bytes.keepFrom_eq_append (Nat.le_add_right _ _)
      fun q hq hlt => Analysis.keeps_eq_true_iff.2 (hkept q hq hlt), hterminated.reads,
    ← hterminated.reads (source.bytes.drop (piece.place + piece.width)),
    ← Bytes.drop_eq_append _ (Nat.le_add_right _ _), ← htext]
  exact hread

/-- Stripping preserves the rest of a source in which every other statement in front of a directive
ends with a semicolon and holds no directive. -/
theorem Source.strip_preserves_of_terminated (dialect : Dialect) (bytes : Bytes)
    (hlegible : (Source.read dialect bytes).Legible)
    (hfaultless : (Source.read dialect bytes).hasError = false) :
    ∃ analysis, (Source.read dialect bytes).analyze = .ok analysis ∧
      ((∀ statement ∈ (Source.read dialect bytes).tree.statements,
          statement.kind ≠ .htmlComment → (statement.entry bytes).isDirective = false →
          (∃ flagged ∈ analysis.flagged, statement.start < flagged.stop) →
          Terminated dialect (bytes.slice statement.start statement.stop) ∧
            ∀ flagged ∈ analysis.flagged,
              flagged.stop ≤ statement.start ∨ statement.stop ≤ flagged.start) →
        (Source.read dialect bytes).Preserved analysis) := by
  obtain ⟨pieces, last, hfalls⟩ := exists_falls hfaultless
  have hparted : (Source.read dialect bytes).Parted pieces last :=
    ⟨Source.read_wellLaid dialect bytes, rfl, hfalls⟩
  refine ⟨_, (Source.read dialect bytes).analyze_eq hlegible, fun h => ?_⟩
  refine hparted.preserved fun piece hpiece hother => ?_
  obtain ⟨hstart, hstop⟩ := hfalls.piece_bounds hpiece
  by_cases hbefore : ∃ flagged ∈ (Analysis.expected (Source.read dialect bytes)
      (Source.read dialect bytes).tree.scopes).flagged, piece.place < flagged.stop
  · obtain ⟨hmem, hkind⟩ := hparted.mem_statements hpiece
    obtain ⟨hterminated, hfree⟩ := h _ hmem hkind
      (by rw [(hfalls.piece_entry hpiece).1]; exact hother) (by rw [hstart]; exact hbefore)
    rw [hstart, hstop] at hterminated hfree
    exact hparted.survives_of_terminated hpiece hfree hterminated
  · exact hparted.piece_survives hpiece fun hafter => absurd hafter hbefore

end Prologue
