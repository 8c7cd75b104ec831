import Mathlib
import Prologue.Proofs.Examination
import Prologue.Proofs.Listing
import Prologue.Proofs.NameLines
import Prologue.Proofs.SharedParts

/-!
# The lines that the index names

A file is indexed with line feeds in place of returns, and transformed as it is. The two number their
lines alike as long as every return has a line feed behind it: the trees are the same apart from their
places, and the places lie on the same lines. A return without a line feed ends a line for the index
only, so all that comes behind it is numbered one higher there.
-/

namespace Prologue

open Bytes (bare bareWidth isPaired)

namespace Bytes

/-! ## Returns and line numbers -/

/-- Number of carriage returns that have no line feed behind them. -/
def loneReturns : Bytes → Nat
  | [] => 0
  | 13 :: 10 :: rest => loneReturns rest
  | byte :: rest => loneReturns rest + if byte = 13 then 1 else 0

theorem isPaired_iff_loneReturns {bytes : Bytes} :
    bytes.isPaired = true ↔ bytes.loneReturns = 0 := by
  fun_induction loneReturns bytes with
  | case1 => exact iff_of_true rfl rfl
  | case2 rest ih =>
    rw [isPaired_cons, isPaired_cons, ← ih]
    simp
  | case3 byte rest hpair ih =>
    rw [isPaired_cons, ih]
    by_cases hbyte : byte = 13
    · subst hbyte
      refine iff_of_false (fun h => ?_) (by simp)
      obtain ⟨more, rfl⟩ := List.head?_eq_some_iff.1 (h.1 rfl)
      exact hpair more rfl rfl
    · simp [hbyte]

theorem count_normalizeLines (bytes : Bytes) :
    (normalizeLines bytes).count lineFeed = bytes.count lineFeed + bytes.loneReturns := by
  fun_induction loneReturns bytes with
  | case1 => rfl
  | case2 rest ih =>
    rw [normalizeLines, List.count_cons_self, ih, List.count_cons_of_ne (by decide)]
    show _ = List.count 10 (10 :: rest) + _
    rw [List.count_cons_self]
    exact Nat.add_right_comm ..
  | case3 byte rest hpair ih =>
    rw [normalizeLines, List.count_cons, ih, List.count_cons]
    · by_cases hbyte : byte = 13
      · subst hbyte
        have hfeed : ((13 : UInt8) == lineFeed) = false := rfl
        simp only [hfeed, beq_self_eq_true, Bool.false_eq_true, if_true, if_false]
        omega
      · rw [if_neg hbyte, if_neg hbyte]
        omega
    · exact hpair

/-- Line ends are turned into line feeds piece by piece, if no piece ends between a return and its line
feed. -/
theorem normalizeLines_append {front back : Bytes}
    (h : ¬ (front.getLast? = some 13 ∧ back.head? = some 10)) :
    normalizeLines (front ++ back) = normalizeLines front ++ normalizeLines back := by
  have hlast : ∀ {byte : UInt8} {rest : Bytes},
      ¬ ((byte :: rest).getLast? = some 13 ∧ back.head? = some 10) →
      ¬ (rest.getLast? = some 13 ∧ back.head? = some 10) := by
    intro byte rest hnot hrest
    refine hnot ⟨?_, hrest.2⟩
    rw [List.getLast?_cons, hrest.1]
    rfl
  fun_induction normalizeLines front with
  | case1 => rfl
  | case2 rest ih => simp only [List.cons_append, normalizeLines, ih (hlast (hlast h))]
  | case3 byte rest hpair ih =>
    rw [List.cons_append, normalizeLines, ih (hlast h), List.cons_append]
    intro more hbyte hmore
    cases rest with
    | nil =>
      rw [List.nil_append] at hmore
      exact h ⟨by rw [hbyte]; rfl, by rw [hmore]; rfl⟩
    | cons next rest => exact hpair rest hbyte (by rw [(List.cons.inj hmore).1])

/-- With line feeds for line ends a place lies on a higher line, by the lone returns in front. -/
theorem line_normalizeLines {front back : Bytes}
    (h : ¬ (front.getLast? = some 13 ∧ back.head? = some 10)) :
    (normalizeLines (front ++ back)).line (normalizeLines front).length =
      (front ++ back).line front.length + front.loneReturns := by
  rw [normalizeLines_append h, line, line, row, row, List.take_left, List.take_left,
    count_normalizeLines]
  omega

/-- Without the returns every place lies on the same line. -/
theorem line_bare (text : Bytes) (place : Nat) :
    (bare text).line (text.bareWidth place) = text.line place := by
  rw [line, line, row, row, bare_take, bare, List.count_filter]
  decide

/-- The bytes between two places, without the returns. -/
theorem slice_bare (text : Bytes) (start stop : Nat) :
    (bare text).slice (text.bareWidth start) (text.bareWidth stop) = bare (text.slice start stop) := by
  rw [slice, slice, bare_take, ← bare_drop]
  rcases Nat.le_total start stop with hle | hle
  · rw [bareWidth, bareWidth, List.take_take, Nat.min_eq_left hle]
  · -- Nothing lies between the places.
    have hmono := text.bareWidth_mono hle
    rw [List.drop_eq_nil_of_le, List.drop_eq_nil_of_le]
    · rw [bareWidth, List.take_take, Nat.min_eq_right hle]
    · exact hmono

theorem includes_bare {part : Bytes} (hpart : part.Unbroken) (hne : part ≠ []) {bytes : Bytes}
    (hpaired : bytes.isPaired = true) : (bare bytes).includes part = bytes.includes part := by
  induction bytes with
  | nil => rfl
  | cons byte rest ih =>
    have hrest := (isPaired_cons.1 hpaired).2
    have hlocal : Grammar.LineLocal fun bytes => part.isPrefixOf bytes := by
      intro line rest _ hrest
      show part.isPrefixOf (line ++ rest) = part.isPrefixOf line
      rw [Bool.eq_iff_iff, List.isPrefixOf_iff_prefix, List.isPrefixOf_iff_prefix,
        Grammar.prefix_append_broken hrest hpart]
    have hfront := hlocal.bare hpaired
    by_cases hbyte : byte = 13
    · subst hbyte
      have hnot : part.isPrefixOf (13 :: rest) = false := by
        rcases part with _ | ⟨first, part⟩
        · exact absurd rfl hne
        · simp [List.isPrefixOf, (hpart first List.mem_cons_self).2]
      rw [bare_return, ih hrest, includes, hnot, Bool.false_or]
    · rw [bare_cons hbyte] at hfront ⊢
      rw [includes, includes, hfront, ih hrest]

end Bytes

/-! ## The same tree at other places -/

namespace Node

variable (f : Nat → Nat) (node : Node)

theorem has_relocate (kind : Kind) : (node.relocate f).has kind = node.has kind := by
  induction node using Node.children_induction with
  | step node ih =>
    rw [has_eq, has_eq kind node, kind_relocate, children_relocate, List.any_map]
    congr 1
    rw [Bool.eq_iff_iff, List.any_eq_true, List.any_eq_true]
    refine exists_congr fun child => and_congr_right fun hchild => ?_
    rw [Function.comp_apply, ih child hchild]

theorem walkUnder_relocate (above : List Node) :
    (node.relocate f).walkUnder (above.map (relocate f)) =
      (node.walkUnder above).map fun entry => (entry.1.relocate f, entry.2.map (relocate f)) := by
  induction node using Node.children_induction generalizing above with
  | step node ih =>
    rw [walkUnder_eq, walkUnder_eq above, children_relocate, List.map_cons, List.flatMap_map,
      List.map_flatMap]
    congr 1
    refine List.flatMap_congr fun child hchild => ?_
    exact ih child hchild (node :: above)

theorem isExported_relocate (above : List Node) :
    (node.relocate f).isExported (above.map (relocate f)) = node.isExported above := by
  have hsame : (fun other : Node => decide (other.kind = .exportStatement)) ∘ relocate f =
      fun other => decide (other.kind = .exportStatement) := by
    funext other
    simp
  rw [isExported, isExported, ← List.map_cons, List.any_map, hsame]

theorem hasAsync_relocate : (node.relocate f).hasAsync = node.hasAsync := by
  rw [hasAsync, hasAsync, children_relocate, List.any_map]
  congr 1
  funext child
  simp

theorem declarators_relocate :
    (node.relocate f).declarators = node.declarators.map (relocate f) := by
  rw [declarators, declarators, children_relocate, List.filter_map]
  congr 2
  funext child
  simp

theorem boundName?_relocate :
    (node.relocate f).boundName? = node.boundName?.map (relocate f) := by
  rw [boundName?, boundName?, child?_relocate]
  cases node.child? .name with
  | none => rfl
  | some name => simp only [Option.map_some, Option.filter, kind_relocate]; split <;> rfl

theorem bindsAsyncArrow_relocate :
    (node.relocate f).bindsAsyncArrow = node.bindsAsyncArrow := by
  rw [bindsAsyncArrow, bindsAsyncArrow, child?_relocate]
  cases node.child? .value with
  | none => rfl
  | some value => simp [isAsyncArrow, hasAsync_relocate]

theorem boundNames_relocate (declarators : List Node) :
    (declarators.map (relocate f)).filterMap boundName? =
      (declarators.filterMap boundName?).map (relocate f) := by
  rw [List.filterMap_map, List.map_filterMap]
  congr 1
  funext declarator
  exact boundName?_relocate f declarator

theorem variableNames_relocate :
    (node.relocate f).variableNames = node.variableNames.map (relocate f) := by
  rw [variableNames, variableNames, kind_relocate, declarators_relocate, boundNames_relocate]
  split <;> rfl

theorem runnerNames_relocate :
    (node.relocate f).runnerNames = node.runnerNames.map (relocate f) := by
  have hbound : (node.declarators.map (relocate f)).filter bindsAsyncArrow =
      (node.declarators.filter bindsAsyncArrow).map (relocate f) := by
    rw [List.filter_map]
    congr 2
    funext declarator
    exact bindsAsyncArrow_relocate f declarator
  rw [runnerNames, runnerNames, kind_relocate, hasAsync_relocate, child?_relocate,
    declarators_relocate, hbound, boundNames_relocate]
  split
  · split
    · cases node.child? .name <;> rfl
    · rfl
  split <;> rfl

/-- A variable that is bound by a name is named without returns. -/
theorem Everywhere.not_mem_boundName {text : Bytes} {declarator name : Node}
    (h : declarator.Everywhere (Titled text)) (hname : declarator.boundName? = some name) :
    (13 : UInt8) ∉ name.bytes text := by
  refine (h.boundName hname).self.name ?_
  have hkind := (Option.filter_eq_some_iff.1 hname).2
  rw [Bool.or_eq_true, decide_eq_true_eq, decide_eq_true_eq] at hkind
  rcases hkind with hkind | hkind <;> rw [hkind] <;> rfl

theorem not_mem_of_mem_variableNames {text : Bytes} {node name : Node}
    (h : node.Everywhere (Titled text)) (hmem : name ∈ node.variableNames) :
    (13 : UInt8) ∉ name.bytes text := by
  unfold variableNames at hmem
  split at hmem
  · obtain ⟨declarator, hdeclarator, hname⟩ := List.mem_filterMap.1 hmem
    exact (h.child (List.mem_of_mem_filter hdeclarator)).not_mem_boundName hname
  · cases hmem

theorem not_mem_of_mem_runnerNames {text : Bytes} {node name : Node}
    (h : node.Everywhere (Titled text)) (hmem : name ∈ node.runnerNames) :
    (13 : UInt8) ∉ name.bytes text := by
  unfold runnerNames at hmem
  split at hmem
  next hfunction =>
    split at hmem
    · have hname := Option.mem_toList.1 hmem
      have hchild := List.mem_of_find?_eq_some hname
      have hrole : name.role = .name := by simpa using List.find?_some hname
      exact (h.child hchild).self.name (h.self.title hfunction name hchild hrole)
    · cases hmem
  split at hmem
  · obtain ⟨declarator, hdeclarator, hname⟩ := List.mem_filterMap.1 hmem
    have hchild := List.mem_of_mem_filter (List.mem_of_mem_filter hdeclarator)
    exact (h.child hchild).not_mem_boundName hname
  · cases hmem

end Node

/-! ## Listings -/

namespace Source

variable (dialect : Dialect) {content : Bytes}

section

variable {names : Node → List Node}
  (hrelocate : ∀ f node, names (Node.relocate f node) = (names node).map (Node.relocate f))

include hrelocate in
theorem declared_bare (hpaired : content.isPaired = true) :
    (Source.read dialect (bare content)).declared names =
      ((Source.read dialect content).declared names).map fun declared =>
        ⟨declared.node.relocate content.bareWidth, declared.name.relocate content.bareWidth⟩ := by
  have htree : (Source.read dialect (bare content)).tree.walk =
      (Source.read dialect content).tree.walk.map fun entry =>
        (entry.1.relocate content.bareWidth, entry.2.map (Node.relocate content.bareWidth)) := by
    rw [read, Grammar.parse_bare dialect hpaired]
    exact Node.walkUnder_relocate content.bareWidth _ []
  have hexported : (fun entry : Node × List Node => entry.1.isExported entry.2) ∘
      (fun entry : Node × List Node => (entry.1.relocate content.bareWidth,
        entry.2.map (Node.relocate content.bareWidth))) =
      fun entry : Node × List Node => entry.1.isExported entry.2 := by
    funext entry
    exact Node.isExported_relocate content.bareWidth entry.1 entry.2
  rw [declared, declared, htree, List.filter_map, hexported, List.flatMap_map, List.map_flatMap]
  congr 1
  funext entry
  rw [hrelocate, List.map_map, List.map_map]
  rfl

/-- A name that holds no return is listed alike without the returns. -/
theorem list_bare {declared : Declared} (hname : (13 : UInt8) ∉ declared.name.bytes content) :
    (Source.read dialect (bare content)).list
        ⟨declared.node.relocate content.bareWidth, declared.name.relocate content.bareWidth⟩ =
      (Source.read dialect content).list declared := by
  have hbytes : (declared.name.relocate content.bareWidth).bytes (bare content) =
      declared.name.bytes content := by
    rw [Node.bytes, Node.start_relocate, Node.stop_relocate, Bytes.slice_bare]
    exact Bytes.bare_of_not_mem hname
  have hline : (bare content).line (declared.node.relocate content.bareWidth).start =
      content.line declared.node.start := by
    rw [Node.start_relocate, Bytes.line_bare]
  simp only [list, textOf, lineOf, read, hbytes, hline]

include hrelocate in
/-- The names that a text declares are listed alike without the returns. -/
theorem listing_bare (hpaired : content.isPaired = true)
    (hnames : ∀ {node name : Node}, node.Everywhere (Node.Titled content) → name ∈ names node →
      (13 : UInt8) ∉ name.bytes content) :
    (Source.read dialect (bare content)).listing names =
      (Source.read dialect content).listing names := by
  rw [listing, listing, declared_bare dialect hrelocate hpaired, List.mapM_map]
  refine mapM_congr fun declared hmem => ?_
  obtain ⟨above, hwalk, -, hname⟩ := mem_declared.1 hmem
  exact list_bare dialect (hnames ((read_titled dialect hpaired).of_mem_walk hwalk) hname)

end

theorem runners_bare (hpaired : content.isPaired = true) :
    (Source.read dialect (bare content)).runners = (Source.read dialect content).runners := by
  rw [runners_eq, runners_eq, listing_bare dialect Node.runnerNames_relocate hpaired
    Node.not_mem_of_mem_runnerNames]

theorem schemas_bare (hpaired : content.isPaired = true) (runnerNames : List (List Char)) :
    (Source.read dialect (bare content)).schemas runnerNames =
      (Source.read dialect content).schemas runnerNames := by
  rw [schemas_eq, schemas_eq, listing_bare dialect Node.variableNames_relocate hpaired
    Node.not_mem_of_mem_variableNames]

theorem hasError_bare (hpaired : content.isPaired = true) :
    (Source.read dialect (bare content)).hasError = (Source.read dialect content).hasError := by
  rw [hasError, read, Grammar.parse_bare dialect hpaired]
  exact Node.has_relocate content.bareWidth _ .error

end Source

theorem mentionsDirective_bare {content : Bytes} (hpaired : content.isPaired = true) :
    mentionsDirective (bare content) = mentionsDirective content := by
  have hdouble : Bytes.Unbroken (utf8 "\"use runner\"") := Bytes.unbroken_of_all rfl
  have hsingle : Bytes.Unbroken (utf8 "'use runner'") := Bytes.unbroken_of_all rfl
  rw [mentionsDirective, mentionsDirective, Bytes.includes_bare hdouble (by decide) hpaired,
    Bytes.includes_bare hsingle (by decide) hpaired]

/-- A text is indexed alike without the returns. -/
theorem indexText_bare (dialect : Dialect) {content : Bytes} (hpaired : content.isPaired = true)
    (file : Bytes) : indexText dialect (bare content) file = indexText dialect content file := by
  simp only [indexText, mentionsDirective_bare hpaired, Source.runners_bare dialect hpaired,
    Source.schemas_bare dialect hpaired, Source.hasError_bare dialect hpaired]

/-! ## Files -/

/-- The name and the line are those of a declaration in the source. -/
def Source.Declares (source : Source) (names : Node → List Node) (name : List Char) (line : Int) :
    Prop :=
  ∃ declared ∈ source.declared names,
    source.textOf declared.name = .ok name ∧ line = source.lineOf declared.node

section

variable {source : Source} {names : Node → List Node}

theorem Source.declares_of_mem_listing {listing : List Listed}
    (h : source.listing names = .ok listing) {listed : Listed} (hmem : listed ∈ listing) :
    source.Declares names listed.name listed.line := by
  have hall := forall₂_listing h
  clear h
  rw [Declares]
  generalize source.declared names = all at hall ⊢
  induction hall with
  | nil => cases hmem
  | @cons declared first all listing hfirst _ ih =>
    rcases List.mem_cons.1 hmem with rfl | hmem
    · exact ⟨declared, List.mem_cons_self, hfirst.1, congrArg Nat.cast hfirst.2⟩
    · obtain ⟨other, hother, hlisted⟩ := ih hmem
      exact ⟨other, List.mem_cons_of_mem _ hother, hlisted⟩

/-- Runners are indexed with the lines of their declarations. -/
theorem Source.declares_runners {runner : Runner} (h : runner ∈ source.runners.toOption.getD []) :
    source.Declares Node.runnerNames runner.name runner.line := by
  rw [runners_eq] at h
  cases hlisting : source.listing Node.runnerNames with
  | error fault =>
    rw [hlisting] at h
    cases h
  | ok listing =>
    rw [hlisting] at h
    obtain ⟨listed, hlisted, rfl⟩ := List.mem_map.1 h
    exact declares_of_mem_listing hlisting hlisted

/-- Schemas are indexed with the lines of their declarations. -/
theorem Source.declares_schemas {runnerNames : List (List Char)} {schema : Schema}
    (h : schema ∈ (source.schemas runnerNames).toOption.getD []) :
    source.Declares Node.variableNames schema.name schema.line := by
  rw [schemas_eq] at h
  cases hlisting : source.listing Node.variableNames with
  | error fault =>
    rw [hlisting] at h
    cases h
  | ok listing =>
    rw [hlisting] at h
    obtain ⟨listed, hlisted, rfl⟩ := List.mem_map.1 h
    exact declares_of_mem_listing hlisting (List.mem_of_mem_filter hlisted)

/-- What the index says of a text stands on the lines of the declarations. -/
theorem declares_of_indexText {dialect : Dialect} {content file : Bytes} {metadata : FileMetadata}
    (h : (indexText dialect content file).1 = some metadata) :
    (∀ runner ∈ metadata.runners,
      (Source.read dialect content).Declares Node.runnerNames runner.name runner.line) ∧
    ∀ schema ∈ metadata.schemas,
      (Source.read dialect content).Declares Node.variableNames schema.name schema.line := by
  rw [indexText] at h
  generalize Source.read dialect content = source at h ⊢
  split at h
  · obtain rfl := Option.some.inj h
    exact ⟨fun runner hmem => Source.declares_runners hmem,
      fun schema hmem => Source.declares_schemas hmem⟩
  · cases h

/-- Diagnostics are placed at the statements that they are about. -/
theorem Source.span_of_mem_diagnostics {analysis : Analysis} (h : source.analyze = .ok analysis)
    {diagnostic : Diagnostic} (hmem : diagnostic ∈ analysis.diagnostics) :
    ∃ sighting ∈ source.sightings, diagnostic.span =
      Span.of source.bytes sighting.statement.start sighting.statement.stop := by
  rw [source.analyze_eq (source.legible_of_analyze h)] at h
  obtain rfl := Except.ok.inj h
  rw [Analysis.expected_diagnostics] at hmem
  obtain ⟨sighting, hsighting, hdiagnostic⟩ := List.mem_filterMap.1 hmem
  obtain ⟨flaw, -, rfl⟩ := Option.map_eq_some_iff.1 hdiagnostic
  exact ⟨sighting, hsighting, rfl⟩

end

/-- A written path with the ending of a dialect asks for the dialect. -/
theorem dialectFor_written {path : Path} (hpath : path.Plain) {dialect : Dialect}
    (h : Dialect.ofPath path = .ok dialect) : dialectFor path.written none = .ok dialect := by
  have hsuffix : path.suffix.isEmpty = false := by
    cases hsuffix : path.suffix with
    | cons byte rest => rfl
    | nil =>
      rw [Dialect.ofPath, Dialect.suffixOf, hsuffix] at h
      cases h
  simp only [dialectFor, Path.ofBytes_written hpath, hsuffix, h]
  rfl

section

variable {disk : Disk} {dialect : Dialect} {content : Bytes}

theorem readSource_eq {path : Path} (hdialect : Dialect.ofPath path = .ok dialect)
    (hread : disk.read path = .ok content) (hvalid : Utf8.Valid content) :
    readSource disk path = .ok (dialect, normalizeLines content) := by
  obtain ⟨text, hdecode⟩ := hvalid.decode
  simp only [readSource, hdialect, hread, hdecode]

/-- What is indexed of a file is what is indexed of its bytes, if no return stands alone. -/
theorem indexFile_eq {path : Path} (hdialect : Dialect.ofPath path = .ok dialect)
    (hread : disk.read path = .ok content) (hvalid : Utf8.Valid content)
    (hpaired : content.isPaired = true) :
    indexFile disk path = indexText dialect content path.written := by
  rw [indexFile, readSource_eq hdialect hread hvalid]
  simp only [Bytes.normalizeLines_eq_bare hpaired, indexText_bare dialect hpaired]

open Command (fileAt)

/-- A file without faults is transformed, and the diagnostics are those of its bytes. -/
theorem transformFile_eq_ok {given : List Char} (hnull : Char.ofNat 0 ∉ given)
    (hdialect : Dialect.ofPath (fileAt given) = .ok dialect)
    (hread : disk.read (fileAt given) = .ok content) (hvalid : Utf8.Valid content)
    (hfaultless : (Source.read dialect content).hasError = false) (directory : Option Bytes) :
    ∃ result analysis, transformFile disk given directory none = .ok result ∧
      (Source.read dialect content).analyze = .ok analysis ∧
      result.diagnostics = analysis.diagnostics := by
  obtain ⟨text, rfl⟩ := hvalid
  obtain ⟨analysis, hanalyze, hstrip⟩ := Source.strip_encode dialect text
  have hcode := (Utf8.decode_eq_ok_iff _ _).2 hstrip.symm
  have hplain := Path.plain_ofBytes (Utf8.encode given)
  have htransform : transform (Utf8.encode text) (fileAt given).written directory none =
      .ok ⟨relativeFilename (fileAt given).written directory, _, analysis.diagnostics,
        analysis.hasModuleDirective, analysis.directiveFunctions⟩ :=
    transform_eq_ok_iff.2 ⟨dialect, analysis, dialectFor_written hplain hdialect, hfaultless,
      hanalyze, hcode, rfl⟩
  rcases Command.transformFile_cases disk given directory with
    ⟨hin, -⟩ | ⟨-, ⟨cause, herror, -⟩ | ⟨other, hother, hresult⟩⟩
  · exact absurd hin hnull
  · rw [hread] at herror
    cases herror
  · rw [hread] at hother
    obtain rfl := Except.ok.inj hother
    rw [htransform] at hresult
    exact ⟨_, analysis, hresult, hanalyze, rfl⟩

/-- The lines of an index exceed those of the file by the lone returns in front of them. In a file
without lone returns they are the lines that its transformation goes by. -/
theorem index_lines_are_file_lines {given : List Char} (hnull : Char.ofNat 0 ∉ given)
    (hdialect : Dialect.ofPath (fileAt given) = .ok dialect)
    (hread : disk.read (fileAt given) = .ok content) (hvalid : Utf8.Valid content)
    (hfaultless : (Source.read dialect content).hasError = false) (directory : Option Bytes) :
    readSource disk (fileAt given) = .ok (dialect, normalizeLines content) ∧
    (∀ front back, content = front ++ back →
      ¬ (front.getLast? = some carriageReturn ∧ back.head? = some lineFeed) →
      (normalizeLines content).line (normalizeLines front).length =
        content.line front.length + front.loneReturns) ∧
    (content.loneReturns = 0 →
      indexFile disk (fileAt given) = indexText dialect content (fileAt given).written ∧
      (∀ metadata, (indexFile disk (fileAt given)).1 = some metadata →
        (∀ runner ∈ metadata.runners,
          (Source.read dialect content).Declares Node.runnerNames runner.name runner.line) ∧
        ∀ schema ∈ metadata.schemas,
          (Source.read dialect content).Declares Node.variableNames schema.name schema.line) ∧
      ∃ result, transformFile disk given directory none = .ok result ∧
        ∀ diagnostic ∈ result.diagnostics, ∃ sighting ∈ (Source.read dialect content).sightings,
          diagnostic.span =
            Span.of content sighting.statement.start sighting.statement.stop) := by
  refine ⟨readSource_eq hdialect hread hvalid, fun front back hsplit hbetween => ?_,
    fun hreturns => ?_⟩
  · rw [hsplit]
    exact Bytes.line_normalizeLines hbetween
  have hindex := indexFile_eq hdialect hread hvalid (Bytes.isPaired_iff_loneReturns.2 hreturns)
  refine ⟨hindex, fun metadata hmetadata => ?_, ?_⟩
  · rw [hindex] at hmetadata
    exact declares_of_indexText hmetadata
  · obtain ⟨result, analysis, hresult, hanalyze, hdiagnostics⟩ :=
      transformFile_eq_ok hnull hdialect hread hvalid hfaultless directory
    refine ⟨result, hresult, fun diagnostic hmem => ?_⟩
    rw [hdiagnostics] at hmem
    exact Source.span_of_mem_diagnostics hanalyze hmem

/-- A project with one source. -/
def soleSource (content : Bytes) : Disk where
  items := [([utf8 "a.ts"], .file content)]
  here := []

/-- Lines that end with a return and a line feed. -/
def pairedLines : Bytes :=
  utf8 "'use strict';\r\n'use runner';\r\nexport async function f() \x7b\x7d\r\n"

/-- The runner is indexed on the third line, on which it stands. -/
theorem pairedLines_numbered_alike :
    indexFile (soleSource pairedLines) (fileAt "a.ts".toList) =
      (some ⟨utf8 "a.ts", [⟨"f".toList, 3⟩], []⟩, []) ∧
    (Source.read .typescript pairedLines).Declares Node.runnerNames "f".toList 3 ∧
    ∃ result, transformFile (soleSource pairedLines) "a.ts".toList none none = .ok result ∧
      ∀ diagnostic ∈ result.diagnostics,
        ∃ sighting ∈ (Source.read .typescript pairedLines).sightings,
          diagnostic.span.startLine = pairedLines.line sighting.statement.start := by
  have hdialect : Dialect.ofPath (fileAt "a.ts".toList) = .ok .typescript := by decide +kernel
  have hread : (soleSource pairedLines).read (fileAt "a.ts".toList) = .ok pairedLines := by
    decide +kernel
  have hvalid : Utf8.Valid pairedLines :=
    ⟨"'use strict';\r\n'use runner';\r\nexport async function f() \x7b\x7d\r\n".toList,
      by decide +kernel⟩
  have hfaultless : (Source.read .typescript pairedLines).hasError = false := by decide +kernel
  obtain ⟨-, -, hagree⟩ := index_lines_are_file_lines (by decide) hdialect hread hvalid hfaultless none
  obtain ⟨hindex, hlines, result, hresult, hspans⟩ := hagree (by decide +kernel)
  have hfile : indexText .typescript pairedLines (fileAt "a.ts".toList).written =
      (some ⟨utf8 "a.ts", [⟨"f".toList, 3⟩], []⟩, []) := by decide +kernel
  rw [hfile] at hindex
  refine ⟨hindex, (hlines _ (congrArg Prod.fst hindex)).1 _ List.mem_cons_self, result, hresult,
    fun diagnostic hmem => ?_⟩
  obtain ⟨sighting, hsighting, hspan⟩ := hspans diagnostic hmem
  refine ⟨sighting, hsighting, ?_⟩
  rw [hspan, Span.of]

/-- A line in which a return stands alone. -/
def returnedLine : Bytes :=
  utf8 "'use strict';\r'use runner';export async function f() \x7b\x7d\n"

/-- Behind a return that stands alone the index counts a line more than the analysis does. -/
theorem returnedLine_numbered_twice :
    (Source.read .typescript returnedLine).hasError = false ∧
    indexFile (soleSource returnedLine) (fileAt "a.ts".toList) =
      (some ⟨utf8 "a.ts", [⟨"f".toList, 2⟩], []⟩, []) ∧
    indexText .typescript returnedLine (utf8 "a.ts") =
      (some ⟨utf8 "a.ts", [⟨"f".toList, 1⟩], []⟩, []) ∧
    (Source.read .typescript returnedLine).analyze.toOption.map
      (·.diagnostics.map (·.span.startLine)) = some [1] := by
  refine ⟨?_, ?_, ?_, ?_⟩
  all_goals decide +kernel

end

end Prologue
