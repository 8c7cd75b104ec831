import Prologue.Proofs.Decodability
import Prologue.Proofs.Preservation

/-!
# Transforming twice

A transformation leaves a text alone exactly if the text has no fault and none of its scopes has a
directive. The text that a transformation leaves need not be such a one: the statements around a
directive can become one, and this one can have faults or functions that were none before. It is if
every statement in front of a directive survives. In any case a second transformation fails for
faults only, and leaves less if it does not leave the text alone.
-/

namespace Prologue

/-! ## Sources without directives -/

namespace Source

/-- There are no sightings if no scope has a directive. -/
theorem sightings_eq_nil_iff (source : Source) :
    source.sightings = [] ↔
      ∀ outline ∈ source.outlines, ∀ entry ∈ outline, entry.isDirective = false := by
  rw [sightings, List.flatMap_eq_nil_iff, outlines, Scope.all_eq, List.forall_mem_map]
  refine forall₂_congr fun scope _ => ?_
  rw [Node.outline, List.forall_mem_map, ← List.map_eq_nil_iff (f := Sighting.statement),
    List.eq_nil_iff_forall_not_mem]
  refine forall_congr' fun statement => ?_
  rw [Scope.mem_map_sightings, not_and, Bool.not_eq_true]

/-- An analysis that has nothing to say of a source has seen nothing in it. -/
theorem sightings_eq_nil_of_silent {source : Source} (hlegible : source.Legible)
    (hdiagnostics : (Analysis.expected source source.tree.scopes).diagnostics = [])
    (hmodule : (Analysis.expected source source.tree.scopes).hasModuleDirective = false)
    (hfunctions : (Analysis.expected source source.tree.scopes).directiveFunctions = []) :
    source.sightings = [] := by
  rw [List.eq_nil_iff_forall_not_mem]
  intro sighting hmem
  rw [Analysis.expected_diagnostics, List.filterMap_eq_nil_iff] at hdiagnostics
  -- Whatever is not flawed is the directive, in front of its scope.
  have hflawless : sighting.flaw? = none := Option.map_eq_none_iff.1 (hdiagnostics sighting hmem)
  obtain ⟨scope, hscope, hin⟩ := List.mem_flatMap.1 hmem
  obtain ⟨rfl, hat, htext, hnear⟩ := Scope.mem_sightings.1 hin
  have hexact : sighting.distance = 0 := by
    by_contra hother
    rw [Sighting.flaw?, if_pos (by omega)] at hflawless
    cases hflawless
  have hfirst : sighting.index = 0 := by
    by_contra hother
    rw [Sighting.flaw?, if_neg (by omega), if_pos hother] at hflawless
    cases hflawless
  cases hown : sighting.scope with
  | module container =>
    have hmarked := (Analysis.expected_hasModuleDirective source source.tree.scopes).2
      ⟨sighting, hmem, by rw [hown]; rfl, hexact⟩
    rw [hmodule] at hmarked
    cases hmarked
  | function container owner parent =>
    have hmarked : sighting.scope.isMarked source.bytes = true := by
      rw [hown] at hat ⊢
      rw [hfirst, ← List.head?_eq_getElem?] at hat
      rw [Scope.isMarked, decide_eq_true_eq, show container.statements.head? = _ from hat,
        Option.bind_some, htext, (editDistance_eq_zero_iff _ _).1 hexact]
    have hnames := Analysis.expected_directiveFunctions hlegible
    rw [hfunctions, List.map_nil, eq_comm, List.map_eq_nil_iff] at hnames
    exact List.filter_eq_nil_iff.1 hnames _ hscope hmarked

/-- Where nothing was seen, an analysis has nothing to say and nothing is removed. -/
theorem expected_of_sightings_eq_nil {source : Source} (hlegible : source.Legible)
    (h : source.sightings = []) :
    (Analysis.expected source source.tree.scopes).ranges source.bytes = [] ∧
      (Analysis.expected source source.tree.scopes).diagnostics = [] ∧
      (Analysis.expected source source.tree.scopes).hasModuleDirective = false ∧
      (Analysis.expected source source.tree.scopes).directiveFunctions = [] := by
  have hsightings : source.tree.scopes.flatMap (·.sightings source.bytes) = [] := h
  refine ⟨by rw [expected_ranges, h, List.map_nil],
    by rw [Analysis.expected_diagnostics, hsightings, List.filterMap_nil], ?_, ?_⟩
  · rw [← Bool.not_eq_true, Analysis.expected_hasModuleDirective, hsightings]
    rintro ⟨_, hmem, -⟩
    cases hmem
  · have hunmarked : ∀ scope ∈ source.tree.scopes, ¬ scope.isMarked source.bytes = true := by
      intro scope hscope hmarked
      cases scope with
      | module container => cases hmarked
      | function container owner parent =>
        rw [← Scope.report_recognized_function, Scope.report_recognized,
          List.flatMap_eq_nil_iff.1 hsightings _ hscope] at hmarked
        cases hmarked
    have hnames := Analysis.expected_directiveFunctions hlegible
    rw [List.filter_eq_nil_iff.2 hunmarked, List.map_nil, List.map_eq_nil_iff] at hnames
    exact hnames

/-- Stripping a source with directives makes it shorter. -/
theorem length_strip_lt {source : Source} (hlaid : source.WellLaid) (h : source.sightings ≠ []) :
    (source.strip (.expected source source.tree.scopes)).bytes.length < source.bytes.length := by
  obtain ⟨sighting, hmem⟩ := List.exists_mem_of_ne_nil _ h
  obtain ⟨hcompact, hlength⟩ := hlaid.compact_of_mem hmem
  have hbounds := hcompact.bounds
  have hdeletes : (Analysis.expected source source.tree.scopes).Deletes source.bytes
      sighting.statement.start := by
    refine ⟨sighting.flagged source.bytes, ?_, .inl ⟨Nat.le_refl _, hbounds⟩⟩
    rw [Analysis.expected_flagged]
    exact List.mem_map_of_mem hmem
  rw [strip_bytes_eq hlaid.clear, Bytes.keep, List.length_map]
  refine Nat.lt_of_lt_of_eq (List.length_filter_lt_length_iff_exists.2 ?_) List.length_zipIdx
  refine ⟨(source.bytes[sighting.statement.start], sighting.statement.start), ?_, ?_⟩
  · rw [List.mem_zipIdx_iff_getElem?]
    exact List.getElem?_eq_getElem _
  · rw [Bool.not_eq_true]
    exact Analysis.keeps_eq_false_iff.2 hdeletes

end Source

/-! ## One transformation -/

/-- The result for a text that a transformation leaves alone. -/
def TransformResult.settled (file : Bytes) (code : List Char) : TransformResult :=
  ⟨file, code, [], false, []⟩

section

variable {bytes file : Bytes} {directory : Option Bytes} {language : Option (List Char)}
  {result : TransformResult} {dialect : Dialect}

section

variable {text : List Char} {source : Source} (hdialect : dialectFor file language = .ok dialect)
  (hsource : Source.read dialect (Utf8.encode text) = source)

include hdialect hsource

/-- A text is transformed unless it has faults. -/
theorem transform_encode (directory : Option Bytes) :
    ∃ code, (source.strip (.expected source source.tree.scopes)).bytes = Utf8.encode code ∧
      transform (Utf8.encode text) file directory language =
        if source.hasError then .error (.faulty (Utf8.lossy file))
        else .ok
          ⟨relativeFilename file directory, code,
            (Analysis.expected source source.tree.scopes).diagnostics,
            (Analysis.expected source source.tree.scopes).hasModuleDirective,
            (Analysis.expected source source.tree.scopes).directiveFunctions⟩ := by
  obtain ⟨analysis, hanalysis, hstrip⟩ := Source.strip_encode dialect text
  have hexpected := (Source.read dialect (Utf8.encode text)).analyze_eq
    (Source.read_legible dialect (Utf8.valid_encode text))
  obtain rfl := Except.ok.inj (hexpected.symm.trans hanalysis)
  rw [hsource] at hexpected hstrip
  refine ⟨_, hstrip, ?_⟩
  simp only [transform, hdialect, hsource, hexpected, hstrip, (Utf8.decode_eq_ok_iff _ _).2 rfl]

/-- A text is left alone exactly if it has no fault and none of its scopes has a directive. -/
theorem transform_eq_settled_iff (directory : Option Bytes) :
    transform (Utf8.encode text) file directory language =
        .ok (.settled (relativeFilename file directory) text) ↔
      source.hasError = false ∧
        ∀ outline ∈ source.outlines, ∀ entry ∈ outline, entry.isDirective = false := by
  have hlegible : source.Legible := hsource ▸ Source.read_legible dialect (Utf8.valid_encode text)
  have hbytes : source.bytes = Utf8.encode text := hsource ▸ rfl
  obtain ⟨code, hcode, htransform⟩ := transform_encode hdialect hsource directory
  rw [htransform, ← source.sightings_eq_nil_iff]
  cases hfault : source.hasError with
  | true => simp
  | false =>
    simp only [Bool.false_eq_true, if_false, true_and, TransformResult.settled, Except.ok.injEq,
      TransformResult.mk.injEq]
    constructor
    · rintro ⟨-, hdiagnostics, hmodule, hfunctions⟩
      exact Source.sightings_eq_nil_of_silent hlegible hdiagnostics hmodule hfunctions
    · intro hnone
      obtain ⟨hranges, hsilent⟩ := Source.expected_of_sightings_eq_nil hlegible hnone
      refine ⟨?_, hsilent⟩
      rw [Source.strip, hranges, Source.remove, List.isEmpty_nil, if_pos rfl, hbytes] at hcode
      have hdecode := (Utf8.decode_eq_ok_iff _ _).2 hcode.symm
      exact Except.ok.inj (hdecode.symm.trans ((Utf8.decode_eq_ok_iff _ _).2 rfl))

/-- A transformation of a text fails for faults only, leaves the text alone, or leaves less of it. -/
theorem transform_encode_cases (directory : Option Bytes) :
    match transform (Utf8.encode text) file directory language with
    | .error error => error = .faulty (Utf8.lossy file)
    | .ok again => again = .settled (relativeFilename file directory) text ∨
        (Utf8.encode again.code).length < (Utf8.encode text).length := by
  have hlaid : source.WellLaid := hsource ▸ Source.read_wellLaid dialect (Utf8.encode text)
  have hbytes : source.bytes = Utf8.encode text := hsource ▸ rfl
  have hsettled := transform_eq_settled_iff hdialect hsource directory
  obtain ⟨code, hcode, htransform⟩ := transform_encode hdialect hsource directory
  rw [htransform, ← source.sightings_eq_nil_iff] at hsettled
  rw [htransform]
  cases hfault : source.hasError with
  | true => rfl
  | false =>
    rw [hfault, if_neg (by decide)] at hsettled
    by_cases hnone : source.sightings = []
    · exact .inl (Except.ok.inj (hsettled.2 ⟨rfl, hnone⟩))
    · refine .inr ?_
      show (Utf8.encode code).length < (Utf8.encode text).length
      rw [← hcode, ← hbytes]
      exact Source.length_strip_lt hlaid hnone

end

end

/-! ## A second transformation -/

namespace Source

/-- If every statement in front of a directive survives, the stripped text has no fault and no
directive. -/
theorem strip_settled {dialect : Dialect} {bytes : Bytes} {analysis : Analysis}
    (hfaultless : (Source.read dialect bytes).hasError = false)
    (hanalysis : (Source.read dialect bytes).analyze = .ok analysis)
    (hsurvives : ∀ statement ∈ (Source.read dialect bytes).tree.statements,
      statement.kind ≠ .htmlComment → (statement.entry bytes).isDirective = false →
      (∃ flagged ∈ analysis.flagged, statement.start < flagged.stop) →
      (Source.read dialect bytes).survives analysis statement = true) :
    ((Source.read dialect bytes).strip analysis).hasError = false ∧
      ∀ outline ∈ ((Source.read dialect bytes).strip analysis).outlines, ∀ entry ∈ outline,
        entry.isDirective = false := by
  obtain ⟨pieces, last, hfalls⟩ := Grammar.exists_falls hfaultless
  have hparted : (Source.read dialect bytes).Parted pieces last :=
    ⟨Source.read_wellLaid dialect bytes, rfl, hfalls⟩
  have hexpected := (Source.read dialect bytes).analyze_eq (Source.legible_of_analyze _ hanalysis)
  obtain rfl := Except.ok.inj (hexpected.symm.trans hanalysis)
  have hpreserved := hparted.preserved_of_survives hsurvives
  refine ⟨hpreserved.faultless, fun outline houtline entry hentry => ?_⟩
  rw [hpreserved.outlines, remaining_expected] at houtline
  obtain ⟨whole, -, rfl⟩ := List.mem_map.1 houtline
  simpa using List.of_mem_filter hentry

end Source

/-- A second transformation leaves the text of a first one alone exactly if that has no fault and no
directive left, for which it is enough that the statements in front of directives survive. -/
theorem transform_settles_iff {bytes file : Bytes} {directory : Option Bytes}
    {language : Option (List Char)} {first : TransformResult}
    (h : transform bytes file directory language = .ok first) :
    ∃ dialect analysis, dialectFor file language = .ok dialect ∧
      (Source.read dialect bytes).analyze = .ok analysis ∧
      (transform (Utf8.encode first.code) file directory language =
          .ok (.settled first.file first.code) ↔
        (Source.read dialect (Utf8.encode first.code)).hasError = false ∧
          ∀ outline ∈ (Source.read dialect (Utf8.encode first.code)).outlines,
            ∀ entry ∈ outline, entry.isDirective = false) ∧
      ((∀ statement ∈ (Source.read dialect bytes).tree.statements,
          statement.kind ≠ .htmlComment → (statement.entry bytes).isDirective = false →
          (∃ flagged ∈ analysis.flagged, statement.start < flagged.stop) →
          (Source.read dialect bytes).survives analysis statement = true) →
        transform (Utf8.encode first.code) file directory language =
          .ok (.settled first.file first.code)) ∧
      match transform (Utf8.encode first.code) file directory language with
      | .error error => error = .faulty (Utf8.lossy file)
      | .ok second => second = .settled first.file first.code ∨
          (Utf8.encode second.code).length < (Utf8.encode first.code).length := by
  obtain ⟨dialect, analysis, hdialect, hfaultless, hanalysis, hdecode, hfirst⟩ :=
    transform_eq_ok_iff.1 h
  have hfile : first.file = relativeFilename file directory := congrArg TransformResult.file hfirst
  have hcode := (Utf8.decode_eq_ok_iff _ _).1 hdecode
  have hstripped : Source.read dialect (Utf8.encode first.code) =
      (Source.read dialect bytes).strip analysis := by
    rw [hcode]
    exact (@Source.strip_eq_read (Source.read dialect bytes) analysis rfl).symm
  have hsettled := transform_eq_settled_iff hdialect hstripped directory
  have hcases := transform_encode_cases hdialect hstripped directory
  rw [← hfile] at hsettled hcases
  refine ⟨dialect, analysis, hdialect, hanalysis, ?_, fun hsurvives => ?_, hcases⟩
  · rw [hstripped]
    exact hsettled
  · exact hsettled.2 (Source.strip_settled hfaultless hanalysis hsurvives)

/-- The code and the functions of a result, computed one transformation at a time. -/
theorem exists_transform_eq_ok {bytes file : Bytes} {directory : Option Bytes}
    {language : Option (List Char)} {code : List Char} {functions : List (List Char)}
    (h : (transform bytes file directory language).toOption.map
      (fun result => (result.code, result.directiveFunctions)) = some (code, functions)) :
    ∃ result, transform bytes file directory language = .ok result ∧ result.code = code ∧
      result.directiveFunctions = functions := by
  obtain ⟨result, hresult, hfound⟩ := Option.map_eq_some_iff.1 h
  exact ⟨result, eq_ok_of_toOption hresult, Prod.mk.inj hfound⟩

/-- A statement, and an asynchronous function that starts with the directive. -/
def oneRunner : Bytes := utf8 "a;\nasync function f() \x7b 'use runner'; g() \x7d"

/-- The directive goes, and a second transformation finds nothing to do. -/
theorem oneRunner_settled :
    ∃ first, transform oneRunner (utf8 "a.ts") none none = .ok first ∧
      first.directiveFunctions = [['f']] ∧
      transform (Utf8.encode first.code) (utf8 "a.ts") none none =
        .ok (.settled first.file first.code) := by
  obtain ⟨first, hfirst, -, hfunctions⟩ := @exists_transform_eq_ok oneRunner (utf8 "a.ts") none none
    "a;\nasync function f() \x7b  g() \x7d".toList [['f']] (by decide +kernel)
  obtain ⟨dialect, analysis, hdialect, hanalysis, -, hsettles, -⟩ := transform_settles_iff hfirst
  obtain rfl := Except.ok.inj
    (hdialect.symm.trans (show dialectFor (utf8 "a.ts") none = .ok .typescript by decide +kernel))
  have hclear := (Source.read_wellLaid .typescript oneRunner).clear
  have hexpected := (Source.read .typescript oneRunner).analyze_eq
    (Source.legible_of_analyze _ hanalysis)
  obtain rfl := Except.ok.inj (hexpected.symm.trans hanalysis)
  have hsurvives : ((Source.read .typescript oneRunner).analyze.toOption.map fun analysis =>
      decide (∀ statement ∈ (Source.read .typescript oneRunner).tree.statements,
        (statement.entry oneRunner).isDirective = false →
          (Source.read .typescript oneRunner).survivesIn analysis
            (oneRunner.keep (analysis.keeps oneRunner)) statement = true)) = some true := by
    decide +kernel
  rw [hanalysis] at hsurvives
  simp only [Except.toOption, Option.map_some, Option.some.injEq, decide_eq_true_eq] at hsurvives
  refine ⟨first, hfirst, hfunctions, hsettles fun statement hmem _ hother _ => ?_⟩
  rw [Source.survives, Source.strip_bytes_eq hclear]
  exact hsurvives statement hmem hother

/-- A signature without a body and a block, with a directive between them and one in the block. -/
def bodiless : Bytes :=
  utf8 "function f()\n\"use runner\";\n\x7b\n  \"use runner\";\n\x7d\n"

/-- A directive between two statements that no semicolon parts, the second of them an arrow. -/
def unparted : Bytes := utf8 "foo\n\"use runner\";\n(a) => b\n"

/-- Without its directive the first text has a function with a directive, which a second transformation
takes out, and the second text has a fault. -/
theorem bodiless_unsettled :
    (∃ first second, transform bodiless (utf8 "a.ts") none none = .ok first ∧
      transform (Utf8.encode first.code) (utf8 "a.ts") none none = .ok second ∧
      first.directiveFunctions = [] ∧ second.directiveFunctions = [['f']] ∧
      second.code ≠ first.code) ∧
    ∃ first, transform unparted (utf8 "a.ts") none none = .ok first ∧
      transform (Utf8.encode first.code) (utf8 "a.ts") none none =
        .error (.faulty "a.ts".toList) := by
  constructor
  · obtain ⟨first, hfirst, hcode, hnone⟩ := @exists_transform_eq_ok bodiless (utf8 "a.ts") none none
      "function f()\n\x7b\n  \"use runner\";\n\x7d\n".toList [] (by decide +kernel)
    obtain ⟨second, hsecond, hless, hone⟩ := @exists_transform_eq_ok
      (Utf8.encode "function f()\n\x7b\n  \"use runner\";\n\x7d\n".toList) (utf8 "a.ts") none none
      "function f()\n\x7b\n\x7d\n".toList [['f']] (by decide +kernel)
    refine ⟨first, second, hfirst, by rw [hcode]; exact hsecond, hnone, hone, ?_⟩
    rw [hless, hcode]
    decide
  · obtain ⟨first, hfirst, hcode, -⟩ := @exists_transform_eq_ok unparted (utf8 "a.ts") none none
      "foo\n(a) => b\n".toList [] (by decide +kernel)
    have hfault : (Source.read .typescript (Utf8.encode "foo\n(a) => b\n".toList)).hasError = true := by
      decide +kernel
    have hdialect : dialectFor (utf8 "a.ts") none = .ok .typescript := by decide +kernel
    have hfile : Utf8.lossy (utf8 "a.ts") = "a.ts".toList := by decide +kernel
    refine ⟨first, hfirst, ?_⟩
    rw [hcode]
    simp only [transform, hdialect, hfault, if_true, hfile]

end Prologue
