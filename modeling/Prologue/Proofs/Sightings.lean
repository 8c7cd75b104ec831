import Prologue.Directive.Analysis
import Prologue.Proofs.EditDistance
import Prologue.Proofs.TreeWalk

/-!
# What an analysis has to report

A sighting is a bare string statement at most one edit away from the directive, together with its
scope and its number among the statements of the scope. All that an analysis reports is read off the
list of sightings here, in terms of edit distance and of the owner of the scope, and the analysis is
shown to report exactly that. It fails exactly when a text it has to look at is not UTF-8.
-/

namespace Prologue

/-- The text of a bare string statement, if it is one and is UTF-8. -/
def Node.stringText? (statement : Node) (source : Bytes) : Option (List Char) :=
  match statement.literal? source with
  | some bytes => (Utf8.decode bytes).toOption
  | none => none

/-- The text of the statement is UTF-8, should it be a bare string. -/
def Node.Legible (source : Bytes) (statement : Node) : Prop :=
  ∀ bytes, statement.literal? source = some bytes → (Utf8.decode bytes).isOk

/-- A bare string statement that is at most one edit away from the directive. -/
structure Sighting where
  scope : Scope
  index : Nat
  statement : Node
  text : List Char

namespace Sighting

def distance (sighting : Sighting) : Nat := editDistance sighting.text useRunner

/-- The sighting that a statement of a scope is, if it is one. -/
def of? (source : Bytes) (scope : Scope) (index : Nat) (statement : Node) : Option Sighting :=
  match statement.stringText? source with
  | some text =>
    if editDistance text useRunner ≤ 1 then some ⟨scope, index, statement, text⟩ else none
  | none => none

def flagged (source : Bytes) (sighting : Sighting) : Flagged :=
  ⟨sighting.text, sighting.index,
    Span.of source sighting.statement.start sighting.statement.stop⟩

/-- The scope belongs to the module, to an arrow, or to an asynchronous function or method. -/
def permitted (sighting : Sighting) : Bool :=
  match sighting.scope with
  | .module _ => true
  | .function _ owner _ => owner.kind = .arrowFunction || owner.hasAsync

/-- What is wrong with a sighting. -/
def flaw? (sighting : Sighting) : Option Flaw :=
  if sighting.distance = 1 then some (.misspelled sighting.text)
  else if sighting.index ≠ 0 then some (.misplaced sighting.scope.location)
  else if sighting.permitted then none
  else some .nonAsyncFunction

def diagnostic? (source : Bytes) (sighting : Sighting) : Option Diagnostic :=
  sighting.flaw?.map (⟨·, (sighting.flagged source).span⟩)

end Sighting

namespace Scope

/-- The sightings among the statements of a scope, in order. -/
def sightings (source : Bytes) (scope : Scope) : List Sighting :=
  scope.container.statements.zipIdx.filterMap fun (statement, index) =>
    Sighting.of? source scope index statement

/-- A function that starts with the directive itself. -/
def isMarked (source : Bytes) : Scope → Bool
  | module _ => false
  | function container _ _ =>
    (container.statements.head?.bind (·.stringText? source)) = some useRunner

/-- The name under which a function is listed, if it is UTF-8. -/
def listedName? (source : Source) (scope : Scope) : Option (List Char) :=
  match scope.nameNode? with
  | some node => (source.textOf node).toOption
  | none => some "<anonymous>".toList

/-- All that has to be UTF-8 for a scope to be judged: its string statements, and its name if it is
listed. -/
structure Legible (source : Source) (scope : Scope) : Prop where
  strings : ∀ statement ∈ scope.container.statements, statement.Legible source.bytes
  name : scope.isMarked source.bytes → (scope.listedName? source).isSome

end Scope

/-- All sightings of a source, scope by scope. -/
def Source.sightings (source : Source) : List Sighting :=
  source.tree.scopes.flatMap (·.sightings source.bytes)

/-! ## One statement -/

namespace Sighting

theorem of?_eq_some_iff {source : Bytes} {scope : Scope} {index : Nat} {statement : Node}
    {sighting : Sighting} :
    of? source scope index statement = some sighting ↔
      sighting.scope = scope ∧ sighting.index = index ∧ sighting.statement = statement ∧
        statement.stringText? source = some sighting.text ∧ sighting.distance ≤ 1 := by
  obtain ⟨scope', index', statement', text'⟩ := sighting
  unfold of? distance
  cases htext : statement.stringText? source with
  | none => simp
  | some text =>
    by_cases hnear : editDistance text useRunner ≤ 1
    · simp only [hnear, ↓reduceIte, Option.some.injEq, Sighting.mk.injEq]
      constructor
      · rintro ⟨rfl, rfl, rfl, rfl⟩
        exact ⟨rfl, rfl, rfl, rfl, hnear⟩
      · rintro ⟨rfl, rfl, rfl, rfl, _⟩
        exact ⟨rfl, rfl, rfl, rfl⟩
    · simp only [hnear, ↓reduceIte, Option.some.injEq, reduceCtorEq, false_iff]
      rintro ⟨_, _, _, rfl, h⟩
      exact hnear h

/-- Whether a sighting makes its scope a marked one: in the module anywhere, in a function in
front only. -/
def isRecognized (sighting : Sighting) : Bool :=
  sighting.distance = 0 && (sighting.scope.location = .module || sighting.index = 0)

def finding (source : Bytes) (sighting : Sighting) : Analysis.Finding :=
  ⟨sighting.flagged source, sighting.isRecognized, sighting.flaw?⟩

/-- A statement is judged by its distance from the directive, its number and the scope's owner. -/
theorem judge_eq (sighting : Sighting) (howner : sighting.scope.HasFunctionOwner) :
    Analysis.judge sighting.scope sighting.index sighting.text =
      if sighting.distance ≤ 1 then some ⟨sighting.isRecognized, sighting.flaw?⟩ else none := by
  obtain ⟨scope, index, statement, text⟩ := sighting
  have hzero := editDistance_eq_zero_iff text useRunner
  have hone := nearMatch_eq_true_iff text useRunner
  unfold Analysis.judge
  by_cases hexact : text = useRunner
  · subst hexact
    have hdistance : editDistance useRunner useRunner = 0 := hzero.2 rfl
    by_cases hindex : index = 0
    · cases scope with
      | module container =>
        simp [hdistance, hindex, distance, isRecognized, flaw?, permitted, Scope.location]
      | function container owner parent =>
        rcases howner owner rfl with hkind | hkind
        · have harrow : owner.kind ≠ .arrowFunction := by
            intro h; rw [h] at hkind; exact absurd hkind (by decide)
          cases hasync : owner.hasAsync <;>
            simp [hdistance, hindex, distance, isRecognized, flaw?, permitted, Scope.location,
              Scope.owner?, hkind, harrow, hasync]
        · simp [hdistance, hindex, distance, isRecognized, flaw?, permitted, Scope.location,
            Scope.owner?, hkind, Kind.isFunction]
    · cases scope <;>
        simp [hdistance, hindex, distance, isRecognized, flaw?, Scope.location]
  · have hpositive : editDistance text useRunner ≠ 0 := fun h => hexact (hzero.1 h)
    by_cases hnear : editDistance text useRunner = 1
    · simp [hexact, hone.2 hnear, hnear, distance, isRecognized, flaw?]
    · have hfar : ¬ editDistance text useRunner ≤ 1 := by omega
      have hmatch : ¬ nearMatch text useRunner = true := fun h => hnear (hone.1 h)
      simp [hexact, hmatch, hfar, distance]

/-- A legible statement leads to a finding exactly if it is a sighting. -/
theorem findingOf_eq {source : Bytes} {scope : Scope} {statement : Node} (index : Nat)
    (howner : scope.HasFunctionOwner) (hlegible : statement.Legible source) :
    Analysis.findingOf source scope index statement =
      .ok ((of? source scope index statement).map (finding source)) := by
  unfold Analysis.findingOf of? Node.stringText?
  cases hliteral : statement.literal? source with
  | none => rfl
  | some bytes =>
    have hok := hlegible bytes hliteral
    cases hdecode : Utf8.decode bytes with
    | error fault => rw [hdecode] at hok; cases hok
    | ok text =>
      have hjudge := judge_eq ⟨scope, index, statement, text⟩ howner
      simp only at hjudge
      simp only [hdecode, hjudge]
      by_cases hnear : editDistance text useRunner ≤ 1
      · simp [hnear, distance, Except.toOption, finding, flagged]
      · simp [hnear, distance, Except.toOption]

theorem legible_of_findingOf {source : Bytes} {scope : Scope} {index : Nat} {statement : Node}
    {found : Option Analysis.Finding}
    (h : Analysis.findingOf source scope index statement = .ok found) :
    statement.Legible source := by
  intro bytes hliteral
  unfold Analysis.findingOf at h
  rw [hliteral] at h
  cases hdecode : Utf8.decode bytes with
  | error fault => simp [hdecode] at h
  | ok text => rfl

end Sighting

/-! ## One scope -/

namespace Scope

/-- The sightings among statements that are numbered from `index` on. -/
def sightingsFrom (source : Bytes) (scope : Scope) (index : Nat) (statements : List Node) :
    List Sighting :=
  (statements.zipIdx index).filterMap fun (statement, index) =>
    Sighting.of? source scope index statement

theorem sightingsFrom_cons (source : Bytes) (scope : Scope) (index : Nat) (statement : Node)
    (rest : List Node) :
    scope.sightingsFrom source index (statement :: rest) =
      (Sighting.of? source scope index statement).toList ++
        scope.sightingsFrom source (index + 1) rest := by
  unfold sightingsFrom
  rw [List.zipIdx_cons, List.filterMap_cons]
  cases h : Sighting.of? source scope index statement <;> simp only [h] <;> rfl

theorem findingsFrom_eq {source : Bytes} {scope : Scope} (howner : scope.HasFunctionOwner)
    {statements : List Node} (hlegible : ∀ statement ∈ statements, statement.Legible source)
    (index : Nat) :
    Analysis.findingsFrom source scope index statements =
      .ok ((scope.sightingsFrom source index statements).map (Sighting.finding source)) := by
  induction statements generalizing index with
  | nil => rfl
  | cons statement rest ih =>
    rw [List.forall_mem_cons] at hlegible
    rw [Analysis.findingsFrom, Sighting.findingOf_eq index howner hlegible.1]
    simp only
    rw [ih hlegible.2, sightingsFrom_cons]
    cases Sighting.of? source scope index statement <;> rfl

theorem legible_of_findingsFrom {source : Bytes} {scope : Scope} {index : Nat}
    {statements : List Node} {findings : List Analysis.Finding}
    (h : Analysis.findingsFrom source scope index statements = .ok findings) :
    ∀ statement ∈ statements, statement.Legible source := by
  induction statements generalizing index findings with
  | nil => simp
  | cons statement rest ih =>
    rw [Analysis.findingsFrom] at h
    cases hfound : Analysis.findingOf source scope index statement with
    | error fault => simp [hfound] at h
    | ok found =>
      cases hmore : Analysis.findingsFrom source scope (index + 1) rest with
      | error fault => simp [hfound, hmore] at h
      | ok more =>
        exact List.forall_mem_cons.2 ⟨Sighting.legible_of_findingOf hfound, ih hmore⟩

theorem mem_sightings {source : Bytes} {scope : Scope} {sighting : Sighting} :
    sighting ∈ scope.sightings source ↔ sighting.scope = scope ∧
      scope.container.statements[sighting.index]? = some sighting.statement ∧
      sighting.statement.stringText? source = some sighting.text ∧ sighting.distance ≤ 1 := by
  rw [sightings, List.mem_filterMap]
  constructor
  · rintro ⟨⟨statement, index⟩, hmem, hof⟩
    obtain ⟨rfl, rfl, rfl, htext, hnear⟩ := Sighting.of?_eq_some_iff.1 hof
    exact ⟨rfl, List.mem_zipIdx_iff_getElem?.1 hmem, htext, hnear⟩
  · rintro ⟨rfl, hat, htext, hnear⟩
    exact ⟨⟨sighting.statement, sighting.index⟩, List.mem_zipIdx_iff_getElem?.2 hat,
      Sighting.of?_eq_some_iff.2 ⟨rfl, rfl, rfl, htext, hnear⟩⟩

/-- What the analysis says about a legible scope. -/
def report (source : Bytes) (scope : Scope) : ScopeReport :=
  Analysis.reportOn scope ((scope.sightings source).map (Sighting.finding source))

theorem report_flagged (source : Bytes) (scope : Scope) :
    (scope.report source).flagged = (scope.sightings source).map (·.flagged source) := by
  simp [report, Analysis.reportOn, Sighting.finding, Function.comp_def]

theorem report_diagnostics (source : Bytes) (scope : Scope) :
    (scope.report source).diagnostics =
      (scope.sightings source).filterMap (·.diagnostic? source) := by
  simp only [report, Analysis.reportOn, List.filterMap_map]
  rfl

theorem report_recognized (source : Bytes) (scope : Scope) :
    (scope.report source).recognized = (scope.sightings source).any (·.isRecognized) := by
  simp [report, Analysis.reportOn, Sighting.finding, List.any_map, Function.comp_def]

/-- The module counts as marked if one of its sightings is the directive itself. -/
theorem report_recognized_module (source : Bytes) (container : Node) :
    ((module container).report source).recognized =
      ((module container).sightings source).any (·.distance = 0) := by
  rw [report_recognized, Bool.eq_iff_iff, List.any_eq_true, List.any_eq_true]
  refine exists_congr fun sighting => and_congr_right fun h => ?_
  rw [mem_sightings] at h
  simp [Sighting.isRecognized, h.1, location]

/-- A function is recognized if it starts with the directive itself. -/
theorem report_recognized_function (source : Bytes) (container owner : Node)
    (parent : Option Node) :
    ((function container owner parent).report source).recognized =
      (function container owner parent).isMarked source := by
  rw [report_recognized, Bool.eq_iff_iff, List.any_eq_true, isMarked, decide_eq_true_eq]
  constructor
  · rintro ⟨sighting, hmem, hrecognized⟩
    obtain ⟨hscope, hat, htext, _⟩ := mem_sightings.1 hmem
    simp only [Sighting.isRecognized, Sighting.distance, hscope, location, Bool.and_eq_true,
      decide_eq_true_eq, editDistance_eq_zero_iff, Bool.or_eq_true, reduceCtorEq, false_or]
      at hrecognized
    rw [hrecognized.2, ← List.head?_eq_getElem?] at hat
    rw [show container.statements.head? = _ from hat, Option.bind_some, htext, hrecognized.1]
  · intro hmarked
    obtain ⟨statement, hfirst, htext⟩ := Option.bind_eq_some_iff.1 hmarked
    have hzero : editDistance useRunner useRunner = 0 := (editDistance_eq_zero_iff _ _).2 rfl
    refine ⟨⟨function container owner parent, 0, statement, useRunner⟩, mem_sightings.2 ?_, ?_⟩
    · refine ⟨rfl, ?_, htext, by simp [Sighting.distance, hzero]⟩
      rw [← List.head?_eq_getElem?]
      exact hfirst
    · simp [Sighting.isRecognized, Sighting.distance, hzero]

/-- The name of a marked function, or none for the module. -/
theorem functionName_eq_ok_iff (source : Source) (scope : Scope) (name : List Char) :
    Analysis.functionName source scope = .ok name ↔ scope.listedName? source = some name := by
  unfold Analysis.functionName listedName?
  cases scope.nameNode? with
  | none => simp
  | some node => cases h : source.textOf node <;> simp [h, Except.toOption]

end Scope

/-! ## All scopes -/

namespace Analysis

/-- The analysis of legible scopes. -/
def expected (source : Source) (scopes : List Scope) : Analysis where
  scopes := scopes.map (·.report source.bytes)
  hasModuleDirective := scopes.any fun scope =>
    scope.location = .module && (scope.sightings source.bytes).any (·.distance = 0)
  directiveFunctions :=
    (scopes.filter (·.isMarked source.bytes)).filterMap (·.listedName? source)

theorem ofScopes_eq {source : Source} {scopes : List Scope}
    (howners : ∀ scope ∈ scopes, scope.HasFunctionOwner)
    (hlegible : ∀ scope ∈ scopes, scope.Legible source) :
    ofScopes source scopes = .ok (expected source scopes) := by
  induction scopes with
  | nil => rfl
  | cons scope rest ih =>
    rw [List.forall_mem_cons] at howners hlegible
    have hfindings := Scope.findingsFrom_eq howners.1 hlegible.1.strings 0
    have hreport : reportOn scope ((scope.sightingsFrom source.bytes 0
        scope.container.statements).map (Sighting.finding source.bytes)) =
        scope.report source.bytes := rfl
    rw [ofScopes, hfindings]
    simp only [hreport]
    rw [ih howners.2 hlegible.2]
    cases scope with
    | module container =>
      simp [expected, Scope.location, Scope.isMarked, Scope.report_recognized_module]
    | function container owner parent =>
      cases hmarked : (Scope.function container owner parent).isMarked source.bytes with
      | false =>
        simp [expected, Scope.location, hmarked, Scope.report_recognized_function]
      | true =>
        obtain ⟨name, hname⟩ := Option.isSome_iff_exists.1 (hlegible.1.name hmarked)
        have hok := (Scope.functionName_eq_ok_iff source _ name).2 hname
        simp [expected, Scope.location, hmarked, Scope.report_recognized_function, hok, hname,
          Except.map]

theorem legible_of_ofScopes {source : Source} {scopes : List Scope} {analysis : Analysis}
    (howners : ∀ scope ∈ scopes, scope.HasFunctionOwner)
    (h : ofScopes source scopes = .ok analysis) : ∀ scope ∈ scopes, scope.Legible source := by
  induction scopes generalizing analysis with
  | nil => simp
  | cons scope rest ih =>
    rw [List.forall_mem_cons] at howners ⊢
    rw [ofScopes] at h
    cases hfound : findingsFrom source.bytes scope 0 scope.container.statements with
    | error fault => simp [hfound] at h
    | ok findings =>
      have hstrings := Scope.legible_of_findingsFrom hfound
      have hreport : reportOn scope findings = scope.report source.bytes := by
        rw [Scope.findingsFrom_eq howners.1 hstrings 0] at hfound
        obtain rfl := Except.ok.inj hfound
        rfl
      simp only [hfound, hreport] at h
      split at h
      · cases h
      next names hnames =>
      split at h
      · cases h
      next more hmore =>
      refine ⟨⟨hstrings, fun hmarked => ?_⟩, ih howners.2 hmore⟩
      cases scope with
      | module container => simp [Scope.isMarked] at hmarked
      | function container owner parent =>
        cases hname : functionName source (.function container owner parent) with
        | error fault =>
          simp [Scope.report_recognized_function, hmarked, Scope.location, hname, Except.map]
            at hnames
        | ok name =>
          rw [(Scope.functionName_eq_ok_iff source _ name).1 hname]
          rfl

theorem expected_flagged (source : Source) (scopes : List Scope) :
    (expected source scopes).flagged =
      (scopes.flatMap (·.sightings source.bytes)).map (·.flagged source.bytes) := by
  rw [flagged, expected, List.flatMap_map, List.map_flatMap]
  exact List.flatMap_congr fun scope _ => scope.report_flagged source.bytes

theorem expected_diagnostics (source : Source) (scopes : List Scope) :
    (expected source scopes).diagnostics =
      (scopes.flatMap (·.sightings source.bytes)).filterMap (·.diagnostic? source.bytes) := by
  rw [diagnostics, expected, List.flatMap_map, List.filterMap_flatMap]
  exact List.flatMap_congr fun scope _ => scope.report_diagnostics source.bytes

theorem expected_hasModuleDirective (source : Source) (scopes : List Scope) :
    (expected source scopes).hasModuleDirective = true ↔
      ∃ sighting ∈ scopes.flatMap (·.sightings source.bytes),
        sighting.scope.location = .module ∧ sighting.distance = 0 := by
  simp only [expected, List.any_eq_true, Bool.and_eq_true, decide_eq_true_eq, List.mem_flatMap]
  constructor
  · rintro ⟨scope, hscope, hlocation, sighting, hmem, hzero⟩
    refine ⟨sighting, ⟨scope, hscope, hmem⟩, ?_, hzero⟩
    rw [(Scope.mem_sightings.1 hmem).1, hlocation]
  · rintro ⟨sighting, ⟨scope, hscope, hmem⟩, hlocation, hzero⟩
    refine ⟨scope, hscope, ?_, sighting, hmem, hzero⟩
    rw [← (Scope.mem_sightings.1 hmem).1, hlocation]

/-- Every listed function has one name. -/
theorem expected_directiveFunctions {source : Source} {scopes : List Scope}
    (hlegible : ∀ scope ∈ scopes, scope.Legible source) :
    (expected source scopes).directiveFunctions.map some =
      (scopes.filter (·.isMarked source.bytes)).map (·.listedName? source) := by
  rw [expected, List.map_filterMap_some_eq_filter_map_isSome, List.filter_eq_self]
  simp only [List.mem_map, List.mem_filter]
  rintro name ⟨scope, ⟨hscope, hmarked⟩, rfl⟩
  exact (hlegible scope hscope).name hmarked

end Analysis

/-- All that an analysis looks at is UTF-8. -/
def Source.Legible (source : Source) : Prop :=
  ∀ scope ∈ source.tree.scopes, scope.Legible source

theorem Source.analyze_eq (source : Source) (hlegible : source.Legible) :
    source.analyze = .ok (Analysis.expected source source.tree.scopes) := by
  rw [analyze, Scope.all_eq]
  exact Analysis.ofScopes_eq (fun _ => Scope.hasFunctionOwner_of_mem_scopes) hlegible

theorem Source.legible_of_analyze (source : Source) {analysis : Analysis}
    (h : source.analyze = .ok analysis) : source.Legible := by
  rw [analyze, Scope.all_eq] at h
  exact Analysis.legible_of_ofScopes (fun _ => Scope.hasFunctionOwner_of_mem_scopes) h

/-- An analysis succeeds exactly if all it looks at is UTF-8, and it reports what the sightings call
for: the flagged statements, their flaws, the mark of the module and the functions. -/
theorem Source.analyze_reports_sightings (source : Source) :
    match source.analyze with
    | .error _ => ¬ source.Legible
    | .ok analysis =>
      source.Legible ∧
      analysis.flagged = source.sightings.map (·.flagged source.bytes) ∧
      analysis.diagnostics = source.sightings.filterMap (·.diagnostic? source.bytes) ∧
      (analysis.hasModuleDirective = true ↔
        ∃ sighting ∈ source.sightings,
          sighting.scope.location = .module ∧ sighting.distance = 0) ∧
      analysis.directiveFunctions.map some =
        (source.tree.scopes.filter (·.isMarked source.bytes)).map (·.listedName? source) := by
  cases h : source.analyze with
  | error fault =>
    intro hlegible
    rw [source.analyze_eq hlegible] at h
    cases h
  | ok analysis =>
    have hlegible := source.legible_of_analyze h
    rw [source.analyze_eq hlegible] at h
    obtain rfl := Except.ok.inj h
    exact ⟨hlegible, Analysis.expected_flagged source _, Analysis.expected_diagnostics source _,
      Analysis.expected_hasModuleDirective source _, Analysis.expected_directiveFunctions hlegible⟩

end Prologue
