import Prologue.Directive.NearMatch
import Prologue.Directive.Scope

/-!
# Analysis of directives

Every scope is judged on its own. A string statement that spells the directive is flagged; it counts
where it comes first in a function, and anywhere in the module. What is one edit away from the
directive is flagged as a typing error.
-/

namespace Prologue

/-- A string statement that is, or looks like, the directive. -/
structure Flagged where
  text : List Char
  index : Nat
  span : Span
  deriving DecidableEq, Repr

/-- The findings in one scope. -/
structure ScopeReport where
  location : Location
  owner : Option Kind
  recognized : Bool
  diagnostics : List Diagnostic
  flagged : List Flagged

structure Analysis where
  scopes : List ScopeReport
  hasModuleDirective : Bool
  directiveFunctions : List (List Char)

namespace Analysis

def diagnostics (analysis : Analysis) : List Diagnostic :=
  analysis.scopes.flatMap (·.diagnostics)

def flagged (analysis : Analysis) : List Flagged := analysis.scopes.flatMap (·.flagged)

/-- What a flagged statement means for its scope. -/
structure Verdict where
  recognized : Bool
  flaw : Option Flaw
  deriving DecidableEq

/-- Judges a string statement; none for strings that are no directives at all. -/
def judge (scope : Scope) (index : Nat) (text : List Char) : Option Verdict :=
  if text = useRunner then
    match scope.location with
    | .module => some ⟨true, if index = 0 then none else some (.misplaced .module)⟩
    | .functionBody =>
      if index = 0 then
        let synchronous := scope.owner?.any fun owner => owner.kind.isFunction && !owner.hasAsync
        some ⟨true, if synchronous then some .nonAsyncFunction else none⟩
      else some ⟨false, some (.misplaced .functionBody)⟩
  else if nearMatch text useRunner then some ⟨false, some (.misspelled text)⟩
  else none

/-- A judged statement. -/
structure Finding where
  flagged : Flagged
  verdict : Verdict

/-- The finding on one statement. -/
def findingOf (source : Bytes) (scope : Scope) (index : Nat) (statement : Node) :
    Except Utf8.Fault (Option Finding) :=
  match statement.literal? source with
  | none => .ok none
  | some bytes =>
    match Utf8.decode bytes with
    | .error fault => .error fault
    | .ok text => .ok ((judge scope index text).map fun verdict =>
        ⟨⟨text, index, Span.of source statement.start statement.stop⟩, verdict⟩)

/-- The findings on statements that are numbered from `index` on. -/
def findingsFrom (source : Bytes) (scope : Scope) (index : Nat) :
    List Node → Except Utf8.Fault (List Finding)
  | [] => .ok []
  | statement :: rest =>
    match findingOf source scope index statement with
    | .error fault => .error fault
    | .ok found =>
      match findingsFrom source scope (index + 1) rest with
      | .error fault => .error fault
      | .ok more => .ok (found.toList ++ more)

def reportOn (scope : Scope) (findings : List Finding) : ScopeReport where
  location := scope.location
  owner := scope.owner?.map (·.kind)
  recognized := findings.any (·.verdict.recognized)
  diagnostics := findings.filterMap fun finding =>
    finding.verdict.flaw.map (⟨·, finding.flagged.span⟩)
  flagged := findings.map (·.flagged)

/-- The name under which a marked function is listed. -/
def functionName (source : Source) (scope : Scope) : Except Utf8.Fault (List Char) :=
  match scope.nameNode? with
  | some node => source.textOf node
  | none => .ok "<anonymous>".toList

/-- The findings in a list of scopes, and the names of the marked functions among them. -/
def ofScopes (source : Source) : List Scope → Except Utf8.Fault Analysis
  | [] => .ok ⟨[], false, []⟩
  | scope :: rest =>
    match findingsFrom source.bytes scope 0 scope.container.statements with
    | .error fault => .error fault
    | .ok findings =>
      let report := reportOn scope findings
      let inModule := scope.location = .module
      match (if report.recognized && !inModule then
          (functionName source scope).map ([·]) else .ok []) with
      | .error fault => .error fault
      | .ok names =>
        match ofScopes source rest with
        | .error fault => .error fault
        | .ok more => .ok
          { scopes := report :: more.scopes
            hasModuleDirective := (report.recognized && inModule) || more.hasModuleDirective
            directiveFunctions := names ++ more.directiveFunctions }

end Analysis

/-- The directives of a source. The first string statement that is not UTF-8 is a fault. -/
def Source.analyze (source : Source) : Except Utf8.Fault Analysis :=
  Analysis.ofScopes source (Scope.all source.tree)

end Prologue
