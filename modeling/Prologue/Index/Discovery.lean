import Prologue.Index.Metadata
import Prologue.Source
import Prologue.Text.Lower
import Prologue.Tree.Tour

/-!
# Runners and schemas

A runner is an exported asynchronous function, declared or bound to a variable as an arrow. A schema
is an exported variable with "schema" in its name; it belongs to the first runner whose name stands
in its own. Case does not matter for either.
-/

namespace Prologue

/-- Whether `part` occurs in `text`. -/
def occursIn (part : List Char) : List Char → Bool
  | [] => part.isEmpty
  | c :: rest => part.isPrefixOf (c :: rest) || occursIn part rest

/-- Declarations of variables. -/
def Kind.declaresVariables : Kind → Bool
  | lexicalDeclaration | variableDeclaration => true
  | _ => false

namespace Node

def declarators (declaration : Node) : List Node :=
  declaration.children.filter (·.kind = .variableDeclarator)

/-- Whether an arrow, or the node right above it, is marked as asynchronous. -/
def isAsyncArrow (arrow parent : Node) : Bool := arrow.hasAsync || parent.hasAsync

/-- The name of a declarator that binds a single name. -/
def boundName? (declarator : Node) : Option Node :=
  (declarator.child? .name).filter fun name =>
    name.kind = .identifier || name.kind = .propertyIdentifier

/-- Whether a declarator binds an asynchronous arrow. -/
def bindsAsyncArrow (declarator : Node) : Bool :=
  (declarator.child? .value).any fun value =>
    value.kind = .arrowFunction && value.isAsyncArrow declarator

/-- The nodes that name runners, among the exported nodes of a walk: the name of an asynchronous
function, or the names of variables that hold asynchronous arrows. -/
def runnerNames (node : Node) : List Node :=
  if node.kind = .functionDeclaration then
    if node.hasAsync then (node.child? .name).toList else []
  else if node.kind.declaresVariables then
    (node.declarators.filter bindsAsyncArrow).filterMap boundName?
  else []

/-- The names of the single variables that a declaration binds. -/
def variableNames (node : Node) : List Node :=
  if node.kind.declaresVariables then node.declarators.filterMap boundName? else []

end Node

namespace Source

/-- Exported nodes with one of the names they declare, and its text. -/
def exportedNames (source : Source) (names : Node → List Node) :
    Except Utf8.Fault (List (Node × List Char)) :=
  let exported := source.tree.tour.filter fun (node, above) => node.isExported above
  (exported.flatMap fun (node, _) => (names node).map (node, ·)).mapM fun (node, name) =>
    (source.textOf name).map (node, ·)

def runners (source : Source) : Except Utf8.Fault (List Runner) :=
  (source.exportedNames Node.runnerNames).map fun found =>
    found.map fun (node, name) => ⟨name, source.lineOf node⟩

/-- The first runner whose name stands in the given one, case left aside. -/
def linkedRunner (runnerNames : List (List Char)) (name : List Char) : Option (List Char) :=
  runnerNames.find? fun runner => occursIn (Text.lower runner) (Text.lower name)

def schemas (source : Source) (runnerNames : List (List Char)) :
    Except Utf8.Fault (List Schema) :=
  (source.exportedNames Node.variableNames).map fun found =>
    (found.filter fun (_, name) => occursIn "schema".toList (Text.lower name)).map
      fun (node, name) => ⟨name, linkedRunner runnerNames name, source.lineOf node⟩

end Source

end Prologue
