import Prologue.Directive.Diagnostic
import Prologue.Source
import Prologue.Tree.Tour

/-!
# Scopes

A directive can stand in the module itself and in the block of every function, method and arrow.
-/

namespace Prologue

/-- Functions that have to be asynchronous to be marked. Arrows are not among them. -/
def Kind.isFunction : Kind → Bool
  | functionDeclaration | functionExpression | generatorFunctionDeclaration | generatorFunction
  | methodDefinition => true
  | _ => false

/-- A list of statements that can hold a directive. -/
inductive Scope where
  | module (container : Node)
  /-- The block of a function, with the node right above the function. -/
  | function (container owner : Node) (parent : Option Node)

namespace Scope

def location : Scope → Location
  | module _ => .module
  | function _ _ _ => .functionBody

def container : Scope → Node
  | module container => container
  | function container _ _ => container

def owner? : Scope → Option Node
  | module _ => none
  | function _ owner _ => some owner

/-- The scope of a function with a block. -/
def ofNode? (node : Node) (above : List Node) : Option Scope :=
  if node.kind.isFunction || node.kind = .arrowFunction then
    match node.child? .body with
    | some body =>
      if body.kind = .statementBlock then some (function body node above.head?) else none
    | none => none
  else none

/-- Puts the children of a node on a stack, the last one first, so that the first one is on top. -/
def push (node : Node) (stack : List (Node × Node)) : List (Node × Node) :=
  node.children.reverse.foldl (fun stack child => (child, node) :: stack) stack

/-- One round of the search for functions. On the stack lie the nodes that are still to be looked at,
each with its parent. -/
def round : List (Node × Node) → Option (Option Scope × List (Node × Node))
  | [] => none
  | (node, parent) :: stack => some (ofNode? node [parent], push node stack)

/-- The module first, then the functions in the order in which they are found. The search takes a
round for each node below the root and one more to find its stack empty. -/
def all (root : Node) : List Scope :=
  module root :: (collect? round root.size (push root [])).getD []

/-- The node that names the function of a scope: its own name, or that of the variable it is the
value of. -/
def nameNode? : Scope → Option Node
  | module _ => none
  | function _ owner parent =>
    match owner.child? .name with
    | some name => some name
    | none =>
      match parent with
      | some parent => if parent.kind = .variableDeclarator then parent.child? .name else none
      | none => none

end Scope

end Prologue
