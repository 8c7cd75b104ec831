import Prologue.Grammar.Parse

/-!
# Sources

A source text together with its tree.
-/

namespace Prologue

structure Source where
  dialect : Dialect
  bytes : Bytes
  tree : Node

namespace Source

/-- Reads a text; the tree of a text with faults holds error nodes. -/
def read (dialect : Dialect) (bytes : Bytes) : Source :=
  ⟨dialect, bytes, Grammar.parse dialect bytes⟩

/-- Whether the text has a part that could not be read. -/
def hasError (source : Source) : Bool := source.tree.has .error

/-- Characters of the text that a node covers. -/
def textOf (source : Source) (node : Node) : Except Utf8.Fault (List Char) :=
  Utf8.decode (node.bytes source.bytes)

/-- Line of a node's first byte, counted from one. -/
def lineOf (source : Source) (node : Node) : Nat := source.bytes.line node.start

end Source

namespace Node

/-- Statements of a program or a block. Comments and the line for the shell are none. -/
def statements (container : Node) : List Node :=
  container.children.filter fun child => child.kind != .comment && child.kind != .hashBangLine

/-- The bytes between the quotes of a statement that is nothing but a string. -/
def literal? (statement : Node) (source : Bytes) : Option Bytes :=
  if statement.kind = .expressionStatement then
    match statement.children.filter (·.kind != .comment) with
    | [expression] =>
      if expression.kind = .string then
        some (source.slice (expression.start + 1) (expression.stop - 1))
      else none
    | _ => none
  else none

/-- Whether a node or one above it is an export. -/
def isExported (node : Node) (above : List Node) : Bool :=
  (node :: above).any (·.kind = .exportStatement)

end Node

end Prologue
