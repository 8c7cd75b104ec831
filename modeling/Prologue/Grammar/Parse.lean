import Prologue.Grammar.Statements

/-!
# Parsing

The grammar of a dialect assigns a rule to every goal. Reading a goal spends one unit of fuel for
each goal inside another; `n` bytes nest goals at most a constant times `n` deep, so the fuel that
`readStatement` grants is never the reason of a failure.

A text that cannot be read to its end still has a tree: the line at which reading failed becomes an
error node, and reading goes on behind it.
-/

namespace Prologue.Grammar

/-- The rule of every goal. -/
def rules (dialect : Dialect) : Goal → Rule
  | .statement => .statementRule dialect
  | .block => .blockRule
  | .classBody => .classBodyRule dialect
  | .parameters => .parametersRule dialect
  | .pattern => .patternRule
  | .expressions mode => .expressionsRule mode
  | .expression mode => .expressionRule dialect mode
  | .operand mode => .operandRule dialect mode
  | .construction => .constructionRule dialect
  | .type mode => .typeRule mode
  | .objectType => .objectTypeRule dialect
  | .markup => .markupRule dialect

/-- Reads a goal with at most `fuel` goals inside one another. -/
def reach (dialect : Dialect) : Nat → Goal → State → Option State
  | 0, _, _ => none
  | fuel + 1, goal, state =>
    ((rules dialect goal).read dialect (reach dialect fuel) state.opened).map state.closed

/-- Goals that can stand inside one another in a text of the given length. -/
def fuelFor (length : Nat) : Nat := 16 * (length + 4)

/-- Reads the statement that comes next. -/
def readStatement (dialect : Dialect) (state : State) : Option State :=
  reach dialect (fuelFor state.cursor.left) .statement state

/-- Reads statements to the end of the text. Where no statement can be read, the rest of the line
becomes an error. -/
def readStatements (dialect : Dialect) : Nat → State → State
  | 0, state => state
  | bound + 1, state =>
    let front := state.front
    if front.cursor.rest.isEmpty then front
    else
      match readStatement dialect front with
      | some next => readStatements dialect bound next
      | none =>
        let line := (front.cursor.rest.takeWhile (· != lineFeed)).length
        let cursor := front.cursor.advance (max 1 line)
        let error := Node.mk .error .plain front.cursor.offset cursor.offset []
        readStatements dialect bound
          { front with cursor := cursor, nodes := error :: front.nodes }

/-- The state at the beginning of a text. -/
def State.at (text : Bytes) : State := ⟨⟨text, 0, text.length, []⟩, none, []⟩

/-- Passes over the line for the shell, should the text start with one. -/
def State.opening (text : Bytes) : State :=
  let front := (State.at text).skip
  (front.take .hashBang).elim (State.at text) fun next =>
    let line := Node.mk .hashBangLine .plain front.cursor.offset next.cursor.offset []
    { next with nodes := [line] }

/-- The concrete tree of a text. -/
def parse (dialect : Dialect) (text : Bytes) : Node :=
  let final := readStatements dialect (text.length + 1) (State.opening text)
  (Node.mk .program .plain 0 text.length final.nodes.reverse).weave final.cursor.notes.reverse

end Prologue.Grammar
