import Prologue.Grammar.Cursor
import Prologue.Grammar.Token

/-!
# Rules

A grammar is data: a `Rule` says how to read a piece of source and which nodes to leave behind.
Choice is ordered and repetition is greedy, so a rule reads a text in at most one way.

Nodes are collected in frames. Tokens and subrules add to the current frame, and `fold` turns all
that the frame holds into one node that reaches from the first token of the frame to the last one
read. Operators that associate to the left fold again after each operand.
-/

namespace Prologue.Grammar

/-- How the end of an expression is found. -/
inductive Mode where
  /-- Inside brackets: line breaks do not matter. -/
  | inner
  /-- Between the marks of a conditional, where a colon ends the expression. -/
  | branch
  /-- At the level of a statement, which a line break may end. -/
  | statement
  deriving DecidableEq, Repr

/-- The parts of the grammar that refer to each other. -/
inductive Goal where
  | statement
  | block
  | classBody
  | parameters
  | pattern
  | expressions (mode : Mode)
  | expression (mode : Mode)
  | operand (mode : Mode)
  | construction
  | type (mode : Mode)
  | objectType
  | markup
  deriving DecidableEq, Repr

inductive Rule where
  /-- Reads nothing. -/
  | done
  /-- Never succeeds. -/
  | never
  /-- Reads a token behind blanks and comments and leaves no node. -/
  | token (token : Token)
  /-- Reads a token behind blanks and comments as a node. -/
  | leaf (kind : Kind) (token : Token)
  /-- Reads a token that has to stand right here. -/
  | glued (token : Token)
  | seq (first second : Rule)
  /-- The second rule counts only where the first fails. -/
  | alt (first second : Rule)
  /-- As often as possible. -/
  | star (rule : Rule)
  /-- Succeeds where the rule would, and reads nothing. -/
  | ahead (rule : Rule)
  /-- Succeeds where the rule would not, and reads nothing. -/
  | absent (rule : Rule)
  /-- Collects nodes in a frame of its own. -/
  | frame (rule : Rule)
  /-- Makes one node of the current frame. -/
  | fold (kind : Kind)
  /-- Gives a part to the nodes that the rule leaves. -/
  | role (role : Role) (rule : Rule)
  /-- The node left last is of one of the kinds. -/
  | lastIs (kinds : List Kind)
  /-- The node left last has a child in the given part. -/
  | lastHas (role : Role)
  /-- No semicolon is implied here. -/
  | unbroken (context : Context)
  /-- A semicolon, written or implied. -/
  | semicolon (context : Context)
  /-- Takes the comments behind a block into it where a semicolon is implied behind them. -/
  | settled
  /-- Passes over HTML comments. -/
  | htmlComments
  | goal (goal : Goal)

namespace Rule

instance : Append Rule := ⟨seq⟩

instance : OrElse Rule := ⟨fun first second => alt first (second ())⟩

/-- Punctuation. -/
def sym (spelling : String) : Rule := token (.text spelling [])

/-- Punctuation, unless a longer one stands there. -/
def symNot (spelling : String) (longer : List String) : Rule := token (.text spelling longer)

/-- A keyword. -/
def kw (spelling : String) : Rule := token (.word spelling)

/-- The first of several rules that succeeds. -/
def oneOf : List Rule → Rule
  | [] => never
  | [rule] => rule
  | rule :: rest => alt rule (oneOf rest)

def opt (rule : Rule) : Rule := alt rule done

/-- Reads the rule as one node. -/
def node (kind : Kind) (rule : Rule) : Rule := frame (rule ++ fold kind)

/-- One or more, with commas between them. -/
def commas (rule : Rule) : Rule := rule ++ star (sym "," ++ rule)

/-- Any number, with commas between them and perhaps one at the end. -/
def commaList (rule : Rule) : Rule := opt (commas rule ++ opt (sym ","))

/-- Slots with commas between them, some of which may be empty. -/
def slots (rule : Rule) : Rule := opt rule ++ star (sym "," ++ opt rule)

/-- A rule of the typed dialects. -/
def typedOnly (dialect : Dialect) (rule : Rule) : Rule := if dialect.typed then rule else never

/-- Something that the typed dialects allow to stand here. -/
def typedOpt (dialect : Dialect) (rule : Rule) : Rule := if dialect.typed then opt rule else done

end Rule

/-- A place in the reading of a text. -/
structure State where
  cursor : Cursor
  /-- Where the first token of the current frame begins. -/
  start : Option Nat
  /-- Nodes of the current frame, latest first. -/
  nodes : List Node

namespace State

/-- Reads a token right here. -/
def take (state : State) (token : Token) : Option State :=
  (token.length state.cursor.rest).map fun width =>
    { state with
      cursor := state.cursor.advance width
      start := some (state.start.getD state.cursor.offset) }

/-- The state in front of the next token. -/
def skip (state : State) : State := { state with cursor := state.cursor.skip }

/-- The same place with an empty frame. -/
def opened (state : State) : State := { state with start := none, nodes := [] }

/-- Ends a frame: what it holds goes to the frame around it. -/
def closed (outer inner : State) : State :=
  { cursor := inner.cursor
    start := outer.start.orElse fun _ => inner.start
    nodes := inner.nodes ++ outer.nodes }

/-- One node of what the frame holds. -/
def fold (state : State) (kind : Kind) : State :=
  let stop := state.cursor.offset
  { state with nodes := [.mk kind .plain (state.start.getD stop) stop state.nodes.reverse] }

/-- A semicolon, implied or written. -/
def semicolon (state : State) (dialect : Dialect) (context : Context) : Option State :=
  match state.cursor.implied? dialect context with
  | some cursor => some { state with cursor := cursor }
  | none => state.skip.take (.text ";" [])

/-- At most `bound` rounds of a step, as long as each round moves forward. -/
def rounds (step : State → Option State) : Nat → State → State
  | 0, state => state
  | bound + 1, state =>
    match step state with
    | none => state
    | some next =>
      if next.cursor.offset = state.cursor.offset then state else rounds step bound next

/-- Passes over all HTML comments that come next. -/
def skipHtml (state : State) : State :=
  rounds (fun s => s.cursor.htmlComment?.map fun cursor => { s with cursor := cursor })
    state.cursor.left state

/-- The state in front of the next statement. -/
def front (state : State) : State := state.skipHtml.skip

end State

/-- Reads a rule, given how to read the goals it refers to. -/
def Rule.read (dialect : Dialect) (reach : Goal → State → Option State) :
    Rule → State → Option State
  | done, state => some state
  | never, _ => none
  | token t, state => state.skip.take t
  | leaf kind t, state =>
    let front := state.skip
    (front.take t).map fun next =>
      let node := Node.mk kind .plain front.cursor.offset next.cursor.offset []
      { next with nodes := node :: next.nodes }
  | glued t, state => state.take t
  | seq first second, state =>
    match first.read dialect reach state with
    | none => none
    | some next => second.read dialect reach next
  | alt first second, state =>
    match first.read dialect reach state with
    | none => second.read dialect reach state
    | some next => some next
  | star rule, state =>
    some (state.rounds (rule.read dialect reach) state.cursor.left)
  | ahead rule, state => if (rule.read dialect reach state).isSome then some state else none
  | absent rule, state => if (rule.read dialect reach state).isSome then none else some state
  | frame rule, state => (rule.read dialect reach state.opened).map state.closed
  | fold kind, state => some (state.fold kind)
  | role part rule, state =>
    (rule.read dialect reach state.opened).map fun inner =>
      state.closed { inner with nodes := inner.nodes.map (Node.withRole part) }
  | lastIs kinds, state =>
    match state.nodes with
    | node :: _ => if kinds.contains node.kind then some state else none
    | [] => none
  | lastHas part, state =>
    match state.nodes with
    | node :: _ => if (node.child? part).isSome then some state else none
    | [] => none
  | unbroken context, state =>
    if (state.cursor.implied? dialect context).isSome then none else some state
  | semicolon context, state => state.semicolon dialect context
  | settled, state =>
    match state.cursor.implied? dialect .other with
    | some cursor => some { state with cursor := cursor }
    | none => some state
  | htmlComments, state => some state.skipHtml
  | goal g, state => reach g state

end Prologue.Grammar
