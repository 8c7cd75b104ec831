import Prologue.Tree.Node

/-!
# Tours of a tree

A cursor stands at a node and can move down to its first child, on to its next sibling and up to its
parent. A tour moves a cursor over a whole tree and needs to remember one thing only: whether the
nodes below the cursor have been visited.
-/

namespace Prologue

/-- What a loop yields, provided that it ends within `bound` rounds. A round ends the loop, or yields
at most one item and goes on. -/
def collect? {σ α : Type} (round : σ → Option (Option α × σ)) : Nat → σ → Option (List α)
  | 0, _ => none
  | bound + 1, state =>
    match round state with
    | none => some []
    | some (found, next) => (collect? round bound next).map (found.toList ++ ·)

namespace Node

mutual

/-- Number of nodes in a tree. -/
def size : Node → Nat
  | mk _ _ _ _ children => sizeAll children + 1

/-- Number of nodes in a list of trees. -/
def sizeAll : List Node → Nat
  | [] => 0
  | node :: rest => node.size + sizeAll rest

end

end Node

/-- A place in a tree. -/
structure TreeCursor where
  node : Node
  /-- Siblings behind the node. -/
  later : List Node
  /-- The nodes above, nearest first, each with the siblings behind it. -/
  above : List (Node × List Node)

namespace TreeCursor

/-- The cursor at the root of a tree, from where no way leads out of the tree. -/
def top (root : Node) : TreeCursor := ⟨root, [], []⟩

def firstChild? (cursor : TreeCursor) : Option TreeCursor :=
  match cursor.node.children with
  | [] => none
  | child :: rest => some ⟨child, rest, (cursor.node, cursor.later) :: cursor.above⟩

def nextSibling? (cursor : TreeCursor) : Option TreeCursor :=
  match cursor.later with
  | [] => none
  | next :: rest => some ⟨next, rest, cursor.above⟩

def parent? (cursor : TreeCursor) : Option TreeCursor :=
  match cursor.above with
  | [] => none
  | (node, later) :: above => some ⟨node, later, above⟩

/-- The node at the cursor and the nodes above it, nearest first. -/
def entry (cursor : TreeCursor) : Node × List Node := (cursor.node, cursor.above.map (·.1))

end TreeCursor

/-- Where a tour stands. -/
structure Tour where
  cursor : TreeCursor
  /-- Whether the nodes below the cursor have been visited. -/
  visited : Bool

namespace Tour

def start (root : Node) : Tour := ⟨.top root, false⟩

/-- One round: a node is visited when the tour comes to it from above or from its left. -/
def round (tour : Tour) : Option (Option (Node × List Node) × Tour) :=
  if !tour.visited then
    match tour.cursor.firstChild? with
    | some child => some (some tour.cursor.entry, ⟨child, false⟩)
    | none => some (some tour.cursor.entry, ⟨tour.cursor, true⟩)
  else
    match tour.cursor.nextSibling? with
    | some sibling => some (none, ⟨sibling, false⟩)
    | none =>
      match tour.cursor.parent? with
      | some parent => some (none, ⟨parent, true⟩)
      | none => none

end Tour

/-- All nodes of a tree as a tour visits them, each with the nodes above it, nearest first. A tour
takes two rounds for each node. -/
def Node.tour (root : Node) : List (Node × List Node) :=
  (collect? Tour.round (2 * root.size) (.start root)).getD []

end Prologue
