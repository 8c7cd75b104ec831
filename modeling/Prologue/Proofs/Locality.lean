import Prologue.Grammar.Parse
import Prologue.Proofs.TreeWalk

/-!
# Reading is local

What is read from a place in a text depends on the bytes from there on and on nothing else. The bytes
in front of the place only move the nodes, and what was read before stays below what is read. So two
texts that end alike are read alike from where they agree.
-/

namespace Prologue

namespace Node

mutual

/-- The same tree, `distance` bytes further on. -/
def shift (distance : Nat) : Node → Node
  | mk kind role start stop children =>
    mk kind role (start + distance) (stop + distance) (shiftAll distance children)

def shiftAll (distance : Nat) : List Node → List Node
  | [] => []
  | node :: rest => node.shift distance :: shiftAll distance rest

end

variable (distance : Nat) (node : Node)

theorem shiftAll_eq (nodes : List Node) : shiftAll distance nodes = nodes.map (shift distance) := by
  induction nodes with
  | nil => rfl
  | cons node rest ih => rw [shiftAll, ih, List.map_cons]

@[simp] theorem kind_shift : (node.shift distance).kind = node.kind := by
  cases node; rfl

@[simp] theorem role_shift : (node.shift distance).role = node.role := by
  cases node; rfl

@[simp] theorem start_shift : (node.shift distance).start = node.start + distance := by
  cases node; rfl

@[simp] theorem stop_shift : (node.shift distance).stop = node.stop + distance := by
  cases node; rfl

@[simp] theorem children_shift :
    (node.shift distance).children = node.children.map (shift distance) := by
  cases node; exact shiftAll_eq distance _

theorem shift_mk (kind : Kind) (role : Role) (start stop : Nat) (children : List Node) :
    (mk kind role start stop children).shift distance =
      mk kind role (start + distance) (stop + distance) (children.map (shift distance)) := by
  rw [shift, shiftAll_eq]

theorem withRole_shift (part : Role) :
    (node.shift distance).withRole part = (node.withRole part).shift distance := by
  cases node; rfl

theorem child?_shift (part : Role) :
    (node.shift distance).child? part = (node.child? part).map (shift distance) := by
  have hsame : (fun child : Node => decide (child.role = part)) ∘ shift distance =
      fun child => decide (child.role = part) := by
    funext child
    simp
  rw [child?, child?, children_shift, List.find?_map, hsame]

end Node

namespace Grammar

theorem note_shift (kind : Kind) (offset width distance : Nat) :
    (note kind offset width).shift distance = note kind (offset + distance) width := by
  rw [note, note, Node.shift_mk, Nat.add_right_comm]
  rfl

/-- The same place `distance` bytes further on, behind other comments. -/
def Cursor.moved (distance : Nat) (before : List Node) (cursor : Cursor) : Cursor where
  rest := cursor.rest
  offset := cursor.offset + distance
  left := cursor.left
  notes := cursor.notes.map (Node.shift distance) ++ before

namespace Cursor

variable (distance : Nat) (before : List Node)

theorem skipFrom_moved (bytes : Bytes) (offset left : Nat) (notes : List Node) (skip : Nat) :
    skipFrom (offset + distance) left (notes.map (Node.shift distance) ++ before) skip bytes =
      (skipFrom offset left notes skip bytes).moved distance before := by
  induction bytes generalizing offset left notes skip with
  | nil => rfl
  | cons byte rest ih =>
    have hnext : offset + distance + 1 = offset + 1 + distance := Nat.add_right_comm _ _ _
    cases skip with
    | succ skip =>
      simp only [skipFrom, hnext]
      exact ih _ _ _ _
    | zero =>
      simp only [skipFrom, hnext]
      split
      · exact ih _ _ _ _
      split
      · split
        · rw [← note_shift, ← List.cons_append, ← List.map_cons]
          exact ih _ _ _ _
        · rfl
      split
      · split
        · exact ih _ _ _ _
        · rfl
      · rfl

theorem skip_moved (cursor : Cursor) :
    (cursor.moved distance before).skip = cursor.skip.moved distance before :=
  skipFrom_moved distance before _ _ _ _ _

theorem advance_moved (cursor : Cursor) (width : Nat) :
    (cursor.moved distance before).advance width =
      (cursor.advance width).moved distance before := by
  simp only [advance, moved, Nat.add_right_comm]

theorem impliedFrom_moved (dialect : Dialect) (context : Context) (bytes : Bytes)
    (offset left : Nat) (notes : List Node) (skip : Nat) (asking : Bool) :
    impliedFrom dialect context (offset + distance) left
        (notes.map (Node.shift distance) ++ before) skip asking bytes =
      (impliedFrom dialect context offset left notes skip asking bytes).map
        (moved distance before) := by
  induction bytes generalizing offset left notes skip asking with
  | nil => cases asking <;> rfl
  | cons byte rest ih =>
    have hnext : offset + distance + 1 = offset + 1 + distance := Nat.add_right_comm _ _ _
    cases skip with
    | succ skip =>
      simp only [impliedFrom, hnext]
      exact ih _ _ _ _ _
    | zero =>
      simp only [impliedFrom, hnext]
      split
      · rfl
      split
      · rw [← note_shift, ← List.cons_append, ← List.map_cons]
        exact ih _ _ _ _ _
      split
      · split
        · exact ih _ _ _ _ _
        · rfl
      · rfl

theorem implied?_moved (dialect : Dialect) (context : Context) (cursor : Cursor) :
    (cursor.moved distance before).implied? dialect context =
      (cursor.implied? dialect context).map (moved distance before) :=
  impliedFrom_moved distance before dialect context _ _ _ _ _ _

theorem htmlComment?_moved (cursor : Cursor) :
    (cursor.moved distance before).htmlComment? =
      cursor.htmlComment?.map (moved distance before) := by
  have hrest : (cursor.skip.moved distance before).rest = cursor.skip.rest := rfl
  unfold htmlComment?
  simp only [skip_moved, hrest, advance_moved]
  by_cases hmark : (utf8 "<!--").isPrefixOf cursor.skip.rest ||
      (utf8 "-->").isPrefixOf cursor.skip.rest
  · rw [if_pos hmark, if_pos hmark, Option.map_some]
    simp only [moved, List.map_cons, note_shift, List.cons_append]
  · rw [if_neg hmark, if_neg hmark, Option.map_none]

end Cursor

/-- The same state `distance` bytes further on, behind other comments. -/
def State.moved (distance : Nat) (before : List Node) (state : State) : State where
  cursor := state.cursor.moved distance before
  start := state.start.map (· + distance)
  nodes := state.nodes.map (Node.shift distance)

namespace State

variable (distance : Nat) (before : List Node)

theorem skip_moved (state : State) :
    (state.moved distance before).skip = state.skip.moved distance before := by
  simp only [skip, moved, Cursor.skip_moved]

theorem take_moved (state : State) (token : Token) :
    (state.moved distance before).take token =
      (state.take token).map (moved distance before) := by
  simp only [take, moved, Option.map_map, Cursor.advance_moved]
  congr 1
  funext width
  cases state.start <;> rfl

theorem opened_moved (state : State) :
    (state.moved distance before).opened = state.opened.moved distance before := rfl

theorem closed_moved (outer inner : State) :
    (outer.moved distance before).closed (inner.moved distance before) =
      (outer.closed inner).moved distance before := by
  unfold closed moved
  cases outer.start <;> simp

theorem fold_moved (state : State) (kind : Kind) :
    (state.moved distance before).fold kind = (state.fold kind).moved distance before := by
  unfold fold moved
  cases state.start <;> simp [Node.shift_mk, Cursor.moved]

theorem semicolon_moved (state : State) (dialect : Dialect) (context : Context) :
    (state.moved distance before).semicolon dialect context =
      (state.semicolon dialect context).map (moved distance before) := by
  have himplied : (state.moved distance before).cursor.implied? dialect context =
      (state.cursor.implied? dialect context).map (Cursor.moved distance before) :=
    Cursor.implied?_moved distance before dialect context state.cursor
  unfold semicolon
  rw [himplied, skip_moved, take_moved]
  cases state.cursor.implied? dialect context <;> rfl

theorem rounds_moved {step : State → Option State}
    (hstep : ∀ state, step (state.moved distance before) =
      (step state).map (moved distance before)) (bound : Nat) (state : State) :
    rounds step bound (state.moved distance before) =
      (rounds step bound state).moved distance before := by
  induction bound generalizing state with
  | zero => rfl
  | succ bound ih =>
    rw [rounds, rounds, hstep]
    cases step state with
    | none => rfl
    | some next =>
      have hsame : (next.moved distance before).cursor.offset =
          (state.moved distance before).cursor.offset ↔
          next.cursor.offset = state.cursor.offset := Nat.add_right_cancel_iff
      simp only [Option.map_some, hsame]
      split
      · rfl
      · exact ih next

theorem skipHtml_moved (state : State) :
    (state.moved distance before).skipHtml = state.skipHtml.moved distance before := by
  apply rounds_moved
  intro s
  have hhtml : (s.moved distance before).cursor.htmlComment? =
      s.cursor.htmlComment?.map (Cursor.moved distance before) :=
    Cursor.htmlComment?_moved distance before s.cursor
  rw [hhtml]
  cases s.cursor.htmlComment? <;> rfl

end State

/-- A rule reads alike wherever its text stands, if the goals it refers to do. -/
theorem Rule.read_moved (distance : Nat) (before : List Node) (dialect : Dialect)
    {reach : Goal → State → Option State}
    (hreach : ∀ goal state, reach goal (state.moved distance before) =
      (reach goal state).map (State.moved distance before)) (rule : Rule) (state : State) :
    rule.read dialect reach (state.moved distance before) =
      (rule.read dialect reach state).map (State.moved distance before) := by
  induction rule generalizing state with
  | done => rfl
  | never => rfl
  | token t => simp only [read, State.skip_moved, State.take_moved]
  | leaf kind t =>
    simp only [read, State.skip_moved, State.take_moved, Option.map_map]
    congr 1
  | glued t => exact State.take_moved distance before state t
  | seq first second ihFirst ihSecond =>
    simp only [read, ihFirst]
    cases first.read dialect reach state with
    | none => rfl
    | some next => exact ihSecond next
  | alt first second ihFirst ihSecond =>
    simp only [read, ihFirst]
    cases first.read dialect reach state with
    | none => exact ihSecond state
    | some next => rfl
  | star rule ih =>
    simp only [read, Option.map_some]
    exact congrArg some (State.rounds_moved distance before ih _ state)
  | ahead rule ih =>
    simp only [read, ih, Option.isSome_map]
    split <;> rfl
  | absent rule ih =>
    simp only [read, ih, Option.isSome_map]
    split <;> rfl
  | frame rule ih =>
    simp only [read, State.opened_moved, ih, Option.map_map]
    congr 1
    funext inner
    exact State.closed_moved distance before state inner
  | fold kind => simp only [read, State.fold_moved, Option.map_some]
  | role part rule ih =>
    simp only [read, State.opened_moved, ih, Option.map_map]
    congr 1
    funext inner
    simp only [Function.comp_apply]
    rw [← State.closed_moved]
    congr 1
    simp [State.moved, Function.comp_def, Node.withRole_shift]
  | lastIs kinds =>
    obtain ⟨cursor, start, nodes⟩ := state
    cases nodes with
    | nil => rfl
    | cons node rest =>
      simp only [read, State.moved, List.map_cons, Node.kind_shift]
      split <;> rfl
  | lastHas part =>
    obtain ⟨cursor, start, nodes⟩ := state
    cases nodes with
    | nil => rfl
    | cons node rest =>
      simp only [read, State.moved, List.map_cons, Node.child?_shift, Option.isSome_map]
      split <;> rfl
  | unbroken context =>
    have himplied := Cursor.implied?_moved distance before dialect context state.cursor
    simp only [read]
    rw [show (state.moved distance before).cursor.implied? dialect context = _ from himplied,
      Option.isSome_map]
    split <;> rfl
  | semicolon context => exact State.semicolon_moved distance before state dialect context
  | settled =>
    have himplied := Cursor.implied?_moved distance before dialect .other state.cursor
    simp only [read]
    rw [show (state.moved distance before).cursor.implied? dialect .other = _ from himplied]
    cases state.cursor.implied? dialect .other <;> rfl
  | htmlComments => simp only [read, State.skipHtml_moved, Option.map_some]
  | goal g => exact hreach g state

theorem reach_moved (distance : Nat) (before : List Node) (dialect : Dialect) (fuel : Nat)
    (goal : Goal) (state : State) :
    reach dialect fuel goal (state.moved distance before) =
      (reach dialect fuel goal state).map (State.moved distance before) := by
  induction fuel generalizing goal state with
  | zero => rfl
  | succ fuel ih =>
    simp only [reach, State.opened_moved, Rule.read_moved distance before dialect ih,
      Option.map_map]
    congr 1
    funext inner
    exact State.closed_moved distance before state inner

/-- What is read depends on the bytes that follow; what went before only says where it goes. -/
theorem reach_eq_local (dialect : Dialect) (fuel : Nat) (goal : Goal) (state : State) :
    reach dialect fuel goal state =
      (reach dialect fuel goal ⟨⟨state.cursor.rest, 0, state.cursor.left, []⟩, none, []⟩).map
        fun inner => state.closed (inner.moved state.cursor.offset state.cursor.notes) := by
  cases fuel with
  | zero => rfl
  | succ fuel =>
    have hopened : state.opened = State.moved state.cursor.offset state.cursor.notes
        ⟨⟨state.cursor.rest, 0, state.cursor.left, []⟩, none, []⟩ := by
      simp [State.opened, State.moved, Cursor.moved]
    rw [reach, reach, hopened, Rule.read_moved _ _ _ (reach_moved _ _ dialect fuel), Option.map_map,
      Option.map_map]
    congr 1
    funext inner
    simp [State.closed]

end Grammar

end Prologue
