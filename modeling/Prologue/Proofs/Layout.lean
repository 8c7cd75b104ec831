import Mathlib.Data.List.Pairwise
import Prologue.Proofs.Sightings
import Prologue.Text.Blank

/-!
# Layout of trees

What is assumed of a tree about the bytes that its nodes cover: children lie inside their parent and one
after the other, and a bare string statement starts with no blank, ends on a line that holds more than
blanks of it, and holds no function. From this alone it follows that no two sightings overlap, in
whatever scopes they stand: the statements of one scope are siblings, and a function's statements lie
inside one statement of the scope around it, which is no bare string.
-/

namespace Prologue

/-- Whether a byte that is no blank stands at an offset. -/
def Bytes.isSolid (source : Bytes) (offset : Nat) : Bool :=
  source[offset]?.any fun byte => !Text.isBlankByte byte

/-- The last line of what lies between `start` and `stop` holds more than blanks of it. -/
def Bytes.EndsSolid (source : Bytes) (start stop : Nat) : Prop :=
  ∃ q < stop, start ≤ q ∧ source.isSolid q = true ∧ ∀ i < stop, q ≤ i → source[i]? ≠ some lineFeed

instance (source : Bytes) (start stop : Nat) : Decidable (source.EndsSolid start stop) :=
  inferInstanceAs (Decidable (∃ q < stop, _))

namespace Bytes

variable {source : Bytes} {start stop : Nat}

theorem ne_lineFeed_of_isSolid {offset : Nat} (h : source.isSolid offset = true) :
    source[offset]? ≠ some lineFeed := by
  intro hfeed
  rw [isSolid, hfeed] at h
  revert h
  decide

theorem lt_length_of_isSolid {offset : Nat} (h : source.isSolid offset = true) :
    offset < source.length := by
  by_contra hend
  rw [isSolid, List.getElem?_eq_none (by omega)] at h
  cases h

theorem EndsSolid.mono {start' : Nat} (h : source.EndsSolid start stop) (hle : start' ≤ start) :
    source.EndsSolid start' stop := by
  obtain ⟨q, hlt, hstart, hrest⟩ := h
  exact ⟨q, hlt, by omega, hrest⟩

/-- What ends with no blank ends so. -/
theorem endsSolid_of_isSolid (hlt : start < stop) (h : source.isSolid (stop - 1) = true) :
    source.EndsSolid start stop := by
  refine ⟨stop - 1, by omega, by omega, h, fun i hi hle => ?_⟩
  obtain rfl : i = stop - 1 := by omega
  exact ne_lineFeed_of_isSolid h

theorem EndsSolid.ne_lineFeed (h : source.EndsSolid start stop) :
    source[stop - 1]? ≠ some lineFeed := by
  obtain ⟨q, hlt, _, _, hline⟩ := h
  exact hline (stop - 1) (by omega) (by omega)

end Bytes

namespace Node

/-- A property of a node and of all nodes below it. -/
def Everywhere (P : Node → Prop) (root : Node) : Prop := ∀ entry ∈ root.walk, P entry.1

instance (P : Node → Prop) [DecidablePred P] (root : Node) : Decidable (root.Everywhere P) :=
  inferInstanceAs (Decidable (∀ entry ∈ root.walk, P entry.1))

theorem everywhere_walkUnder_iff (P : Node → Prop) (node : Node) (above above' : List Node) :
    (∀ entry ∈ node.walkUnder above, P entry.1) ↔ ∀ entry ∈ node.walkUnder above', P entry.1 := by
  induction node using Node.children_induction generalizing above above' with
  | step node ih =>
    rw [walkUnder_eq, walkUnder_eq above', List.forall_mem_cons, List.forall_mem_cons,
      List.forall_mem_flatMap, List.forall_mem_flatMap]
    exact and_congr_right fun _ => forall₂_congr fun child h => ih child h _ _

theorem everywhere_iff (P : Node → Prop) (node : Node) :
    node.Everywhere P ↔ P node ∧ ∀ child ∈ node.children, child.Everywhere P := by
  rw [Everywhere, walk, walkUnder_eq, List.forall_mem_cons, List.forall_mem_flatMap]
  exact and_congr_right fun _ => forall₂_congr fun child _ => everywhere_walkUnder_iff P child _ _

theorem Everywhere.self {P : Node → Prop} {node : Node} (h : node.Everywhere P) : P node :=
  ((everywhere_iff P node).1 h).1

theorem Everywhere.child {P : Node → Prop} {node child : Node} (h : node.Everywhere P)
    (hmem : child ∈ node.children) : child.Everywhere P :=
  ((everywhere_iff P node).1 h).2 child hmem

theorem Everywhere.part {P : Node → Prop} {node child : Node} {part : Role}
    (h : node.Everywhere P) (hpart : node.child? part = some child) : child.Everywhere P :=
  h.child (List.mem_of_find?_eq_some hpart)

/-- The children of a node lie inside it, one after the other. -/
structure Orderly (node : Node) : Prop where
  bounds : node.start ≤ node.stop
  inside : ∀ child ∈ node.children, node.start ≤ child.start ∧ child.stop ≤ node.stop
  ordered : node.children.Pairwise fun a b => a.stop ≤ b.start

instance (node : Node) : Decidable node.Orderly :=
  decidable_of_iff (node.start ≤ node.stop ∧
      (∀ child ∈ node.children, node.start ≤ child.start ∧ child.stop ≤ node.stop) ∧
      node.children.Pairwise fun a b => a.stop ≤ b.start)
    ⟨fun h => ⟨h.1, h.2.1, h.2.2⟩, fun h => ⟨h.bounds, h.inside, h.ordered⟩⟩

/-- A bare string statement is not empty, starts with no blank, ends on a line that holds more than
blanks of it, and holds no function. -/
structure Compact (source : Bytes) (statement : Node) : Prop where
  bounds : statement.start < statement.stop
  first : source.isSolid statement.start = true
  last : source.EndsSolid statement.start statement.stop
  plain : statement.Everywhere fun inner =>
    inner.kind.isFunction = false ∧ inner.kind ≠ .arrowFunction

instance (source : Bytes) (statement : Node) : Decidable (statement.Compact source) :=
  decidable_of_iff (statement.start < statement.stop ∧ source.isSolid statement.start = true ∧
      source.EndsSolid statement.start statement.stop ∧
      statement.Everywhere fun inner =>
        inner.kind.isFunction = false ∧ inner.kind ≠ .arrowFunction)
    ⟨fun h => ⟨h.1, h.2.1, h.2.2.1, h.2.2.2⟩, fun h => ⟨h.bounds, h.first, h.last, h.plain⟩⟩

/-- One of the two nodes ends before the other begins. -/
def Apart (a b : Node) : Prop := a.stop ≤ b.start ∨ b.stop ≤ a.start

theorem Apart.symm {a b : Node} (h : Apart a b) : Apart b a := Or.symm h

instance : Std.Symm Apart := ⟨fun _ _ => Apart.symm⟩

theorem Apart.mono {a b a' b' : Node} (h : Apart a b) (ha : a.start ≤ a'.start ∧ a'.stop ≤ a.stop)
    (hb : b.start ≤ b'.start ∧ b'.stop ≤ b.stop) : Apart a' b' := by
  unfold Apart at *
  omega

/-- Different siblings are apart. -/
theorem Orderly.apart {node a b : Node} (h : node.Orderly) (ha : a ∈ node.children)
    (hb : b ∈ node.children) (hne : a ≠ b) : Apart a b := by
  have hsiblings : node.children.Pairwise Apart := h.ordered.imp Or.inl
  exact hsiblings.forall ha hb hne

end Node

/-- What is assumed of the tree of a source. -/
structure Source.WellLaid (source : Source) : Prop where
  within : source.tree.stop ≤ source.bytes.length
  orderly : source.tree.Everywhere Node.Orderly
  compact : source.tree.Everywhere fun node =>
    (node.literal? source.bytes).isSome → node.Compact source.bytes

instance (source : Source) : Decidable source.WellLaid :=
  decidable_of_iff (source.tree.stop ≤ source.bytes.length ∧
      source.tree.Everywhere Node.Orderly ∧ source.tree.Everywhere fun node =>
        (node.literal? source.bytes).isSome → node.Compact source.bytes)
    ⟨fun h => ⟨h.1, h.2.1, h.2.2⟩, fun h => ⟨h.within, h.orderly, h.compact⟩⟩

/-! ## Statements of the functions at and below a node -/

namespace Node

/-- The sighted statements of the functions at and below a node. -/
def sighted (source : Bytes) (parent : Option Node) (node : Node) : List Node :=
  (node.scopesUnder parent).flatMap fun scope => (scope.sightings source).map (·.statement)

theorem sighted_eq (source : Bytes) (parent : Option Node) (node : Node) :
    node.sighted source parent =
      (Scope.ofNode? node parent.toList).toList.flatMap
        (fun scope => (scope.sightings source).map (·.statement)) ++
      node.children.flatMap (sighted source (some node)) := by
  rw [sighted, scopesUnder_eq, List.flatMap_append, List.flatMap_assoc]
  rfl

end Node

/-- The sighted statements of a scope are some of the children of its block, in order. -/
theorem Scope.sightings_sublist (source : Bytes) (scope : Scope) :
    ((scope.sightings source).map (·.statement)).Sublist scope.container.children := by
  have hfrom : ∀ (statements : List Node) (index : Nat),
      ((scope.sightingsFrom source index statements).map (·.statement)).Sublist statements := by
    intro statements
    induction statements with
    | nil => intro index; exact List.Sublist.slnil
    | cons statement rest ih =>
      intro index
      rw [sightingsFrom_cons, List.map_append]
      cases h : Sighting.of? source scope index statement with
      | none => exact (ih (index + 1)).cons statement
      | some sighting =>
        rw [Sighting.of?_eq_some_iff] at h
        obtain rfl := h.2.2.1
        exact (ih (index + 1)).cons_cons _
  exact (hfrom scope.container.statements 0).trans List.filter_sublist

/-- A sighted statement is a bare string. -/
theorem Scope.isSome_literal_of_mem {source : Bytes} {scope : Scope} {statement : Node}
    (h : statement ∈ (scope.sightings source).map (·.statement)) :
    (statement.literal? source).isSome = true := by
  obtain ⟨sighting, hmem, rfl⟩ := List.mem_map.1 h
  have htext := (Scope.mem_sightings.1 hmem).2.2.1
  unfold Node.stringText? at htext
  cases hliteral : sighting.statement.literal? source with
  | none => rw [hliteral] at htext; cases htext
  | some bytes => rfl

namespace Node

variable {source : Bytes} {node : Node}

/-- The statements of a function with a block are children of the block, which is a child of the
function. -/
theorem exists_body_of_mem {parent : Option Node} {statement : Node}
    (h : statement ∈ (Scope.ofNode? node parent.toList).toList.flatMap
      fun scope => (scope.sightings source).map (·.statement)) :
    ∃ body ∈ node.children, body.kind = .statementBlock ∧ statement ∈ body.children ∧
      (statement.literal? source).isSome = true := by
  obtain ⟨scope, hscope, hmem⟩ := List.mem_flatMap.1 h
  rw [Option.mem_toList, Scope.ofNode?_eq_some_iff] at hscope
  obtain ⟨_, body, hbody, hkind, rfl⟩ := hscope
  refine ⟨body, List.mem_of_find?_eq_some hbody, hkind, ?_, Scope.isSome_literal_of_mem hmem⟩
  exact (Scope.sightings_sublist source _).subset hmem

theorem sighted_inside {parent : Option Node} (horderly : node.Everywhere Orderly) :
    ∀ statement ∈ node.sighted source parent,
      node.start ≤ statement.start ∧ statement.stop ≤ node.stop := by
  induction node using Node.children_induction generalizing parent with
  | step node ih =>
    rw [everywhere_iff] at horderly
    intro statement h
    rw [sighted_eq, List.mem_append] at h
    rcases h with h | h
    · obtain ⟨body, hbody, _, hstatement, _⟩ := exists_body_of_mem h
      have houter := horderly.1.inside body hbody
      have hinner := ((everywhere_iff _ _).1 (horderly.2 body hbody)).1.inside statement hstatement
      omega
    · obtain ⟨child, hchild, hstatement⟩ := List.mem_flatMap.1 h
      have houter := horderly.1.inside child hchild
      have hinner := ih child hchild (horderly.2 child hchild) statement hstatement
      omega

theorem sighted_compact {parent : Option Node}
    (hcompact : node.Everywhere fun inner =>
      (inner.literal? source).isSome → inner.Compact source) :
    ∀ statement ∈ node.sighted source parent, statement.Compact source := by
  induction node using Node.children_induction generalizing parent with
  | step node ih =>
    rw [everywhere_iff] at hcompact
    intro statement h
    rw [sighted_eq, List.mem_append] at h
    rcases h with h | h
    · obtain ⟨body, hbody, _, hstatement, hliteral⟩ := exists_body_of_mem h
      have hblock := (everywhere_iff _ _).1 (hcompact.2 body hbody)
      exact ((everywhere_iff _ _).1 (hblock.2 statement hstatement)).1 hliteral
    · obtain ⟨child, hchild, hstatement⟩ := List.mem_flatMap.1 h
      exact ih child hchild (hcompact.2 child hchild) statement hstatement

/-- Where there is no function there is no scope. -/
theorem sighted_eq_nil {parent : Option Node}
    (hplain : node.Everywhere fun inner =>
      inner.kind.isFunction = false ∧ inner.kind ≠ .arrowFunction) :
    node.sighted source parent = [] := by
  induction node using Node.children_induction generalizing parent with
  | step node ih =>
    rw [everywhere_iff] at hplain
    have hnone : Scope.ofNode? node parent.toList = none := by
      simp [Scope.ofNode?, hplain.1]
    rw [sighted_eq, hnone, Option.toList_none, List.flatMap_nil, List.nil_append,
      List.flatMap_eq_nil_iff]
    exact fun child hchild => ih child hchild (hplain.2 child hchild)

/-- A bare string statement is apart from all that is sighted below its siblings and itself. -/
theorem apart_of_mem_children {statement other : Node} (horderly : node.Everywhere Orderly)
    (hcompact : statement.Compact source) (hstatement : statement ∈ node.children)
    (hother : other ∈ node.children.flatMap (sighted source (some node))) :
    Apart statement other := by
  obtain ⟨sibling, hsibling, hmem⟩ := List.mem_flatMap.1 hother
  rw [everywhere_iff] at horderly
  by_cases hsame : statement = sibling
  · subst hsame
    rw [sighted_eq_nil hcompact.plain] at hmem
    cases hmem
  · refine (horderly.1.apart hstatement hsibling hsame).mono ⟨Nat.le_refl _, Nat.le_refl _⟩ ?_
    exact sighted_inside (horderly.2 sibling hsibling) other hmem

/-- Statements that are sighted in different children are apart. -/
theorem flatMap_sighted_apart (horderly : node.Everywhere Orderly)
    (hchildren : ∀ child ∈ node.children, (child.sighted source (some node)).Pairwise Apart) :
    (node.children.flatMap (sighted source (some node))).Pairwise Apart := by
  rw [everywhere_iff] at horderly
  rw [List.pairwise_flatMap]
  refine ⟨hchildren, ?_⟩
  refine horderly.1.ordered.imp_of_mem ?_
  intro a b ha hb hab x hx y hy
  have hx' := sighted_inside (horderly.2 a ha) x hx
  have hy' := sighted_inside (horderly.2 b hb) y hy
  exact Apart.mono (Or.inl hab) hx' hy'

/-- No two statements that are sighted at and below a node overlap. -/
theorem sighted_apart {parent : Option Node} (horderly : node.Everywhere Orderly)
    (hcompact : node.Everywhere fun inner =>
      (inner.literal? source).isSome → inner.Compact source) :
    (node.sighted source parent).Pairwise Apart := by
  induction node using Node.children_induction generalizing parent with
  | step node ih =>
    have horderly' := (everywhere_iff _ _).1 horderly
    have hcompact' := (everywhere_iff _ _).1 hcompact
    rw [sighted_eq, List.pairwise_append]
    refine ⟨?_, ?_, ?_⟩
    · -- The statements of one block are siblings.
      rw [List.pairwise_flatMap]
      refine ⟨fun scope hscope => ?_, by cases Scope.ofNode? node parent.toList <;> simp⟩
      rw [Option.mem_toList, Scope.ofNode?_eq_some_iff] at hscope
      obtain ⟨_, body, hbody, _, rfl⟩ := hscope
      have hbody' := (everywhere_iff _ _).1 (horderly'.2 body (List.mem_of_find?_eq_some hbody))
      exact (hbody'.1.ordered.imp Or.inl).sublist (Scope.sightings_sublist source _)
    · exact flatMap_sighted_apart horderly fun child hchild =>
        ih child hchild (horderly'.2 child hchild) (hcompact'.2 child hchild)
    · intro statement hstatement other hother
      obtain ⟨body, hbody, hkind, hmem, hliteral⟩ := exists_body_of_mem hstatement
      have hbodyOrderly := horderly'.2 body hbody
      have hbodyCompact := (everywhere_iff _ _).1 (hcompact'.2 body hbody)
      have hsound := ((everywhere_iff _ _).1 (hbodyCompact.2 statement hmem)).1 hliteral
      obtain ⟨child, hchild, hinner⟩ := List.mem_flatMap.1 hother
      by_cases hsame : child = body
      · subst hsame
        -- A block is no function itself, so all below it stands below its children.
        have hnone : Scope.ofNode? child (some node).toList = none := by
          simp [Scope.ofNode?, hkind, Kind.isFunction]
        rw [sighted_eq, hnone, Option.toList_none, List.flatMap_nil, List.nil_append] at hinner
        exact apart_of_mem_children hbodyOrderly hsound hmem hinner
      · refine (horderly'.1.apart hbody hchild (Ne.symm hsame)).mono ?_ ?_
        · exact ((everywhere_iff _ _).1 hbodyOrderly).1.inside statement hmem
        · exact sighted_inside (horderly'.2 child hchild) other hinner

end Node

namespace Source

/-- What is sighted in the module itself, and then what is sighted in functions. -/
theorem map_statement_sightings (source : Source) :
    source.sightings.map (·.statement) =
      ((Scope.module source.tree).sightings source.bytes).map (·.statement) ++
        source.tree.children.flatMap (Node.sighted source.bytes (some source.tree)) := by
  rw [sightings, Node.scopes, List.flatMap_cons, List.map_append, List.flatMap_assoc,
    List.map_flatMap]
  congr 1
  exact List.flatMap_congr fun child _ => List.map_flatMap

variable {source : Source}

/-- No two sightings overlap, in whatever scopes they stand. -/
theorem WellLaid.sightings_apart (h : source.WellLaid) :
    source.sightings.Pairwise fun a b => a.statement.Apart b.statement := by
  rw [← List.pairwise_map (f := Sighting.statement), map_statement_sightings, List.pairwise_append]
  have horderly := (Node.everywhere_iff _ _).1 h.orderly
  have hcompact := (Node.everywhere_iff _ _).1 h.compact
  refine ⟨?_, ?_, ?_⟩
  · exact (horderly.1.ordered.imp Or.inl).sublist
      (Scope.sightings_sublist source.bytes (.module source.tree))
  · exact Node.flatMap_sighted_apart h.orderly fun child hchild =>
      Node.sighted_apart (horderly.2 child hchild) (hcompact.2 child hchild)
  · intro statement hstatement other hother
    have hmem := (Scope.sightings_sublist source.bytes _).subset hstatement
    have hsound := (Node.everywhere_iff _ _).1 (hcompact.2 statement hmem)
    exact Node.apart_of_mem_children h.orderly
      (hsound.1 (Scope.isSome_literal_of_mem hstatement)) hmem hother

/-- A sighted statement lies in the text and is compact. -/
theorem WellLaid.compact_of_mem (h : source.WellLaid) {sighting : Sighting}
    (hmem : sighting ∈ source.sightings) :
    sighting.statement.Compact source.bytes ∧
      sighting.statement.stop ≤ source.bytes.length := by
  have horderly := (Node.everywhere_iff _ _).1 h.orderly
  have hcompact := (Node.everywhere_iff _ _).1 h.compact
  have hstatement := List.mem_map_of_mem (f := Sighting.statement) hmem
  have hwithin := h.within
  rw [map_statement_sightings, List.mem_append] at hstatement
  rcases hstatement with hown | hbelow
  · have hchild := (Scope.sightings_sublist source.bytes _).subset hown
    have hsound := ((Node.everywhere_iff _ _).1 (hcompact.2 _ hchild)).1
    have hinside := horderly.1.inside _ hchild
    exact ⟨hsound (Scope.isSome_literal_of_mem hown), by omega⟩
  · obtain ⟨child, hchild, hinner⟩ := List.mem_flatMap.1 hbelow
    have houter := horderly.1.inside child hchild
    have hinside := Node.sighted_inside (horderly.2 child hchild) _ hinner
    exact ⟨Node.sighted_compact (hcompact.2 child hchild) _ hinner, by omega⟩

end Source

end Prologue
