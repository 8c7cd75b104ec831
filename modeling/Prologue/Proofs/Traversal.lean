import Prologue.Proofs.TreeWalk

/-!
# Tours and searches visit every node once

A path says how to get from the root to a node: the number of the child to take at each step. Paths
that are compared as words put parents before children and left before right, so a list of paths in
strictly rising order is in pre-order and has no path twice. A tour with a cursor and the search for
functions with a stack both end, the tour has visited the nodes of all paths in that order, and the
search has found the functions that the tour has met.
-/

namespace Prologue

namespace Node

/-! ## The tour -/

/-- A tour comes from the first of some siblings back to their parent, if it comes through each of them
and back to it. -/
theorem collect?_siblings {parent : Node} {later : List Node} {above : List (Node × List Node)}
    {nodes : List Node}
    (hnodes : ∀ node ∈ nodes, ∀ (bound : Nat) (behind : List Node),
      collect? Tour.round (2 * node.size - 1 + bound)
          ⟨⟨node, behind, (parent, later) :: above⟩, false⟩ =
        (collect? Tour.round bound ⟨⟨node, behind, (parent, later) :: above⟩, true⟩).map
          (node.walkUnder (parent :: above.map (·.1)) ++ ·))
    (node : Node) (rest : List Node) (hcons : nodes = node :: rest) (bound : Nat) :
    collect? Tour.round (2 * (nodes.map size).sum + bound)
        ⟨⟨node, rest, (parent, later) :: above⟩, false⟩ =
      (collect? Tour.round bound ⟨⟨parent, later, above⟩, true⟩).map
        (nodes.flatMap (walkUnder (parent :: above.map (·.1))) ++ ·) := by
  induction nodes generalizing node rest with
  | nil => cases hcons
  | cons first others ih =>
    obtain ⟨rfl, rfl⟩ := List.cons.inj hcons
    rw [List.forall_mem_cons] at hnodes
    have hsize := first.size_eq
    have hrounds : 2 * ((first :: others).map size).sum + bound =
        2 * first.size - 1 + (2 * (others.map size).sum + bound + 1) := by
      rw [List.map_cons, List.sum_cons]
      omega
    rw [hrounds, hnodes.1]
    -- One more round leads on to the next sibling, or up to the parent from the last one.
    cases others with
    | nil => simp [collect?, Tour.round, TreeCursor.nextSibling?, TreeCursor.parent?]
    | cons next more =>
      simp only [collect?, Tour.round, TreeCursor.nextSibling?, Bool.not_true, Bool.false_eq_true,
        ↓reduceIte]
      rw [ih hnodes.2 next more rfl, List.flatMap_cons]
      cases collect? Tour.round bound ⟨⟨parent, later, above⟩, true⟩ <;> simp

/-- A tour that comes to a node for the first time visits the nodes below it and is back after two
rounds for each of them, less the one that leads away from the node. -/
theorem collect?_tour (node : Node) (later : List Node) (above : List (Node × List Node))
    (bound : Nat) :
    collect? Tour.round (2 * node.size - 1 + bound) ⟨⟨node, later, above⟩, false⟩ =
      (collect? Tour.round bound ⟨⟨node, later, above⟩, true⟩).map
        (node.walkUnder (above.map (·.1)) ++ ·) := by
  induction node using Node.children_induction generalizing later above bound with
  | step node ih =>
    have hrounds : 2 * node.size - 1 + bound = 2 * (node.children.map size).sum + bound + 1 := by
      rw [node.size_eq]
      omega
    rw [hrounds, walkUnder_eq]
    cases hchildren : node.children with
    | nil => simp [collect?, Tour.round, TreeCursor.firstChild?, TreeCursor.entry, hchildren]
    | cons child rest =>
      have hbelow := @collect?_siblings node later above _
        (fun child hchild bound behind => ih child hchild behind _ bound) child rest hchildren bound
      rw [hchildren] at hbelow
      simp only [collect?, Tour.round, TreeCursor.firstChild?, TreeCursor.entry, hchildren,
        Bool.not_false, ↓reduceIte, hbelow, Option.map_map]
      rfl

/-- A tour ends after two rounds for each node, and has visited what the recursion visits. -/
theorem collect?_start (root : Node) :
    collect? Tour.round (2 * root.size) (.start root) = some root.walk := by
  have hrounds : 2 * root.size = 2 * root.size - 1 + 1 := by
    rw [root.size_eq]
    omega
  rw [hrounds, Tour.start, TreeCursor.top, collect?_tour]
  simp [collect?, Tour.round, TreeCursor.nextSibling?, TreeCursor.parent?, walk]

theorem tour_eq_walk (root : Node) : root.tour = root.walk := by
  rw [tour, collect?_start, Option.getD_some]

/-! ## Paths -/

/-- The node at the end of a path, with the nodes on the way, nearest first, and those above. -/
def atUnder? (above : List Node) (node : Node) : List Nat → Option (Node × List Node)
  | [] => some (node, above)
  | index :: path =>
    match node.children[index]? with
    | some child => child.atUnder? (node :: above) path
    | none => none

/-- The node at the end of a path from the root, with the nodes on the way, nearest first. -/
def at? (root : Node) (path : List Nat) : Option (Node × List Node) := root.atUnder? [] path

mutual

/-- The paths of all nodes of a tree. -/
def paths : Node → List (List Nat)
  | mk _ _ _ _ children => [] :: pathsFrom 0 children

/-- The paths of all nodes of siblings that are numbered from `index` on. -/
def pathsFrom (index : Nat) : List Node → List (List Nat)
  | [] => []
  | node :: rest => node.paths.map (index :: ·) ++ pathsFrom (index + 1) rest

end

theorem paths_eq (node : Node) : node.paths = [] :: pathsFrom 0 node.children := by
  cases node with
  | mk kind role start stop children => rw [paths]; rfl

theorem mem_pathsFrom {index : Nat} {nodes : List Node} {path : List Nat} :
    path ∈ pathsFrom index nodes ↔
      ∃ i node rest, nodes[i]? = some node ∧ rest ∈ node.paths ∧ path = (index + i) :: rest := by
  induction nodes generalizing index with
  | nil => simp [pathsFrom]
  | cons first others ih =>
    rw [pathsFrom, List.mem_append, List.mem_map, ih]
    constructor
    · rintro (⟨rest, hrest, rfl⟩ | ⟨i, node, rest, hnode, hrest, rfl⟩)
      · exact ⟨0, first, rest, rfl, hrest, rfl⟩
      · exact ⟨i + 1, node, rest, hnode, hrest, by rw [Nat.add_right_comm, Nat.add_assoc]⟩
    · rintro ⟨i, node, rest, hnode, hrest, rfl⟩
      cases i with
      | zero =>
        obtain rfl := Option.some.inj hnode
        exact .inl ⟨rest, hrest, rfl⟩
      | succ i => exact .inr ⟨i, node, rest, hnode, hrest, by rw [Nat.add_right_comm, Nat.add_assoc]⟩

/-- A path is listed exactly if it leads to a node. -/
theorem mem_paths_iff (node : Node) (above : List Node) (path : List Nat) :
    path ∈ node.paths ↔ (node.atUnder? above path).isSome = true := by
  induction path generalizing node above with
  | nil => simp [paths_eq, atUnder?]
  | cons index rest ih =>
    rw [paths_eq, List.mem_cons, mem_pathsFrom, atUnder?]
    cases hchild : node.children[index]? with
    | none =>
      simp only [reduceCtorEq, Option.isSome_none, false_or, Bool.false_eq_true, iff_false]
      rintro ⟨i, child, tail, hfound, _, heq⟩
      obtain ⟨rfl, rfl⟩ := List.cons.inj heq
      rw [Nat.zero_add, hfound] at hchild
      cases hchild
    | some child =>
      simp only [reduceCtorEq, false_or, ← ih]
      constructor
      · rintro ⟨i, found, tail, hfound, htail, heq⟩
        obtain ⟨rfl, rfl⟩ := List.cons.inj heq
        rw [Nat.zero_add, hfound] at hchild
        obtain rfl := Option.some.inj hchild
        exact htail
      · exact fun hrest => ⟨index, child, rest, hchild, hrest, by rw [Nat.zero_add]⟩

/-- Paths are listed in rising order. -/
theorem pairwise_pathsFrom {index : Nat} {nodes : List Node}
    (hnodes : ∀ node ∈ nodes, node.paths.Pairwise (· < ·)) :
    (pathsFrom index nodes).Pairwise (· < ·) := by
  induction nodes generalizing index with
  | nil => exact List.Pairwise.nil
  | cons node rest ih =>
    rw [List.forall_mem_cons] at hnodes
    rw [pathsFrom, List.pairwise_append, List.pairwise_map]
    refine ⟨hnodes.1.imp fun h => List.cons_lt_cons_iff.2 (.inr ⟨rfl, h⟩), ih hnodes.2, ?_⟩
    intro first hfirst second hsecond
    obtain ⟨tail, _, rfl⟩ := List.mem_map.1 hfirst
    obtain ⟨i, _, tail', _, _, rfl⟩ := mem_pathsFrom.1 hsecond
    exact List.cons_lt_cons_iff.2 (.inl (by omega))

theorem pairwise_paths (node : Node) : node.paths.Pairwise (· < ·) := by
  induction node using Node.children_induction with
  | step node ih =>
    rw [paths_eq, List.pairwise_cons]
    refine ⟨fun path hpath => ?_, pairwise_pathsFrom ih⟩
    obtain ⟨i, child, rest, _, _, rfl⟩ := mem_pathsFrom.1 hpath
    exact List.nil_lt_cons _ _

/-- A walk visits the nodes at the ends of the paths, in their order. -/
theorem map_walkUnder (node : Node) (above : List Node) :
    (node.walkUnder above).map some = node.paths.map (node.atUnder? above) := by
  induction node using Node.children_induction generalizing above with
  | step node ih =>
    have hsiblings : ∀ (before nodes : List Node), node.children = before ++ nodes →
        (nodes.flatMap (walkUnder (node :: above))).map some =
          (pathsFrom before.length nodes).map (node.atUnder? above) := by
      intro before nodes hsplit
      induction nodes generalizing before with
      | nil => rfl
      | cons child rest ihRest =>
        have hat : node.children[before.length]? = some child := by simp [hsplit]
        have hrest := ihRest (before ++ [child]) (by simp [hsplit])
        rw [List.length_append, List.length_singleton] at hrest
        have hchild := ih child (by simp [hsplit]) (node :: above)
        rw [List.flatMap_cons, List.map_append, hchild, hrest, pathsFrom, List.map_append,
          List.map_map]
        simp only [Function.comp_def, atUnder?, hat]
    have hchildren := hsiblings [] node.children rfl
    rw [List.length_nil] at hchildren
    rw [walkUnder_eq, paths_eq, List.map_cons, hchildren, List.map_cons, atUnder?]

/-- Whether a node is a function or an arrow whose body is a block. -/
def hosts (node : Node) : Bool :=
  (node.kind.isFunction || node.kind = .arrowFunction) &&
    (node.child? .body).any fun body => body.kind = .statementBlock

end Node

namespace Scope

/-- A node has a scope of its own exactly if it is a function or an arrow whose body is a block, and
the scope is that block. -/
theorem ofNode?_eq (node : Node) (above : List Node) :
    ofNode? node above =
      if node.hosts then (node.child? .body).map fun body => function body node above.head?
      else none := by
  unfold ofNode? Node.hosts
  by_cases hkind : (node.kind.isFunction || node.kind = .arrowFunction) = true
  · cases hbody : node.child? .body with
    | none => simp
    | some body => by_cases hblock : body.kind = .statementBlock <;> simp [hkind, hblock]
  · simp only [hkind, Bool.false_and, Bool.false_eq_true, ↓reduceIte]

/-- The functions that were found are those that the tour has met below the root. -/
theorem all_eq_filterMap (root : Node) :
    all root = module root :: root.tour.tail.filterMap fun (node, above) => ofNode? node above := by
  rw [all_eq, Node.scopes, Node.tour_eq_walk, Node.walk, Node.walkUnder_eq, List.tail_cons,
    List.filterMap_flatMap]
  congr 1
  exact List.flatMap_congr fun child _ => (filterMap_walkUnder child [root]).symm

/-- One scope for each node of a list that is a function or an arrow with a block, in their order. -/
theorem filterMap_ofNode? (entries : List (Node × List Node)) :
    (entries.filterMap fun (node, above) => ofNode? node above).map some =
      (entries.filter (·.1.hosts)).map fun (node, above) =>
        (node.child? .body).map fun body => function body node above.head? := by
  induction entries with
  | nil => rfl
  | cons entry rest ih =>
    obtain ⟨node, above⟩ := entry
    rw [List.filterMap_cons, List.filter_cons]
    simp only [ofNode?_eq node above]
    cases hhosts : node.hosts with
    | false => exact ih
    | true =>
      cases hbody : node.child? .body with
      | none => simp [Node.hosts, hbody] at hhosts
      | some body => simp [hbody, ih]

end Scope

/-- The tour visits every node once, parents first and children from left to right, and the search
finds the module and then one scope for each function with a block, in the same order. -/
theorem Node.tour_and_search_complete (root : Node) :
    (∃ bound, collect? Tour.round bound (.start root) = some root.tour) ∧
    root.tour = root.walk ∧
    (∃ paths : List (List Nat), paths.Pairwise (· < ·) ∧
      (∀ path, path ∈ paths ↔ (root.at? path).isSome = true) ∧
      root.tour.map some = paths.map root.at?) ∧
    (∃ bound, collect? Scope.round bound (Scope.push root []) = some (Scope.all root).tail) ∧
    (Scope.all root).head? = some (.module root) ∧
    (Scope.all root).tail.map some =
      (root.tour.tail.filter (·.1.hosts)).map fun (node, above) =>
        (node.child? .body).map fun body => .function body node above.head? := by
  refine ⟨⟨2 * root.size, root.tour_eq_walk ▸ root.collect?_start⟩, root.tour_eq_walk, ⟨root.paths, ?_, ?_, ?_⟩,
    ⟨root.size, ?_⟩, rfl, ?_⟩
  · exact root.pairwise_paths
  · exact root.mem_paths_iff []
  · rw [root.tour_eq_walk]
    exact root.map_walkUnder []
  · rw [Scope.collect?_push, Scope.all_eq]
    rfl
  · rw [Scope.all_eq_filterMap, List.tail_cons, Scope.filterMap_ofNode?]

end Prologue
