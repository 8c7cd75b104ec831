import Mathlib.Algebra.GroupWithZero.Nat
import Mathlib.Data.List.Basic
import Prologue.Directive.Scope

/-!
# Induction over trees, walks and scopes

A walk is a node followed by the walks of its children, and the scopes of a tree follow the same
recursion: a function's own scope first, then those of its children from left to right. Only the
parent of a function matters for its scope, not all the nodes above it. The search for functions keeps
a stack instead: it is through with a node on top of the stack after as many rounds as the node has
nodes, and has found what the recursion finds.
-/

namespace Prologue

namespace Node

/-- What holds of a node whenever it holds of its children holds of every node. -/
@[elab_as_elim]
theorem children_induction {P : Node → Prop}
    (step : ∀ node : Node, (∀ child ∈ node.children, P child) → P node) (node : Node) : P node :=
  match node with
  | mk _ _ _ _ children => step _ fun child (_ : child ∈ children) => children_induction step child

theorem walkAllUnder_eq (above : List Node) (nodes : List Node) :
    walkAllUnder above nodes = nodes.flatMap (walkUnder above) := by
  induction nodes with
  | nil => rfl
  | cons node rest ih => rw [walkAllUnder, ih, List.flatMap_cons]

theorem walkUnder_eq (above : List Node) (node : Node) :
    node.walkUnder above = (node, above) :: node.children.flatMap (walkUnder (node :: above)) := by
  cases node with
  | mk kind role start stop children => rw [walkUnder, walkAllUnder_eq]; rfl

theorem sizeAll_eq (nodes : List Node) : sizeAll nodes = (nodes.map size).sum := by
  induction nodes with
  | nil => rfl
  | cons node rest ih => rw [sizeAll, ih, List.map_cons, List.sum_cons]

theorem size_eq (node : Node) : node.size = (node.children.map size).sum + 1 := by
  cases node with
  | mk kind role start stop children => rw [size, sizeAll_eq]; rfl

mutual

/-- The scopes of the functions at and below a node, given the node's parent. -/
def scopesUnder (parent : Option Node) : Node → List Scope
  | mk kind role start stop children =>
    let node := mk kind role start stop children
    (Scope.ofNode? node parent.toList).toList ++ scopesAmong (some node) children

/-- The scopes of siblings, one after the other. -/
def scopesAmong (parent : Option Node) : List Node → List Scope
  | [] => []
  | node :: rest => scopesUnder parent node ++ scopesAmong parent rest

end

theorem scopesAmong_eq (parent : Option Node) (nodes : List Node) :
    scopesAmong parent nodes = nodes.flatMap (scopesUnder parent) := by
  induction nodes with
  | nil => rfl
  | cons node rest ih => rw [scopesAmong, ih, List.flatMap_cons]

theorem scopesUnder_eq (parent : Option Node) (node : Node) :
    node.scopesUnder parent = (Scope.ofNode? node parent.toList).toList ++
      node.children.flatMap (scopesUnder (some node)) := by
  cases node with
  | mk kind role start stop children => rw [scopesUnder, scopesAmong_eq]; rfl

/-- The module first, then the functions below the root, parents before children. -/
def scopes (root : Node) : List Scope :=
  .module root :: root.children.flatMap (scopesUnder (some root))

end Node

namespace Scope

/-- Of the nodes above a function only the nearest counts. -/
theorem ofNode?_head (node : Node) (above : List Node) :
    ofNode? node above = ofNode? node above.head?.toList := by
  cases above <;> rfl

/-- The functions met on a walk are those of the recursion. -/
theorem filterMap_walkUnder (node : Node) (above : List Node) :
    ((node.walkUnder above).filterMap fun (node, above) => ofNode? node above) =
      node.scopesUnder above.head? := by
  induction node using Node.children_induction generalizing above with
  | step node ih =>
    have hchildren : (node.children.flatMap (Node.walkUnder (node :: above))).filterMap
        (fun (node, above) => ofNode? node above) =
        node.children.flatMap (Node.scopesUnder (some node)) := by
      rw [List.filterMap_flatMap]
      exact List.flatMap_congr fun child h => ih child h (node :: above)
    rw [Node.walkUnder_eq, Node.scopesUnder_eq, List.filterMap_cons, hchildren]
    simp only [ofNode?_head node above]
    cases ofNode? node above.head?.toList <;> rfl

/-! ## The search with a stack -/

/-- The first child comes to lie on top. -/
theorem push_eq (node : Node) (stack : List (Node × Node)) :
    push node stack = node.children.map (·, node) ++ stack := by
  rw [push, List.foldl_reverse]
  induction node.children with
  | nil => rfl
  | cons child rest ih => rw [List.foldr_cons, ih]; rfl

/-- With one item after the other, each done with after as many rounds as it has nodes, the search is
done with all of them. -/
theorem collect?_items {parent : Node} {nodes : List Node}
    (hnodes : ∀ node ∈ nodes, ∀ bound stack,
      collect? round (node.size + bound) ((node, parent) :: stack) =
        (collect? round bound stack).map (node.scopesUnder (some parent) ++ ·))
    (bound : Nat) (stack : List (Node × Node)) :
    collect? round ((nodes.map Node.size).sum + bound) (nodes.map (·, parent) ++ stack) =
      (collect? round bound stack).map (nodes.flatMap (Node.scopesUnder (some parent)) ++ ·) := by
  induction nodes with
  | nil => simp
  | cons node rest ih =>
    rw [List.forall_mem_cons] at hnodes
    rw [List.map_cons, List.sum_cons, Nat.add_assoc, List.map_cons, List.cons_append, hnodes.1,
      ih hnodes.2, Option.map_map, List.flatMap_cons]
    simp only [Function.comp_def, List.append_assoc]

/-- The search is done with the node on top after as many rounds as the node has nodes. -/
theorem collect?_round (node parent : Node) (bound : Nat) (stack : List (Node × Node)) :
    collect? round (node.size + bound) ((node, parent) :: stack) =
      (collect? round bound stack).map (node.scopesUnder (some parent) ++ ·) := by
  induction node using Node.children_induction generalizing parent bound stack with
  | step node ih =>
    have hchildren := collect?_items (fun child hchild => ih child hchild node) bound stack
    rw [Node.size_eq, Nat.add_right_comm, collect?, round]
    simp only [push_eq, hchildren, Option.map_map]
    rw [Node.scopesUnder_eq]
    simp only [Function.comp_def, List.append_assoc]
    rfl

/-- The search ends, after one round for every node of the tree. -/
theorem collect?_push (root : Node) :
    collect? round root.size (push root []) =
      some (root.children.flatMap (Node.scopesUnder (some root))) := by
  rw [push_eq, Node.size_eq,
    collect?_items (fun child _ => collect?_round child root) 1 []]
  simp [collect?, round]

/-- The scopes of a tree are those of the recursion. -/
theorem all_eq (root : Node) : all root = root.scopes := by
  rw [all, collect?_push, Option.getD_some, Node.scopes]

/-- The scope that a node gives rise to is that of a function or an arrow with a block. -/
theorem ofNode?_eq_some_iff (node : Node) (above : List Node) (scope : Scope) :
    ofNode? node above = some scope ↔
      (node.kind.isFunction = true ∨ node.kind = .arrowFunction) ∧
        ∃ body, node.child? .body = some body ∧ body.kind = .statementBlock ∧
          scope = function body node above.head? := by
  unfold ofNode?
  cases hbody : node.child? .body with
  | none => simp
  | some body =>
    by_cases hkind : node.kind.isFunction = true ∨ node.kind = .arrowFunction
    · by_cases hblock : body.kind = .statementBlock
      · simp only [Bool.or_eq_true, decide_eq_true_eq, hkind, hblock, ↓reduceIte, true_and,
          Option.some.injEq, exists_eq_left']
        exact eq_comm
      · simp [hblock]
    · simp [hkind]

/-- The owner of the scope, if it has one, is a function or an arrow. -/
def HasFunctionOwner (scope : Scope) : Prop :=
  ∀ owner, scope.owner? = some owner →
    owner.kind.isFunction = true ∨ owner.kind = .arrowFunction

theorem hasFunctionOwner_of_mem_scopesUnder {node : Node} {parent : Option Node} {scope : Scope}
    (h : scope ∈ node.scopesUnder parent) : scope.HasFunctionOwner := by
  induction node using Node.children_induction generalizing parent with
  | step node ih =>
    rw [Node.scopesUnder_eq, List.mem_append, Option.mem_toList, ofNode?_eq_some_iff,
      List.mem_flatMap] at h
    rcases h with ⟨hkind, body, _, _, rfl⟩ | ⟨child, hchild, hscope⟩
    · intro owner howner
      obtain rfl : node = owner := by simpa [owner?] using howner
      exact hkind
    · exact ih child hchild hscope

theorem hasFunctionOwner_of_mem_scopes {root : Node} {scope : Scope} (h : scope ∈ root.scopes) :
    scope.HasFunctionOwner := by
  rcases List.mem_cons.1 h with rfl | h
  · intro owner howner
    simp [owner?] at howner
  · obtain ⟨child, _, hscope⟩ := List.mem_flatMap.1 h
    exact hasFunctionOwner_of_mem_scopesUnder hscope

end Scope

end Prologue
