import Prologue.Proofs.Layout
import Prologue.Proofs.Locality
import Prologue.Proofs.Openings

/-!
# Outlines

The outline of a scope is the sequence of its statements, each with its kind and, if it is a bare
string, with what stands between its quotes. It does not depend on where the scope stands in the
text, and the comments that are woven into a tree leave it alone but for HTML comments, which count
as statements.
-/

namespace Prologue

/-- What an outline tells of a statement. -/
structure Entry where
  kind : Kind
  literal : Option Bytes
  deriving DecidableEq

/-- Whether a statement is, or looks like, the directive. -/
def Entry.isDirective (entry : Entry) : Bool :=
  match entry.literal with
  | some bytes =>
    match Utf8.decode bytes with
    | .ok text => text = useRunner || nearMatch text useRunner
    | .error _ => false
  | none => false

/-- Where a statement of the module starts and stops, what the outline tells of it, and the outlines of
the functions in it. -/
structure Profile where
  start : Nat
  stop : Nat
  entry : Entry
  functions : List (List Entry)
  deriving DecidableEq

namespace Node

def entry (source : Bytes) (statement : Node) : Entry :=
  ⟨statement.kind, statement.literal? source⟩

/-- The statements of a program or a block. -/
def outline (source : Bytes) (container : Node) : List Entry :=
  container.statements.map (entry source)

/-- The blocks of the functions at and below a node. -/
def bodies (node : Node) : List Node := (node.scopesUnder none).map (·.container)

/-- The outlines of the functions at and below a node. -/
def outlines (source : Bytes) (node : Node) : List (List Entry) := node.bodies.map (outline source)

def profile (source : Bytes) (statement : Node) : Profile :=
  ⟨statement.start, statement.stop, statement.entry source, statement.outlines source⟩

end Node

namespace Source

/-- The outlines of all scopes, the module first. -/
def outlines (source : Source) : List (List Entry) :=
  (Scope.all source.tree).map fun scope => scope.container.outline source.bytes

/-- The profiles of the statements of the module, comments left out. -/
def profiles (source : Source) : List Profile :=
  (source.tree.children.filter (!·.kind.isNote)).map (Node.profile source.bytes)

end Source

/-! ## Scopes without their parents -/

namespace Node

theorem container_scopesUnder (node : Node) (parent : Option Node) :
    (node.scopesUnder parent).map (·.container) = node.bodies := by
  induction node using Node.children_induction generalizing parent with
  | step node ih =>
    have hown : ∀ above, (Scope.ofNode? node above).toList.map (·.container) =
        (Scope.ofNode? node []).toList.map (·.container) := by
      intro above
      unfold Scope.ofNode?
      split
      · cases node.child? .body with
        | none => rfl
        | some body => simp only; split <;> rfl
      · rfl
    rw [bodies, scopesUnder_eq, scopesUnder_eq none, List.map_append, List.map_append, hown,
      hown (Option.toList none)]

theorem bodies_eq (node : Node) :
    node.bodies = (Scope.ofNode? node []).toList.map (·.container) ++ node.children.flatMap bodies := by
  rw [bodies, scopesUnder_eq, List.map_append, List.map_flatMap]
  congr 1
  exact List.flatMap_congr fun child _ => container_scopesUnder child _

theorem bodies_eq_nil {node : Node} (hplain : node.Everywhere fun inner =>
    inner.kind.isFunction = false ∧ inner.kind ≠ .arrowFunction) : node.bodies = [] := by
  induction node using Node.children_induction with
  | step node ih =>
    rw [everywhere_iff] at hplain
    have hnone : Scope.ofNode? node [] = none := by simp [Scope.ofNode?, hplain.1]
    rw [bodies_eq, hnone, Option.toList_none, List.map_nil, List.nil_append, List.flatMap_eq_nil_iff]
    exact fun child hchild => ih child hchild (hplain.2 child hchild)

end Node

theorem Source.outlines_eq (source : Source) :
    source.outlines = source.tree.outline source.bytes ::
      source.tree.children.flatMap (Node.outlines source.bytes) := by
  rw [outlines, Scope.all_eq, Node.scopes, List.map_cons, List.map_flatMap]
  congr 1
  refine List.flatMap_congr fun child _ => ?_
  rw [Node.outlines, ← Node.container_scopesUnder child (some source.tree), List.map_map]
  rfl

/-! ## Outlines of moved trees -/

theorem Bytes.slice_drop (bytes : Bytes) (distance start stop : Nat) :
    slice (bytes.drop distance) start stop = bytes.slice (start + distance) (stop + distance) := by
  rw [slice, slice, List.take_drop, List.drop_drop, Nat.add_comm distance, Nat.add_comm distance]

namespace Node

variable (distance : Nat) (source : Bytes) (node : Node)

theorem literal?_shift :
    (node.shift distance).literal? source = node.literal? (source.drop distance) := by
  have hslice : ∀ expression : Node,
      source.slice ((expression.shift distance).start + 1) ((expression.shift distance).stop - 1) =
        Bytes.slice (source.drop distance) (expression.start + 1) (expression.stop - 1) := by
    intro expression
    rw [Bytes.slice_drop, start_shift, stop_shift]
    by_cases hstop : expression.stop = 0
    · have hempty : ∀ a b : Nat, b ≤ a → source.slice a b = [] := by
        intro a b hle
        exact List.drop_eq_nil_of_le (by rw [List.length_take]; omega)
      rw [hempty _ _ (by omega), hempty _ _ (by omega)]
    · congr 1 <;> omega
  have hfilter : (node.shift distance).children.filter (·.kind != .comment) =
      (node.children.filter (·.kind != .comment)).map (shift distance) := by
    rw [children_shift, List.filter_map]
    congr 2
    funext child
    simp
  unfold literal?
  rw [kind_shift, hfilter]
  split
  · cases node.children.filter (·.kind != .comment) with
    | nil => rfl
    | cons first rest =>
      cases rest with
      | nil => simp only [List.map_cons, List.map_nil, kind_shift, hslice]
      | cons second more => rfl
  · rfl

theorem entry_shift : (node.shift distance).entry source = node.entry (source.drop distance) := by
  rw [entry, entry, kind_shift, literal?_shift]

theorem statements_shift :
    (node.shift distance).statements = node.statements.map (shift distance) := by
  rw [statements, statements, children_shift, List.filter_map]
  congr 2
  funext child
  simp

theorem outline_shift :
    (node.shift distance).outline source = node.outline (source.drop distance) := by
  rw [outline, outline, statements_shift, List.map_map]
  congr 1
  funext statement
  exact entry_shift distance source statement

theorem bodies_shift : (node.shift distance).bodies = node.bodies.map (shift distance) := by
  induction node using Node.children_induction with
  | step node ih =>
    have hown : (Scope.ofNode? (node.shift distance) []).toList.map (·.container) =
        ((Scope.ofNode? node []).toList.map (·.container)).map (shift distance) := by
      unfold Scope.ofNode?
      rw [kind_shift, child?_shift]
      split
      · cases node.child? .body with
        | none => rfl
        | some body =>
          simp only [Option.map_some, kind_shift]
          split <;> rfl
      · rfl
    rw [bodies_eq, bodies_eq node, hown, children_shift, List.map_append, List.flatMap_map,
      List.map_flatMap]
    congr 1
    exact List.flatMap_congr ih

theorem outlines_shift :
    (node.shift distance).outlines source = node.outlines (source.drop distance) := by
  rw [outlines, outlines, bodies_shift, List.map_map]
  congr 1
  funext body
  exact outline_shift distance source body

theorem has_shift (kind : Kind) : (node.shift distance).has kind = node.has kind := by
  induction node using Node.children_induction with
  | step node ih =>
    rw [has_eq, has_eq kind node, kind_shift, children_shift, List.any_map]
    congr 1
    rw [Bool.eq_iff_iff, List.any_eq_true, List.any_eq_true]
    refine exists_congr fun child => and_congr_right fun hchild => ?_
    rw [Function.comp_apply, ih child hchild]

end Node

/-! ## Outlines in texts that begin alike -/

namespace Node

variable {a b : Bytes} {node : Node}

theorem literal?_congr (horderly : node.Everywhere Orderly)
    (h : a.take node.stop = b.take node.stop) : node.literal? a = node.literal? b := by
  have hslice : ∀ expression ∈ node.children.filter (·.kind != .comment),
      a.slice (expression.start + 1) (expression.stop - 1) =
        b.slice (expression.start + 1) (expression.stop - 1) := by
    intro expression hmem
    have hinside := (horderly.self.inside expression (List.mem_filter.1 hmem).1).2
    have htake := congrArg (List.take (expression.stop - 1)) h
    rw [List.take_take, List.take_take, Nat.min_eq_left (by omega)] at htake
    rw [Bytes.slice, Bytes.slice, htake]
  unfold literal?
  split
  · cases hfilter : node.children.filter (·.kind != .comment) with
    | nil => rfl
    | cons first rest =>
      cases rest with
      | nil =>
        simp only
        rw [hslice first (by rw [hfilter]; exact List.mem_cons_self)]
      | cons second more => rfl
  · rfl

theorem entry_congr (horderly : node.Everywhere Orderly)
    (h : a.take node.stop = b.take node.stop) : node.entry a = node.entry b := by
  rw [entry, entry, literal?_congr horderly h]

theorem inside_of_mem_bodies (horderly : node.Everywhere Orderly) :
    ∀ body ∈ node.bodies, body.stop ≤ node.stop ∧ body.Everywhere Orderly := by
  induction node using Node.children_induction with
  | step node ih =>
    intro body hmem
    rw [bodies_eq, List.mem_append] at hmem
    rcases hmem with hown | hbelow
    · obtain ⟨scope, hscope, rfl⟩ := List.mem_map.1 hown
      rw [Option.mem_toList, Scope.ofNode?_eq_some_iff] at hscope
      obtain ⟨_, body, hbody, _, rfl⟩ := hscope
      have hchild := List.mem_of_find?_eq_some hbody
      exact ⟨(horderly.self.inside body hchild).2, horderly.child hchild⟩
    · obtain ⟨child, hchild, hmem⟩ := List.mem_flatMap.1 hbelow
      obtain ⟨hstop, hbody⟩ := ih child hchild (horderly.child hchild) body hmem
      exact ⟨Nat.le_trans hstop (horderly.self.inside child hchild).2, hbody⟩

theorem outlines_congr (horderly : node.Everywhere Orderly)
    (h : a.take node.stop = b.take node.stop) : node.outlines a = node.outlines b := by
  refine List.map_congr_left fun body hbody => List.map_congr_left fun statement hmem => ?_
  obtain ⟨hstop, hinner⟩ := inside_of_mem_bodies horderly body hbody
  have hchild := (List.mem_filter.1 hmem).1
  have hinside := (hinner.self.inside statement hchild).2
  have htake := congrArg (List.take statement.stop) h
  rw [List.take_take, List.take_take, Nat.min_eq_left (by omega)] at htake
  exact entry_congr (hinner.child hchild) htake

end Node

/-! ## Weaving -/

namespace Node

theorem weave_eq (notes : List Node) (node : Node) :
    node.weave notes =
      mk node.kind node.role node.start node.stop (weaveAll notes node.children) := by
  cases node
  rfl

@[simp] theorem kind_weave (notes : List Node) (node : Node) :
    (node.weave notes).kind = node.kind := by rw [weave_eq]; rfl

@[simp] theorem start_weave (notes : List Node) (node : Node) :
    (node.weave notes).start = node.start := by rw [weave_eq]; rfl

@[simp] theorem stop_weave (notes : List Node) (node : Node) :
    (node.weave notes).stop = node.stop := by rw [weave_eq]; rfl

theorem children_weave (notes : List Node) (node : Node) :
    (node.weave notes).children = weaveAll notes node.children := by rw [weave_eq]; rfl

/-- Weaving notes into a node that has been moved. -/
theorem weave_shift (distance : Nat) (node : Node) (notes : List Node) :
    (node.shift distance).weave (notes.map (shift distance)) =
      (node.weave notes).shift distance := by
  induction node using Node.children_induction generalizing notes with
  | step node ih =>
    have hall : ∀ (nodes notes : List Node), (∀ child ∈ nodes, child ∈ node.children) →
        weaveAll (notes.map (shift distance)) (nodes.map (shift distance)) =
          (weaveAll notes nodes).map (shift distance) := by
      intro nodes
      induction nodes with
      | nil => exact fun notes _ => rfl
      | cons child rest ihrest =>
        intro notes hmem
        rw [List.forall_mem_cons] at hmem
        have hbound : ∀ bound, (fun note : Node => decide (note.start < bound + distance)) ∘
            shift distance = fun note => decide (note.start < bound) := by
          intro bound
          funext note
          simp
        simp only [List.map_cons, weaveAll, start_shift, stop_shift, List.takeWhile_map,
          List.dropWhile_map, hbound, ih child hmem.1, ihrest _ hmem.2, List.map_append]
    rw [weave_eq, weave_eq notes, shift_mk, kind_shift, role_shift, start_shift, stop_shift,
      children_shift, hall _ _ fun child h => h]

theorem has_weave (kind : Kind) (node : Node) (notes : List Node) :
    (node.weave notes).has kind = (node.has kind || notes.any (has kind)) := by
  induction node using Node.children_induction generalizing notes with
  | step node ih =>
    have hall : ∀ (nodes notes : List Node), (∀ child ∈ nodes, child ∈ node.children) →
        (weaveAll notes nodes).any (has kind) =
          (nodes.any (has kind) || notes.any (has kind)) := by
      intro nodes
      induction nodes with
      | nil => exact fun notes _ => rfl
      | cons child rest ihrest =>
        intro notes hmem
        rw [List.forall_mem_cons] at hmem
        have hsplit : ∀ (nodes : List Node) (test : Node → Bool), nodes.any (has kind) =
            ((nodes.takeWhile test).any (has kind) || (nodes.dropWhile test).any (has kind)) := by
          intro nodes test
          rw [← List.any_append, List.takeWhile_append_dropWhile]
        rw [weaveAll, List.any_append, List.any_cons, List.any_cons, ih child hmem.1,
          ihrest _ hmem.2, hsplit notes (·.start < child.start),
          hsplit (notes.dropWhile _) (·.start < child.stop)]
        ac_rfl
    rw [weave_eq, has_eq, has_eq kind node, Bool.or_assoc, ← hall _ _ fun child h => h]
    rfl

/-- Notes before a node, in it and behind it are told apart by where they start. -/
theorem weaveAll_cons_append {before inside behind : List Node} {node : Node}
    (hbounds : node.start ≤ node.stop)
    (hbefore : ∀ note ∈ before, note.start < node.start)
    (hinside : ∀ note ∈ inside, node.start ≤ note.start ∧ note.start < node.stop)
    (hbehind : ∀ note ∈ behind, node.stop ≤ note.start) (rest : List Node) :
    weaveAll (before ++ (inside ++ behind)) (node :: rest) =
      before ++ node.weave inside :: weaveAll behind rest := by
  have hlater : ∀ note ∈ inside ++ behind, ¬ note.start < node.start := by
    intro note hmem
    rcases List.mem_append.1 hmem with h | h
    · have := hinside note h
      omega
    · have := hbehind note h
      omega
  have htake : ∀ (first second : List Node) (bound : Nat), (∀ note ∈ first, note.start < bound) →
      (∀ note ∈ second, ¬ note.start < bound) →
      (first ++ second).takeWhile (·.start < bound) = first ∧
        (first ++ second).dropWhile (·.start < bound) = second := by
    intro first second bound hfirst hsecond
    have hstop : second.takeWhile (·.start < bound) = [] ∧
        second.dropWhile (·.start < bound) = second := by
      cases second with
      | nil => exact ⟨rfl, rfl⟩
      | cons note rest => simp [hsecond note (List.mem_cons_self ..)]
    rw [List.takeWhile_append_of_pos (by simpa using hfirst),
      List.dropWhile_append_of_pos (by simpa using hfirst), hstop.1, hstop.2, List.append_nil]
    exact ⟨rfl, rfl⟩
  obtain ⟨htakeBefore, hdropBefore⟩ := htake before (inside ++ behind) node.start hbefore hlater
  obtain ⟨htakeInside, hdropInside⟩ := htake inside behind node.stop
    (fun note h => (hinside note h).2) (fun note h => Nat.not_lt.2 (hbehind note h))
  rw [weaveAll, htakeBefore, hdropBefore, htakeInside, hdropInside]

end Node

end Prologue
