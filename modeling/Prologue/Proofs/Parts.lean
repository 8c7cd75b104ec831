import Prologue.Index.Discovery
import Prologue.Proofs.Alignment

/-!
# Parts of nodes

What a node can hold is computed from the rules: how many nodes of a frame can play a part, be
declarators or be arrows. From this a declarator stands in a declaration of variables only, an arrow
right below a declarator is its value, and an arrow has no name of its own. Comments play no part, so
the same holds of trees with their comments.
-/

namespace Prologue

/-- What is counted among the nodes of a frame. -/
inductive Feature where
  | any
  | value
  | declarator
  | name
  | arrow
  /-- An arrow that is not a value. -/
  | loose
  deriving DecidableEq

def Feature.holds : Feature → Kind → Role → Bool
  | any, _, _ => true
  | value, _, role => role = .value
  | declarator, kind, _ => kind = .variableDeclarator
  | name, _, role => role = .name
  | arrow, kind, _ => kind = .arrowFunction
  | loose, kind, role => kind = .arrowFunction && role != .value

namespace Node

/-- Number of the nodes that have the feature. -/
def tally (nodes : List Node) (feature : Feature) : Nat :=
  nodes.countP fun node => feature.holds node.kind node.role

theorem tally_append (first second : List Node) (feature : Feature) :
    tally (first ++ second) feature = tally first feature + tally second feature :=
  List.countP_append

/-- What a node holds is in keeping with its kind. -/
structure Regular (node : Node) : Prop where
  declared : node.kind.declaresVariables = false → tally node.children .declarator = 0
  bound : node.kind = .variableDeclarator →
    tally node.children .value ≤ 1 ∧ tally node.children .loose = 0
  nameless : node.kind = .arrowFunction → tally node.children .name = 0

/-- A declarator stands in a declaration of variables only. -/
theorem Regular.declaresVariables {node child : Node} (h : node.Regular)
    (hchild : child ∈ node.children) (hkind : child.kind = .variableDeclarator) :
    node.kind.declaresVariables = true := by
  by_contra hother
  have hnone := List.countP_eq_zero.1 (h.declared (Bool.not_eq_true _ ▸ hother)) child hchild
  exact hnone (by simp [Feature.holds, hkind])

/-- An arrow right below a declarator is its value. -/
theorem Regular.child?_value {node child : Node} (h : node.Regular)
    (hkind : node.kind = .variableDeclarator) (hchild : child ∈ node.children)
    (harrow : child.kind = .arrowFunction) : node.child? .value = some child := by
  obtain ⟨hvalues, hloose⟩ := h.bound hkind
  have hrole : child.role = .value := by
    have hnot := List.countP_eq_zero.1 hloose child hchild
    simpa [Feature.holds, harrow] using hnot
  -- There is one value at most, so the first is the arrow.
  obtain ⟨before, behind, hsplit⟩ := List.append_of_mem hchild
  have hbefore : ∀ other ∈ before, ¬ other.role = .value := by
    have hone : decide (child.role = .value) = true := by simpa using hrole
    rw [hsplit, tally, List.countP_append, List.countP_cons] at hvalues
    simp only [Feature.holds, hone, if_true] at hvalues
    have hnone : before.countP (fun node => decide (node.role = .value)) = 0 := by omega
    simpa using List.countP_eq_zero.1 hnone
  rw [child?, hsplit, List.find?_append, List.find?_eq_none.2 (by simpa using hbefore),
    Option.none_or, List.find?_cons_of_pos (by simpa using hrole)]

/-- An arrow has no name of its own. -/
theorem Regular.child?_name {node : Node} (h : node.Regular) (hkind : node.kind = .arrowFunction) :
    node.child? .name = none := by
  have hnone := List.countP_eq_zero.1 (h.nameless hkind)
  rw [child?, List.find?_eq_none]
  exact fun child hmem => by simpa [Feature.holds] using hnone child hmem

end Node

namespace Grammar

/-! ## Tallies -/

/-- How many nodes of a frame can have each feature. Two stands for any number. -/
structure Tally where
  any : Nat
  value : Nat
  declarator : Nat
  name : Nat
  arrow : Nat
  loose : Nat
  deriving DecidableEq

namespace Tally

def most (tally : Tally) : Feature → Nat
  | .any => tally.any
  | .value => tally.value
  | .declarator => tally.declarator
  | .name => tally.name
  | .arrow => tally.arrow
  | .loose => tally.loose

def of (amount : Feature → Nat) : Tally :=
  ⟨amount .any, amount .value, amount .declarator, amount .name, amount .arrow, amount .loose⟩

@[simp] theorem most_of (amount : Feature → Nat) (feature : Feature) :
    (of amount).most feature = amount feature := by
  cases feature <;> rfl

theorem of_most (tally : Tally) : of tally.most = tally := rfl

def empty : Tally := of fun _ => 0

/-- One node that plays no part. -/
def single (kind : Kind) : Tally := of fun feature => if feature.holds kind .plain then 1 else 0

def join (a b : Tally) : Tally := of fun feature => max (a.most feature) (b.most feature)

def add (a b : Tally) : Tally := of fun feature => a.most feature + b.most feature

/-- The first tally, where the second exceeds it any number. -/
def widen (a b : Tally) : Tally :=
  of fun feature => if b.most feature ≤ a.most feature then a.most feature else 2

def capped (tally : Tally) : Tally := of fun feature => min 2 (tally.most feature)

def le (a b : Tally) : Bool :=
  [Feature.any, .value, .declarator, .name, .arrow, .loose].all fun feature =>
    a.most feature ≤ b.most feature

/-- The same nodes in another part. -/
def withRole (part : Role) (tally : Tally) : Tally := of fun
  | .any => tally.any
  | .value => if part = .value then tally.any else 0
  | .declarator => tally.declarator
  | .name => if part = .name then tally.any else 0
  | .arrow => tally.arrow
  | .loose => if part = .value then 0 else tally.arrow

/-- Whether nodes so counted make a regular node of the kind. -/
def admits (tally : Tally) (kind : Kind) : Bool :=
  (kind.declaresVariables || tally.declarator = 0) &&
    (kind != .variableDeclarator || (tally.value ≤ 1 && tally.loose = 0)) &&
    (kind != .arrowFunction || tally.name = 0)

/-- Goes on with an amount that was computed, so that no amount is computed twice. -/
def settleAmount {α : Type} (amount : Nat) (next : Nat → α) : α :=
  match amount with
  | 0 => next 0
  | 1 => next 1
  | _ => next 2

/-- Goes on with the capped tally. -/
def settle {α : Type} (tally : Tally) (next : Tally → α) : α :=
  settleAmount tally.any fun any => settleAmount tally.value fun value =>
    settleAmount tally.declarator fun declarator => settleAmount tally.name fun name =>
      settleAmount tally.arrow fun arrow => settleAmount tally.loose fun loose =>
        next ⟨any, value, declarator, name, arrow, loose⟩

theorem settleAmount_eq {α : Type} (amount : Nat) (next : Nat → α) :
    settleAmount amount next = next (min 2 amount) := by
  unfold settleAmount
  split
  · rfl
  · rfl
  next hzero hone =>
    have hmany : 2 ≤ amount := by
      rcases amount with _ | _ | amount
      · exact absurd rfl hzero
      · exact absurd rfl hone
      · omega
    rw [Nat.min_eq_left hmany]

theorem settle_eq {α : Type} (tally : Tally) (next : Tally → α) :
    tally.settle next = next tally.capped := by
  simp only [settle, settleAmount_eq]
  rfl

theorem le_iff (a b : Tally) : a.le b = true ↔ ∀ feature, a.most feature ≤ b.most feature := by
  simp only [le, List.all_eq_true, decide_eq_true_eq]
  refine ⟨fun h feature => h feature ?_, fun h feature _ => h feature⟩
  cases feature <;> decide

/-- No more nodes have a feature than the tally says. -/
def Bounds (tally : Tally) (nodes : List Node) : Prop :=
  ∀ feature, tally.most feature < 2 → Node.tally nodes feature ≤ tally.most feature

namespace Bounds

variable {a b : Tally} {nodes others : List Node}

theorem mono (h : a.Bounds nodes)
    (hle : ∀ feature, b.most feature < 2 → a.most feature ≤ b.most feature) : b.Bounds nodes := by
  intro feature hfew
  have hamount := hle feature hfew
  exact Nat.le_trans (h feature (by omega)) hamount

theorem empty : Tally.empty.Bounds [] := fun _ _ => Nat.zero_le _

theorem join_left (h : a.Bounds nodes) : (a.join b).Bounds nodes :=
  h.mono fun feature _ => by
    rw [join, most_of]
    exact Nat.le_max_left _ _

theorem join_right (h : b.Bounds nodes) : (a.join b).Bounds nodes :=
  h.mono fun feature _ => by
    rw [join, most_of]
    exact Nat.le_max_right _ _

theorem capped (h : a.Bounds nodes) : a.capped.Bounds nodes :=
  h.mono fun feature hfew => by
    simp only [Tally.capped, most_of] at hfew ⊢
    omega

theorem append (ha : a.Bounds nodes) (hb : b.Bounds others) :
    (a.add b).Bounds (others ++ nodes) := by
  intro feature hfew
  have hnodes := ha feature
  have hothers := hb feature
  simp only [add, most_of] at hfew ⊢
  rw [Node.tally_append]
  omega

theorem single (kind : Kind) (start stop : Nat) (children : List Node) :
    (Tally.single kind).Bounds [.mk kind .plain start stop children] := by
  intro feature _
  rw [Node.tally, List.countP_singleton, Tally.single, most_of]
  exact Nat.le_refl _

theorem withRole (h : a.Bounds nodes) (part : Role) :
    (a.withRole part).Bounds (nodes.map (Node.withRole part)) := by
  have hpart : ∀ feature, Node.tally (nodes.map (Node.withRole part)) feature =
      nodes.countP fun node => feature.holds node.kind part := by
    intro feature
    rw [Node.tally, List.countP_map]
    refine List.countP_congr fun node _ => ?_
    obtain ⟨kind, role, start, stop, children⟩ := node
    rfl
  intro feature hfew
  rw [hpart]
  cases feature with
  | any => exact h .any hfew
  | declarator => exact h .declarator hfew
  | arrow => exact h .arrow hfew
  | value =>
    simp only [Tally.withRole, most_of] at hfew ⊢
    by_cases hvalue : part = .value
    · simp only [hvalue, if_true] at hfew ⊢
      exact h .any hfew
    · simp [Feature.holds, hvalue]
  | name =>
    simp only [Tally.withRole, most_of] at hfew ⊢
    by_cases hname : part = .name
    · simp only [hname, if_true] at hfew ⊢
      exact h .any hfew
    · simp [Feature.holds, hname]
  | loose =>
    simp only [Tally.withRole, most_of] at hfew ⊢
    by_cases hvalue : part = .value
    · simp [Feature.holds, hvalue]
    · simp only [hvalue, if_false] at hfew ⊢
      have hrole : (part != .value) = true := bne_iff_ne.2 hvalue
      simp only [Feature.holds, hrole, Bool.and_true]
      exact h .arrow hfew

/-- Nodes that a kind admits make a regular node. -/
theorem regular (h : a.Bounds nodes) {kind : Kind} (hadmits : a.admits kind = true)
    (start stop : Nat) : (Node.mk kind .plain start stop nodes.reverse).Regular := by
  have hfew : ∀ {feature : Feature} {bound : Nat}, bound < 2 → a.most feature ≤ bound →
      Node.tally nodes.reverse feature ≤ bound := by
    intro feature bound hbound hmost
    rw [Node.tally, List.countP_reverse]
    exact Nat.le_trans (h feature (by omega)) hmost
  simp only [admits, Bool.and_eq_true, Bool.or_eq_true, decide_eq_true_eq, bne_iff_ne] at hadmits
  obtain ⟨⟨hdeclared, hbound⟩, hnameless⟩ := hadmits
  refine ⟨fun hkind => ?_, fun hkind => ?_, fun hkind => ?_⟩
  · rw [show kind.declaresVariables = false from hkind] at hdeclared
    exact Nat.le_zero.1 (hfew (by decide) (Nat.le_of_eq (hdeclared.resolve_left (by decide))))
  · obtain ⟨hvalue, hloose⟩ := hbound.resolve_left (fun hne => hne hkind)
    exact ⟨hfew (by decide) hvalue, Nat.le_zero.1 (hfew (by decide) (Nat.le_of_eq hloose))⟩
  · exact Nat.le_zero.1
      (hfew (by decide) (Nat.le_of_eq (hnameless.resolve_left fun hne => hne hkind)))

end Bounds

end Tally

/-! ## What the rules leave -/

/-- What a goal can leave: one node, which is an arrow only if it is an expression. -/
def Goal.leaves : Goal → Tally
  | .expressions _ | .expression _ | .operand _ => .single .arrowFunction
  | _ => .single .program

/-- What is in the frame behind a rule; none if the rule could make an irregular node. -/
def Rule.leaves (known : Tally) : Rule → Option Tally
  | never => some .empty
  | leaf kind _ => some (known.add (.single kind))
  | seq first second =>
    match first.leaves known with
    | some next => next.settle fun next => second.leaves next
    | none => none
  | alt first second =>
    match first.leaves known, second.leaves known with
    | some a, some b => some (a.join b)
    | _, _ => none
  | star rule =>
    match rule.leaves known with
    | some round =>
      (known.widen round).settle fun wide =>
        match rule.leaves wide with
        | some again => again.settle fun again => if again.le wide then some wide else none
        | none => none
    | none => none
  | frame rule => (rule.leaves .empty).map known.add
  | role part rule => (rule.leaves .empty).map fun inner => known.add (inner.withRole part)
  | fold kind => if known.admits kind then some (.single kind) else none
  | goal g => some (known.add g.leaves)
  | _ => some known

theorem rules_leaves (dialect : Dialect) (goal : Goal) :
    ((rules dialect goal).leaves .empty).any (·.le goal.leaves) = true := by
  cases dialect <;> cases goal <;> first | decide | (rename_i mode; cases mode <;> decide)

theorem exists_leaves (dialect : Dialect) (goal : Goal) :
    ∃ tally, (rules dialect goal).leaves .empty = some tally ∧
      ∀ feature, tally.most feature ≤ goal.leaves.most feature := by
  have hrules := rules_leaves dialect goal
  cases htally : (rules dialect goal).leaves .empty with
  | none => simp [htally] at hrules
  | some tally =>
    rw [htally, Option.any_some, Tally.le_iff] at hrules
    exact ⟨tally, rfl, hrules⟩

theorem Rule.leaves_of_looks {rule : Rule} (h : rule.looks = true) (known : Tally) :
    rule.leaves known = some known := by
  cases rule <;> first | rfl | cases h

/-- What a repetition can leave is kept by one more round. -/
theorem Rule.leaves_star {rule : Rule} {known next : Tally}
    (h : (star rule).leaves known = some next) :
    (∀ feature, next.most feature < 2 → known.most feature ≤ next.most feature) ∧
      (star rule).leaves next = some next ∧
      ∃ round, rule.leaves next = some round ∧
        ∀ feature, next.most feature < 2 → round.most feature ≤ next.most feature := by
  simp only [leaves, Tally.settle_eq] at h
  split at h
  next first hfirst =>
    split at h
    next again hagain =>
      split at h
      next hle =>
        obtain rfl := Option.some.inj h
        rw [Tally.le_iff] at hle
        refine ⟨fun feature => ?_, ?_, again, hagain, fun feature => ?_⟩
        · simp only [Tally.capped, Tally.widen, Tally.most_of]
          split <;> omega
        · have hsame : ((known.widen first).capped.widen again).capped =
              (known.widen first).capped := by
            conv => rhs; rw [← (known.widen first).capped.of_most]
            rw [Tally.capped]
            congr 1
            funext feature
            have hround := hle feature
            simp only [Tally.capped, Tally.widen, Tally.most_of] at hround ⊢
            repeat' split at hround
            all_goals repeat' split
            all_goals omega
          simp only [leaves, Tally.settle_eq, hagain, hsame]
          rw [if_pos ((Tally.le_iff _ _).2 hle)]
        · have hround := hle feature
          simp only [Tally.capped, Tally.most_of] at hround ⊢
          omega
      · cases h
    · cases h
  · cases h

theorem State.nodes_take {state next : State} {token : Token} (h : state.take token = some next) :
    next.nodes = state.nodes := by
  obtain ⟨width, _, rfl⟩ := Option.map_eq_some_iff.1 h
  rfl

theorem everywhere_regular_withRole {node : Node} (h : node.Everywhere Node.Regular) (part : Role) :
    (node.withRole part).Everywhere Node.Regular := by
  obtain ⟨kind, role, start, stop, children⟩ := node
  obtain ⟨⟨hdeclared, hbound, hnameless⟩, hchildren⟩ := (Node.everywhere_iff _ _).1 h
  exact (Node.everywhere_iff _ _).2 ⟨⟨hdeclared, hbound, hnameless⟩, hchildren⟩

theorem everywhere_regular_of_nil (kind : Kind) (role : Role) (start stop : Nat) :
    (Node.mk kind role start stop []).Everywhere Node.Regular :=
  (Node.everywhere_iff _ _).2
    ⟨⟨fun _ => rfl, fun _ => ⟨Nat.zero_le _, rfl⟩, fun _ => rfl⟩, by simp [Node.children]⟩

/-- The nodes of a frame are regular, and no more than the tally says. -/
structure State.Regular (tally : Tally) (state : State) : Prop where
  bounds : tally.Bounds state.nodes
  nodes : ∀ node ∈ state.nodes, node.Everywhere Node.Regular

namespace State.Regular

variable {known inside : Tally} {state outer inner next : State}

theorem of_nodes (h : state.Regular known) (hnodes : next.nodes = state.nodes) :
    next.Regular known :=
  ⟨by rw [hnodes]; exact h.bounds, by rw [hnodes]; exact h.nodes⟩

theorem token (h : state.Regular known) {t : Token} (htake : state.skip.take t = some next) :
    next.Regular known := by
  have hnodes := State.nodes_take htake
  exact h.of_nodes hnodes

theorem mono (h : state.Regular inside)
    (hle : ∀ feature, known.most feature < 2 → inside.most feature ≤ known.most feature) :
    state.Regular known :=
  ⟨h.bounds.mono hle, h.nodes⟩

theorem opened (state : State) : state.opened.Regular .empty :=
  ⟨.empty, fun _ hmem => (List.not_mem_nil hmem).elim⟩

theorem closed (houter : outer.Regular known) (hinner : inner.Regular inside) :
    (outer.closed inner).Regular (known.add inside) := by
  refine ⟨houter.bounds.append hinner.bounds, ?_⟩
  rw [State.closed, List.forall_mem_append]
  exact ⟨hinner.nodes, houter.nodes⟩

theorem leaf (h : state.Regular known) {kind : Kind} {t : Token}
    (htake : state.skip.take t = some next) (start stop : Nat) :
    ({ next with nodes := .mk kind .plain start stop [] :: next.nodes } : State).Regular
      (known.add (.single kind)) := by
  have hnext := h.token htake
  refine ⟨hnext.bounds.append (.single _ _ _ _), ?_⟩
  rw [List.forall_mem_cons]
  exact ⟨everywhere_regular_of_nil _ _ _ _, hnext.nodes⟩

theorem fold (h : state.Regular known) {kind : Kind} (hadmits : known.admits kind = true) :
    (state.fold kind).Regular (.single kind) := by
  refine ⟨.single _ _ _ _, ?_⟩
  rw [State.fold, List.forall_mem_singleton]
  exact (Node.everywhere_iff _ _).2 ⟨h.bounds.regular hadmits _ _, fun child hmem =>
    h.nodes child (List.mem_reverse.1 hmem)⟩

theorem map_withRole (h : state.Regular known) (part : Role) :
    ({ state with nodes := state.nodes.map (Node.withRole part) } : State).Regular
      (known.withRole part) := by
  refine ⟨h.bounds.withRole part, ?_⟩
  rw [List.forall_mem_map]
  exact fun node hmem => everywhere_regular_withRole (h.nodes node hmem) part

end State.Regular

/-- Whatever a rule reads, its nodes are regular and no more than it can leave. -/
theorem Derives.regular {dialect : Dialect} {rule : Rule} {a b : State}
    (h : Derives dialect rule a b) {known next : Tally} (hleaves : rule.leaves known = some next)
    (ha : a.Regular known) : b.Regular next := by
  induction h generalizing known next with
  | look hlooks =>
    rw [Rule.leaves_of_looks hlooks] at hleaves
    obtain rfl := Option.some.inj hleaves
    exact ha
  | token htake =>
    obtain rfl := Option.some.inj hleaves
    exact ha.token htake
  | leaf htake =>
    obtain rfl := Option.some.inj hleaves
    exact ha.leaf htake _ _
  | glued htake =>
    obtain rfl := Option.some.inj hleaves
    exact ha.of_nodes (State.nodes_take htake)
  | seq _ _ ihFirst ihSecond =>
    simp only [Rule.leaves, Tally.settle_eq] at hleaves
    split at hleaves
    next middle hmiddle =>
      have hbetween := ihFirst hmiddle ha
      exact ihSecond hleaves ⟨hbetween.bounds.capped, hbetween.nodes⟩
    · cases hleaves
  | left _ ih =>
    simp only [Rule.leaves] at hleaves
    split at hleaves
    next hfirst _ =>
      obtain rfl := Option.some.inj hleaves
      have hread := ih hfirst ha
      exact ⟨hread.bounds.join_left, hread.nodes⟩
    · cases hleaves
  | right _ ih =>
    simp only [Rule.leaves] at hleaves
    split at hleaves
    next _ hsecond =>
      obtain rfl := Option.some.inj hleaves
      have hread := ih hsecond ha
      exact ⟨hread.bounds.join_right, hread.nodes⟩
    · cases hleaves
  | finish => exact ha.mono (Rule.leaves_star hleaves).1
  | again _ _ ihRound ihRest =>
    obtain ⟨hmore, hagain, round, hround, hkept⟩ := Rule.leaves_star hleaves
    exact ihRest hagain ((ihRound hround (ha.mono hmore)).mono hkept)
  | frame _ ih =>
    obtain ⟨inside, hinside, rfl⟩ := Option.map_eq_some_iff.1 hleaves
    exact ha.closed (ih hinside (.opened _))
  | fold =>
    rw [Rule.leaves, Option.ite_none_right_eq_some] at hleaves
    obtain ⟨hadmits, hnext⟩ := hleaves
    obtain rfl := Option.some.inj hnext
    exact ha.fold hadmits
  | role _ ih =>
    obtain ⟨inside, hinside, rfl⟩ := Option.map_eq_some_iff.1 hleaves
    exact ha.closed ((ih hinside (.opened _)).map_withRole _)
  | implied _ =>
    obtain rfl := Option.some.inj hleaves
    exact ha.of_nodes rfl
  | written htake =>
    obtain rfl := Option.some.inj hleaves
    exact ha.token htake
  | settled _ =>
    obtain rfl := Option.some.inj hleaves
    exact ha.of_nodes rfl
  | unsettled =>
    obtain rfl := Option.some.inj hleaves
    exact ha
  | htmlComments =>
    obtain rfl := Option.some.inj hleaves
    exact ha.of_nodes (State.nodes_skipHtml _)
  | @goal g _ _ _ ih =>
    obtain rfl := Option.some.inj hleaves
    obtain ⟨inside, hinside, hle⟩ := exists_leaves dialect g
    exact ha.closed ((ih hinside (.opened _)).mono fun feature _ => hle feature)

/-! ## The whole text -/

/-- What stands in a program: anything but a declarator. -/
def Tally.statements : Tally := of fun feature => if feature = .declarator then 0 else 2

theorem Tally.bounds_statements_cons {node : Node} {nodes : List Node}
    (h : statements.Bounds nodes) (hkind : node.kind ≠ .variableDeclarator) :
    statements.Bounds (node :: nodes) := by
  intro feature hfew
  have hrest := h feature hfew
  simp only [statements, most_of] at hfew hrest ⊢
  split at hfew
  next hdeclarator =>
    subst hdeclarator
    rw [Node.tally, List.countP_cons_of_neg (by simpa [Feature.holds] using hkind)]
    exact hrest
  · omega

theorem State.Regular.push {state next : State} (h : state.Regular .statements) {kind : Kind}
    (hkind : kind ≠ .variableDeclarator) {start stop : Nat}
    (hnodes : next.nodes = .mk kind .plain start stop [] :: state.nodes) :
    next.Regular .statements := by
  constructor
  · rw [hnodes]
    exact Tally.bounds_statements_cons h.bounds hkind
  · rw [hnodes, List.forall_mem_cons]
    exact ⟨everywhere_regular_of_nil _ _ _ _, h.nodes⟩

theorem regular_readStatements (dialect : Dialect) (bound : Nat) {state : State}
    (h : state.Regular .statements) : (readStatements dialect bound state).Regular .statements := by
  refine readStatements_invariant (fun hstate => ?_) (fun hread hstate => ?_)
    (fun _ hstate => ?_) bound h
  · exact hstate.of_nodes (State.nodes_front _)
  · refine (hread.regular rfl hstate).mono fun feature => ?_
    cases feature <;> decide
  · exact hstate.push (by decide) rfl

theorem regular_opening (text : Bytes) : (State.opening text).Regular .statements := by
  have hat : (State.at text).Regular .statements :=
    ⟨fun _ _ => Nat.zero_le _, fun _ hmem => (List.not_mem_nil hmem).elim⟩
  apply State.opening_invariant hat
  intro next _
  exact hat.push (show Kind.hashBangLine ≠ .variableDeclarator by decide) rfl

end Grammar

/-! ## Trees -/

namespace Node

theorem role_weave (notes : List Node) (node : Node) : (node.weave notes).role = node.role := by
  rw [weave_eq]
  rfl

theorem tally_weaveAll_le (notes nodes : List Node) (feature : Feature) :
    tally (weaveAll notes nodes) feature ≤ tally notes feature + tally nodes feature := by
  induction nodes generalizing notes with
  | nil => exact Nat.le_refl _
  | cons node rest ih =>
    have hsplit : ∀ (p : Node → Bool) (some : List Node), tally some feature =
        tally (some.takeWhile p) feature + tally (some.dropWhile p) feature := by
      intro p some
      rw [← tally_append, List.takeWhile_append_dropWhile]
    have hrest := ih ((notes.dropWhile (·.start < node.start)).dropWhile (·.start < node.stop))
    have hbefore := hsplit (·.start < node.start) notes
    have hinside := hsplit (·.start < node.stop) (notes.dropWhile (·.start < node.start))
    rw [weaveAll, tally_append]
    simp only [tally, List.countP_cons, kind_weave, role_weave] at hrest hbefore hinside ⊢
    omega

theorem tally_of_isComment {notes : List Node} (h : ∀ note ∈ notes, note.IsComment)
    {feature : Feature} (hfeature : feature ≠ .any) : tally notes feature = 0 := by
  refine List.countP_eq_zero.2 fun note hmem => ?_
  obtain ⟨hkind, -, hrole⟩ := h note hmem
  rw [hrole]
  rcases hkind with hkind | hkind <;> rw [hkind] <;> cases feature <;>
    first | exact absurd rfl hfeature | decide

theorem Regular.weave {node : Node} (h : node.Regular) {notes : List Node}
    (hnotes : ∀ note ∈ notes, note.IsComment) : (node.weave notes).Regular := by
  have hfew : ∀ {feature : Feature} {bound : Nat}, feature ≠ .any →
      tally node.children feature ≤ bound → tally (node.weave notes).children feature ≤ bound := by
    intro feature bound hfeature hbound
    have hwoven := tally_weaveAll_le notes node.children feature
    rw [tally_of_isComment hnotes hfeature, Nat.zero_add] at hwoven
    rw [children_weave]
    exact Nat.le_trans hwoven hbound
  refine ⟨fun hkind => ?_, fun hkind => ?_, fun hkind => ?_⟩ <;> rw [kind_weave] at hkind
  · exact Nat.le_zero.1 (hfew nofun (Nat.le_of_eq (h.declared hkind)))
  · obtain ⟨hvalue, hloose⟩ := h.bound hkind
    exact ⟨hfew nofun hvalue, Nat.le_zero.1 (hfew nofun (Nat.le_of_eq hloose))⟩
  · exact Nat.le_zero.1 (hfew nofun (Nat.le_of_eq (h.nameless hkind)))

end Node

/-- Every node of a tree is regular. -/
theorem Source.read_regular (dialect : Dialect) (bytes : Bytes) :
    (Source.read dialect bytes).tree.Everywhere Node.Regular := by
  have hcomments := (Grammar.laid_whole dialect bytes).sound.notes
  obtain ⟨hbounds, hnodes⟩ := Grammar.regular_readStatements dialect (bytes.length + 1)
    (Grammar.regular_opening bytes)
  refine Node.everywhere_weave_comments Node.Regular.weave Grammar.everywhere_regular_of_nil ?_
    fun note hmem => (hcomments note (List.mem_reverse.1 hmem)).2.2
  exact (Node.everywhere_iff _ _).2 ⟨hbounds.regular (by decide) _ _, fun child hmem =>
    hnodes child (List.mem_reverse.1 hmem)⟩

end Prologue
