import Prologue.Proofs.Listing
import Prologue.Proofs.Weaving

/-!
# The index is in the order of the source

Along a walk the nodes start later and later: a child starts no earlier than its parent, and all that
is below a node stops before the next sibling starts. A listing follows a walk and gives each name the
line of the node that declares it, so the lines of runners and of schemas never go back, however
exported declarations are nested and however many names each of them declares.
-/

namespace Prologue

/-! ## Walks -/

namespace Node

/-- All that is met on a walk from a node on lies inside the node. -/
theorem within_of_mem_walkUnder {root node : Node} {above list : List Node}
    (horderly : root.Everywhere Orderly) (h : (node, list) ∈ root.walkUnder above) :
    root.start ≤ node.start ∧ node.start ≤ node.stop ∧ node.stop ≤ root.stop := by
  induction root using Node.children_induction generalizing above with
  | step root ih =>
    rw [walkUnder_eq] at h
    rcases List.mem_cons.1 h with hroot | h
    · obtain ⟨rfl, rfl⟩ := Prod.mk.inj hroot
      exact ⟨Nat.le_refl _, horderly.self.bounds, Nat.le_refl _⟩
    obtain ⟨child, hchild, hbelow⟩ := List.mem_flatMap.1 h
    have hinside := horderly.self.inside child hchild
    have hwithin := ih child hchild (horderly.child hchild) hbelow
    omega

/-- No node that is met on a walk starts before one that was met earlier. -/
theorem pairwise_start_walkUnder {root : Node} (horderly : root.Everywhere Orderly)
    (above : List Node) :
    (root.walkUnder above).Pairwise fun first second => first.1.start ≤ second.1.start := by
  induction root using Node.children_induction generalizing above with
  | step root ih =>
    have hwithin : ∀ child ∈ root.children, ∀ entry ∈ child.walkUnder (root :: above),
        child.start ≤ entry.1.start ∧ entry.1.start ≤ entry.1.stop ∧
          entry.1.stop ≤ child.stop := fun child hchild entry hentry =>
      within_of_mem_walkUnder (horderly.child hchild) hentry
    rw [walkUnder_eq, List.pairwise_cons, List.pairwise_flatMap]
    refine ⟨fun entry hentry => ?_, fun child hchild => ih child hchild (horderly.child hchild) _, ?_⟩
    · obtain ⟨child, hchild, hbelow⟩ := List.mem_flatMap.1 hentry
      have hinside := horderly.self.inside child hchild
      exact Nat.le_trans hinside.1 (hwithin child hchild entry hbelow).1
    · -- What is below a sibling stops before the next sibling starts.
      refine horderly.self.ordered.imp_of_mem fun {left right} hleft hright hle => ?_
      intro first hfirst second hsecond
      have hbefore := hwithin left hleft first hfirst
      have hbehind := hwithin right hright second hsecond
      omega

end Node

/-! ## Lines -/

namespace Bytes

variable (bytes : Bytes)

theorem line_mono {first second : Nat} (h : first ≤ second) : bytes.line first ≤ bytes.line second := by
  exact Nat.succ_le_succ ((List.take_sublist_take_left h).count_le lineFeed)

/-- Lines are numbered from one on, and there is one more of them than there are line feeds. -/
theorem line_bounds (offset : Nat) :
    1 ≤ bytes.line offset ∧ bytes.line offset ≤ 1 + bytes.count lineFeed := by
  have hcount := (List.take_sublist offset bytes).count_le lineFeed
  unfold line row
  omega

end Bytes

namespace Source

variable (source : Source)

/-- Line numbers of the source that do not go back. -/
structure InOrder (lines : List Int) : Prop where
  rising : lines.Pairwise (· ≤ ·)
  within : ∀ line ∈ lines, 1 ≤ line ∧ line ≤ 1 + source.bytes.count lineFeed

/-- Names are declared by nodes that start later and later. -/
theorem pairwise_declared {source : Source} (horderly : source.tree.Everywhere Node.Orderly)
    (names : Node → List Node) :
    (source.declared names).Pairwise fun first second => first.node.start ≤ second.node.start := by
  rw [declared, List.pairwise_flatMap]
  refine ⟨fun entry _ => ?_, ?_⟩
  · -- All names of one node are listed with it.
    rw [List.pairwise_map]
    exact List.pairwise_of_forall fun _ _ => Nat.le_refl _
  · refine ((Node.pairwise_start_walkUnder horderly []).filter _).imp fun {first second} hle => ?_
    intro left hleft right hright
    obtain ⟨_, _, rfl⟩ := List.mem_map.1 hleft
    obtain ⟨_, _, rfl⟩ := List.mem_map.1 hright
    exact hle

theorem InOrder.sublist {source : Source} {some lines : List Int} (h : source.InOrder lines)
    (hsome : some.Sublist lines) : source.InOrder some :=
  ⟨h.rising.sublist hsome, fun line hline => h.within line (hsome.subset hline)⟩

/-- The lines of a listing are those of the declaring nodes, and do not go back. -/
theorem inOrder_listing {source : Source} (horderly : source.tree.Everywhere Node.Orderly)
    {names : Node → List Node} {listing : List Listed} (h : source.listing names = .ok listing) :
    source.InOrder (listing.map fun listed => (listed.line : Int)) := by
  have hlines : listing.map (·.line) =
      (source.declared names).map fun declared => source.lineOf declared.node := by
    rw [← List.forall₂_eq_eq_eq, List.forall₂_map_left_iff, List.forall₂_map_right_iff]
    exact (List.Forall₂.imp (fun _ _ hlisted => hlisted.2) (forall₂_listing h)).flip
  have hcast : (listing.map fun listed => (listed.line : Int)) =
      (source.declared names).map fun declared => (source.lineOf declared.node : Int) := by
    have hmapped := congrArg (List.map fun line : Nat => (line : Int)) hlines
    rwa [List.map_map, List.map_map] at hmapped
  rw [hcast]
  refine ⟨List.pairwise_map.2 ?_, List.forall_mem_map.2 fun declared _ => ?_⟩
  · exact (pairwise_declared horderly names).imp fun hle =>
      Int.ofNat_le.2 (source.bytes.line_mono hle)
  · have hbounds := source.bytes.line_bounds declared.node.start
    unfold lineOf
    omega

/-- In a source whose tree has its children in order, neither the lines of the runners nor those of
the schemas go back, and all of them are lines of the source. -/
theorem index_in_source_order {source : Source} (horderly : source.tree.Everywhere Node.Orderly) :
    (match source.runners with
      | .ok runners => source.InOrder (runners.map (·.line))
      | .error _ => ¬ source.Spelled Node.runnerNames) ∧
    ∀ runnerNames,
      match source.schemas runnerNames with
      | .ok schemas => source.InOrder (schemas.map (·.line))
      | .error _ => ¬ source.Spelled Node.variableNames := by
  have hspelled : ∀ {names : Node → List Node} {fault : Utf8.Fault},
      source.listing names = .error fault → ¬ source.Spelled names := by
    intro names fault hfault h
    obtain ⟨listing, hlisting, -⟩ := exists_listing h
    rw [hlisting] at hfault
    cases hfault
  refine ⟨?_, fun runnerNames => ?_⟩
  · rw [runners_eq]
    cases h : source.listing Node.runnerNames with
    | error fault => exact hspelled h
    | ok listing =>
      show source.InOrder ((listing.map Listed.runner).map (·.line))
      rw [List.map_map]
      exact inOrder_listing horderly h
  · rw [schemas_eq]
    cases h : source.listing Node.variableNames with
    | error fault => exact hspelled h
    | ok listing =>
      show source.InOrder
        (((listing.filter Listed.isSchema).map (Listed.schema runnerNames)).map (·.line))
      rw [List.map_map]
      exact (inOrder_listing horderly h).sublist (List.filter_sublist.map _)

/-- Two runners of one declaration, with a schema and a runner nested in the second one, and a runner
behind them. -/
def nestedExports : Bytes :=
  utf8 ("export const a = async () => 1,\n" ++
    "  b = async () => \x7b\n    const bSchema = 2;\n    async function c() \x7b\x7d\n  \x7d;\n" ++
    "export async function d() \x7b\x7d\n")

/-- The nested runner is listed behind the one around it, with a later line. -/
theorem nestedExports_in_order :
    let source := Source.read .typescript nestedExports
    source.tree.Everywhere Node.Orderly ∧
      source.runners = .ok [⟨['a'], 1⟩, ⟨['b'], 1⟩, ⟨['c'], 4⟩, ⟨['d'], 6⟩] ∧
      source.InOrder [1, 1, 4, 6] := by
  have hrunners : (Source.read .typescript nestedExports).runners =
      .ok [⟨['a'], 1⟩, ⟨['b'], 1⟩, ⟨['c'], 4⟩, ⟨['d'], 6⟩] := by decide +kernel
  have horderly := (Source.read_wellLaid .typescript nestedExports).orderly
  generalize Source.read .typescript nestedExports = source at *
  have horder := (index_in_source_order horderly).1
  rw [hrunners] at horder
  exact ⟨horderly, hrunners, horder⟩

end Source

end Prologue
