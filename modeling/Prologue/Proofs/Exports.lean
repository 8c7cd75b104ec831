import Prologue.Proofs.Listing

/-!
# Exports

A node is exported if climbing from it to the root meets an export, the node itself included. Every
node on the way to an exported node's descendants lies on that climb, so nothing below an export
stops being exported. Asking at every node of a tour is therefore the same as one pass from the
root down in which each node tells its children whether they stand inside an export.
-/

namespace Prologue

namespace Node

/-! ## The way from the root -/

/-- The kind of the node at the end of a path from the root. -/
def kindAt? (root : Node) (path : List Nat) : Option Kind := (root.at? path).map (·.1.kind)

/-- Climbing meets an export exactly if the path has one on it, or the nodes above its beginning do. -/
theorem isExported_atUnder? {node found : Node} {above list : List Node} {path : List Nat}
    (h : node.atUnder? above path = some (found, list)) :
    found.isExported list = true ↔
      (∃ front, front <+: path ∧
        (node.atUnder? above front).map (·.1.kind) = some .exportStatement) ∨
      above.any (·.kind = .exportStatement) = true := by
  induction path generalizing node above with
  | nil =>
    obtain ⟨rfl, rfl⟩ := Prod.mk.inj (Option.some.inj h)
    simp [isExported, List.prefix_nil, atUnder?]
  | cons index path ih =>
    rw [atUnder?] at h
    cases hchild : node.children[index]? with
    | none =>
      rw [hchild] at h
      cases h
    | some child =>
      rw [hchild] at h
      rw [ih h, List.any_cons, Bool.or_eq_true, decide_eq_true_eq, ← or_assoc]
      refine or_congr_left ⟨?_, ?_⟩
      · rintro (⟨front, hfront, hkind⟩ | hkind)
        · refine ⟨index :: front, List.cons_prefix_cons.2 ⟨rfl, hfront⟩, ?_⟩
          rw [atUnder?, hchild]
          exact hkind
        · exact ⟨[], List.nil_prefix, congrArg some hkind⟩
      · rintro ⟨front, hfront, hkind⟩
        rcases List.prefix_cons_iff.1 hfront with rfl | ⟨rest, rfl, hrest⟩
        · exact .inr (Option.some.inj hkind)
        · rw [atUnder?, hchild] at hkind
          exact .inl ⟨rest, hrest, hkind⟩

theorem isExported_at? {root found : Node} {list : List Node} {path : List Nat}
    (h : root.at? path = some (found, list)) :
    found.isExported list = true ↔
      ∃ front, front <+: path ∧ root.kindAt? front = some .exportStatement := by
  rw [isExported_atUnder? h, List.any_nil, or_iff_left Bool.false_ne_true]
  rfl

/-- A path leads to a node of the tour. -/
theorem mem_tour_of_at? {root : Node} {path : List Nat} {entry : Node × List Node}
    (h : root.at? path = some entry) : entry ∈ root.tour := by
  have hpath : path ∈ root.paths := (root.mem_paths_iff [] path).2 (Option.isSome_iff_exists.2 ⟨_, h⟩)
  have hmem : some entry ∈ root.paths.map root.at? := List.mem_map.2 ⟨path, hpath, h⟩
  have hwalk : some entry ∈ root.walk.map some := by
    rw [walk, root.map_walkUnder []]
    exact hmem
  obtain ⟨other, hother, heq⟩ := List.mem_map.1 hwalk
  obtain rfl := Option.some.inj heq
  rwa [tour_eq_walk]

/-- What lies below an exported node is exported. -/
theorem isExported_of_append {root node inner : Node} {above list : List Node} {path more : List Nat}
    (h : root.at? path = some (node, above)) (hexported : node.isExported above = true)
    (hinner : root.at? (path ++ more) = some (inner, list)) : inner.isExported list = true := by
  obtain ⟨front, hfront, hkind⟩ := (isExported_at? h).1 hexported
  exact (isExported_at? hinner).2 ⟨front, hfront.trans (List.prefix_append path more), hkind⟩

/-! ## One pass from the top down -/

section

variable {ε α : Type}

/-- Two lists of results one behind the other; the first failure counts. -/
def followedBy (first second : Except ε (List α)) : Except ε (List α) := do
  let items ← first
  let others ← second
  return items ++ others

theorem nil_followedBy (second : Except ε (List α)) : followedBy (.ok []) second = second := by
  cases second <;> rfl

theorem followedBy_assoc (first second third : Except ε (List α)) :
    followedBy (followedBy first second) third = followedBy first (followedBy second third) := by
  cases first with
  | error fault => rfl
  | ok items =>
    cases second with
    | error fault => rfl
    | ok others =>
      cases third with
      | error fault => rfl
      | ok more => exact congrArg Except.ok (List.append_assoc items others more)

mutual

/-- What the nodes inside exports give, from a node on down, given whether the node's parent is inside
one. -/
def gatherUnder (give : Node → Except ε (List α)) (inside : Bool) : Node → Except ε (List α)
  | mk kind role start stop children =>
    let inside := inside || kind = .exportStatement
    followedBy (if inside then give (mk kind role start stop children) else .ok [])
      (gatherAmong give inside children)

/-- What siblings and the nodes below them give. -/
def gatherAmong (give : Node → Except ε (List α)) (inside : Bool) : List Node → Except ε (List α)
  | [] => .ok []
  | node :: rest => followedBy (gatherUnder give inside node) (gatherAmong give inside rest)

end

/-- What the nodes of a tree give that stand inside exports, parents before children. -/
def gather (give : Node → Except ε (List α)) (root : Node) : Except ε (List α) :=
  root.gatherUnder give false

theorem gatherUnder_eq (give : Node → Except ε (List α)) (inside : Bool) (node : Node) :
    node.gatherUnder give inside =
      followedBy (if inside || node.kind = .exportStatement then give node else .ok [])
        (gatherAmong give (inside || node.kind = .exportStatement) node.children) := by
  cases node; rfl

/-- What the exported ones among visited nodes give. -/
def giveExported (give : Node → Except ε (List α)) (entries : List (Node × List Node)) :
    Except ε (List α) :=
  entries.foldr (fun entry => followedBy (if entry.1.isExported entry.2 then give entry.1 else .ok []))
    (.ok [])

theorem giveExported_append (give : Node → Except ε (List α)) (entries others : List (Node × List Node)) :
    giveExported give (entries ++ others) =
      followedBy (giveExported give entries) (giveExported give others) := by
  induction entries with
  | nil => exact (nil_followedBy _).symm
  | cons entry entries ih =>
    simp only [giveExported, List.cons_append, List.foldr_cons] at ih ⊢
    rw [ih, followedBy_assoc]

/-- The flag that is handed down says what climbing finds. -/
theorem gatherUnder_eq_giveExported (give : Node → Except ε (List α)) (node : Node)
    (above : List Node) :
    node.gatherUnder give (above.any (·.kind = .exportStatement)) =
      giveExported give (node.walkUnder above) := by
  induction node using Node.children_induction generalizing above with
  | step node ih =>
    have hflag : (above.any (·.kind = .exportStatement) || decide (node.kind = .exportStatement)) =
        (node :: above).any (·.kind = .exportStatement) := by
      rw [List.any_cons, Bool.or_comm]
    have hamong : ∀ nodes : List Node, (∀ child ∈ nodes, child ∈ node.children) →
        gatherAmong give ((node :: above).any (·.kind = .exportStatement)) nodes =
          giveExported give (nodes.flatMap (walkUnder (node :: above))) := by
      intro nodes hnodes
      induction nodes with
      | nil => rfl
      | cons child rest ihRest =>
        rw [List.forall_mem_cons] at hnodes
        rw [gatherAmong, ih child hnodes.1, ihRest hnodes.2, List.flatMap_cons, giveExported_append]
    rw [gatherUnder_eq, walkUnder_eq, hflag, hamong node.children fun _ h => h]
    rfl

theorem gather_eq (give : Node → Except ε (List α)) (root : Node) :
    root.gather give = giveExported give root.walk :=
  gatherUnder_eq_giveExported give root []

/-- A step that keeps lists one behind the other may be taken at every node. -/
theorem map_giveExported {β : Type} (give : Node → Except ε (List α)) {f : List α → List β}
    (hnil : f [] = []) (happend : ∀ first second, f (first ++ second) = f first ++ f second)
    (entries : List (Node × List Node)) :
    (giveExported give entries).map f = giveExported (fun node => (give node).map f) entries := by
  have hfollowed : ∀ first second : Except ε (List α),
      (followedBy first second).map f = followedBy (first.map f) (second.map f) := by
    intro first second
    cases first with
    | error fault => rfl
    | ok items =>
      cases second with
      | error fault => rfl
      | ok others => exact congrArg Except.ok (happend items others)
  induction entries with
  | nil => exact congrArg Except.ok hnil
  | cons entry entries ih =>
    simp only [giveExported, List.foldr_cons] at ih ⊢
    rw [hfollowed, ih]
    congr 1
    split
    · rfl
    · exact congrArg Except.ok hnil

end

end Node

namespace Source

variable (source : Source)

/-- The names that a node declares as they are listed. -/
def listedAt (names : Node → List Node) (node : Node) : Except Utf8.Fault (List Listed) :=
  (names node).mapM fun name => source.list ⟨node, name⟩

/-- The runners that a node declares. -/
def runnersAt (node : Node) : Except Utf8.Fault (List Runner) :=
  (source.listedAt Node.runnerNames node).map (·.map Listed.runner)

/-- The schemas that a node declares. -/
def schemasAt (runnerNames : List (List Char)) (node : Node) : Except Utf8.Fault (List Schema) :=
  (source.listedAt Node.variableNames node).map fun listed =>
    (listed.filter Listed.isSchema).map (Listed.schema runnerNames)

theorem listing_eq_giveExported (names : Node → List Node) :
    source.listing names = Node.giveExported (source.listedAt names) source.tree.walk := by
  rw [listing, declared]
  induction source.tree.walk with
  | nil => rfl
  | cons entry entries ih =>
    simp only [Node.giveExported, List.foldr_cons] at ih ⊢
    rw [List.filter_cons]
    split
    next hexported =>
      rw [← ih, List.flatMap_cons, List.mapM_append, List.mapM_map]
      rfl
    next hexported => rw [ih, Node.nil_followedBy]

/-- Climbing from every node finds the exports that one pass from the root down finds: the nodes
with an export on the path from the root to them, their own included. -/
theorem exports_found_in_one_pass :
    (∀ path node above, source.tree.at? path = some (node, above) →
      (node, above) ∈ source.tree.tour ∧
      (node.isExported above = true ↔
        ∃ front, front <+: path ∧ source.tree.kindAt? front = some .exportStatement) ∧
      (node.isExported above = true →
        ∀ more inner list, source.tree.at? (path ++ more) = some (inner, list) →
          inner.isExported list = true)) ∧
    source.runners = source.tree.gather source.runnersAt ∧
    ∀ runnerNames, source.schemas runnerNames = source.tree.gather (source.schemasAt runnerNames) := by
  refine ⟨fun path node above hat => ⟨Node.mem_tour_of_at? hat, Node.isExported_at? hat, ?_⟩, ?_, ?_⟩
  · exact fun hexported more inner list => Node.isExported_of_append hat hexported
  · rw [runners_eq, listing_eq_giveExported, Node.gather_eq,
      Node.map_giveExported _ rfl fun _ _ => List.map_append]
    rfl
  · intro runnerNames
    rw [schemas_eq, listing_eq_giveExported, Node.gather_eq, Node.map_giveExported _ rfl]
    · rfl
    · intro first second
      rw [List.filter_append, List.map_append]

/-- A schema inside a method of an exported class. -/
def nestedSchema : Bytes := utf8 "export class A \x7b m() \x7b const aSchema = 1; \x7d \x7d"

/-- The declaration is no export itself, but it stands on the path behind one. -/
theorem nestedSchema_exported :
    let source := Source.read .typescript nestedSchema
    (∃ node above, source.tree.at? [0, 0, 1, 0, 2, 0] = some (node, above) ∧
      node.kind = .lexicalDeclaration ∧ node.isExported above = true) ∧
    source.tree.gather (source.schemasAt []) = .ok [⟨"aSchema".toList, none, 1⟩] := by
  intro source
  have hexport : source.tree.kindAt? [0] = some .exportStatement := by decide +kernel
  have hdeclaration : source.tree.kindAt? [0, 0, 1, 0, 2, 0] = some .lexicalDeclaration := by
    decide +kernel
  have hschemas : source.schemas [] = .ok [⟨"aSchema".toList, none, 1⟩] := by decide +kernel
  clear_value source
  obtain ⟨hexports, -, hpass⟩ := source.exports_found_in_one_pass
  obtain ⟨⟨node, above⟩, hat, hkind⟩ := Option.map_eq_some_iff.1 hdeclaration
  refine ⟨⟨node, above, hat, hkind, ?_⟩, (hpass []).symm.trans hschemas⟩
  exact (hexports _ _ _ hat).2.1.2 ⟨[0], by decide, hexport⟩

end Source

end Prologue
