import Mathlib.Data.List.Forall2
import Prologue.Index.Extraction
import Prologue.Proofs.Decodability
import Prologue.Proofs.Lists
import Prologue.Proofs.Traversal

/-!
# What the index lists

Runners and schemas are found in the same way: a tour stops at every exported node, takes the names
that the node declares, and lists each of them with the line of the node. A listing exists exactly if
the names in it are UTF-8, which they are in every text that is. Runners and schemas can both be
read off a listing, and the names of runners that schemas are compared with decide nothing but the
links.
-/

namespace Prologue

/-- A name that an exported node declares. -/
structure Declared where
  node : Node
  name : Node

/-- A declared name as it is listed. -/
structure Listed where
  name : List Char
  line : Nat

namespace Source

/-- The names that the exported nodes of a source declare, in the order of a walk. -/
def declared (source : Source) (names : Node → List Node) : List Declared :=
  (source.tree.walk.filter fun entry => entry.1.isExported entry.2).flatMap fun entry =>
    (names entry.1).map (⟨entry.1, ·⟩)

/-- A declared name is listed with the line of the node that declares it. -/
def list (source : Source) (declared : Declared) : Except Utf8.Fault Listed :=
  (source.textOf declared.name).map (⟨·, source.lineOf declared.node⟩)

/-- All declared names as they are listed. -/
def listing (source : Source) (names : Node → List Node) : Except Utf8.Fault (List Listed) :=
  (source.declared names).mapM source.list

/-- Every declared name is UTF-8. -/
def Spelled (source : Source) (names : Node → List Node) : Prop :=
  ∀ declared ∈ source.declared names, Utf8.Valid (declared.name.bytes source.bytes)

end Source

/-- Whether a variable is taken for a schema. -/
def Listed.isSchema (listed : Listed) : Bool := occursIn "schema".toList (Text.lower listed.name)

def Listed.runner (listed : Listed) : Runner := ⟨listed.name, listed.line⟩

/-- A listed variable as a schema, linked to one of the given runners. -/
def Listed.schema (runnerNames : List (List Char)) (listed : Listed) : Schema :=
  ⟨listed.name, Source.linkedRunner runnerNames listed.name, listed.line⟩

/-! ## Listings -/

namespace Node

theorem Everywhere.of_mem_walkUnder {P : Node → Prop} {root node : Node} {above list : List Node}
    (h : root.Everywhere P) (hmem : (node, list) ∈ root.walkUnder above) : node.Everywhere P := by
  induction root using Node.children_induction generalizing above with
  | step root ih =>
    rw [walkUnder_eq] at hmem
    rcases List.mem_cons.1 hmem with hroot | hmem
    · obtain ⟨rfl, rfl⟩ := Prod.mk.inj hroot
      exact h
    obtain ⟨child, hchild, hbelow⟩ := List.mem_flatMap.1 hmem
    exact ih child hchild (h.child hchild) hbelow

theorem Everywhere.of_mem_walk {P : Node → Prop} {root node : Node} {above : List Node}
    (h : root.Everywhere P) (hmem : (node, above) ∈ root.walk) : node.Everywhere P :=
  h.of_mem_walkUnder hmem

/-- The name of a declarator stands in it. -/
theorem Everywhere.boundName {P : Node → Prop} {declarator name : Node}
    (h : declarator.Everywhere P) (hname : declarator.boundName? = some name) : name.Everywhere P :=
  h.part (Option.filter_eq_some_iff.1 hname).1

/-- Names of runners stand in the tree. -/
theorem everywhere_of_mem_runnerNames {P : Node → Prop} {node name : Node} (h : node.Everywhere P)
    (hmem : name ∈ node.runnerNames) : name.Everywhere P := by
  unfold runnerNames at hmem
  split at hmem
  · split at hmem
    · exact h.part (Option.mem_toList.1 hmem)
    · cases hmem
  split at hmem
  · obtain ⟨declarator, hdeclarator, hname⟩ := List.mem_filterMap.1 hmem
    exact (h.child (List.mem_of_mem_filter (List.mem_of_mem_filter hdeclarator))).boundName hname
  · cases hmem

/-- Names of variables stand in the tree. -/
theorem everywhere_of_mem_variableNames {P : Node → Prop} {node name : Node} (h : node.Everywhere P)
    (hmem : name ∈ node.variableNames) : name.Everywhere P := by
  unfold variableNames at hmem
  split at hmem
  · obtain ⟨declarator, hdeclarator, hname⟩ := List.mem_filterMap.1 hmem
    exact (h.child (List.mem_of_mem_filter hdeclarator)).boundName hname
  · cases hmem

end Node

namespace Source

variable {source : Source} {names : Node → List Node}

theorem mem_declared {declared : Declared} :
    declared ∈ source.declared names ↔ ∃ above, (declared.node, above) ∈ source.tree.walk ∧
      declared.node.isExported above = true ∧ declared.name ∈ names declared.node := by
  obtain ⟨node, name⟩ := declared
  rw [Source.declared, List.mem_flatMap]
  constructor
  · rintro ⟨⟨other, above⟩, hentry, hmem⟩
    obtain ⟨own, hown, heq⟩ := List.mem_map.1 hmem
    obtain ⟨rfl, rfl⟩ := Declared.mk.inj heq
    exact ⟨above, (List.mem_filter.1 hentry).1, (List.mem_filter.1 hentry).2, hown⟩
  · rintro ⟨above, hwalk, hexported, hname⟩
    exact ⟨(node, above), List.mem_filter.2 ⟨hwalk, hexported⟩, List.mem_map.2 ⟨name, hname, rfl⟩⟩

/-- A listing exists if all names in it are UTF-8, and has each of them with the line of its node. -/
theorem exists_listing (h : source.Spelled names) :
    ∃ listing, source.listing names = .ok listing ∧
      ∀ declared ∈ source.declared names, ∀ text, source.textOf declared.name = .ok text →
        ⟨text, source.lineOf declared.node⟩ ∈ listing := by
  have hlist : ∀ {declared : Declared} {text : List Char},
      source.textOf declared.name = .ok text →
      source.list declared = .ok ⟨text, source.lineOf declared.node⟩ := by
    intro declared text htext
    rw [list, htext]
    rfl
  obtain ⟨listing, hlisting, hall⟩ := exists_mapM_eq_ok fun declared hmem => by
    obtain ⟨text, htext⟩ := (h declared hmem).decode
    exact ⟨_, hlist htext⟩
  exact ⟨listing, hlisting, fun declared hmem text htext => hall declared hmem _ (hlist htext)⟩

/-- All names that a valid text declares are UTF-8, provided that they stand in its tree. -/
theorem read_spelled (dialect : Dialect) {bytes : Bytes} (h : Utf8.Valid bytes)
    (hnames : ∀ {P : Node → Prop} {node name : Node}, node.Everywhere P → name ∈ names node →
      name.Everywhere P) : (Source.read dialect bytes).Spelled names := by
  intro declared hmem
  obtain ⟨above, hwalk, -, hname⟩ := mem_declared.1 hmem
  have haligned := (hnames ((read_aligned dialect h).of_mem_walk hwalk) hname).self
  exact Utf8.Valid.slice haligned.start haligned.stop

/-- Names come in the order in which they are declared, each with the line of its node. -/
theorem forall₂_listing {listing : List Listed} (h : source.listing names = .ok listing) :
    List.Forall₂ (fun declared listed => source.textOf declared.name = .ok listed.name ∧
      listed.line = source.lineOf declared.node) (source.declared names) listing := by
  refine List.Forall₂.imp (fun declared listed hlisted => ?_) (forall₂_of_mapM h)
  rw [list] at hlisted
  cases htext : source.textOf declared.name with
  | error fault =>
    rw [htext] at hlisted
    cases hlisted
  | ok text =>
    rw [htext] at hlisted
    obtain rfl := Except.ok.inj hlisted
    exact ⟨rfl, rfl⟩

variable (source)

/-- A listing tells of each exported name its text and its line. -/
theorem listing_eq : source.listing names = (source.exportedNames names).map
    (·.map fun entry => ⟨entry.2, source.lineOf entry.1⟩) := by
  have hdeclared : ((source.tree.tour.filter fun entry => entry.1.isExported entry.2).flatMap
      fun entry => (names entry.1).map (entry.1, ·)) =
      (source.declared names).map fun declared => (declared.node, declared.name) := by
    rw [Source.declared, Node.tour_eq_walk, List.map_flatMap]
    simp only [List.map_map, Function.comp_def]
  rw [listing, exportedNames, map_mapM]
  simp only [hdeclared, List.mapM_map]
  congr 1
  funext declared
  simp only [list, Function.comp_apply]
  cases source.textOf declared.name <;> rfl

theorem runners_eq :
    source.runners = (source.listing Node.runnerNames).map (·.map Listed.runner) := by
  rw [runners, listing_eq]
  cases source.exportedNames Node.runnerNames with
  | error fault => rfl
  | ok found => simp only [Except.map, List.map_map]; rfl

theorem schemas_eq (runnerNames : List (List Char)) :
    source.schemas runnerNames = (source.listing Node.variableNames).map fun listing =>
      (listing.filter Listed.isSchema).map (Listed.schema runnerNames) := by
  rw [schemas, listing_eq]
  cases source.exportedNames Node.variableNames with
  | error fault => rfl
  | ok found => simp only [Except.map, List.filter_map, List.map_map]; rfl

end Source

end Prologue
