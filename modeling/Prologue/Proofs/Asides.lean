import Prologue.Proofs.Listing
import Prologue.Proofs.Weaving

/-!
# Comments are invisible

Comments and the line for the shell have nothing in them and play no part in their parents. Each
function that looks at the children of a node picks them by kind or by part in a way that passes over
these asides, so the analysis and the index are the same for a tree with and without them.

A statement that is nothing but a string is told from comments only. That is enough in a syntax tree,
where a line for the shell stands in a program or in what could not be read. In a tree of any other
shape it would be seen in an expression statement, and nowhere else.
-/

namespace Prologue

namespace Node

/-- A comment or a line for the shell, without anything in it, which plays no part in its parent. -/
structure IsAside (node : Node) : Prop where
  kind : node.kind = .comment ∨ node.kind = .hashBangLine
  children : node.children = []
  role : node.role = .plain

/-- A line for the shell stands in a program, or in an error where a text could not be read. -/
def HoldsShellLines (node : Node) : Prop :=
  ∀ child ∈ node.children, child.kind = .hashBangLine → node.kind = .program ∨ node.kind = .error

mutual

/-- The tree without the nodes at some paths. The root always stays. -/
def without (gone : List Nat → Bool) : Node → Node
  | mk kind role start stop children => mk kind role start stop (withoutFrom gone 0 children)

/-- Siblings that are numbered from `index` on, without the nodes at some paths. -/
def withoutFrom (gone : List Nat → Bool) (index : Nat) : List Node → List Node
  | [] => []
  | node :: rest =>
    let later := withoutFrom gone (index + 1) rest
    if gone [index] then later else node.without (fun path => gone (index :: path)) :: later

end

/-! ## Trees with fewer asides -/

/-- An aside that is passed over below a node of the given kind. -/
structure Passed (above : Kind) (node : Node) : Prop extends IsAside node where
  comment : above = .expressionStatement → node.kind = .comment

/-- The second list has the siblings of the first one, below a node of the given kind, but for some
asides among them and below them. -/
inductive ThinnedAll : Kind → List Node → List Node → Prop
  | nil {above : Kind} : ThinnedAll above [] []
  | drop {above : Kind} {node : Node} {rest less : List Node} :
    node.Passed above → ThinnedAll above rest less → ThinnedAll above (node :: rest) less
  | keep {above kind : Kind} {role : Role} {start stop : Nat} {children fewer rest less : List Node} :
    ThinnedAll kind children fewer → ThinnedAll above rest less →
    ThinnedAll above (mk kind role start stop children :: rest) (mk kind role start stop fewer :: less)

/-- The second node is the first one without some asides below it. -/
structure Thinned (node less : Node) : Prop where
  kind : less.kind = node.kind
  role : less.role = node.role
  start : less.start = node.start
  stop : less.stop = node.stop
  children : ThinnedAll node.kind node.children less.children

section

variable {node less : Node} {above : Kind} {nodes fewer : List Node}

theorem ThinnedAll.cons (h : node.Thinned less) (hrest : ThinnedAll above nodes fewer) :
    ThinnedAll above (node :: nodes) (less :: fewer) := by
  obtain ⟨kind, role, start, stop, children⟩ := node
  obtain ⟨own, part, first, last, kept⟩ := less
  obtain ⟨rfl, rfl, rfl, rfl, hchildren⟩ := h
  exact .keep hchildren hrest

/-- Siblings that are picked by a test that passes over asides are the same, but for asides below. -/
theorem ThinnedAll.filter (h : ThinnedAll above nodes fewer) {p : Node → Bool}
    (hsame : ∀ {node less : Node}, node.Thinned less → p less = p node)
    (hpassed : ∀ {node : Node}, node.Passed above → p node = false) :
    List.Forall₂ Thinned (nodes.filter p) (fewer.filter p) := by
  induction h with
  | nil => exact .nil
  | drop hdrop _ ih =>
    rw [List.filter_cons_of_neg (by simp [hpassed hdrop])]
    exact ih hpassed
  | @keep above kind role start stop children kept rest less hchildren _ _ ih =>
    have hnode : (mk kind role start stop children).Thinned (mk kind role start stop kept) :=
      ⟨rfl, rfl, rfl, rfl, hchildren⟩
    rw [List.filter_cons, List.filter_cons, hsame hnode]
    split
    · exact .cons hnode (ih hpassed)
    · exact ih hpassed

theorem ThinnedAll.find? (h : ThinnedAll above nodes fewer) {p : Node → Bool}
    (hsame : ∀ {node less : Node}, node.Thinned less → p less = p node)
    (hpassed : ∀ {node : Node}, node.Passed above → p node = false) :
    Option.Rel Thinned (nodes.find? p) (fewer.find? p) := by
  have hfilter := h.filter hsame hpassed
  rw [← List.head?_filter, ← List.head?_filter]
  generalize nodes.filter p = picked, fewer.filter p = others at hfilter
  cases hfilter with
  | nil => exact .none
  | cons hfirst _ => exact .some hfirst

theorem Thinned.child? (h : node.Thinned less) {role : Role} (hrole : role ≠ .plain) :
    Option.Rel Thinned (node.child? role) (less.child? role) := by
  refine h.children.find? (fun hnode => by rw [hnode.role]) fun hpassed => ?_
  rw [hpassed.role]
  exact decide_eq_false hrole.symm

theorem Thinned.hasAsync (h : node.Thinned less) : less.hasAsync = node.hasAsync := by
  have hfind := h.children.find? (p := fun child => child.kind = .asyncModifier)
    (fun hnode => by rw [hnode.kind]) fun hpassed => by
      rcases hpassed.kind with hkind | hkind <;> simp [hkind]
  rw [Node.hasAsync, Node.hasAsync, ← List.isSome_find?, ← List.isSome_find?]
  generalize node.children.find? _ = found, less.children.find? _ = other at hfind
  cases hfind <;> rfl

theorem Thinned.statements (h : node.Thinned less) :
    List.Forall₂ Thinned node.statements less.statements := by
  refine h.children.filter (fun hnode => by rw [hnode.kind]) fun hpassed => ?_
  rcases hpassed.kind with hkind | hkind <;> simp [hkind]

theorem Thinned.declarators (h : node.Thinned less) :
    List.Forall₂ Thinned node.declarators less.declarators := by
  refine h.children.filter (fun hnode => by rw [hnode.kind]) fun hpassed => ?_
  rcases hpassed.kind with hkind | hkind <;> simp [hkind]

/-- In an expression statement nothing but comments is passed over. -/
theorem Thinned.literal? (h : node.Thinned less) (source : Bytes) :
    less.literal? source = node.literal? source := by
  rw [Node.literal?, Node.literal?, h.kind]
  split
  next hkind =>
    have hparts := h.children.filter (p := fun child => child.kind != .comment)
      (fun hnode => by rw [hnode.kind]) fun hpassed => by simp [hpassed.comment hkind]
    generalize node.children.filter _ = parts, less.children.filter _ = others at hparts
    cases hparts with
    | nil => rfl
    | cons hfirst hrest =>
      cases hrest with
      | nil => simp only [hfirst.kind, hfirst.start, hfirst.stop]
      | cons _ _ => rfl
  · rfl

theorem Thinned.textOf (h : node.Thinned less) {source other : Source}
    (hbytes : other.bytes = source.bytes) : other.textOf less = source.textOf node := by
  rw [Source.textOf, Source.textOf, Node.bytes, Node.bytes, hbytes, h.start, h.stop]

/-- What is found along a walk and not at asides is the same, but for asides below. -/
theorem ThinnedAll.flatMap_walkUnder (h : ThinnedAll above nodes fewer) {α : Type}
    {R : α → α → Prop} (found : Node × List Node → List α)
    (haside : ∀ {node : Node} {path : List Node}, node.IsAside → found (node, path) = [])
    (hsame : ∀ {node less : Node} {path other : List Node}, node.Thinned less →
      List.Forall₂ Thinned path other → List.Forall₂ R (found (node, path)) (found (less, other)))
    {path other : List Node} (hpath : List.Forall₂ Thinned path other) :
    List.Forall₂ R ((nodes.flatMap (walkUnder path)).flatMap found)
      ((fewer.flatMap (walkUnder other)).flatMap found) := by
  induction h generalizing path other with
  | nil => exact .nil
  | @drop above node rest less hdrop _ ih =>
    rw [List.flatMap_cons, walkUnder_eq, hdrop.children]
    simpa [haside hdrop.toIsAside] using ih hpath
  | @keep above kind role start stop children kept rest less hchildren _ ihChildren ihRest =>
    have hnode : (mk kind role start stop children).Thinned (mk kind role start stop kept) :=
      ⟨rfl, rfl, rfl, rfl, hchildren⟩
    have hbelow := ihChildren (.cons hnode hpath)
    rw [List.flatMap_cons, List.flatMap_cons, List.flatMap_append, List.flatMap_append, walkUnder_eq,
      walkUnder_eq, List.flatMap_cons, List.flatMap_cons]
    exact List.rel_append (List.rel_append (hsame hnode hpath) hbelow) (ihRest hpath)

end

end Node

/-! ## The analysis -/

/-- The second scope is the first one without some asides. -/
inductive Scope.Thinned : Scope → Scope → Prop
  | module {container less : Node} : container.Thinned less → Thinned (.module container) (.module less)
  | function {container owner less other : Node} {parent parent' : Option Node} :
    container.Thinned less → owner.Thinned other → Option.Rel Node.Thinned parent parent' →
    Thinned (.function container owner parent) (.function less other parent')

namespace Scope

theorem thinned_ofNode? {node less : Node} {path other : List Node} (h : node.Thinned less)
    (hpath : List.Forall₂ Node.Thinned path other) :
    List.Forall₂ Thinned (ofNode? node path).toList (ofNode? less other).toList := by
  have hbody := h.child? (show Role.body ≠ .plain by decide)
  have hparent : Option.Rel Node.Thinned path.head? other.head? := by
    cases hpath with
    | nil => exact .none
    | cons hfirst _ => exact .some hfirst
  rw [ofNode?, ofNode?, h.kind]
  split
  · generalize node.child? .body = body, less.child? .body = block at hbody
    cases hbody with
    | none => exact .nil
    | some hblock =>
      simp only [hblock.kind]
      split
      · exact .cons (.function hblock h hparent) .nil
      · exact .nil
  · exact .nil

theorem thinned_all {root less : Node} (h : root.Thinned less) :
    List.Forall₂ Thinned (all root) (all less) := by
  have hall : ∀ root : Node, all root = module root ::
      (root.children.flatMap (Node.walkUnder [root])).flatMap
        fun entry => (ofNode? entry.1 entry.2).toList := by
    intro root
    rw [all_eq_filterMap, Node.tour_eq_walk, Node.walk, Node.walkUnder_eq, List.tail_cons,
      List.filterMap_eq_flatMap_toList]
  rw [hall, hall]
  refine .cons (.module h) (h.children.flatMap_walkUnder _ ?_ thinned_ofNode? (.cons h .nil))
  intro node path haside
  rcases haside.kind with hkind | hkind <;> simp [ofNode?, hkind, Kind.isFunction]

theorem Thinned.nameNode? {scope less : Scope} (h : scope.Thinned less) :
    Option.Rel Node.Thinned scope.nameNode? less.nameNode? := by
  cases h with
  | module => exact .none
  | @function _ owner _ other parent parent' _ howner hparent =>
    have hname := howner.child? (show Role.name ≠ .plain by decide)
    simp only [Scope.nameNode?]
    generalize owner.child? .name = own, other.child? .name = own' at hname
    cases hname with
    | some hnode => exact .some hnode
    | none =>
      cases hparent with
      | none => exact .none
      | some hnode =>
        simp only [hnode.kind]
        split
        · exact hnode.child? (by decide)
        · exact .none

end Scope

namespace Analysis

variable {scope less : Scope}

theorem judge_of_thinned (h : scope.Thinned less) (index : Nat) (text : List Char) :
    judge less index text = judge scope index text := by
  cases h with
  | module => rfl
  | function _ howner _ =>
    simp only [judge, Scope.location, Scope.owner?, Option.any_some, howner.kind, howner.hasAsync]
    rfl

theorem findingsFrom_of_thinned (source : Bytes) (h : scope.Thinned less) {statements fewer : List Node}
    (hstatements : List.Forall₂ Node.Thinned statements fewer) (index : Nat) :
    findingsFrom source less index fewer = findingsFrom source scope index statements := by
  induction hstatements generalizing index with
  | nil => rfl
  | cons hfirst _ ih =>
    have hfinding := judge_of_thinned h index
    simp only [findingsFrom, findingOf, hfirst.literal?, hfirst.start, hfirst.stop, hfinding, ih]

theorem reportOn_of_thinned (h : scope.Thinned less) (findings : List Finding) :
    reportOn less findings = reportOn scope findings := by
  cases h with
  | module => rfl
  | function _ howner _ => simp only [reportOn, Scope.location, Scope.owner?, Option.map_some,
      howner.kind]

theorem functionName_of_thinned {source other : Source} (hbytes : other.bytes = source.bytes)
    (h : scope.Thinned less) : functionName other less = functionName source scope := by
  have hname := h.nameNode?
  rw [functionName, functionName]
  generalize scope.nameNode? = name, less.nameNode? = own at hname
  cases hname with
  | none => rfl
  | some hnode => exact hnode.textOf hbytes

theorem ofScopes_of_thinned {source other : Source} (hbytes : other.bytes = source.bytes)
    {scopes fewer : List Scope} (h : List.Forall₂ Scope.Thinned scopes fewer) :
    ofScopes other fewer = ofScopes source scopes := by
  induction h with
  | nil => rfl
  | @cons scope less _ _ hscope _ ih =>
    have hcontainer : scope.container.Thinned less.container := by
      cases hscope with
      | module hcontainer => exact hcontainer
      | function hcontainer _ _ => exact hcontainer
    have hlocation : less.location = scope.location := by cases hscope <;> rfl
    simp only [ofScopes, hbytes, findingsFrom_of_thinned _ hscope hcontainer.statements,
      reportOn_of_thinned hscope, functionName_of_thinned hbytes hscope, hlocation, ih]

end Analysis

/-! ## The index -/

namespace Node

variable {node less : Node}

theorem Thinned.boundName? (h : node.Thinned less) :
    Option.Rel Thinned node.boundName? less.boundName? := by
  have hname := h.child? (show Role.name ≠ .plain by decide)
  rw [Node.boundName?, Node.boundName?]
  generalize node.child? .name = name, less.child? .name = own at hname
  cases hname with
  | none => exact .none
  | some hown =>
    simp only [Option.filter_some, hown.kind]
    split
    · exact .some hown
    · exact .none

theorem Thinned.bindsAsyncArrow (h : node.Thinned less) :
    less.bindsAsyncArrow = node.bindsAsyncArrow := by
  have hvalue := h.child? (show Role.value ≠ .plain by decide)
  rw [Node.bindsAsyncArrow, Node.bindsAsyncArrow]
  generalize node.child? .value = value, less.child? .value = own at hvalue
  cases hvalue with
  | none => rfl
  | some hown => simp only [Option.any_some, isAsyncArrow, hown.kind, hown.hasAsync, h.hasAsync]

theorem Thinned.variableNames (h : node.Thinned less) :
    List.Forall₂ Thinned node.variableNames less.variableNames := by
  rw [Node.variableNames, Node.variableNames, h.kind]
  split
  · exact List.rel_filterMap (fun _ _ hdeclarator => hdeclarator.boundName?) h.declarators
  · exact .nil

theorem Thinned.runnerNames (h : node.Thinned less) :
    List.Forall₂ Thinned node.runnerNames less.runnerNames := by
  have hname := h.child? (show Role.name ≠ .plain by decide)
  rw [Node.runnerNames, Node.runnerNames, h.kind, h.hasAsync]
  split
  · split
    · generalize node.child? .name = name, less.child? .name = own at hname
      cases hname with
      | none => exact .nil
      | some hown => exact .cons hown .nil
    · exact .nil
  split
  · have harrows := List.rel_filter (R := Thinned) (p := Node.bindsAsyncArrow)
      (q := Node.bindsAsyncArrow) (fun _ _ hdeclarator => by simp only [hdeclarator.bindsAsyncArrow])
      h.declarators
    exact List.rel_filterMap (fun _ _ hdeclarator => hdeclarator.boundName?) harrows
  · exact .nil

theorem IsAside.variableNames (h : node.IsAside) : node.variableNames = [] := by
  rcases h.kind with hkind | hkind <;> simp [Node.variableNames, hkind, Kind.declaresVariables]

theorem IsAside.runnerNames (h : node.IsAside) : node.runnerNames = [] := by
  rcases h.kind with hkind | hkind <;> simp [Node.runnerNames, hkind, Kind.declaresVariables]

theorem Thinned.isExported (h : node.Thinned less) {path other : List Node}
    (hpath : List.Forall₂ Thinned path other) : less.isExported other = node.isExported path := by
  have hany : ∀ {nodes others : List Node}, List.Forall₂ Thinned nodes others →
      (others.any (·.kind = .exportStatement)) = nodes.any (·.kind = .exportStatement) := by
    intro nodes others hnodes
    induction hnodes with
    | nil => rfl
    | cons hfirst _ ih => rw [List.any_cons, List.any_cons, hfirst.kind, ih]
  exact hany (.cons h hpath)

end Node

namespace Source

variable {source other : Source} {names : Node → List Node}

theorem thinned_declared (h : source.tree.Thinned other.tree)
    (haside : ∀ {node : Node}, node.IsAside → names node = [])
    (hsame : ∀ {node less : Node}, node.Thinned less →
      List.Forall₂ Node.Thinned (names node) (names less)) :
    List.Forall₂ (fun declared less => declared.node.Thinned less.node ∧
      declared.name.Thinned less.name) (source.declared names) (other.declared names) := by
  have hdeclared : ∀ source : Source, source.declared names = (([source.tree].flatMap
      (Node.walkUnder [])).flatMap fun entry => if entry.1.isExported entry.2 then
        (names entry.1).map fun name => (⟨entry.1, name⟩ : Declared) else []) := by
    intro source
    rw [declared, Node.walk, List.flatMap_singleton]
    induction source.tree.walkUnder [] with
    | nil => rfl
    | cons entry rest ih =>
      rw [List.filter_cons, List.flatMap_cons, ← ih]
      split <;> rfl
  rw [hdeclared, hdeclared]
  have hroot : Node.ThinnedAll .program [source.tree] [other.tree] := .cons h .nil
  refine hroot.flatMap_walkUnder _ ?_ ?_ .nil
  · intro node path hnode
    simp [haside hnode]
  · intro node less path lessPath hnode hpath
    simp only [hnode.isExported hpath]
    split
    · exact List.rel_map (fun _ _ hname => ⟨hnode, hname⟩) (hsame hnode)
    · exact .nil

/-- Without some asides, the same names are listed with the same lines. -/
theorem listing_of_thinned (hbytes : other.bytes = source.bytes)
    (h : source.tree.Thinned other.tree)
    (haside : ∀ {node : Node}, node.IsAside → names node = [])
    (hsame : ∀ {node less : Node}, node.Thinned less →
      List.Forall₂ Node.Thinned (names node) (names less)) :
    other.listing names = source.listing names := by
  have hdeclared := thinned_declared h haside hsame
  rw [listing, listing]
  generalize source.declared names = all, other.declared names = fewer at hdeclared
  induction hdeclared with
  | nil => rfl
  | cons hfirst _ ih =>
    rw [List.mapM_cons, List.mapM_cons, ih, list, list, hfirst.2.textOf hbytes, lineOf, lineOf, hbytes,
      hfirst.1.start]

end Source

/-! ## Taking asides out -/

namespace Node

theorem thinnedAll_withoutFrom {above : Kind} {gone : List Nat → Bool} {index : Nat}
    {nodes : List Node}
    (hgone : ∀ (count : Nat) (node : Node), nodes[count]? = some node → gone [index + count] = true →
      node.Passed above)
    (hkept : ∀ (count : Nat) (node : Node), nodes[count]? = some node →
      node.Thinned (node.without fun path => gone ((index + count) :: path))) :
    ThinnedAll above nodes (withoutFrom gone index nodes) := by
  induction nodes generalizing index with
  | nil => exact .nil
  | cons node rest ih =>
    have hlater : ThinnedAll above rest (withoutFrom gone (index + 1) rest) := by
      apply ih
      · intro count other hother hcount
        rw [Nat.add_assoc, Nat.add_comm 1 count] at hcount
        exact hgone (count + 1) other hother hcount
      · intro count other hother
        rw [Nat.add_assoc, Nat.add_comm 1 count]
        exact hkept (count + 1) other hother
    rw [withoutFrom]
    split
    next hfirst => exact .drop (hgone 0 node rfl hfirst) hlater
    · exact .cons (hkept 0 node rfl) hlater

/-- Asides can be taken out of every tree, but for lines for the shell in expression statements. -/
theorem thinned_without {root : Node} {gone : List Nat → Bool} {above : List Node}
    (hgone : ∀ index path node list, gone (index :: path) = true →
      root.atUnder? above (index :: path) = some (node, list) →
        ∀ parent ∈ list.head?, node.Passed parent.kind) :
    root.Thinned (root.without gone) := by
  induction root using Node.children_induction generalizing gone above with
  | step root ih =>
    have hthinned : ThinnedAll root.kind root.children (withoutFrom gone 0 root.children) := by
      refine thinnedAll_withoutFrom (fun count node hnode hcount => ?_) fun count node hnode => ?_
      · rw [Nat.zero_add] at hcount
        exact hgone count [] node (root :: above) hcount (by simp [atUnder?, hnode]) root rfl
      · have hmem := List.mem_of_getElem? hnode
        refine ih node hmem fun index path inner list hinner
          (hat : node.atUnder? (root :: above) (index :: path) = some (inner, list)) => ?_
        rw [Nat.zero_add] at hinner
        refine hgone count (index :: path) inner list hinner ?_
        rw [atUnder?, hnode]
        exact hat
    obtain ⟨kind, role, start, stop, children⟩ := root
    exact ⟨rfl, rfl, rfl, rfl, hthinned⟩

/-- The parent of a node that a path leads to. -/
theorem of_atUnder?_eq_some {root node parent : Node} {above list : List Node} {index : Nat}
    {path : List Nat} (hat : root.atUnder? above (index :: path) = some (node, list))
    (hparent : parent ∈ list.head?) {p : Node → Prop} (h : root.Everywhere p) :
    p parent ∧ node ∈ parent.children := by
  induction path generalizing root above index with
  | nil =>
    rw [atUnder?] at hat
    split at hat
    next child hchild =>
      obtain ⟨rfl, rfl⟩ := Prod.mk.inj (Option.some.inj hat)
      obtain rfl := Option.some.inj hparent
      exact ⟨((everywhere_iff _ _).1 h).1, List.mem_of_getElem? hchild⟩
    next => cases hat
  | cons next path ih =>
    rw [atUnder?] at hat
    split at hat
    next child hchild =>
      exact ih hat (((everywhere_iff _ _).1 h).2 child (List.mem_of_getElem? hchild))
    next => cases hat

end Node

/-! ## The line for the shell -/

namespace Node

theorem holdsShellLines_of_has {node : Node} (h : node.has .hashBangLine = false) :
    node.Everywhere HoldsShellLines := by
  induction node using Node.children_induction with
  | step node ih =>
    rw [has_eq, Bool.or_eq_false_iff, List.any_eq_false] at h
    have hbelow : ∀ child ∈ node.children, child.has .hashBangLine = false := fun child hchild =>
      Bool.eq_false_iff.2 (h.2 child hchild)
    refine (everywhere_iff _ _).2 ⟨fun child hchild hkind => ?_, fun child hchild =>
      ih child hchild (hbelow child hchild)⟩
    have hown := hbelow child hchild
    rw [has_eq, Bool.or_eq_false_iff, decide_eq_false_iff_not] at hown
    exact absurd hkind hown.1

theorem holdsShellLines_of_nil (kind : Kind) (role : Role) (start stop : Nat) :
    (mk kind role start stop []).Everywhere HoldsShellLines := by
  refine (everywhere_iff _ _).2 ⟨fun child hchild => ?_, fun child hchild => ?_⟩ <;> cases hchild

theorem HoldsShellLines.weave {node : Node} (h : node.HoldsShellLines) {notes : List Node}
    (hnotes : ∀ note ∈ notes, note.IsComment) : (node.weave notes).HoldsShellLines := by
  intro item hitem hkind
  rw [kind_weave]
  rw [children_weave] at hitem
  rcases mem_weaveAll hitem with hnote | ⟨child, hchild, inside, _, rfl⟩
  · rcases (hnotes item hnote).kind with hcomment | hcomment <;> simp [hcomment] at hkind
  · rw [kind_weave] at hkind
    exact h child hchild hkind

end Node

namespace Grammar

theorem rules_avoid_hashBangLine (dialect : Dialect) (goal : Goal) :
    (rules dialect goal).avoids .hashBangLine = true := by
  cases dialect <;> cases goal <;> first | decide | (rename_i mode; cases mode <;> decide)

theorem holdsShellLines_readStatements (dialect : Dialect) (bound : Nat) {state : State}
    (h : ∀ node ∈ state.nodes, node.Everywhere Node.HoldsShellLines) :
    ∀ node ∈ (readStatements dialect bound state).nodes, node.Everywhere Node.HoldsShellLines := by
  refine readStatements_invariant
    (motive := fun next => ∀ node ∈ next.nodes, node.Everywhere Node.HoldsShellLines)
    (fun {next} hnext => ?_) (fun hread hbefore => ?_) (fun _ hbefore => ?_) bound h
  · rw [next.nodes_front]
    exact hnext
  · cases hread with
    | look hlooks => cases hlooks
    | goal hinner =>
      -- A statement is read in a frame of its own, where the line for the shell does not stand.
      have hlacks := hinner.lacks (rules_avoid_hashBangLine dialect)
        (rules_avoid_hashBangLine dialect .statement) (State.lacks_opened _ _)
      intro node hmem
      rcases List.mem_append.1 hmem with hnew | hold
      · exact Node.holdsShellLines_of_has (hlacks node hnew)
      · exact hbefore node hold
  · exact List.forall_mem_cons.2 ⟨Node.holdsShellLines_of_nil _ _ _ _, hbefore⟩

theorem holdsShellLines_opening (text : Bytes) :
    ∀ node ∈ (State.opening text).nodes, node.Everywhere Node.HoldsShellLines := by
  apply State.opening_invariant (motive := fun next =>
    ∀ node ∈ next.nodes, node.Everywhere Node.HoldsShellLines)
  · intro node hmem
    cases hmem
  · intro next _
    exact List.forall_mem_singleton.2 (Node.holdsShellLines_of_nil _ _ _ _)

end Grammar

namespace Source

theorem read_holdsShellLines (dialect : Dialect) (bytes : Bytes) :
    (Source.read dialect bytes).tree.Everywhere Node.HoldsShellLines := by
  have hcomments := (Grammar.laid_whole dialect bytes).sound.notes
  have hnodes := Grammar.holdsShellLines_readStatements dialect (bytes.length + 1)
    (Grammar.holdsShellLines_opening bytes)
  refine Node.everywhere_weave_comments Node.HoldsShellLines.weave Node.holdsShellLines_of_nil ?_
    fun note hmem => (hcomments note (List.mem_reverse.1 hmem)).2.2
  exact (Node.everywhere_iff _ _).2 ⟨fun _ _ _ => .inl rfl, fun child hmem =>
    hnodes child (List.mem_reverse.1 hmem)⟩

/-- The analysis, the runners and the schemas are the same without the nodes at some paths, all faults
included. -/
def SameWithout (source : Source) (gone : List Nat → Bool) : Prop :=
  let rest : Source := { source with tree := source.tree.without gone }
  rest.analyze = source.analyze ∧ rest.runners = source.runners ∧
    ∀ runnerNames, rest.schemas runnerNames = source.schemas runnerNames

theorem sameWithout_of_thinned {source : Source} {gone : List Nat → Bool}
    (h : source.tree.Thinned (source.tree.without gone)) : source.SameWithout gone := by
  let rest : Source := { source with tree := source.tree.without gone }
  have hbytes : rest.bytes = source.bytes := rfl
  refine ⟨Analysis.ofScopes_of_thinned hbytes (Scope.thinned_all h), ?_, fun runnerNames => ?_⟩
  · rw [runners_eq, runners_eq, listing_of_thinned hbytes h Node.IsAside.runnerNames
      Node.Thinned.runnerNames]
  · rw [schemas_eq, schemas_eq, listing_of_thinned hbytes h Node.IsAside.variableNames
      Node.Thinned.variableNames]

end Source

/-- A syntax tree: lines for the shell stand only where the grammars have them, since the rule of a
program is the only one with such a line. -/
structure SyntaxTree where
  root : Node
  shellLines : root.Everywhere Node.HoldsShellLines

/-- In a syntax tree nothing but comments is an aside in an expression statement. -/
theorem SyntaxTree.passed (tree : SyntaxTree) {index : Nat} {path : List Nat} {node parent : Node}
    {list : List Node} (hat : tree.root.atUnder? [] (index :: path) = some (node, list))
    (hparent : parent ∈ list.head?) (haside : node.IsAside) : node.Passed parent.kind := by
  obtain ⟨hshell, hmem⟩ := Node.of_atUnder?_eq_some hat hparent tree.shellLines
  refine ⟨haside, fun hkind => haside.kind.resolve_right fun hline => ?_⟩
  rcases hshell node hmem hline with hother | hother <;> simp [hkind] at hother

namespace Source

/-- Taking any comments and lines for the shell out of a syntax tree changes nothing that is found
in it, nor does it in any tree without such lines in expression statements. -/
theorem asides_invisible :
    (∀ (tree : SyntaxTree) (dialect : Dialect) (bytes : Bytes) (gone : List Nat → Bool),
      (∀ path node above, gone path = true → tree.root.at? path = some (node, above) →
        node.IsAside) →
      SameWithout ⟨dialect, bytes, tree.root⟩ gone) ∧
    (∀ (source : Source) (gone : List Nat → Bool),
      (∀ path node parent above, gone path = true →
        source.tree.at? path = some (node, parent :: above) → node.Passed parent.kind) →
      source.SameWithout gone) ∧
    ∀ (dialect : Dialect) (bytes : Bytes), ∃ tree : SyntaxTree,
      tree.root = (Source.read dialect bytes).tree := by
  refine ⟨fun tree dialect bytes gone hgone => ?_, fun source gone hgone => ?_, fun dialect bytes =>
    ⟨⟨_, read_holdsShellLines dialect bytes⟩, rfl⟩⟩
  · apply sameWithout_of_thinned
    apply Node.thinned_without
    intro index path node list hpath hat parent hparent
    exact tree.passed hat hparent (hgone (index :: path) node list hpath hat)
  · apply sameWithout_of_thinned
    apply Node.thinned_without
    intro index path node list hpath hat parent hparent
    obtain ⟨above, rfl⟩ := List.head?_eq_some_iff.1 hparent
    exact hgone (index :: path) node parent above hpath hat

/-- A line for the shell between a string and the end of its statement would hide the string. -/
example :
    let line : Node := .mk .hashBangLine .plain 4 6 []
    let statement : Node := .mk .expressionStatement .plain 0 6 [.mk .string .plain 0 3 [], line]
    (statement.literal? (utf8 "'a' #!")).isNone ∧
      ((statement.without [[1]].contains).literal? (utf8 "'a' #!")).isSome := by
  decide

/-- A text with a line for the shell and with comments in many places. -/
def annotated : Bytes :=
  utf8 ("#!sh\n/*a*/ 'use runner' /*b*/;\n" ++
    "export /*c*/ async /*d*/ function f(/*e*/) \x7b /*f*/ \x7d\n" ++
    "export const /*g*/ fSchema /*h*/ = 1")

/-- Where its asides stand. -/
def annotations : List (List Nat) :=
  [[0], [1], [2, 1], [3, 0], [3, 1, 1], [3, 1, 3, 0], [3, 1, 4, 0], [4, 0, 0], [4, 0, 1, 1]]

/-- All asides of the text can be taken out of its tree. -/
theorem annotated_thinned :
    let source := Source.read .typescript annotated
    let rest := source.tree.without annotations.contains
    (rest.has .comment = false ∧ rest.has .hashBangLine = false) ∧
      source.SameWithout annotations.contains := by
  have hgone : ((Source.read .typescript annotated).tree.without annotations.contains).has .comment =
        false ∧
      ((Source.read .typescript annotated).tree.without annotations.contains).has .hashBangLine =
        false := by
    decide +kernel
  have hasides : ∀ path ∈ annotations, ∀ entry ∈ (Source.read .typescript annotated).tree.at? path,
      (entry.1.kind = .comment ∨ entry.1.kind = .hashBangLine) ∧ entry.1.children.isEmpty = true ∧
        entry.1.role = .plain := by
    decide +kernel
  obtain ⟨tree, htree⟩ := asides_invisible.2.2 .typescript annotated
  have hsame := asides_invisible.1 tree .typescript annotated annotations.contains
  rw [htree] at hsame
  refine ⟨hgone, hsame fun path node above hpath hat => ?_⟩
  obtain ⟨hkind, hchildren, hrole⟩ := hasides path (List.contains_iff_mem.1 hpath) (node, above) hat
  exact ⟨hkind, List.isEmpty_iff.1 hchildren, hrole⟩

end Source

end Prologue
