import Prologue.Proofs.BareReading
import Prologue.Proofs.Parts

/-!
# Names stay on their lines

A name is read as one token, and no name goes over the end of a line. What names a function is such a
name: this can be computed from the rules, which say of every frame whether it holds nothing but names
and whether all that plays the part of a name in it is one.
-/

namespace Prologue

/-- Kinds of names that stand for themselves. -/
def Kind.isName : Kind → Bool
  | identifier | propertyIdentifier => true
  | _ => false

/-- Names hold no returns, and a function is named by a name. -/
structure Node.Titled (text : Bytes) (node : Node) : Prop where
  name : node.kind.isName = true → (13 : UInt8) ∉ node.bytes text
  title : node.kind = .functionDeclaration →
    ∀ child ∈ node.children, child.role = .name → child.kind.isName = true

namespace Grammar

/-! ## What the rules name -/

/-- What is known of the names in a frame. -/
structure Naming where
  /-- There are only names in the frame. -/
  only : Bool
  /-- All that plays the part of a name is one. -/
  parts : Bool
  deriving DecidableEq

namespace Naming

def both (a b : Naming) : Naming := ⟨a.only && b.only, a.parts && b.parts⟩

/-- The same nodes in another part. -/
def withRole (part : Role) (naming : Naming) : Naming := ⟨naming.only, part != .name || naming.only⟩

structure Holds (naming : Naming) (nodes : List Node) : Prop where
  only : naming.only = true → ∀ node ∈ nodes, node.kind.isName = true
  parts : naming.parts = true → ∀ node ∈ nodes, node.role = .name → node.kind.isName = true

end Naming

/-- What is known of the names in a frame behind a rule; none if the rule could make a name that is not
read as one, or name a function by something else. -/
def Rule.titles (known : Naming) : Rule → Option Naming
  | never => some ⟨true, true⟩
  | leaf kind t =>
    if kind.isName && !t.isLocal then none else some ⟨known.only && kind.isName, known.parts⟩
  | seq first second => (first.titles known).bind fun next => second.titles next
  | alt first second =>
    (first.titles known).bind fun a => (second.titles known).map fun b => a.both b
  | star rule =>
    (rule.titles ⟨false, known.parts⟩).bind fun next =>
      if next.parts = known.parts then some ⟨false, known.parts⟩ else none
  | frame rule => (rule.titles ⟨true, true⟩).map known.both
  | role part rule => (rule.titles ⟨true, true⟩).map fun inner => known.both (inner.withRole part)
  | fold kind =>
    if kind.isName || (kind = .functionDeclaration && !known.parts) then none else some ⟨false, true⟩
  | goal _ => some ⟨false, known.parts⟩
  | _ => some known

theorem rules_titles (dialect : Dialect) (goal : Goal) :
    ((rules dialect goal).titles ⟨true, true⟩).any (·.parts) = true := by
  cases dialect <;> cases goal <;> first | decide | (rename_i mode; cases mode <;> decide)

theorem exists_titles (dialect : Dialect) (goal : Goal) :
    ∃ only, (rules dialect goal).titles ⟨true, true⟩ = some ⟨only, true⟩ := by
  have hrules := rules_titles dialect goal
  cases htitles : (rules dialect goal).titles ⟨true, true⟩ with
  | none => simp [htitles] at hrules
  | some naming =>
    rw [htitles, Option.any_some] at hrules
    exact ⟨naming.only, by rw [← hrules]⟩

theorem Rule.titles_of_looks {rule : Rule} (h : rule.looks = true) (known : Naming) :
    rule.titles known = some known := by
  cases rule <;> first | rfl | cases h

namespace Naming.Holds

variable {a b : Naming} {nodes others : List Node}

theorem nil (naming : Naming) : naming.Holds [] :=
  ⟨fun _ _ hmem => (List.not_mem_nil hmem).elim, fun _ _ hmem => (List.not_mem_nil hmem).elim⟩

theorem mono (h : a.Holds nodes) (honly : b.only = true → a.only = true)
    (hparts : b.parts = true → a.parts = true) : b.Holds nodes :=
  ⟨fun hb => h.only (honly hb), fun hb => h.parts (hparts hb)⟩

theorem both_left (h : a.Holds nodes) : (a.both b).Holds nodes :=
  h.mono (fun hboth => (Bool.and_eq_true_iff.1 hboth).1) fun hboth =>
    (Bool.and_eq_true_iff.1 hboth).1

theorem both_right (h : b.Holds nodes) : (a.both b).Holds nodes :=
  h.mono (fun hboth => (Bool.and_eq_true_iff.1 hboth).2) fun hboth =>
    (Bool.and_eq_true_iff.1 hboth).2

theorem append (ha : a.Holds nodes) (hb : b.Holds others) : (a.both b).Holds (others ++ nodes) := by
  constructor
  · intro hboth
    rw [List.forall_mem_append]
    exact ⟨hb.both_right.only hboth, ha.both_left.only hboth⟩
  · intro hboth
    rw [List.forall_mem_append]
    exact ⟨hb.both_right.parts hboth, ha.both_left.parts hboth⟩

theorem withRole (h : a.Holds nodes) (part : Role) :
    (a.withRole part).Holds (nodes.map (Node.withRole part)) := by
  have hsame : ∀ node : Node, (node.withRole part).kind = node.kind ∧
      (node.withRole part).role = part := by
    intro node
    cases node
    exact ⟨rfl, rfl⟩
  constructor
  · intro honly
    rw [List.forall_mem_map]
    intro node hmem
    rw [(hsame node).1]
    exact h.only honly node hmem
  · intro hparts
    rw [List.forall_mem_map]
    intro node hmem hrole
    rw [(hsame node).2] at hrole
    rw [(hsame node).1]
    simp only [Naming.withRole, hrole, bne_self_eq_false, Bool.false_or] at hparts
    exact h.only hparts node hmem

end Naming.Holds

/-! ## Readings -/

/-- A token that stays on its line covers no return. -/
theorem Token.not_mem_of_isLocal {token : Token} (hlocal : token.isLocal = true) {bytes : Bytes}
    (hpaired : bytes.isPaired = true) {width : Nat} (h : token.length bytes = some width) :
    (13 : UInt8) ∉ bytes.take width := by
  obtain ⟨line, rest, rfl, hline, hrest⟩ := Bytes.exists_unbroken hpaired
  rw [lineLocal_length hlocal hline hrest] at h
  rw [List.take_append_of_le_length (length_le h)]
  exact fun hmem => hline.not_mem (List.mem_of_mem_take hmem)

section

variable {text : Bytes}

theorem everywhere_titled_of_nil {kind : Kind} (hkind : kind.isName = false) (role : Role)
    (start stop : Nat) : (Node.mk kind role start stop []).Everywhere (Node.Titled text) := by
  refine (Node.everywhere_iff _ _).2 ⟨⟨fun hname => ?_, fun _ _ hmem => ?_⟩, fun _ hmem => ?_⟩
  · rw [show kind.isName = true from hname] at hkind
    cases hkind
  · cases hmem
  · cases hmem

theorem everywhere_titled_withRole {node : Node} (h : node.Everywhere (Node.Titled text))
    (part : Role) : (node.withRole part).Everywhere (Node.Titled text) := by
  obtain ⟨kind, role, start, stop, children⟩ := node
  obtain ⟨⟨hname, htitle⟩, hchildren⟩ := (Node.everywhere_iff _ _).1 h
  exact (Node.everywhere_iff _ _).2 ⟨⟨hname, htitle⟩, hchildren⟩

/-- The nodes of a frame are as they should be, and what is known of their names is true. -/
structure State.Titled (text : Bytes) (naming : Naming) (state : State) : Prop where
  stands : state.cursor.Stands text
  naming : naming.Holds state.nodes
  nodes : ∀ node ∈ state.nodes, node.Everywhere (Node.Titled text)

namespace State.Titled

variable {known inside : Naming} {state outer inner next : State}

theorem leads (h : state.Titled text known) (hleads : state.Leads next)
    (hnodes : next.nodes = state.nodes) : next.Titled text known :=
  ⟨hleads.passes.stands h.stands, by rw [hnodes]; exact h.naming, by rw [hnodes]; exact h.nodes⟩

theorem token (h : state.Titled text known) {t : Token} (htake : state.skip.take t = some next) :
    next.Titled text known := by
  have hnodes := State.nodes_take htake
  exact h.leads ((State.leads_skip _).trans (State.leads_take htake)) hnodes

theorem opened (h : state.Titled text known) : state.opened.Titled text ⟨true, true⟩ :=
  ⟨h.stands, .nil _, fun _ hmem => (List.not_mem_nil hmem).elim⟩

theorem closed (houter : outer.Titled text known) (hinner : inner.Titled text inside) :
    (outer.closed inner).Titled text (known.both inside) := by
  refine ⟨hinner.stands, houter.naming.append hinner.naming, ?_⟩
  rw [State.closed, List.forall_mem_append]
  exact ⟨hinner.nodes, houter.nodes⟩

theorem mono (h : state.Titled text inside) (honly : known.only = true → inside.only = true)
    (hparts : known.parts = true → inside.parts = true) : state.Titled text known :=
  ⟨h.stands, h.naming.mono honly hparts, h.nodes⟩

/-- A name is read by a token that stays on its line, so it holds no return. -/
theorem leaf (h : state.Titled text known) (htext : text.isPaired = true) {kind : Kind} {t : Token}
    (hlocal : kind.isName = true → t.isLocal = true) (htake : state.skip.take t = some next) :
    ({ next with nodes := .mk kind .plain state.skip.cursor.offset next.cursor.offset [] ::
        next.nodes } : State).Titled text ⟨known.only && kind.isName, known.parts⟩ := by
  have hread := h.token htake
  have hnode : (Node.mk kind .plain state.skip.cursor.offset next.cursor.offset []).Everywhere
      (Node.Titled text) := by
    refine (Node.everywhere_iff _ _).2 ⟨⟨fun hname => ?_, fun _ _ hmem => ?_⟩, fun _ hmem => ?_⟩
    · obtain ⟨width, hlength, rfl⟩ := Option.map_eq_some_iff.1 htake
      have hskip := (State.leads_skip state).passes.stands h.stands
      have hunbroken := t.not_mem_of_isLocal (hlocal hname) (hskip.isPaired htext) hlength
      rwa [hskip.rest, List.take_drop] at hunbroken
    · cases hmem
    · cases hmem
  refine ⟨hread.stands, ⟨fun honly => ?_, fun hparts => ?_⟩, ?_⟩
  · obtain ⟨hknown, hkind⟩ := Bool.and_eq_true_iff.1 honly
    exact List.forall_mem_cons.2 ⟨hkind, hread.naming.only hknown⟩
  · exact List.forall_mem_cons.2 ⟨fun hrole => (by cases hrole), hread.naming.parts hparts⟩
  · exact List.forall_mem_cons.2 ⟨hnode, hread.nodes⟩

theorem fold (h : state.Titled text known) {kind : Kind} (hkind : kind.isName = false)
    (hparts : kind = .functionDeclaration → known.parts = true) :
    (state.fold kind).Titled text ⟨false, true⟩ := by
  refine ⟨h.stands, ⟨fun honly => (by cases honly), fun _ => ?_⟩, ?_⟩
  · exact List.forall_mem_singleton.2 fun hrole => (by cases hrole)
  · refine List.forall_mem_singleton.2 ((Node.everywhere_iff _ _).2
      ⟨⟨fun hname => ?_, fun hfunction child hmem => ?_⟩, fun child hmem => ?_⟩)
    · rw [show kind.isName = true from hname] at hkind
      cases hkind
    · exact h.naming.parts (hparts hfunction) child (List.mem_reverse.1 hmem)
    · exact h.nodes child (List.mem_reverse.1 hmem)

theorem map_withRole (h : state.Titled text known) (part : Role) :
    ({ state with nodes := state.nodes.map (Node.withRole part) } : State).Titled text
      (known.withRole part) := by
  refine ⟨h.stands, h.naming.withRole part, ?_⟩
  rw [List.forall_mem_map]
  exact fun node hmem => everywhere_titled_withRole (h.nodes node hmem) part

end State.Titled

/-- Whatever a rule reads, names stay on their lines and functions are named by names. -/
theorem Derives.titled {dialect : Dialect} (htext : text.isPaired = true) {rule : Rule} {a b : State}
    (h : Derives dialect rule a b) {known next : Naming} (htitles : rule.titles known = some next)
    (ha : a.Titled text known) : b.Titled text next := by
  induction h generalizing known next with
  | look hlooks =>
    rw [Rule.titles_of_looks hlooks] at htitles
    obtain rfl := Option.some.inj htitles
    exact ha
  | token htake =>
    obtain rfl := Option.some.inj htitles
    exact ha.token htake
  | leaf htake =>
    rw [Rule.titles, Option.ite_none_left_eq_some] at htitles
    obtain ⟨hlocal, hnext⟩ := htitles
    obtain rfl := Option.some.inj hnext
    exact ha.leaf htext (fun hkind => by simpa [hkind] using hlocal) htake
  | glued htake =>
    obtain rfl := Option.some.inj htitles
    exact ha.leads (State.leads_take htake) (State.nodes_take htake)
  | seq _ _ ihFirst ihSecond =>
    obtain ⟨middle, hfirst, hsecond⟩ := Option.bind_eq_some_iff.1 htitles
    exact ihSecond hsecond (ihFirst hfirst ha)
  | left _ ih =>
    obtain ⟨first, hfirst, hboth⟩ := Option.bind_eq_some_iff.1 htitles
    obtain ⟨second, -, rfl⟩ := Option.map_eq_some_iff.1 hboth
    have hread := ih hfirst ha
    exact ⟨hread.stands, hread.naming.both_left, hread.nodes⟩
  | right _ ih =>
    obtain ⟨first, -, hboth⟩ := Option.bind_eq_some_iff.1 htitles
    obtain ⟨second, hsecond, rfl⟩ := Option.map_eq_some_iff.1 hboth
    have hread := ih hsecond ha
    exact ⟨hread.stands, hread.naming.both_right, hread.nodes⟩
  | finish =>
    obtain ⟨round, -, hkept⟩ := Option.bind_eq_some_iff.1 htitles
    rw [Option.ite_none_right_eq_some] at hkept
    obtain rfl := Option.some.inj hkept.2
    exact ha.mono (fun honly => by cases honly) fun hparts => hparts
  | again _ _ ihRound ihRest =>
    obtain ⟨round, hround, hkept⟩ := Option.bind_eq_some_iff.1 htitles
    rw [Option.ite_none_right_eq_some] at hkept
    obtain ⟨hparts, hnext⟩ := hkept
    obtain rfl := Option.some.inj hnext
    -- Behind a round the parts are what they were, and nothing is known of the rest.
    have hagain : (Rule.star _).titles ⟨false, known.parts⟩ = some ⟨false, known.parts⟩ := htitles
    have hstart : State.Titled text ⟨false, known.parts⟩ _ :=
      ha.mono (fun honly => by cases honly) fun h => h
    refine ihRest hagain ((ihRound hround hstart).mono (fun honly => by cases honly) fun h => ?_)
    rw [hparts]
    exact h
  | frame _ ih =>
    obtain ⟨inside, hinside, rfl⟩ := Option.map_eq_some_iff.1 htitles
    exact ha.closed (ih hinside ha.opened)
  | fold =>
    rw [Rule.titles, Option.ite_none_left_eq_some] at htitles
    obtain ⟨hkind, hnext⟩ := htitles
    obtain rfl := Option.some.inj hnext
    rw [Bool.or_eq_true, not_or, Bool.and_eq_true, not_and, decide_eq_true_eq,
      Bool.not_eq_true] at hkind
    exact ha.fold hkind.1 fun hfunction => by simpa using hkind.2 hfunction
  | role _ ih =>
    obtain ⟨inside, hinside, rfl⟩ := Option.map_eq_some_iff.1 htitles
    exact ha.closed ((ih hinside ha.opened).map_withRole _)
  | implied himplied =>
    obtain rfl := Option.some.inj htitles
    exact ha.leads ⟨Cursor.passes_implied? himplied, fun _ h => h⟩ rfl
  | written htake =>
    obtain rfl := Option.some.inj htitles
    exact ha.token htake
  | settled himplied =>
    obtain rfl := Option.some.inj htitles
    exact ha.leads ⟨Cursor.passes_implied? himplied, fun _ h => h⟩ rfl
  | unsettled =>
    obtain rfl := Option.some.inj htitles
    exact ha
  | htmlComments =>
    obtain rfl := Option.some.inj htitles
    exact ha.leads (State.leads_skipHtml _) (State.nodes_skipHtml _)
  | @goal g _ _ _ ih =>
    obtain rfl := Option.some.inj htitles
    obtain ⟨only, honly⟩ := exists_titles dialect g
    refine (ha.closed (ih honly ha.opened)).mono (fun honly => by cases honly) fun hparts => ?_
    exact Bool.and_eq_true_iff.2 ⟨hparts, rfl⟩

/-! ## The whole text -/

theorem State.Titled.push {state next : State} (h : state.Titled text ⟨false, false⟩)
    (hleads : state.Leads next) {kind : Kind} (hkind : kind.isName = false) {start stop : Nat}
    (hnodes : next.nodes = .mk kind .plain start stop [] :: state.nodes) :
    next.Titled text ⟨false, false⟩ := by
  refine ⟨hleads.passes.stands h.stands,
    ⟨fun honly => (by cases honly), fun hparts => (by cases hparts)⟩, ?_⟩
  rw [hnodes, List.forall_mem_cons]
  exact ⟨everywhere_titled_of_nil hkind _ _ _, h.nodes⟩

theorem titled_readStatements (htext : text.isPaired = true) (dialect : Dialect) (bound : Nat)
    {state : State} (h : state.Titled text ⟨false, false⟩) :
    (readStatements dialect bound state).Titled text ⟨false, false⟩ := by
  refine readStatements_invariant (fun hstate => ?_) (fun hread hstate => ?_)
    (fun _ hstate => ?_) bound h
  · exact hstate.leads (State.leads_front _) (State.nodes_front _)
  · exact hread.titled htext rfl hstate
  · exact hstate.push ⟨Cursor.passes_advance _ _, fun _ h => h⟩ rfl rfl

theorem titled_opening (text : Bytes) : (State.opening text).Titled text ⟨false, false⟩ := by
  have hat : (State.at text).Titled text ⟨false, false⟩ :=
    ⟨(marked_at text).stands, .nil _, fun _ hmem => (List.not_mem_nil hmem).elim⟩
  apply State.opening_invariant hat
  intro next htake
  have hleads := (State.leads_skip (State.at text)).trans (State.leads_take htake)
  exact hat.push ⟨hleads.passes, hleads.start⟩ rfl rfl

end

end Grammar

/-! ## Trees -/

namespace Node

theorem Titled.weave {text : Bytes} {node : Node} (h : node.Titled text) {notes : List Node}
    (hnotes : ∀ note ∈ notes, note.IsComment) : (node.weave notes).Titled text := by
  constructor
  · intro hname
    rw [bytes, start_weave, stop_weave]
    exact h.name (by rwa [kind_weave] at hname)
  · intro hfunction item hmem hrole
    rw [kind_weave] at hfunction
    rw [children_weave] at hmem
    rcases mem_weaveAll hmem with hnote | ⟨child, hchild, inside, -, rfl⟩
    · -- A comment plays no part.
      rw [(hnotes item hnote).role] at hrole
      cases hrole
    · rw [role_weave] at hrole
      rw [kind_weave]
      exact h.title hfunction child hchild hrole

end Node

/-- In the tree of a text names hold no returns, and functions are named by names. -/
theorem Source.read_titled (dialect : Dialect) {bytes : Bytes} (h : bytes.isPaired = true) :
    (Source.read dialect bytes).tree.Everywhere (Node.Titled bytes) := by
  have hcomments := (Grammar.laid_whole dialect bytes).sound.notes
  have hfinal := Grammar.titled_readStatements h dialect (bytes.length + 1)
    (Grammar.titled_opening bytes)
  refine Node.everywhere_weave_of (fun node inside hinside hnode => ?_) (fun note hmem => ?_) ?_
    (List.Subset.refl _)
  · exact hnode.weave fun note hmem =>
      (hcomments note (List.mem_reverse.1 (hinside hmem))).2.2
  · obtain ⟨kind, role, start, stop, children⟩ := note
    have hcomment := (hcomments _ (List.mem_reverse.1 hmem)).2.2
    obtain rfl : children = [] := hcomment.children
    refine Grammar.everywhere_titled_of_nil ?_ _ _ _
    rcases hcomment.kind with hkind | hkind
    · rw [show kind = .comment from hkind]
      rfl
    · rw [show kind = .htmlComment from hkind]
      rfl
  · refine (Node.everywhere_iff _ _).2 ⟨⟨fun hname => ?_, fun hkind => ?_⟩, fun child hmem =>
      hfinal.nodes child (List.mem_reverse.1 hmem)⟩
    · cases hname
    · cases hkind

end Prologue
