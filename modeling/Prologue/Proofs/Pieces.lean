import Prologue.Proofs.Outline
import Prologue.Proofs.Seams

/-!
# Reading a text piece by piece

A text that is read without a fault falls into pieces: a gap and a statement, again and again, and a
gap at the end. Each statement is read from its own first byte on as though nothing stood in front of
it. The tree of the text is put together from these readings, and so are the outlines of its scopes.
-/

namespace Prologue.Grammar

variable {dialect : Dialect}

/-! ## One statement -/

/-- The statement that starts with the first byte of a text: its width, and its tree with the
comments in it. -/
def statementAt (dialect : Dialect) (text : Bytes) : Option (Nat × Node) :=
  let front := (State.at text).front
  if front.cursor.offset = 0 then
    (readStatement dialect front).map fun next =>
      (next.cursor.offset, (next.nodes.headD default).weave next.cursor.notes.reverse)
  else none

theorem State.front_at {text : Bytes} (h : Stops text) : (State.at text).front = State.at text := by
  obtain ⟨notes, hfront, hkinds⟩ := (State.at text).front_eq (.nil text) h rfl
  obtain rfl : notes = [] := by simpa using hkinds
  simpa [State.at] using hfront

theorem State.stops_of_front_at {text : Bytes} (h : (State.at text).front.cursor.offset = 0) :
    Stops text := by
  obtain ⟨v, kinds, hgap, hstops⟩ := exists_gap text
  obtain ⟨notes, hfront, _⟩ := (State.at text).front_eq hgap hstops rfl
  have hlength := hgap.length_le
  have hdrop := List.suffix_iff_eq_drop.1 hgap.suffix
  rw [hfront] at h
  simp only [State.at] at h
  rw [show text.length - v.length = 0 by omega, List.drop_zero] at hdrop
  rwa [← hdrop]

/-- What is read of a statement is read as though it stood at the front of the text. -/
theorem readStatement_eq {state : State} (hleft : state.cursor.left = state.cursor.rest.length) :
    readStatement dialect state =
      (readStatement dialect (State.at state.cursor.rest)).map fun inner =>
        state.closed (inner.moved state.cursor.offset state.cursor.notes) := by
  rw [readStatement, reach_eq_local, readStatement, hleft]
  rfl

/-- What is known of a statement that starts with the first byte of a text. The node is that of the
reading, into which the comments in it are woven. -/
structure Stands (dialect : Dialect) (text : Bytes) (width : Nat) (node : Node)
    (notes : List Node) : Prop where
  stops : Stops text
  reads : readStatement dialect (State.at text) =
    some ⟨⟨text.drop width, width, text.length - width, notes⟩, some 0, [node]⟩
  more : text ≠ []
  mark : (utf8 "#!").isPrefixOf text = false
  pos : 0 < width
  start : node.start = 0
  stop : node.stop = width
  kind : node.kind.isNote = false
  faultless : node.has .error = false
  notes : ∀ note ∈ notes, note.start < width ∧ note.IsComment

theorem stands_of_readStatement {text : Bytes} {next : State} (hstops : Stops text)
    (h : readStatement dialect (State.at text) = some next) :
    ∃ node, next.nodes = [node] ∧
      Stands dialect text next.cursor.offset node next.cursor.notes := by
  have hskip : (State.at text).cursor.skip = (State.at text).cursor :=
    Cursor.skip_of_itemWidth_eq_zero hstops.item
  have hderives := derives_of_reach h
  obtain ⟨hstart, hmoves, token, htoken, hlength⟩ := (@Derives.begins _ _ _ _ hderives true rfl).opens
  obtain ⟨⟨width, notes, hcursor, hnotes⟩, _⟩ := hderives.leads
  obtain ⟨node, hnodes, hfirst, hlast, hkind⟩ := hderives.yields rfl
  have hfaultless := hderives.faultless rfl fun node hmem => by cases hmem
  rw [hskip] at hstart hmoves hlength hfirst
  obtain ⟨cursor, start, nodes⟩ := next
  simp only at hcursor hnodes hstart hmoves hlast hfaultless
  subst hcursor hnodes hstart
  simp only [State.at, Nat.zero_add, List.append_nil] at *
  refine ⟨node, rfl, hstops, h, ?_, ?_, hmoves, hfirst, hlast, hkind,
    hfaultless node (List.mem_singleton_self node), fun note hmem => (hnotes note hmem).2⟩
  · rintro rfl
    rw [Token.length_nil htoken] at hlength
    cases hlength
  · by_contra hmark
    rw [Bool.not_eq_false, List.isPrefixOf_iff_prefix] at hmark
    obtain ⟨rest, rfl⟩ := hmark
    rw [show utf8 "#!" ++ rest = 35 :: 33 :: rest from rfl, Token.length_hashBang htoken] at hlength
    cases hlength

theorem statementAt_eq_some_iff {text : Bytes} {width : Nat} {node : Node} :
    statementAt dialect text = some (width, node) ↔
      ∃ bare notes, Stands dialect text width bare notes ∧ node = bare.weave notes.reverse := by
  constructor
  · intro h
    rw [statementAt] at h
    split at h
    next hzero =>
      have hstops := State.stops_of_front_at hzero
      rw [State.front_at hstops] at h
      obtain ⟨next, hread, heq⟩ := Option.map_eq_some_iff.1 h
      obtain ⟨rfl, rfl⟩ := Prod.mk.inj heq
      obtain ⟨bare, hnodes, hstands⟩ := stands_of_readStatement hstops hread
      exact ⟨bare, _, hstands, by rw [hnodes]; rfl⟩
    · cases h
  · rintro ⟨bare, notes, hstands, rfl⟩
    have hzero : (State.at text).cursor.offset = 0 := rfl
    rw [statementAt, State.front_at hstands.stops, if_pos hzero, hstands.reads]
    rfl

/-- A statement is read in the same way behind other bytes. -/
theorem Stands.readStatement {text : Bytes} {width : Nat} {node : Node} {notes : List Node}
    (h : Stands dialect text width node notes) (state : State) (hrest : state.cursor.rest = text)
    (hleft : state.cursor.left = text.length) :
    ∃ next, Grammar.readStatement dialect state = some next ∧
      next.cursor = ⟨text.drop width, state.cursor.offset + width, text.length - width,
        notes.map (Node.shift state.cursor.offset) ++ state.cursor.notes⟩ ∧
      next.nodes = node.shift state.cursor.offset :: state.nodes := by
  subst hrest
  rw [readStatement_eq hleft, h.reads]
  refine ⟨_, rfl, ?_, rfl⟩
  simp only [State.closed, State.moved, Cursor.moved, Nat.add_comm width]

/-! ## Pieces -/

/-- A statement and what stands in front of it. -/
structure Piece where
  /-- The comments in front of the statement. -/
  kinds : List Kind
  /-- Where the statement starts. -/
  place : Nat
  /-- The bytes from there on. -/
  text : Bytes
  /-- Bytes of the statement. -/
  width : Nat
  /-- The tree of the statement, as though it stood at the front. -/
  node : Node

/-- The bytes from an offset on are read as the given pieces and a last gap. -/
inductive Reads (dialect : Dialect) : Nat → Bytes → List Piece → List Kind → Prop where
  | stop {offset : Nat} {r : Bytes} {last : List Kind} (hgap : Gap r [] last) :
      Reads dialect offset r [] last
  | step {offset : Nat} {r v : Bytes} {kinds last : List Kind} {width : Nat} {node : Node}
      {pieces : List Piece} (hgap : Gap r v kinds)
      (hread : statementAt dialect v = some (width, node))
      (hrest : Reads dialect (offset + (r.length - v.length) + width) (v.drop width) pieces last) :
      Reads dialect offset r (⟨kinds, offset + (r.length - v.length), v, width, node⟩ :: pieces) last

/-- Siblings that are the statements of the pieces with the comments between them. -/
inductive Woven : List Piece → List Kind → List Node → Prop where
  | stop {notes : List Node} (hnotes : ∀ note ∈ notes, note.IsComment) :
      Woven [] (notes.map (·.kind)) notes
  | step {piece : Piece} {pieces : List Piece} {last : List Kind} {notes rest : List Node}
      (hnotes : ∀ note ∈ notes, note.IsComment) (hkinds : notes.map (·.kind) = piece.kinds)
      (hrest : Woven pieces last rest) :
      Woven (piece :: pieces) last (notes ++ piece.node.shift piece.place :: rest)

/-- The notes that are passed in front of a statement. -/
theorem State.front_notes {state : State} {v : Bytes} {kinds : List Kind}
    (hgap : Gap state.cursor.rest v kinds) (hstops : Stops v)
    (hleft : state.cursor.left = state.cursor.rest.length) :
    ∃ notes,
      state.front =
        { state with cursor := ⟨v, state.cursor.offset + (state.cursor.rest.length - v.length),
          v.length, notes ++ state.cursor.notes⟩ } ∧
      notes.reverse.map (·.kind) = kinds ∧
      ∀ note ∈ notes.reverse, state.cursor.offset ≤ note.start ∧
        note.start < state.cursor.offset + (state.cursor.rest.length - v.length) ∧
        note.IsComment := by
  obtain ⟨notes, hfront, hkinds⟩ := state.front_eq hgap hstops hleft
  obtain ⟨width, notes', hcursor, hnotes⟩ := (leads_front state).passes
  rw [hfront] at hcursor
  simp only [Cursor.mk.injEq] at hcursor
  obtain ⟨_, hwidth, _, hsame⟩ := hcursor
  obtain rfl := List.append_cancel_right hsame
  refine ⟨notes, hfront, hkinds, fun note hmem => ?_⟩
  obtain ⟨hlow, hhigh, hcomment⟩ := hnotes note (List.mem_reverse.1 hmem)
  exact ⟨hlow, by omega, hcomment⟩

theorem readStatements_of_some {state next : State} (bound : Nat)
    (hmore : state.front.cursor.rest ≠ [])
    (hnext : readStatement dialect state.front = some next) :
    readStatements dialect (bound + 1) state = readStatements dialect bound next := by
  simp only [readStatements, List.isEmpty_eq_false_iff.2 hmore, hnext, Bool.false_eq_true, if_false]

/-- A text that falls into pieces is read as these. -/
theorem readStatements_of_reads {offset : Nat} {r : Bytes} {pieces : List Piece} {last : List Kind}
    (h : Reads dialect offset r pieces last) {state : State} (hrest : state.cursor.rest = r)
    (hoffset : state.cursor.offset = offset) (hleft : state.cursor.left = r.length) {bound : Nat}
    (hbound : r.length < bound) :
    ∃ nodes notes,
      (readStatements dialect bound state).nodes = nodes.reverse ++ state.nodes ∧
      (readStatements dialect bound state).cursor.notes = notes.reverse ++ state.cursor.notes ∧
      (∀ note ∈ notes, offset ≤ note.start) ∧ Woven pieces last (Node.weaveAll notes nodes) := by
  induction h generalizing state bound with
  | @stop offset r last hgap =>
    subst hrest hoffset
    obtain ⟨bound, rfl⟩ : ∃ n, bound = n + 1 := ⟨bound - 1, by omega⟩
    obtain ⟨notes, hfront, hkinds, hnotes⟩ := State.front_notes hgap ⟨rfl, rfl⟩ hleft
    refine ⟨[], notes.reverse, ?_, ?_, fun note hmem => (hnotes note hmem).1, ?_⟩
    · rw [readStatements, hfront]
      rfl
    · rw [readStatements, hfront, List.reverse_reverse]
      rfl
    · rw [Node.weaveAll, ← hkinds]
      exact .stop fun note hmem => (hnotes note hmem).2.2
  | @step offset r v kinds last width node pieces hgap hread hreads ih =>
    subst hrest hoffset
    obtain ⟨bound, rfl⟩ : ∃ n, bound = n + 1 := ⟨bound - 1, by omega⟩
    obtain ⟨bare, inner, hstands, rfl⟩ := statementAt_eq_some_iff.1 hread
    obtain ⟨notes, hfront, hkinds, hnotes⟩ := State.front_notes hgap hstands.stops hleft
    obtain ⟨next, hnext, hcursor, hadded⟩ := hstands.readStatement state.front
      (by rw [hfront]) (by rw [hfront])
    have hsome := readStatements_of_some bound (by rw [hfront]; exact hstands.more) hnext
    rw [hfront] at hcursor hadded
    simp only at hcursor hadded
    generalize hplace : state.cursor.offset + (state.cursor.rest.length - v.length) = place at *
    have hpos := hstands.pos
    have hshort := hgap.length_le
    have hmore := List.length_pos_iff.2 hstands.more
    obtain ⟨nodes, later, hnodes, hlater, hplaces, hwoven⟩ := @ih next
      (by rw [hcursor]) (by rw [hcursor]) (by rw [hcursor, List.length_drop]) bound
      (by rw [List.length_drop]; omega)
    refine ⟨bare.shift place :: nodes,
      notes.reverse ++ (inner.reverse.map (Node.shift place) ++ later), ?_, ?_, ?_, ?_⟩
    · rw [hsome, hnodes, hadded]
      simp
    · rw [hsome, hlater, hcursor]
      simp
    · intro note hmem
      simp only [List.mem_append, List.mem_map] at hmem
      rcases hmem with h | ⟨own, _, rfl⟩ | h
      · exact (hnotes note h).1
      · rw [Node.start_shift]
        omega
      · have := hplaces note h
        omega
    · rw [Node.weaveAll_cons_append, Node.weave_shift]
      · exact .step (fun note hmem => (hnotes note hmem).2.2) hkinds hwoven
      · rw [Node.start_shift, Node.stop_shift, hstands.start]
        omega
      · intro note hmem
        rw [Node.start_shift, hstands.start, Nat.zero_add]
        exact (hnotes note hmem).2.1
      · intro note hmem
        obtain ⟨own, hown, rfl⟩ := List.mem_map.1 hmem
        have := (hstands.notes own (List.mem_reverse.1 hown)).1
        simp only [Node.start_shift, Node.stop_shift, hstands.start, hstands.stop]
        omega
      · intro note hmem
        have := hplaces note hmem
        rw [Node.stop_shift, hstands.stop]
        omega

/-- Nodes that were read stay. -/
theorem nodes_suffix_readStatements (bound : Nat) (state : State) :
    state.nodes <:+ (readStatements dialect bound state).nodes := by
  refine readStatements_invariant (motive := fun next => state.nodes <:+ next.nodes)
    (fun {next} h => ?_) (fun {before next} hread h => ?_) (fun _ h => ?_) bound List.suffix_rfl
  · rw [next.nodes_front]
    exact h
  · obtain ⟨node, hnodes, _⟩ := hread.yields rfl
    rw [hnodes]
    exact h.trans (List.suffix_cons _ _)
  · exact h.trans (List.suffix_cons _ _)

/-- A text is read as pieces, or an error is left. -/
theorem reads_or_error (bound : Nat) {state : State}
    (hleft : state.cursor.left = state.cursor.rest.length)
    (hbound : state.cursor.rest.length < bound) :
    (∃ pieces last, Reads dialect state.cursor.offset state.cursor.rest pieces last) ∨
      ∃ node ∈ (readStatements dialect bound state).nodes, node.kind = .error := by
  induction bound generalizing state with
  | zero => omega
  | succ bound ih =>
    obtain ⟨v, kinds, hgap, hstops⟩ := exists_gap state.cursor.rest
    obtain ⟨notes, hfront, _⟩ := state.front_eq hgap hstops hleft
    by_cases hempty : v = []
    · subst hempty
      exact .inl ⟨[], kinds, .stop hgap⟩
    have hmore : state.front.cursor.rest ≠ [] := by rw [hfront]; exact hempty
    have hlocal := @readStatement_eq dialect state.front (by rw [hfront])
    rw [hfront] at hlocal
    simp only at hlocal
    rw [← hfront] at hlocal
    cases hread : readStatement dialect (State.at v) with
    | some inner =>
      obtain ⟨bare, _, hstands⟩ := stands_of_readStatement hstops hread
      obtain ⟨next, hnext, hcursor, _⟩ := hstands.readStatement state.front
        (by rw [hfront]) (by rw [hfront])
      have hpos := hstands.pos
      have hshort := hgap.length_le
      have hlong := List.length_pos_iff.2 hempty
      rw [readStatements_of_some bound hmore hnext]
      rw [hfront] at hcursor
      rcases @ih next (by rw [hcursor, List.length_drop])
        (by rw [hcursor, List.length_drop]; omega) with ⟨pieces, last, hreads⟩ | herror
      · rw [hcursor] at hreads
        exact .inl ⟨_, last, .step hgap (statementAt_eq_some_iff.2 ⟨_, _, hstands, rfl⟩) hreads⟩
      · exact .inr herror
    | none =>
      rw [hread, Option.map_none] at hlocal
      refine .inr ⟨.mk .error .plain state.front.cursor.offset (state.front.cursor.advance (max 1
        (state.front.cursor.rest.takeWhile (· != lineFeed)).length)).offset [], ?_, rfl⟩
      simp only [readStatements, List.isEmpty_eq_false_iff.2 hmore, hlocal, Bool.false_eq_true,
        if_false]
      exact (nodes_suffix_readStatements bound _).subset (List.mem_cons_self ..)

/-- Every piece is read at its place in the text. -/
theorem Reads.of_mem {text : Bytes} {offset : Nat} {pieces : List Piece} {last : List Kind}
    (h : Reads dialect offset (text.drop offset) pieces last) {piece : Piece}
    (hmem : piece ∈ pieces) :
    offset ≤ piece.place ∧ piece.text = text.drop piece.place ∧
      statementAt dialect piece.text = some (piece.width, piece.node) := by
  generalize hr : text.drop offset = r at h
  induction h with
  | stop => cases hmem
  | @step offset r v kinds last width node pieces hgap hread hrest ih =>
    have hv : v = text.drop (offset + (r.length - v.length)) := by
      conv => lhs; rw [List.suffix_iff_eq_drop.1 hgap.suffix]
      rw [← hr, List.drop_drop]
    rcases List.mem_cons.1 hmem with rfl | hmem
    · exact ⟨Nat.le_add_right _ _, hv, hread⟩
    · obtain ⟨hplace, hpiece⟩ := ih hmem (by
        conv => rhs; rw [hv]
        rw [List.drop_drop])
      exact ⟨by omega, hpiece⟩

/-! ## The opening of a text -/

/-- A state from which the statements of a text are read, with the nodes that it puts in front of
them. -/
structure State.Leading (text : Bytes) (state : State) (lead : List Node) : Prop where
  rest : state.cursor.rest = text.drop state.cursor.offset
  left : state.cursor.left = state.cursor.rest.length
  plain : ∀ node ∈ lead, (node.kind = .comment ∨ node.kind = .hashBangLine) ∧ node.children = []
  woven : ∀ nodes notes, (∀ note ∈ notes, state.cursor.offset ≤ note.start) →
    Node.weaveAll (state.cursor.notes.reverse ++ notes) (state.nodes.reverse ++ nodes) =
      lead ++ Node.weaveAll notes nodes

/-- The mark of a line for the shell. -/
def hashBang : Bytes := utf8 "#!"

/-- Passes over the line for the shell. -/
theorem State.opening_eq (text : Bytes) :
    State.opening text =
      if hashBang.isPrefixOf (State.at text).skip.cursor.rest then
        let front := (State.at text).skip.cursor
        let cursor := front.advance (front.rest.takeWhile (· != lineFeed)).length
        ⟨cursor, some front.offset, [.mk .hashBangLine .plain front.offset cursor.offset []]⟩
      else State.at text := by
  by_cases hmark : hashBang.isPrefixOf (State.at text).skip.cursor.rest = true
  · have hlength : Token.hashBang.length (State.at text).skip.cursor.rest =
        some ((State.at text).skip.cursor.rest.takeWhile (· != lineFeed)).length := if_pos hmark
    simp only [State.opening, State.take, hlength, if_pos hmark, Option.map_some, Option.elim_some]
    rfl
  · have hlength : Token.hashBang.length (State.at text).skip.cursor.rest = none := if_neg hmark
    simp only [State.opening, State.take, hlength, if_neg hmark, Option.map_none, Option.elim_none]

theorem Cursor.kind_of_mem_skipFrom {bytes : Bytes} {offset left : Nat} {notes : List Node}
    {skip : Nat} {note : Node} (h : note ∈ (skipFrom offset left notes skip bytes).notes) :
    note ∈ notes ∨ note.kind = .comment := by
  induction bytes generalizing offset left notes skip with
  | nil => exact .inl h
  | cons byte rest ih =>
    cases skip with
    | succ skip => exact ih h
    | zero =>
      simp only [skipFrom] at h
      split at h
      · exact ih h
      split at h
      · split at h
        · rcases ih h with hmem | hkind
          · rcases List.mem_cons.1 hmem with rfl | hmem
            · exact .inr rfl
            · exact .inl hmem
          · exact .inr hkind
        · exact .inl h
      split at h
      · split at h
        · exact ih h
        · exact .inl h
      · exact .inl h

/-- Only comments and the line for the shell stand in front of the statements. -/
theorem State.leading_opening (text : Bytes) :
    ∃ lead, (State.opening text).Leading text lead := by
  rw [State.opening_eq]
  split
  next hmark =>
    have hkinds : ∀ note ∈ (State.at text).cursor.skip.notes, note.kind = .comment := by
      intro note hmem
      rcases Cursor.kind_of_mem_skipFrom hmem with h | h
      · cases h
      · exact h
    obtain ⟨width, notes, hcursor, hnotes⟩ := Cursor.passes_skip (State.at text).cursor
    have hskip : (State.at text).skip.cursor = (State.at text).cursor.skip := rfl
    rw [hcursor] at hkinds
    simp only [hskip, hcursor]
    simp only [State.at, Nat.zero_add, List.append_nil] at hnotes hkinds ⊢
    generalize ((text.drop width).takeWhile (· != lineFeed)).length = line
    refine ⟨notes.reverse ++ [.mk .hashBangLine .plain width (width + line) []], ?_, ?_, ?_, ?_⟩
    · simp [Cursor.advance]
    · simp [Cursor.advance, Nat.sub_sub]
    · intro node hmem
      rcases List.mem_append.1 hmem with h | h
      · have hnote := List.mem_reverse.1 h
        exact ⟨.inl (hkinds node hnote), (hnotes node hnote).2.2.2⟩
      · obtain rfl := List.mem_singleton.1 h
        exact ⟨.inr rfl, rfl⟩
    · intro nodes later hlater
      have hwoven := @Node.weaveAll_cons_append notes.reverse [] later
        (.mk .hashBangLine .plain width (width + line) [])
        (Nat.le_add_right _ _) (fun note hmem => (hnotes note (List.mem_reverse.1 hmem)).2.1)
        (by simp) hlater nodes
      rw [List.nil_append] at hwoven
      rw [List.append_assoc]
      exact hwoven
  next => exact ⟨[], rfl, rfl, by simp, fun nodes notes _ => rfl⟩

/-- Behind a line for the shell a line feed stands, or the text ends. -/
theorem State.opening_rest {text : Bytes} (h : (State.opening text).cursor.offset ≠ 0) :
    text.drop (State.opening text).cursor.offset = [] ∨
      (text.drop (State.opening text).cursor.offset).head? = some lineFeed := by
  obtain ⟨lead, hlead⟩ := State.leading_opening text
  rw [← hlead.rest]
  rw [State.opening_eq] at h ⊢
  split
  · simp only [Cursor.advance]
    generalize (State.at text).skip.cursor.rest = rest
    have hdrop : rest.drop (rest.takeWhile (· != lineFeed)).length =
        rest.dropWhile (· != lineFeed) := by
      conv => lhs; rhs; rw [← List.takeWhile_append_dropWhile (p := (· != lineFeed)) (l := rest)]
      exact List.drop_left
    rw [hdrop]
    have hhead := List.head?_dropWhile_not (· != lineFeed) rest
    cases hrest : rest.dropWhile (· != lineFeed) with
    | nil => exact .inl rfl
    | cons byte more =>
      rw [hrest] at hhead
      exact .inr (by simpa using hhead)
  next hmark => rw [if_neg hmark] at h; exact absurd rfl h

/-- The mark of a line for the shell does not stand in a gap. -/
theorem Cursor.isPrefixOf_skip_of_gap (cursor : Cursor) {v : Bytes} {kinds : List Kind}
    (hgap : Gap cursor.rest v kinds) (hstops : Stops v) (hmark : hashBang.isPrefixOf v = false) :
    hashBang.isPrefixOf cursor.skip.rest = false := by
  generalize hrest : cursor.rest = r at hgap
  induction hgap generalizing cursor with
  | nil r =>
    rw [skip_of_itemWidth_eq_zero (by rw [hrest]; exact hstops.item), hrest]
    exact hmark
  | item hitem _ ih =>
    subst hrest
    rw [← skip_passItem hitem]
    exact ih _ hstops hmark rfl
  | @html r v kinds hitem hhtml =>
    rw [skip_of_itemWidth_eq_zero (by rw [hrest]; exact hitem), hrest]
    rw [htmlWidth] at hhtml
    split at hhtml
    next hprefix =>
      rw [Bool.or_eq_true, List.isPrefixOf_iff_prefix, List.isPrefixOf_iff_prefix] at hprefix
      rcases hprefix with ⟨rest, rfl⟩ | ⟨rest, rfl⟩ <;> rfl
    · cases hhtml

theorem State.opening_of_gap {text v : Bytes} {kinds : List Kind} (hgap : Gap text v kinds)
    (hstops : Stops v) (hmark : hashBang.isPrefixOf v = false) :
    State.opening text = State.at text := by
  rw [State.opening_eq, if_neg]
  rw [Bool.not_eq_true]
  exact (State.at text).cursor.isPrefixOf_skip_of_gap hgap hstops hmark

theorem Reads.opening_eq {offset : Nat} {text : Bytes} {pieces : List Piece} {last : List Kind}
    (h : Reads dialect offset text pieces last) : State.opening text = State.at text := by
  cases h with
  | stop hgap => exact State.opening_of_gap hgap ⟨rfl, rfl⟩ rfl
  | step hgap hread =>
    obtain ⟨_, _, hstands, _⟩ := statementAt_eq_some_iff.1 hread
    exact State.opening_of_gap hgap hstands.stops hstands.mark

/-- Where blanks and comments end that are no HTML comments. -/
theorem Cursor.skip_of_gap (cursor : Cursor) {v : Bytes} {kinds : List Kind}
    (hgap : Gap cursor.rest v kinds) (hitem : itemWidth v = 0) (hkinds : .htmlComment ∉ kinds) :
    cursor.skip.rest = v ∧
      cursor.skip.offset = cursor.offset + (cursor.rest.length - v.length) := by
  generalize hrest : cursor.rest = r at hgap
  induction hgap generalizing cursor with
  | nil r =>
    rw [skip_of_itemWidth_eq_zero (by rw [hrest]; exact hitem), hrest, Nat.sub_self]
    exact ⟨rfl, rfl⟩
  | @item r v kinds hpos hgap ih =>
    subst hrest
    have hwidth := itemWidth_le cursor.rest
    have hlength := hgap.length_le
    rw [List.length_drop] at hlength
    obtain ⟨hskip, hoffset⟩ := ih cursor.passItem hitem
      (fun h => hkinds (List.mem_append_right _ h)) rfl
    rw [skip_passItem hpos] at hskip hoffset
    refine ⟨hskip, ?_⟩
    rw [hoffset]
    simp only [passItem, advance, List.length_drop]
    omega
  | html => exact absurd (List.mem_cons_self ..) hkinds

theorem exists_gap_of_skip (r : Bytes) :
    ∃ v kinds, Gap r v kinds ∧ itemWidth v = 0 ∧ .htmlComment ∉ kinds := by
  induction hlength : r.length using Nat.strongRecOn generalizing r with
  | ind n ih =>
    by_cases hitem : itemWidth r = 0
    · exact ⟨r, [], .nil r, hitem, by simp⟩
    · have hle := itemWidth_le r
      obtain ⟨v, kinds, hgap, hstops, hkinds⟩ := ih (r.drop (itemWidth r)).length
        (by rw [List.length_drop]; omega) _ rfl
      refine ⟨v, _, .item (Nat.pos_of_ne_zero hitem) hgap, hstops, fun h => ?_⟩
      rcases List.mem_append.1 h with h | h
      · rw [itemKinds] at h
        split at h <;> simp at h
      · exact hkinds h

theorem State.opening_offset_of_gap {text v : Bytes} {kinds : List Kind} (hgap : Gap text v kinds)
    (hitem : itemWidth v = 0) (hkinds : .htmlComment ∉ kinds) :
    (State.opening text).cursor.offset =
      if hashBang.isPrefixOf v then
        text.length - v.length + (v.takeWhile (· != lineFeed)).length
      else 0 := by
  obtain ⟨hrest, hoffset⟩ := (State.at text).cursor.skip_of_gap hgap hitem hkinds
  have hcursor : (State.at text).skip.cursor = (State.at text).cursor.skip := rfl
  rw [State.opening_eq, hcursor, hrest]
  split
  · simp only [Cursor.advance, hoffset]
    rw [hrest]
    simp only [State.at, Nat.zero_add]
  · rfl

theorem State.opening_offset_le (text : Bytes) :
    (State.opening text).cursor.offset ≤ text.length := by
  obtain ⟨v, kinds, hgap, hitem, hkinds⟩ := exists_gap_of_skip text
  have hlength := hgap.length_le
  have hline := (List.takeWhile_prefix (l := v) (· != lineFeed)).length_le
  rw [opening_offset_of_gap hgap hitem hkinds]
  split <;> omega

/-- A line for the shell does not depend on what follows it. -/
theorem State.opening_append {x y y' : Bytes}
    (h : (State.opening (x ++ y)).cursor.offset = x.length) (hx : x ≠ [])
    (hy : y' = [] ∨ y'.head? = some lineFeed) :
    (State.opening (x ++ y')).cursor.offset = x.length := by
  obtain ⟨v, kinds, hgap, hitem, hkinds⟩ := exists_gap_of_skip (x ++ y)
  have hlength := hgap.length_le
  have hdrop := List.suffix_iff_eq_drop.1 hgap.suffix
  rw [opening_offset_of_gap hgap hitem hkinds] at h
  split at h
  next hmark =>
    generalize hskip : (x ++ y).length - v.length = skip at hdrop h
    have hinside : skip ≤ x.length := by omega
    rw [List.drop_append_of_le_length hinside] at hdrop
    subst hdrop
    obtain ⟨rest, hrest⟩ := List.isPrefixOf_iff_prefix.1 hmark
    have hline : (x.drop skip ++ y).takeWhile (· != lineFeed) = x.drop skip := by
      have hprefix := List.takeWhile_prefix (l := x.drop skip ++ y) (· != lineFeed)
      refine (List.prefix_of_prefix_length_le hprefix (List.prefix_append _ _) ?_).eq_of_length ?_
      · rw [List.length_drop]
        omega
      · rw [List.length_drop]
        omega
    have hcons : x.drop skip = 35 :: 33 :: rest.takeWhile (· != lineFeed) := by
      rw [← hline, ← hrest]
      rfl
    have hplain : ∀ byte ∈ x.drop skip, (byte != lineFeed) = true := by
      rw [← hline]
      exact List.all_eq_true.1 List.all_takeWhile
    have hline' : (x.drop skip ++ y').takeWhile (· != lineFeed) = x.drop skip := by
      rw [List.takeWhile_append_of_pos hplain]
      rcases hy with rfl | hy
      · simp
      · cases y' with
        | nil => cases hy
        | cons byte more =>
          obtain rfl := Option.some.inj hy
          rw [List.takeWhile_cons_of_neg (by decide), List.append_nil]
    have hmark' : hashBang.isPrefixOf (x.drop skip ++ y') = true := by
      rw [hcons]
      rfl
    have hitem' : itemWidth (x.drop skip ++ y') = 0 := by
      rw [hcons]
      rfl
    have hseam : Seam (x.take skip) [] (x.drop skip ++ y) :=
      ⟨by simp, ⟨hitem, by rw [hcons]; rfl⟩, by rw [hcons]; simp, .inl rfl⟩
    have hgap' : Gap (x ++ y') (x.drop skip ++ y') kinds := by
      have hcut : ∀ z, x.take skip ++ (x.drop skip ++ z) = x ++ z := by
        intro z
        rw [← List.append_assoc, List.take_append_drop]
      have := Gap.append_of_seam hseam (by rw [List.nil_append, hcut]; exact hgap)
        (.nil (x.drop skip ++ y'))
      rwa [hcut, List.append_nil] at this
    rw [opening_offset_of_gap hgap' hitem' hkinds, if_pos hmark', hline', List.length_drop,
      List.length_append, List.length_append, List.length_drop]
    omega
  · exact absurd (List.length_eq_zero_iff.1 h.symm) hx

/-! ## The tree of a text -/

/-- The text falls into the given pieces and a last gap behind its opening. -/
def Falls (dialect : Dialect) (text : Bytes) (pieces : List Piece) (last : List Kind) : Prop :=
  Reads dialect (State.opening text).cursor.offset
    (text.drop (State.opening text).cursor.offset) pieces last

theorem Falls.children_parse {text : Bytes} {pieces : List Piece} {last : List Kind}
    (h : Falls dialect text pieces last) :
    ∃ lead rest, (parse dialect text).children = lead ++ rest ∧ Woven pieces last rest ∧
      ∀ node ∈ lead, (node.kind = .comment ∨ node.kind = .hashBangLine) ∧ node.children = [] := by
  obtain ⟨lead, hlead⟩ := State.leading_opening text
  have hlength : (text.drop (State.opening text).cursor.offset).length < text.length + 1 := by
    rw [List.length_drop]
    omega
  obtain ⟨nodes, notes, hnodes, hnotes, hplaces, hwoven⟩ := readStatements_of_reads h hlead.rest rfl
    (by rw [hlead.left, hlead.rest]) hlength
  refine ⟨lead, _, ?_, hwoven, hlead.plain⟩
  rw [parse, Node.weave_eq, hnodes, hnotes]
  simp only [Node.children, List.reverse_append, List.reverse_reverse]
  exact hlead.woven nodes notes hplaces

/-- A text without a fault falls into pieces. -/
theorem exists_falls {text : Bytes} (h : (parse dialect text).has .error = false) :
    ∃ pieces last, Falls dialect text pieces last := by
  obtain ⟨lead, hlead⟩ := State.leading_opening text
  have hlength : (State.opening text).cursor.rest.length < text.length + 1 := by
    rw [hlead.rest, List.length_drop]
    omega
  rcases @reads_or_error dialect _ _ hlead.left hlength with
    ⟨pieces, last, hreads⟩ | ⟨node, hmem, hkind⟩
  · rw [hlead.rest] at hreads
    exact ⟨pieces, last, hreads⟩
  · rw [parse, Node.has_weave, Bool.or_eq_false_iff, Node.has_eq, Bool.or_eq_false_iff] at h
    have hnode := List.any_eq_false.1 h.1.2 node (List.mem_reverse.2 hmem)
    rw [Node.has_eq, hkind] at hnode
    simp at hnode

/-! ## Outlines of a text -/

/-- HTML comments count as statements. -/
def htmlEntries (kinds : List Kind) : List Entry :=
  (kinds.filter (· = .htmlComment)).map (⟨·, none⟩)

namespace Piece

def entry (piece : Piece) : Entry := piece.node.entry piece.text

def outlines (piece : Piece) : List (List Entry) := piece.node.outlines piece.text

def profile (piece : Piece) : Profile :=
  ⟨piece.place, piece.place + piece.width, piece.entry, piece.outlines⟩

/-- The statements of the module that a piece contributes. -/
def entries (piece : Piece) : List Entry := htmlEntries piece.kinds ++ [piece.entry]

end Piece

/-- The outline of the module. -/
def moduleOutline (pieces : List Piece) (last : List Kind) : List Entry :=
  pieces.flatMap Piece.entries ++ htmlEntries last

theorem moduleOutline_cons (piece : Piece) (pieces : List Piece) (last : List Kind) :
    moduleOutline (piece :: pieces) last = piece.entries ++ moduleOutline pieces last := by
  rw [moduleOutline, List.flatMap_cons, List.append_assoc]
  rfl

/-- Comments and the like hold no function. -/
theorem plain_of_isNote {node : Node} (hkind : node.kind.isNote = true)
    (hchildren : node.children = []) :
    node.Everywhere fun inner => inner.kind.isFunction = false ∧ inner.kind ≠ .arrowFunction := by
  rw [Node.everywhere_iff, hchildren]
  refine ⟨?_, by simp⟩
  revert hkind
  generalize node.kind = kind
  cases kind <;> decide

theorem isNote_of_isComment {node : Node} (h : node.IsComment) : node.kind.isNote = true := by
  rcases h.1 with hkind | hkind <;> rw [hkind] <;> rfl

theorem has_error_of_isComment {node : Node} (h : node.IsComment) : node.has .error = false := by
  rw [Node.has_eq, h.2]
  rcases h.1 with hkind | hkind <;> simp [hkind]

/-- The statements among siblings. -/
def statementsAmong (siblings : List Node) : List Node :=
  siblings.filter fun child => child.kind != .comment && child.kind != .hashBangLine

theorem statementsAmong_append (first second : List Node) :
    statementsAmong (first ++ second) = statementsAmong first ++ statementsAmong second :=
  List.filter_append first second

theorem counts_of_isNote_eq_false {kind : Kind} (h : kind.isNote = false) :
    (kind != .comment && kind != .hashBangLine) = true := by
  revert h
  cases kind <;> decide

theorem statementsAmong_cons {node : Node} (h : node.kind.isNote = false) (rest : List Node) :
    statementsAmong (node :: rest) = node :: statementsAmong rest :=
  List.filter_cons_of_pos (counts_of_isNote_eq_false h)

theorem statementsAmong_eq_nil {siblings : List Node}
    (h : ∀ node ∈ siblings, node.kind = .comment ∨ node.kind = .hashBangLine) :
    statementsAmong siblings = [] := by
  rw [statementsAmong, List.filter_eq_nil_iff]
  intro node hmem
  rcases h node hmem with hkind | hkind <;> simp [hkind]

theorem flatMap_outlines_eq_nil {nodes : List Node}
    (h : ∀ node ∈ nodes, node.kind.isNote = true ∧ node.children = []) (source : Bytes) :
    nodes.flatMap (Node.outlines source) = [] := by
  rw [List.flatMap_eq_nil_iff]
  intro node hmem
  obtain ⟨hkind, hempty⟩ := h node hmem
  rw [Node.outlines, Node.bodies_eq_nil (plain_of_isNote hkind hempty), List.map_nil]

theorem entries_of_notes {notes : List Node} (hnotes : ∀ note ∈ notes, note.IsComment)
    (source : Bytes) :
    (statementsAmong notes).map (Node.entry source) = htmlEntries (notes.map (·.kind)) := by
  induction notes with
  | nil => rfl
  | cons note rest ih =>
    rw [List.forall_mem_cons] at hnotes
    have hrest := ih hnotes.2
    rw [statementsAmong] at hrest ⊢
    rcases hnotes.1.1 with hkind | hkind
    · rw [List.filter_cons_of_neg (by simp [hkind]), hrest]
      simp [htmlEntries, hkind]
    · have hentry : note.entry source = ⟨.htmlComment, none⟩ := by
        simp [Node.entry, Node.literal?, hkind]
      rw [List.filter_cons_of_pos (by simp [hkind]), List.map_cons, hrest, hentry]
      simp [htmlEntries, hkind]

/-- The statements and the functions among woven siblings. -/
theorem Woven.entries_eq {pieces : List Piece} {last : List Kind} {children : List Node}
    (h : Woven pieces last children) (source : Bytes)
    (hpieces : ∀ piece ∈ pieces, piece.text = source.drop piece.place ∧
      piece.node.kind.isNote = false) :
    (statementsAmong children).map (Node.entry source) = moduleOutline pieces last ∧
      children.flatMap (Node.outlines source) = pieces.flatMap Piece.outlines := by
  induction h with
  | stop hnotes =>
    exact ⟨entries_of_notes hnotes source, flatMap_outlines_eq_nil (fun note hmem =>
      ⟨isNote_of_isComment (hnotes note hmem), (hnotes note hmem).2⟩) source⟩
  | @step piece pieces last notes rest hnotes hkinds _ ih =>
    rw [List.forall_mem_cons] at hpieces
    obtain ⟨⟨htext, hkind⟩, hrest⟩ := hpieces
    obtain ⟨hentries, houtlines⟩ := ih hrest
    constructor
    · rw [statementsAmong_append, statementsAmong_cons (by rw [Node.kind_shift]; exact hkind),
        List.map_append, List.map_cons, entries_of_notes hnotes source, hentries, hkinds,
        Node.entry_shift, ← htext, moduleOutline_cons, Piece.entries, List.append_assoc]
      rfl
    · have hnone := flatMap_outlines_eq_nil (fun note hmem =>
        ⟨isNote_of_isComment (hnotes note hmem), (hnotes note hmem).2⟩) source
      rw [List.flatMap_append, List.flatMap_cons, hnone, houtlines, Node.outlines_shift, ← htext]
      rfl

/-- The profiles of woven siblings are those of the pieces. -/
theorem Woven.profiles_eq {pieces : List Piece} {last : List Kind} {children : List Node}
    (h : Woven pieces last children) {source : Bytes}
    (hpieces : ∀ piece ∈ pieces, (piece.node.shift piece.place).profile source = piece.profile ∧
      piece.node.kind.isNote = false) :
    (children.filter (!·.kind.isNote)).map (Node.profile source) = pieces.map Piece.profile := by
  have hnone : ∀ {notes : List Node}, (∀ note ∈ notes, note.IsComment) →
      notes.filter (!·.kind.isNote) = [] := by
    intro notes hnotes
    rw [List.filter_eq_nil_iff]
    intro note hmem
    simp [isNote_of_isComment (hnotes note hmem)]
  induction h with
  | stop hnotes => rw [hnone hnotes]; rfl
  | @step piece pieces last notes rest hnotes _ _ ih =>
    rw [List.forall_mem_cons] at hpieces
    obtain ⟨⟨hprofile, hkind⟩, hrest⟩ := hpieces
    rw [List.filter_append, hnone hnotes, List.nil_append,
      List.filter_cons_of_pos (by rw [Node.kind_shift, hkind]; rfl), List.map_cons, hprofile,
      ih hrest, List.map_cons]

theorem Woven.faultless {pieces : List Piece} {last : List Kind} {children : List Node}
    (h : Woven pieces last children) (hpieces : ∀ piece ∈ pieces, piece.node.has .error = false) :
    ∀ node ∈ children, node.has .error = false := by
  induction h with
  | stop hnotes => exact fun note hmem => has_error_of_isComment (hnotes note hmem)
  | step hnotes _ _ ih =>
    rw [List.forall_mem_cons] at hpieces
    intro node hmem
    rcases List.mem_append.1 hmem with h | h
    · exact has_error_of_isComment (hnotes node h)
    rcases List.mem_cons.1 h with rfl | h
    · rw [Node.has_shift]
      exact hpieces.1
    · exact ih hpieces.2 node h

theorem Falls.of_mem {text : Bytes} {pieces : List Piece} {last : List Kind}
    (h : Falls dialect text pieces last) {piece : Piece} (hmem : piece ∈ pieces) :
    (State.opening text).cursor.offset ≤ piece.place ∧ piece.text = text.drop piece.place ∧
      statementAt dialect piece.text = some (piece.width, piece.node) :=
  Reads.of_mem h hmem

theorem kind_of_statementAt {text : Bytes} {width : Nat} {node : Node}
    (h : statementAt dialect text = some (width, node)) :
    node.kind.isNote = false ∧ node.has .error = false := by
  obtain ⟨bare, notes, hstands, rfl⟩ := statementAt_eq_some_iff.1 h
  refine ⟨by rw [Node.kind_weave]; exact hstands.kind, ?_⟩
  rw [Node.has_weave, hstands.faultless, Bool.false_or, List.any_eq_false]
  intro note hmem
  rw [has_error_of_isComment (hstands.notes note (List.mem_reverse.1 hmem)).2]
  exact Bool.false_ne_true

/-- The outlines of a text are those of its pieces. -/
theorem Falls.outlines_read {text : Bytes} {pieces : List Piece} {last : List Kind}
    (h : Falls dialect text pieces last) :
    (Source.read dialect text).outlines =
      moduleOutline pieces last :: pieces.flatMap Piece.outlines := by
  obtain ⟨lead, rest, hchildren, hwoven, hlead⟩ := h.children_parse
  obtain ⟨hentries, houtlines⟩ := hwoven.entries_eq text fun piece hmem =>
    ⟨(h.of_mem hmem).2.1, (kind_of_statementAt (h.of_mem hmem).2.2).1⟩
  have hplain := flatMap_outlines_eq_nil (fun node hmem =>
    ⟨by rcases (hlead node hmem).1 with hkind | hkind <;> rw [hkind] <;> rfl,
      (hlead node hmem).2⟩) text
  have hstatements : (parse dialect text).statements = statementsAmong rest := by
    rw [Node.statements, hchildren]
    exact (statementsAmong_append lead rest).trans
      (by rw [statementsAmong_eq_nil fun node hmem => (hlead node hmem).1, List.nil_append])
  rw [Source.outlines_eq]
  simp only [Source.read, Node.outline, hstatements, hchildren]
  rw [List.flatMap_append, hplain, List.nil_append, hentries, houtlines]

/-- A text that falls into pieces is read without a fault. -/
theorem Falls.hasError_read {text : Bytes} {pieces : List Piece} {last : List Kind}
    (h : Falls dialect text pieces last) : (Source.read dialect text).hasError = false := by
  obtain ⟨lead, rest, hchildren, hwoven, hlead⟩ := h.children_parse
  have hrest := hwoven.faultless fun piece hmem => (kind_of_statementAt (h.of_mem hmem).2.2).2
  have hkind : (parse dialect text).kind = .program := by rw [parse, Node.kind_weave]; rfl
  rw [Source.hasError, Source.read, Node.has_eq]
  simp only [hkind, hchildren, List.any_append, Bool.or_eq_false_iff, List.any_eq_false]
  refine ⟨rfl, fun node hmem => ?_, fun node hmem => by simp [hrest node hmem]⟩
  obtain ⟨hkind, hempty⟩ := hlead node hmem
  rw [Node.has_eq, hempty]
  rcases hkind with hkind | hkind <;> simp [hkind]

/-! ## Pieces in the tree -/

theorem Woven.mem {pieces : List Piece} {last : List Kind} {children : List Node}
    (h : Woven pieces last children) {node : Node} (hmem : node ∈ children) :
    node.IsComment ∨ ∃ piece ∈ pieces, node = piece.node.shift piece.place := by
  induction h with
  | stop hnotes => exact .inl (hnotes node hmem)
  | step hnotes _ _ ih =>
    rcases List.mem_append.1 hmem with h | h
    · exact .inl (hnotes node h)
    rcases List.mem_cons.1 h with rfl | h
    · exact .inr ⟨_, List.mem_cons_self .., rfl⟩
    · rcases ih h with hcomment | ⟨piece, hpiece, rfl⟩
      · exact .inl hcomment
      · exact .inr ⟨piece, List.mem_cons_of_mem _ hpiece, rfl⟩

theorem Woven.mem_of_piece {pieces : List Piece} {last : List Kind} {children : List Node}
    (h : Woven pieces last children) {piece : Piece} (hmem : piece ∈ pieces) :
    piece.node.shift piece.place ∈ children := by
  induction h with
  | stop => cases hmem
  | step _ _ _ ih =>
    rw [List.mem_append, List.mem_cons]
    rcases List.mem_cons.1 hmem with rfl | hmem
    · exact .inr (.inl rfl)
    · exact .inr (.inr (ih hmem))

/-- A child of the tree is a comment or the like, or the statement of a piece. -/
theorem Falls.mem_children {dialect : Dialect} {text : Bytes} {pieces : List Piece}
    {last : List Kind} (h : Falls dialect text pieces last) {node : Node}
    (hmem : node ∈ (parse dialect text).children) :
    (node.kind.isNote = true ∧ node.children = []) ∨
      ∃ piece ∈ pieces, node = piece.node.shift piece.place := by
  obtain ⟨lead, rest, hchildren, hwoven, hlead⟩ := h.children_parse
  rw [hchildren, List.mem_append] at hmem
  rcases hmem with hmem | hmem
  · obtain ⟨hkind, hempty⟩ := hlead node hmem
    exact .inl ⟨by rcases hkind with h | h <;> rw [h] <;> rfl, hempty⟩
  · rcases hwoven.mem hmem with hcomment | hpiece
    · exact .inl ⟨isNote_of_isComment hcomment, hcomment.2⟩
    · exact .inr hpiece

theorem Falls.piece_mem {dialect : Dialect} {text : Bytes} {pieces : List Piece}
    {last : List Kind} (h : Falls dialect text pieces last) {piece : Piece} (hmem : piece ∈ pieces) :
    piece.node.shift piece.place ∈ (parse dialect text).children := by
  obtain ⟨lead, rest, hchildren, hwoven, _⟩ := h.children_parse
  rw [hchildren]
  exact List.mem_append_right _ (hwoven.mem_of_piece hmem)

/-- The statement of a piece reaches from its place over its width. -/
theorem Falls.piece_bounds {dialect : Dialect} {text : Bytes} {pieces : List Piece}
    {last : List Kind} (h : Falls dialect text pieces last) {piece : Piece} (hmem : piece ∈ pieces) :
    (piece.node.shift piece.place).start = piece.place ∧
      (piece.node.shift piece.place).stop = piece.place + piece.width := by
  obtain ⟨bare, notes, hstands, hnode⟩ := statementAt_eq_some_iff.1 (h.of_mem hmem).2.2
  have hstart : piece.node.start = 0 := by rw [hnode, Node.start_weave, hstands.start]
  have hstop : piece.node.stop = piece.width := by rw [hnode, Node.stop_weave, hstands.stop]
  rw [Node.start_shift, Node.stop_shift, hstart, hstop]
  omega

theorem Falls.piece_entry {dialect : Dialect} {text : Bytes} {pieces : List Piece}
    {last : List Kind} (h : Falls dialect text pieces last) {piece : Piece} (hmem : piece ∈ pieces) :
    (piece.node.shift piece.place).entry text = piece.entry ∧
      (piece.node.shift piece.place).outlines text = piece.outlines := by
  rw [Node.entry_shift, Node.outlines_shift, ← (h.of_mem hmem).2.1]
  exact ⟨rfl, rfl⟩

theorem Falls.profiles_read {dialect : Dialect} {text : Bytes} {pieces : List Piece}
    {last : List Kind} (h : Falls dialect text pieces last) :
    (Source.read dialect text).profiles = pieces.map Piece.profile := by
  obtain ⟨lead, rest, hchildren, hwoven, hlead⟩ := h.children_parse
  have hnone : lead.filter (!·.kind.isNote) = [] := by
    rw [List.filter_eq_nil_iff]
    intro node hmem
    rcases (hlead node hmem).1 with hkind | hkind <;> simp [hkind, Kind.isNote]
  rw [Source.profiles, Source.read]
  simp only [hchildren, List.filter_append, hnone, List.nil_append]
  apply hwoven.profiles_eq
  intro piece hmem
  obtain ⟨hstart, hstop⟩ := h.piece_bounds hmem
  obtain ⟨hentry, houtlines⟩ := h.piece_entry hmem
  refine ⟨?_, (kind_of_statementAt (h.of_mem hmem).2.2).1⟩
  rw [Node.profile, hstart, hstop, hentry, houtlines]
  rfl

end Prologue.Grammar
