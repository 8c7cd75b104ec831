import Prologue.Proofs.Weaving
import Prologue.Proofs.Widths

/-!
# Reading stops between characters

Nothing that is read in a valid text ends inside a character, so every offset that a reading reaches
lies between two characters, and every node of a tree starts and stops there. A string of the tree
starts and stops with the same quote.
-/

namespace Prologue

open Utf8 (Valid)

/-- What lies between the offsets starts and stops with the same quote. -/
def Bytes.Quoted (text : Bytes) (start stop : Nat) : Prop :=
  start + 1 < stop ∧ ∃ quote, (quote = 34 ∨ quote = 39) ∧
    text[start]? = some quote ∧ text[stop - 1]? = some quote

/-- A node starts and stops between characters, and a string is quoted. -/
structure Node.Aligned (text : Bytes) (node : Node) : Prop where
  start : Valid (text.drop node.start)
  stop : Valid (text.drop node.stop)
  quoted : node.kind = .string → text.Quoted node.start node.stop

namespace Grammar

/-! ## Cursors -/

namespace Cursor

/-- What passing a blank or a comment keeps is kept on the way to the next token. -/
theorem skip_induct {motive : Cursor → Prop}
    (hitem : ∀ cursor, motive cursor → motive cursor.passItem) {cursor : Cursor}
    (h : motive cursor) : motive cursor.skip := by
  induction hlength : cursor.rest.length using Nat.strongRecOn generalizing cursor with
  | ind n ih =>
    by_cases hzero : itemWidth cursor.rest = 0
    · rwa [skip_of_itemWidth_eq_zero hzero]
    · have hle := itemWidth_le cursor.rest
      rw [← skip_passItem (Nat.pos_of_ne_zero hzero)]
      refine ih _ ?_ (hitem cursor h) rfl
      rw [show cursor.passItem.rest = cursor.rest.drop (itemWidth cursor.rest) from rfl,
        List.length_drop]
      omega

/-- What passing a blank or a comment keeps is kept on the way to an implied semicolon. -/
theorem impliedFrom_induct {motive : Cursor → Prop}
    (hblank : ∀ cursor code width, motive cursor → frontPoint cursor.rest = some (code, width) →
      motive (cursor.advance width))
    (hcomment : ∀ cursor width, motive cursor → commentLength cursor.rest = some width →
      motive { cursor.advance width with
        notes := note .comment cursor.offset width :: cursor.notes })
    {dialect : Dialect} {context : Context} {asking : Bool} {cursor after : Cursor}
    (himplied : impliedFrom dialect context cursor.offset cursor.left cursor.notes 0 asking
      cursor.rest = some after) (h : motive cursor) : motive after := by
  induction hlength : cursor.rest.length using Nat.strongRecOn generalizing cursor asking with
  | ind n ih =>
    obtain ⟨bytes, offset, left, notes⟩ := cursor
    cases bytes with
    | nil =>
      cases asking
      · cases himplied
      · obtain rfl := Option.some.inj himplied
        exact h
    | cons byte rest =>
      have hpast : ∀ {width : Nat} {notes' : List Node} {asking' : Bool},
          width + 1 ≤ (byte :: rest).length →
          motive ⟨(byte :: rest).drop (width + 1), offset + (width + 1), left - (width + 1),
            notes'⟩ →
          impliedFrom dialect context (offset + 1) (left - 1) notes' width asking' rest =
            some after →
          motive after := by
        intro width notes' asking' hle hmotive hrest
        rw [impliedFrom_drop (by simpa using hle), Nat.sub_sub, Nat.add_assoc,
          Nat.add_comm 1 width] at hrest
        refine ih _ ?_ hrest hmotive rfl
        rw [← hlength, List.length_drop, List.length_cons]
        omega
      simp only [impliedFrom] at himplied
      split at himplied
      · obtain rfl := Option.some.inj himplied
        exact h
      split at himplied
      next width hwidth =>
        exact hpast (commentLength_pos hwidth).2 (hcomment _ _ h hwidth) himplied
      split at himplied
      next code width hpoint =>
        split at himplied
        · exact hpast (frontPoint_le hpoint) (hblank _ _ _ h hpoint) himplied
        · cases himplied
      · cases himplied

/-- The cursor stands between two characters of the text, and so do the ends of the comments that it
passed. -/
structure Aligned (text : Bytes) (cursor : Cursor) : Prop where
  sound : cursor.Sound text
  rest : Valid cursor.rest
  notes : ∀ note ∈ cursor.notes, note.Aligned text

namespace Aligned

variable {text : Bytes} {cursor after : Cursor}

theorem offset (h : cursor.Aligned text) : Valid (text.drop cursor.offset) :=
  h.sound.rest ▸ h.rest

theorem advance (h : cursor.Aligned text) {width : Nat} (hle : width ≤ cursor.rest.length)
    (hvalid : Valid (cursor.rest.drop width)) : (cursor.advance width).Aligned text :=
  ⟨h.sound.advance hle, hvalid, h.notes⟩

theorem advance_note (h : cursor.Aligned text) {width : Nat} (hle : width ≤ cursor.rest.length)
    (hvalid : Valid (cursor.rest.drop width)) {kind : Kind}
    (hkind : kind = .comment ∨ kind = .htmlComment) :
    ({ cursor.advance width with
        notes := note kind cursor.offset width :: cursor.notes } : Cursor).Aligned text := by
  refine ⟨h.sound.advance_note hle hkind, hvalid, ?_⟩
  rw [List.forall_mem_cons]
  refine ⟨⟨h.offset, (h.advance hle hvalid).offset, fun hstring => ?_⟩, h.notes⟩
  rcases hkind with rfl | rfl <;> cases hstring

theorem passItem (h : cursor.Aligned text) : cursor.passItem.Aligned text := by
  have hle := itemWidth_le cursor.rest
  have hvalid := valid_drop_itemWidth h.rest
  unfold Cursor.passItem
  split
  · exact h.advance_note hle hvalid (.inl rfl)
  · exact h.advance hle hvalid

theorem skip (h : cursor.Aligned text) : cursor.skip.Aligned text :=
  skip_induct (motive := Aligned text) (fun _ h => h.passItem) h

theorem htmlComment? (h : cursor.Aligned text) (hhtml : cursor.htmlComment? = some after) :
    after.Aligned text := by
  rw [htmlComment?_eq] at hhtml
  split at hhtml
  · cases hhtml
  · obtain rfl := Option.some.inj hhtml
    exact h.skip.advance_note (htmlWidth_le _) (valid_drop_htmlWidth h.skip.rest) (.inr rfl)

theorem implied? (h : cursor.Aligned text) {dialect : Dialect} {context : Context}
    (himplied : cursor.implied? dialect context = some after) : after.Aligned text := by
  refine impliedFrom_induct (fun cursor code width h hpoint => ?_)
    (fun cursor width h hwidth => ?_) himplied h
  · have hle : width ≤ cursor.rest.length := by
      cases hrest : cursor.rest with
      | nil => rw [hrest] at hpoint; cases hpoint
      | cons byte rest => rw [hrest] at hpoint; exact frontPoint_le hpoint
    exact h.advance hle (valid_drop_frontPoint h.rest hpoint)
  · exact h.advance_note (commentLength_pos hwidth).2 (valid_drop_commentLength h.rest hwidth)
      (.inl rfl)

end Aligned

end Cursor

/-! ## States -/

/-- Only string tokens are read as strings. -/
def Rule.spells : Rule → Bool
  | leaf kind t => t.fits kind
  | fold kind => kind != .string
  | seq first second | alt first second => first.spells && second.spells
  | star rule | frame rule | role _ rule => rule.spells
  | _ => true

theorem rules_spells (dialect : Dialect) (goal : Goal) : (rules dialect goal).spells = true := by
  cases dialect <;> cases goal <;> first | decide | (rename_i mode; cases mode <;> decide)

namespace State

/-- All that a state knows of lies between characters of the text. -/
structure Aligned (text : Bytes) (state : State) : Prop where
  cursor : state.cursor.Aligned text
  start : ∀ first, state.start = some first → Valid (text.drop first)
  nodes : ∀ node ∈ state.nodes, node.Everywhere (Node.Aligned text)

namespace Aligned

variable {text : Bytes} {state next outer inner : State}

theorem move (h : state.Aligned text) {cursor : Cursor} (hcursor : cursor.Aligned text) :
    ({ state with cursor := cursor } : State).Aligned text :=
  ⟨hcursor, h.start, h.nodes⟩

theorem skip (h : state.Aligned text) : state.skip.Aligned text := h.move h.cursor.skip

theorem take (h : state.Aligned text) {token : Token} (htake : state.take token = some next) :
    next.Aligned text := by
  obtain ⟨width, hwidth, rfl⟩ := Option.map_eq_some_iff.1 htake
  refine ⟨h.cursor.advance (Token.length_le hwidth) (Token.valid_drop h.cursor.rest hwidth),
    fun first hfirst => ?_, h.nodes⟩
  obtain rfl := Option.some.inj hfirst
  cases hstart : state.start with
  | none => exact h.cursor.offset
  | some earlier => exact h.start earlier hstart

theorem opened (h : state.Aligned text) : state.opened.Aligned text := by
  refine ⟨h.cursor, ?_, ?_⟩
  · intro first hfirst
    cases hfirst
  · intro node hmem
    cases hmem

theorem closed (houter : outer.Aligned text) (hinner : inner.Aligned text) :
    (outer.closed inner).Aligned text := by
  refine ⟨hinner.cursor, fun first hfirst => ?_, fun node hmem => ?_⟩
  · cases hstart : outer.start with
    | some earlier =>
      obtain rfl : earlier = first := by simpa [State.closed, hstart] using hfirst
      exact houter.start earlier hstart
    | none => exact hinner.start first (by simpa [State.closed, hstart] using hfirst)
  · exact (List.mem_append.1 hmem).elim (hinner.nodes node) (houter.nodes node)

theorem fold (h : state.Aligned text) {kind : Kind} (hkind : kind ≠ .string) :
    (state.fold kind).Aligned text := by
  refine ⟨h.cursor, h.start, ?_⟩
  simp only [State.fold, List.forall_mem_singleton]
  refine (Node.everywhere_iff _ _).2 ⟨⟨?_, h.cursor.offset, fun hstring => absurd hstring hkind⟩,
    fun child hmem => h.nodes child (List.mem_reverse.1 hmem)⟩
  cases hstart : state.start with
  | none => exact h.cursor.offset
  | some first => exact h.start first hstart

theorem withRole (h : state.Aligned text) (part : Role) :
    ({ state with nodes := state.nodes.map (Node.withRole part) } : State).Aligned text := by
  refine ⟨h.cursor, h.start, ?_⟩
  rw [List.forall_mem_map]
  rintro ⟨kind, role, start, stop, children⟩ hmem
  obtain ⟨⟨hstart, hstop, hquoted⟩, hchildren⟩ := (Node.everywhere_iff _ _).1 (h.nodes _ hmem)
  exact (Node.everywhere_iff _ _).2 ⟨⟨hstart, hstop, hquoted⟩, hchildren⟩

theorem skipHtml (h : state.Aligned text) : state.skipHtml.Aligned text := by
  refine rounds_induct (motive := fun a b => a.Aligned text → b.Aligned text)
    (fun _ h => h) (fun hab hbc ha => hbc (hab ha)) ?_ _ _ h
  intro a b hstep ha
  obtain ⟨cursor, hcursor, rfl⟩ := Option.map_eq_some_iff.1 hstep
  exact ha.move (ha.cursor.htmlComment? hcursor)

end Aligned

end State

/-- A token that was read as a string is quoted. -/
theorem quoted_of_take {text : Bytes} {state next : State} (h : state.Aligned text)
    (htake : state.take .string = some next) :
    text.Quoted state.cursor.offset next.cursor.offset := by
  obtain ⟨width, hwidth, rfl⟩ := Option.map_eq_some_iff.1 htake
  obtain ⟨hwide, -, quote, hquote, hfirst, hlast⟩ := stringLength_spec hwidth
  rw [h.cursor.sound.rest, List.getElem?_drop] at hfirst hlast
  refine ⟨Nat.add_lt_add_left hwide _, quote, hquote, hfirst, ?_⟩
  show text[state.cursor.offset + width - 1]? = some quote
  rwa [Nat.add_sub_assoc (by omega)]

/-- Whatever a rule reads, it stops between characters. -/
theorem Derives.aligned {text : Bytes} {dialect : Dialect} {rule : Rule} {a b : State}
    (h : Derives dialect rule a b) (hspells : rule.spells = true) (ha : a.Aligned text) :
    b.Aligned text := by
  induction h with
  | look => exact ha
  | token htake => exact ha.skip.take htake
  | @leaf kind t state next htake =>
    have hnext := ha.skip.take htake
    refine ⟨hnext.cursor, hnext.start, ?_⟩
    rw [List.forall_mem_cons]
    refine ⟨(Node.everywhere_iff _ _).2 ⟨⟨ha.skip.cursor.offset, hnext.cursor.offset,
      fun hkind => ?_⟩, by simp [Node.children]⟩, hnext.nodes⟩
    obtain rfl := (Token.of_fits hspells).2.2 hkind
    exact quoted_of_take ha.skip htake
  | glued htake => exact ha.take htake
  | seq _ _ ihFirst ihSecond =>
    obtain ⟨hfirst, hsecond⟩ := Bool.and_eq_true_iff.1 hspells
    exact ihSecond hsecond (ihFirst hfirst ha)
  | left _ ih => exact ih (Bool.and_eq_true_iff.1 hspells).1 ha
  | right _ ih => exact ih (Bool.and_eq_true_iff.1 hspells).2 ha
  | finish => exact ha
  | again _ _ ihRound ihRest => exact ihRest hspells (ihRound hspells ha)
  | frame _ ih => exact ha.closed (ih hspells ha.opened)
  | fold => exact ha.fold (bne_iff_ne.1 hspells)
  | role _ ih => exact ha.closed ((ih hspells ha.opened).withRole _)
  | implied himplied => exact ha.move (ha.cursor.implied? himplied)
  | written htake => exact ha.skip.take htake
  | settled himplied => exact ha.move (ha.cursor.implied? himplied)
  | unsettled => exact ha
  | htmlComments => exact ha.skipHtml
  | goal _ ih => exact ha.closed (ih (rules_spells _ _) ha.opened)

/-! ## The whole text -/

section

variable {text : Bytes}

theorem State.Aligned.front {state : State} (h : state.Aligned text) : state.front.Aligned text :=
  h.skipHtml.skip

theorem State.Aligned.push {state : State} (h : state.Aligned text) {cursor : Cursor}
    (hcursor : cursor.Aligned text) {kind : Kind} (hkind : kind ≠ .string) :
    ({ state with
        cursor := cursor,
        nodes := .mk kind .plain state.cursor.offset cursor.offset [] :: state.nodes } :
      State).Aligned text := by
  refine ⟨hcursor, h.start, ?_⟩
  rw [List.forall_mem_cons]
  exact ⟨(Node.everywhere_iff _ _).2 ⟨⟨h.cursor.offset, hcursor.offset,
    fun hstring => absurd hstring hkind⟩, by simp [Node.children]⟩, h.nodes⟩

/-- A broken line ends in front of a character: it is empty, and its line feed is passed, or it goes on
to its line feed. -/
theorem valid_drop_line {bytes : Bytes} (h : Valid bytes) :
    Valid (bytes.drop (max 1 (bytes.takeWhile (· != lineFeed)).length)) := by
  cases bytes with
  | nil => simpa using h
  | cons byte rest =>
    by_cases hfeed : byte = lineFeed
    · subst hfeed
      exact h.tail (by decide)
    · have hpos : 1 ≤ ((byte :: rest).takeWhile (· != lineFeed)).length := by
        rw [List.takeWhile_cons, if_pos (by simpa using hfeed)]
        exact Nat.succ_pos _
      rw [Nat.max_eq_right hpos]
      exact valid_drop_takeWhile_of_stop (fun _ => ne_lineFeed_eq_false) h

theorem aligned_readStatements (dialect : Dialect) (bound : Nat) {state : State}
    (h : state.Aligned text) : (readStatements dialect bound state).Aligned text := by
  refine readStatements_invariant (fun hstate => ?_) (fun hread hstate => ?_)
    (fun hmore hstate => ?_) bound h
  · exact hstate.front
  · exact hread.aligned rfl hstate
  · exact hstate.push (hstate.cursor.advance (lineWidth_le hmore)
      (valid_drop_line hstate.cursor.rest)) (by decide)

theorem aligned_opening (h : Valid text) : (State.opening text).Aligned text := by
  have hat : (State.at text).Aligned text := by
    refine ⟨⟨⟨rfl, Nat.zero_le _, ?_, List.Pairwise.nil⟩, h, ?_⟩, ?_, ?_⟩
    all_goals
      intro _ hmem
      cases hmem
  apply State.opening_invariant hat
  intro next htake
  have hnext := hat.skip.take htake
  have hpushed := hat.skip.push hnext.cursor (show Kind.hashBangLine ≠ .string by decide)
  exact ⟨hnext.cursor, hnext.start, hpushed.nodes⟩

end

end Grammar

/-! ## Trees -/

namespace Node

/-- Among siblings that notes were woven with there are the notes and the siblings. -/
theorem mem_weaveAll {item : Node} {notes nodes : List Node} (h : item ∈ weaveAll notes nodes) :
    item ∈ notes ∨ ∃ node ∈ nodes, ∃ inside, (∀ note ∈ inside, note ∈ notes) ∧
      item = node.weave inside := by
  induction nodes generalizing notes with
  | nil => exact .inl h
  | cons node rest ih =>
    have htaken : ∀ {p : Node → Bool} {some : List Node} {note : Node},
        note ∈ some.takeWhile p → note ∈ some := fun hmem => (List.takeWhile_sublist _).subset hmem
    have hdropped : ∀ {p : Node → Bool} {some : List Node} {note : Node},
        note ∈ some.dropWhile p → note ∈ some := fun hmem => (List.dropWhile_sublist _).subset hmem
    rw [weaveAll] at h
    rcases List.mem_append.1 h with h | h
    · exact .inl (htaken h)
    rcases List.mem_cons.1 h with rfl | h
    · exact .inr ⟨node, List.mem_cons_self, _, fun note hmem => hdropped (htaken hmem), rfl⟩
    · rcases ih h with h | ⟨other, hother, inside, hinside, rfl⟩
      · exact .inl (hdropped (hdropped h))
      · exact .inr ⟨other, List.mem_cons_of_mem _ hother, inside,
          fun note hmem => hdropped (hdropped (hinside note hmem)), rfl⟩

/-- What holds of nodes and of notes holds of the nodes with the notes in them, if weaving keeps it. -/
theorem everywhere_weave_of {P : Node → Prop} {notes : List Node}
    (hweave : ∀ node inside, inside ⊆ notes → P node → P (node.weave inside))
    (hnotes : ∀ note ∈ notes, note.Everywhere P) {node : Node} (hnode : node.Everywhere P)
    {inside : List Node} (hinside : inside ⊆ notes) : (node.weave inside).Everywhere P := by
  induction node using Node.children_induction generalizing inside with
  | step node ih =>
    obtain ⟨hown, hchildren⟩ := (everywhere_iff _ _).1 hnode
    rw [everywhere_iff, children_weave]
    refine ⟨hweave node inside hinside hown, fun item hmem => ?_⟩
    rcases mem_weaveAll hmem with hnote | ⟨child, hchild, some, hsome, rfl⟩
    · exact hnotes item (hinside hnote)
    · exact ih child hchild (hchildren child hchild) fun note hnote => hinside (hsome note hnote)

/-- What holds of every leaf and is kept when comments are put in holds after comments are put in. -/
theorem everywhere_weave_comments {P : Node → Prop}
    (hweave : ∀ {node : Node}, P node → ∀ {notes : List Node},
      (∀ note ∈ notes, note.IsComment) → P (node.weave notes))
    (hleaf : ∀ kind role start stop, (mk kind role start stop []).Everywhere P) {node : Node}
    {notes : List Node} (hnode : node.Everywhere P) (hnotes : ∀ note ∈ notes, note.IsComment) :
    (node.weave notes).Everywhere P := by
  refine everywhere_weave_of (fun node inside hinside hown => ?_) (fun note hmem => ?_) hnode
    (List.Subset.refl _)
  · exact hweave hown fun note hmem => hnotes note (hinside hmem)
  · obtain ⟨kind, role, start, stop, children⟩ := note
    obtain rfl : children = [] := (hnotes _ hmem).children
    exact hleaf _ _ _ _

end Node

/-- Every node of a tree starts and stops between characters, and every string is quoted. -/
theorem Source.read_aligned (dialect : Dialect) {bytes : Bytes} (h : Valid bytes) :
    (Source.read dialect bytes).tree.Everywhere (Node.Aligned bytes) := by
  have hfinal := Grammar.aligned_readStatements dialect (bytes.length + 1)
    (Grammar.aligned_opening h)
  refine Node.everywhere_weave_of (fun node inside _ hnode => ?_) (fun note hmem => ?_) ?_
    (List.Subset.refl _)
  · refine ⟨?_, ?_, fun hkind => ?_⟩
    · rw [Node.start_weave]
      exact hnode.start
    · rw [Node.stop_weave]
      exact hnode.stop
    · rw [Node.start_weave, Node.stop_weave]
      exact hnode.quoted (by rwa [Node.kind_weave] at hkind)
  · have hnote := List.mem_reverse.1 hmem
    refine (Node.everywhere_iff _ _).2 ⟨hfinal.cursor.notes note hnote, ?_⟩
    simp [(hfinal.cursor.sound.notes note hnote).2.2.children]
  · refine (Node.everywhere_iff _ _).2 ⟨⟨h, ?_, nofun⟩, fun child hmem =>
      hfinal.nodes child (List.mem_reverse.1 hmem)⟩
    rw [Node.stop, List.drop_length]
    exact Utf8.valid_nil

end Prologue
