import Prologue.Proofs.Extent
import Prologue.Proofs.Openings

/-!
# Where nodes are laid while a text is read

The nodes of a frame lie one behind the other between the first token of the frame and the cursor, and
no comment reaches across a place where a node begins or ends. That a node is only made where a token
was read before can be computed from the rules, and so can that a statement ends with its expression
or with what is no blank.
-/

namespace Prologue

/-- No note reaches across the offset. -/
def Uncut (notes : List Node) (offset : Nat) : Prop :=
  ∀ note ∈ notes, note.stop ≤ offset ∨ offset ≤ note.start

/-- What is known of a node before the notes are woven in. -/
structure Node.Placed (text : Bytes) (notes : List Node) (node : Node) : Prop where
  orderly : node.Orderly
  start : Uncut notes node.start
  stop : Uncut notes node.stop
  kind : node.kind ≠ .comment
  string : node.kind = .string →
    node.children = [] ∧ node.start < node.stop ∧ text.isSolid (node.stop - 1) = true
  statement : node.kind = .expressionStatement →
    (node.start < text.length → text.isSolid node.start = true) ∧
      ∃ before child, node.children = before ++ [child] ∧
        (node.stop = child.stop ∨ text.EndsSolid child.stop node.stop)

namespace Grammar

/-! ## What the rules promise -/

/-- What is known of the current frame. -/
structure Known where
  /-- A token was read. -/
  started : Bool
  /-- From the node left last to the cursor there is nothing, or something that ends with no blank. -/
  tight : Bool
  deriving DecidableEq

/-- Punctuation that starts with no blank. -/
def Token.isMark : Token → Bool
  | text spelling _ => (utf8 spelling).head?.any fun byte => !Text.isBlankByte byte
  | _ => false

/-- Kinds that a token may have as a node. Only a string token is a string. -/
def Token.fits : Token → Kind → Bool
  | string, .string => true
  | _, kind => kind != .string && kind != .comment && kind != .expressionStatement

/-- What is known of the frame behind a rule; none if the rule could leave a node that is misplaced. -/
def Rule.lays (known : Known) : Rule → Option Known
  | never | goal _ => some ⟨true, true⟩
  | token _ => some ⟨true, false⟩
  | leaf kind t => if t.fits kind then some ⟨true, true⟩ else none
  | glued t => if known.started || t.isMark then some ⟨true, false⟩ else none
  | seq first second =>
    match first.lays known with
    | some next => second.lays next
    | none => none
  | alt first second =>
    match first.lays known, second.lays known with
    | some a, some b => some ⟨a.started && b.started, a.tight && b.tight⟩
    | _, _ => none
  | star rule =>
    match rule.lays known with
    | some next =>
      if next.tight || !known.tight then some known
      else (rule.lays ⟨known.started, false⟩).map fun _ => ⟨known.started, false⟩
    | none => none
  | frame rule | role _ rule =>
    (rule.lays ⟨false, false⟩).map fun inner => ⟨known.started || inner.started, inner.tight⟩
  | fold kind =>
    if known.started && kind != .string && kind != .comment &&
      (kind != .expressionStatement || known.tight) then some ⟨true, true⟩ else none
  | htmlComments => some ⟨known.started, false⟩
  | _ => some known

theorem rules_lays (dialect : Dialect) (goal : Goal) :
    (rules dialect goal).lays ⟨false, false⟩ = some ⟨true, true⟩ := by
  cases dialect <;> cases goal <;> first | decide | (rename_i mode; cases mode <;> decide)

/-! ## States -/

/-- The notes are those that the cursor has passed, and others that start behind it. -/
def Cursor.Agrees (notes : List Node) (cursor : Cursor) : Prop :=
  ∃ later, notes = later ++ cursor.notes ∧ ∀ note ∈ later, cursor.offset ≤ note.start

theorem Cursor.Passes.agrees {notes : List Node} {a b : Cursor} (h : a.Passes b)
    (hb : b.Agrees notes) : a.Agrees notes := by
  obtain ⟨width, passed, rfl, hpassed⟩ := h
  obtain ⟨later, rfl, hlater⟩ := hb
  refine ⟨later ++ passed, by simp, fun note hmem => ?_⟩
  rcases List.mem_append.1 hmem with hmem | hmem
  · exact Nat.le_trans (Nat.le_add_right _ _) (hlater note hmem)
  · exact (hpassed note hmem).1

theorem Cursor.Agrees.uncut {text : Bytes} {notes : List Node} {cursor : Cursor}
    (h : cursor.Agrees notes) (hsound : cursor.Sound text) : Uncut notes cursor.offset := by
  obtain ⟨later, rfl, hlater⟩ := h
  intro note hmem
  rcases List.mem_append.1 hmem with hmem | hmem
  · exact .inr (hlater note hmem)
  · exact .inl (hsound.notes note hmem).2.1

namespace State

/-- The nodes of a frame that opened at `low` lie one behind the other up to the cursor. -/
structure Laid (text : Bytes) (notes : List Node) (low : Nat) (state : State) : Prop where
  sound : state.cursor.Sound text
  reached : low ≤ state.cursor.offset
  nodes : ∀ node ∈ state.nodes, node.Everywhere (Node.Placed text notes) ∧ low ≤ node.start ∧
    node.stop ≤ state.cursor.offset
  ordered : state.nodes.Pairwise fun a b => b.stop ≤ a.start

/-- The frame begins with its first token. -/
structure Framed (text : Bytes) (notes : List Node) (low : Nat) (state : State) : Prop extends
    Laid text notes low state where
  start : ∀ first, state.start = some first → low ≤ first ∧ first ≤ state.cursor.offset ∧
    Uncut notes first ∧ (first < text.length → text.isSolid first = true) ∧
    ∀ node ∈ state.nodes, first ≤ node.start
  started : state.nodes ≠ [] → state.start.isSome = true

/-- From the node left last to the cursor there is nothing, or something that ends with no blank. -/
def Tight (text : Bytes) (state : State) : Prop :=
  ∃ node rest, state.nodes = node :: rest ∧
    (state.cursor.offset = node.stop ∨ text.EndsSolid node.stop state.cursor.offset)

section

variable {text : Bytes} {notes : List Node} {low : Nat} {state next : State}

theorem Laid.move (h : state.Laid text notes low) {cursor : Cursor} (hsound : cursor.Sound text)
    (hle : state.cursor.offset ≤ cursor.offset) :
    ({ state with cursor := cursor } : State).Laid text notes low := by
  refine ⟨hsound, Nat.le_trans h.reached hle, fun node hmem => ?_, h.ordered⟩
  obtain ⟨hplaced, hlow, hstop⟩ := h.nodes node hmem
  exact ⟨hplaced, hlow, Nat.le_trans hstop hle⟩

theorem Framed.move (h : state.Framed text notes low) {cursor : Cursor}
    (hsound : cursor.Sound text) (hle : state.cursor.offset ≤ cursor.offset) :
    ({ state with cursor := cursor } : State).Framed text notes low := by
  refine ⟨h.toLaid.move hsound hle, fun first hfirst => ?_, h.started⟩
  obtain ⟨hlow, hoffset, hrest⟩ := h.start first hfirst
  exact ⟨hlow, Nat.le_trans hoffset hle, hrest⟩

theorem Framed.skip (h : state.Framed text notes low) :
    state.skip.Framed text notes low ∧
      (state.skip.cursor.offset < text.length →
        text.isSolid state.skip.cursor.offset = true) := by
  obtain ⟨hsound, hitem⟩ := h.sound.skip
  exact ⟨h.move hsound (Cursor.passes_skip _).offset_le, hsound.isSolid hitem⟩

/-- A token begins the frame if none did. -/
theorem Framed.take (h : state.Framed text notes low) {token : Token}
    (htake : state.take token = some next) (huncut : Uncut notes state.cursor.offset)
    (hsolid : state.start = none → state.cursor.offset < text.length →
      text.isSolid state.cursor.offset = true) :
    next.Framed text notes low ∧ next.start.isSome = true ∧
      (∀ first, next.start = some first → first ≤ state.cursor.offset) ∧
      next.nodes = state.nodes ∧
      ∃ width, token.length state.cursor.rest = some width ∧
        next.cursor.offset = state.cursor.offset + width := by
  obtain ⟨width, hwidth, rfl⟩ := Option.map_eq_some_iff.1 htake
  have hmoved := h.move (h.sound.advance (Token.length_le hwidth)) (Nat.le_add_right _ width)
  refine ⟨⟨⟨hmoved.sound, hmoved.reached, hmoved.nodes, hmoved.ordered⟩, ?_, fun _ => rfl⟩, rfl, ?_,
    rfl, width, hwidth, rfl⟩ <;>
    intro first hfirst <;> obtain rfl := Option.some.inj hfirst <;> cases hstart : state.start
  case some earlier => exact hmoved.start earlier hstart
  case none =>
    refine ⟨h.reached, Nat.le_add_right _ _, huncut, hsolid hstart, fun node hmem => ?_⟩
    have := h.started (List.ne_nil_of_mem hmem)
    rw [hstart] at this
    cases this
  case some earlier => exact (h.start earlier hstart).2.1
  case none => exact Nat.le_refl _

theorem Laid.opened (h : state.Laid text notes low) :
    state.opened.Framed text notes state.cursor.offset := by
  refine ⟨⟨h.sound, Nat.le_refl _, ?_, List.Pairwise.nil⟩, ?_, fun hne => absurd rfl hne⟩
  · intro node hmem
    cases hmem
  · intro first hfirst
    cases hfirst

variable {outer inner : State}

theorem Laid.closed (houter : outer.Laid text notes low)
    (hinner : inner.Laid text notes outer.cursor.offset) :
    (outer.closed inner).Laid text notes low := by
  refine ⟨hinner.sound, Nat.le_trans houter.reached hinner.reached, fun node hmem => ?_, ?_⟩
  · rcases List.mem_append.1 hmem with hmem | hmem
    · obtain ⟨hplaced, hlow, hstop⟩ := hinner.nodes node hmem
      exact ⟨hplaced, Nat.le_trans houter.reached hlow, hstop⟩
    · obtain ⟨hplaced, hlow, hstop⟩ := houter.nodes node hmem
      exact ⟨hplaced, hlow, Nat.le_trans hstop hinner.reached⟩
  · refine List.pairwise_append.2 ⟨hinner.ordered, houter.ordered, fun a ha b hb => ?_⟩
    exact Nat.le_trans (houter.nodes b hb).2.2 (hinner.nodes a ha).2.1

theorem Framed.closed (houter : outer.Framed text notes low)
    (hinner : inner.Framed text notes outer.cursor.offset) :
    (outer.closed inner).Framed text notes low := by
  refine ⟨houter.toLaid.closed hinner.toLaid, fun first hfirst => ?_, fun hne => ?_⟩
  · cases hstart : outer.start with
    | some earlier =>
      obtain rfl : earlier = first := by simpa [State.closed, hstart] using hfirst
      obtain ⟨hlow, hoffset, huncut, hsolid, hnodes⟩ := houter.start earlier hstart
      refine ⟨hlow, Nat.le_trans hoffset hinner.reached, huncut, hsolid, fun node hmem => ?_⟩
      rcases List.mem_append.1 hmem with hmem | hmem
      · exact Nat.le_trans hoffset (hinner.nodes node hmem).2.1
      · exact hnodes node hmem
    | none =>
      have hfirst' : inner.start = some first := by simpa [State.closed, hstart] using hfirst
      obtain ⟨hlow, hoffset, huncut, hsolid, hnodes⟩ := hinner.start first hfirst'
      refine ⟨Nat.le_trans houter.reached hlow, hoffset, huncut, hsolid, fun node hmem => ?_⟩
      rcases List.mem_append.1 hmem with hmem | hmem
      · exact hnodes node hmem
      · have := houter.started (List.ne_nil_of_mem hmem)
        rw [hstart] at this
        cases this
  · cases hstart : outer.start with
    | some earlier => simp [State.closed, hstart]
    | none =>
      have hnone : outer.nodes = [] := by
        by_contra hsome
        have := houter.started hsome
        rw [hstart] at this
        cases this
      simp only [State.closed, hstart, hnone, List.append_nil] at hne ⊢
      simpa using hinner.started hne

theorem Tight.closed (h : inner.Tight text) : (outer.closed inner).Tight text := by
  obtain ⟨node, rest, hnodes, hend⟩ := h
  exact ⟨node, rest ++ outer.nodes, by simp [State.closed, hnodes], hend⟩

theorem Tight.extend (h : state.Tight text)
    (hbounds : ∀ node ∈ state.nodes, node.stop ≤ state.cursor.offset)
    (hnodes : next.nodes = state.nodes)
    (hend : next.cursor.offset = state.cursor.offset ∨
      text.EndsSolid state.cursor.offset next.cursor.offset) :
    next.Tight text := by
  obtain ⟨node, rest, hcons, hlast⟩ := h
  refine ⟨node, rest, hnodes.trans hcons, ?_⟩
  have hstop := hbounds node (hcons ▸ List.mem_cons_self)
  rcases hend with hsame | hsolid
  · rw [hsame]
    exact hlast
  · exact .inr (hsolid.mono hstop)

theorem Framed.push (h : state.Framed text notes low) {node : Node}
    (hplaced : node.Everywhere (Node.Placed text notes)) (hstarted : state.start.isSome = true)
    (hfirst : ∀ first, state.start = some first → first ≤ node.start)
    (hothers : ∀ other ∈ state.nodes, other.stop ≤ node.start) (hlow : low ≤ node.start)
    (hstop : node.stop ≤ state.cursor.offset) :
    ({ state with nodes := node :: state.nodes } : State).Framed text notes low := by
  refine ⟨⟨h.sound, h.reached, ?_, List.pairwise_cons.2 ⟨hothers, h.ordered⟩⟩, ?_,
    fun _ => hstarted⟩
  · rw [List.forall_mem_cons]
    exact ⟨⟨hplaced, hlow, hstop⟩, h.nodes⟩
  · intro first hstart
    obtain ⟨hlow', hoffset, huncut, hsolid, hnodes⟩ := h.start first hstart
    rw [List.forall_mem_cons]
    exact ⟨hlow', hoffset, huncut, hsolid, hfirst first hstart, hnodes⟩

/-- The node of a frame reaches from its first token to the cursor. -/
theorem Framed.fold (h : state.Framed text notes low) {kind : Kind} (hstring : kind ≠ .string)
    (hcomment : kind ≠ .comment) (huncut : Uncut notes state.cursor.offset)
    (hstarted : state.start.isSome = true)
    (htight : kind = .expressionStatement → state.Tight text) :
    (state.fold kind).Framed text notes low := by
  obtain ⟨first, hfirst⟩ := Option.isSome_iff_exists.1 hstarted
  obtain ⟨hlow, hoffset, hfirstUncut, hsolid, hnodes⟩ := h.start first hfirst
  have hplaced : Node.Placed text notes
      (.mk kind .plain first state.cursor.offset state.nodes.reverse) := by
    refine ⟨⟨hoffset, fun child hmem => ?_, List.pairwise_reverse.2 h.ordered⟩, hfirstUncut, huncut,
      hcomment, fun hkind => absurd hkind hstring, fun hkind => ⟨hsolid, ?_⟩⟩
    · have hmem' := List.mem_reverse.1 hmem
      exact ⟨hnodes child hmem', (h.nodes child hmem').2.2⟩
    · obtain ⟨node, rest, hcons, hend⟩ := htight hkind
      exact ⟨rest.reverse, node, by simp [Node.children, hcons], hend⟩
  have hfold : state.fold kind =
      { state with nodes := [.mk kind .plain first state.cursor.offset state.nodes.reverse] } := by
    simp [State.fold, hfirst]
  rw [hfold]
  refine ⟨⟨h.sound, h.reached, ?_, List.pairwise_singleton _ _⟩, ?_, fun _ => hstarted⟩
  · rw [List.forall_mem_singleton]
    refine ⟨(Node.everywhere_iff _ _).2 ⟨hplaced, fun child hmem => ?_⟩, hlow, Nat.le_refl _⟩
    exact (h.nodes child (List.mem_reverse.1 hmem)).1
  · intro first' hfirst'
    obtain rfl := Option.some.inj (hfirst.symm.trans hfirst')
    rw [List.forall_mem_singleton]
    exact ⟨hlow, hoffset, hfirstUncut, hsolid, Nat.le_refl _⟩

end

end State

theorem Token.of_fits {token : Token} {kind : Kind} (h : token.fits kind = true) :
    kind ≠ .comment ∧ kind ≠ .expressionStatement ∧ (kind = .string → token = .string) := by
  unfold fits at h
  split at h
  · exact ⟨by decide, by decide, fun _ => rfl⟩
  · simp only [Bool.and_eq_true, bne_iff_ne] at h
    exact ⟨h.1.2, h.2, fun hkind => absurd hkind h.1.1⟩

theorem Rule.lays_of_looks {rule : Rule} (h : rule.looks = true) (known : Known) :
    rule.lays known = some known := by
  cases rule <;> first | rfl | cases h

/-- What is known is true of the state. -/
structure Known.Holds (text : Bytes) (known : Known) (state : State) : Prop where
  started : known.started = true → state.start.isSome = true
  tight : known.tight = true → state.Tight text

section

variable {text : Bytes} {notes : List Node} {low : Nat}

theorem State.Tight.map_withRole {state : State} {part : Role} (h : state.Tight text) :
    ({ state with nodes := state.nodes.map (Node.withRole part) } : State).Tight text := by
  obtain ⟨⟨kind, role, start, stop, children⟩, rest, hnodes, hend⟩ := h
  exact ⟨.mk kind part start stop children, rest.map (Node.withRole part),
    by simp [hnodes, Node.withRole], hend⟩

theorem Known.holds_nothing (state : State) : (⟨false, false⟩ : Known).Holds text state :=
  ⟨nofun, nofun⟩

theorem Known.Holds.closed {known known' : Known} {outer inner : State}
    (houter : known.Holds text outer) (hinner : known'.Holds text inner) :
    (⟨known.started || known'.started, known'.tight⟩ : Known).Holds text (outer.closed inner) := by
  refine ⟨fun hstarted => ?_, fun htight => (hinner.tight htight).closed⟩
  rcases Bool.or_eq_true_iff.1 hstarted with h | h
  · obtain ⟨first, hfirst⟩ := Option.isSome_iff_exists.1 (houter.started h)
    simp [State.closed, hfirst]
  · have := hinner.started h
    cases hstart : outer.start <;> simp [State.closed, hstart, this]

/-- A string ends with its quote, which is no blank. -/
theorem isSolid_of_string {cursor : Cursor} (hsound : cursor.Sound text) {width : Nat}
    (h : Token.string.length cursor.rest = some width) :
    0 < width ∧ text.isSolid (cursor.offset + width - 1) = true := by
  obtain ⟨hwide, -, quote, hquote, -, hlast⟩ := stringLength_spec h
  refine ⟨by omega, ?_⟩
  rw [hsound.rest, List.getElem?_drop] at hlast
  rw [Bytes.isSolid, Nat.add_sub_assoc (by omega), hlast]
  rcases hquote with rfl | rfl <;> decide

/-- A frame that took a mark there begins with no blank. -/
theorem isSolid_of_isMark {cursor : Cursor} (hsound : cursor.Sound text) {token : Token}
    (hmark : token.isMark = true) {width : Nat} (h : token.length cursor.rest = some width) :
    text.isSolid cursor.offset = true := by
  cases Token.takes_of_length h with
  | @text spelling longer hstarts _ =>
    obtain ⟨behind, hbehind⟩ := List.isPrefixOf_iff_prefix.1 hstarts
    rw [Token.isMark] at hmark
    cases hspelling : utf8 spelling with
    | nil => rw [hspelling] at hmark; cases hmark
    | cons byte more =>
      rw [hspelling] at hmark hbehind
      have hbyte : text[cursor.offset]? = some byte := by
        have hfirst : (text.drop cursor.offset)[0]? = some byte := by
          rw [← hsound.rest, ← hbehind]
          rfl
        rwa [List.getElem?_drop] at hfirst
      rw [Bytes.isSolid, hbyte]
      exact hmark
  | _ => cases hmark

theorem sound_skipHtml {state : State} (h : state.cursor.Sound text) :
    state.skipHtml.cursor.Sound text := by
  refine State.rounds_induct (motive := fun a b => a.cursor.Sound text → b.cursor.Sound text)
    (fun _ h => h) (fun hab hbc ha => hbc (hab ha)) ?_ _ _ h
  intro a b hstep ha
  obtain ⟨cursor, hcursor, rfl⟩ := Option.map_eq_some_iff.1 hstep
  exact ha.htmlComment? hcursor

theorem everywhere_placed_withRole {part : Role} {node : Node}
    (h : node.Everywhere (Node.Placed text notes)) :
    (node.withRole part).Everywhere (Node.Placed text notes) := by
  obtain ⟨kind, role, start, stop, children⟩ := node
  rw [Node.everywhere_iff] at h ⊢
  obtain ⟨⟨horderly, hstart, hstop, hkind, hstring, hstatement⟩, hchildren⟩ := h
  exact ⟨⟨⟨horderly.bounds, horderly.inside, horderly.ordered⟩, hstart, hstop, hkind, hstring,
    hstatement⟩, hchildren⟩

theorem State.Framed.map_withRole {state : State} {part : Role}
    (h : state.Framed text notes low) :
    ({ state with nodes := state.nodes.map (Node.withRole part) } : State).Framed text notes low := by
  have hspan : ∀ node : Node, (node.withRole part).start = node.start ∧
      (node.withRole part).stop = node.stop := by
    rintro ⟨kind, role, start, stop, children⟩
    exact ⟨rfl, rfl⟩
  refine ⟨⟨h.sound, h.reached, ?_, ?_⟩, fun first hfirst => ?_, fun hne => h.started ?_⟩
  · rw [List.forall_mem_map]
    intro node hmem
    obtain ⟨hplaced, hbounds⟩ := h.nodes node hmem
    rw [(hspan node).1, (hspan node).2]
    exact ⟨everywhere_placed_withRole hplaced, hbounds⟩
  · rw [List.pairwise_map]
    refine h.ordered.imp fun {a b} hab => ?_
    rw [(hspan a).1, (hspan b).2]
    exact hab
  · obtain ⟨hlow, hoffset, huncut, hsolid, hnodes⟩ := h.start first hfirst
    refine ⟨hlow, hoffset, huncut, hsolid, ?_⟩
    rw [List.forall_mem_map]
    intro node hmem
    rw [(hspan node).1]
    exact hnodes node hmem
  · rintro hnil
    exact hne (by rw [hnil]; rfl)

theorem Rule.lays_star {rule : Rule} {known next : Known}
    (h : (star rule).lays known = some next) :
    (next = known ∨ next = ⟨known.started, false⟩) ∧ (star rule).lays next = some next ∧
      ∃ round, rule.lays next = some round ∧ (next.tight = true → round.tight = true) := by
  simp only [lays] at h
  split at h
  next round hround =>
    split at h
    next hkeeps =>
      obtain rfl := Option.some.inj h
      refine ⟨.inl rfl, by simp only [lays, hround, if_pos hkeeps], round, hround, fun htight => ?_⟩
      simpa [htight] using hkeeps
    · obtain ⟨loose, hloose, rfl⟩ := Option.map_eq_some_iff.1 h
      exact ⟨.inr rfl, by simp [lays, hloose], loose, hloose, fun htight => by cases htight⟩
  · cases h

theorem Known.Holds.of_star {rule : Rule} {known next : Known} {state : State}
    (h : known.Holds text state) (hlays : (Rule.star rule).lays known = some next) :
    next.Holds text state := by
  obtain ⟨rfl | rfl, _⟩ := Rule.lays_star hlays
  · exact h
  · exact ⟨h.started, nofun⟩

/-! ## What single rules lay -/

namespace State

variable {state next : State}

/-- A token behind blanks and comments. -/
theorem Framed.token (h : state.Framed text notes low) {token : Token}
    (htake : state.skip.take token = some next) (hagrees : next.cursor.Agrees notes) :
    next.Framed text notes low ∧ Uncut notes state.skip.cursor.offset ∧
      next.start.isSome = true ∧
      (∀ first, next.start = some first → first ≤ state.skip.cursor.offset) ∧
      next.nodes = state.nodes ∧
      ∃ width, token.length state.skip.cursor.rest = some width ∧
        next.cursor.offset = state.skip.cursor.offset + width := by
  obtain ⟨hfront, hsolid⟩ := h.skip
  have huncut := ((State.leads_take htake).passes.agrees hagrees).uncut hfront.sound
  obtain ⟨hframed, hstarted, hfirst, hnodes, hwidth⟩ := hfront.take htake huncut fun _ => hsolid
  exact ⟨hframed, huncut, hstarted, hfirst, hnodes, hwidth⟩

/-- The node of a token is well placed. -/
theorem placed_leaf {kind : Kind} {token : Token} (hfits : token.fits kind = true) {cursor : Cursor}
    (hsound : cursor.Sound text) {width : Nat} (hwidth : token.length cursor.rest = some width)
    (hstart : Uncut notes cursor.offset) (hstop : Uncut notes (cursor.offset + width)) :
    (Node.mk kind .plain cursor.offset (cursor.offset + width) []).Everywhere
      (Node.Placed text notes) := by
  obtain ⟨hcomment, hstatement, hstring⟩ := Token.of_fits hfits
  refine (Node.everywhere_iff _ _).2 ⟨⟨⟨Nat.le_add_right _ _, by simp [Node.children],
    List.Pairwise.nil⟩, hstart, hstop, hcomment, fun hkind => ?_,
    fun hkind => absurd hkind hstatement⟩, by simp [Node.children]⟩
  obtain rfl := hstring hkind
  obtain ⟨hpos, hquote⟩ := isSolid_of_string hsound hwidth
  exact ⟨rfl, Nat.lt_add_of_pos_right hpos, hquote⟩

theorem Framed.leaf (h : state.Framed text notes low) {kind : Kind} {token : Token}
    (hfits : token.fits kind = true) (htake : state.skip.take token = some next)
    (hagrees : next.cursor.Agrees notes) :
    ({ next with nodes := .mk kind .plain state.skip.cursor.offset next.cursor.offset [] ::
        next.nodes } : State).Framed text notes low ∧ next.start.isSome = true := by
  obtain ⟨hframed, huncut, hstarted, hfirst, hnodes, width, hwidth, hoffset⟩ :=
    h.token htake hagrees
  have hfront := h.skip.1
  have hstop := hagrees.uncut hframed.sound
  rw [hoffset] at hstop
  have hplaced := placed_leaf hfits hfront.sound hwidth huncut hstop
  rw [← hoffset] at hplaced
  refine ⟨hframed.push hplaced hstarted hfirst (fun other hmem => ?_) hfront.reached
    (Nat.le_refl _), hstarted⟩
  rw [hnodes] at hmem
  exact (hfront.nodes other hmem).2.2

/-- A written semicolon, which is no blank. -/
theorem Framed.semicolon (h : state.Framed text notes low)
    (htake : state.skip.take (.text ";" []) = some next) (hagrees : next.cursor.Agrees notes) :
    next.Framed text notes low ∧ next.start.isSome = true ∧
      (state.Tight text → next.Tight text) := by
  obtain ⟨hframed, -, hstarted, -, hnodes, width, hwidth, hoffset⟩ := h.token htake hagrees
  refine ⟨hframed, hstarted, fun htight => htight.extend
    (fun node hmem => (h.nodes node hmem).2.2) hnodes (.inr ?_)⟩
  have hmark := isSolid_of_isMark h.skip.1.sound (by decide) hwidth
  have hone : width = 1 := by
    cases Token.takes_of_length hwidth
    rfl
  have hskip : state.cursor.offset ≤ state.skip.cursor.offset :=
    (Cursor.passes_skip state.cursor).offset_le
  rw [hoffset, hone]
  exact Bytes.endsSolid_of_isSolid (by omega) hmark

end State

/-- An implied semicolon takes comments at most. -/
theorem Known.Holds.implied {dialect : Dialect} {context : Context} {known : Known} {state : State}
    (h : known.Holds text state) (hframed : state.Framed text notes low) {cursor : Cursor}
    (himplied : state.cursor.implied? dialect context = some cursor) :
    ({ state with cursor := cursor } : State).Framed text notes low ∧
      known.Holds text { state with cursor := cursor } := by
  obtain ⟨hsound, hend⟩ := hframed.sound.implied? himplied
  exact ⟨hframed.move hsound (Cursor.passes_implied? himplied).offset_le, h.started, fun htight =>
    (h.tight htight).extend (fun node hmem => (hframed.nodes node hmem).2.2) rfl hend⟩

/-- Whatever a rule reads, the frame stays well laid and what the rule promises is true. -/
theorem Derives.framed {dialect : Dialect} {rule : Rule} {a b : State}
    (h : Derives dialect rule a b) {known next : Known} (hlays : rule.lays known = some next)
    (ha : a.Framed text notes low) (hknown : known.Holds text a) (hagrees : b.cursor.Agrees notes) :
    b.Framed text notes low ∧ next.Holds text b := by
  induction h generalizing known next low with
  | look hlooks =>
    rw [Rule.lays_of_looks hlooks] at hlays
    obtain rfl := Option.some.inj hlays
    exact ⟨ha, hknown⟩
  | token htake =>
    obtain rfl := Option.some.inj hlays
    obtain ⟨hframed, -, hstarted, -⟩ := ha.token htake hagrees
    exact ⟨hframed, fun _ => hstarted, fun h => by cases h⟩
  | leaf htake =>
    rw [Rule.lays, Option.ite_none_right_eq_some] at hlays
    obtain ⟨hfits, hnext⟩ := hlays
    obtain rfl := Option.some.inj hnext
    obtain ⟨hframed, hstarted⟩ := ha.leaf hfits htake hagrees
    exact ⟨hframed, fun _ => hstarted, fun _ => ⟨_, _, rfl, .inl rfl⟩⟩
  | glued htake =>
    rw [Rule.lays, Option.ite_none_right_eq_some, Bool.or_eq_true] at hlays
    obtain ⟨hcheck, hnext⟩ := hlays
    obtain rfl := Option.some.inj hnext
    have huncut := ((State.leads_take htake).passes.agrees hagrees).uncut ha.sound
    obtain ⟨hframed, hstarted, _⟩ := ha.take htake huncut fun hnone _ => by
      rcases hcheck with hbegun | hmark
      · have := hknown.started hbegun
        rw [hnone] at this
        cases this
      · obtain ⟨width, hwidth, _⟩ := Option.map_eq_some_iff.1 htake
        exact isSolid_of_isMark ha.sound hmark hwidth
    exact ⟨hframed, fun _ => hstarted, fun h => by cases h⟩
  | seq _ hsecond ihFirst ihSecond =>
    simp only [Rule.lays] at hlays
    split at hlays
    next middle hfirst =>
      obtain ⟨hframed, hholds⟩ := ihFirst hfirst ha hknown (hsecond.leads.passes.agrees hagrees)
      exact ihSecond hlays hframed hholds hagrees
    · cases hlays
  | left _ ih =>
    simp only [Rule.lays] at hlays
    split at hlays
    next hfirst _ =>
      obtain rfl := Option.some.inj hlays
      obtain ⟨hframed, hstarted, htight⟩ := ih hfirst ha hknown hagrees
      exact ⟨hframed, fun h => hstarted (Bool.and_eq_true_iff.1 h).1,
        fun h => htight (Bool.and_eq_true_iff.1 h).1⟩
    · cases hlays
  | right _ ih =>
    simp only [Rule.lays] at hlays
    split at hlays
    next _ hsecond =>
      obtain rfl := Option.some.inj hlays
      obtain ⟨hframed, hstarted, htight⟩ := ih hsecond ha hknown hagrees
      exact ⟨hframed, fun h => hstarted (Bool.and_eq_true_iff.1 h).2,
        fun h => htight (Bool.and_eq_true_iff.1 h).2⟩
    · cases hlays
  | finish => exact ⟨ha, hknown.of_star hlays⟩
  | again hround hrest ihRound ihRest =>
    obtain ⟨_, hagain, round, hlaysRound, htight⟩ := Rule.lays_star hlays
    have hweaker := hknown.of_star hlays
    obtain ⟨hframed, hholds⟩ :=
      ihRound hlaysRound ha hweaker (hrest.leads.passes.agrees hagrees)
    refine ihRest hagain hframed ⟨fun hstarted => ?_, fun h => hholds.tight (htight h)⟩ hagrees
    obtain ⟨first, hfirst⟩ := Option.isSome_iff_exists.1 (hweaker.started hstarted)
    rw [hround.leads.start first hfirst]
    rfl
  | frame _ ih =>
    obtain ⟨inner, hinner, rfl⟩ := Option.map_eq_some_iff.1 hlays
    obtain ⟨hframed, hholds⟩ := ih hinner ha.toLaid.opened (Known.holds_nothing _) hagrees
    exact ⟨ha.closed hframed, hknown.closed hholds⟩
  | fold =>
    rw [Rule.lays, Option.ite_none_right_eq_some] at hlays
    obtain ⟨hcheck, hnext⟩ := hlays
    obtain rfl := Option.some.inj hnext
    simp only [Bool.and_eq_true, Bool.or_eq_true, bne_iff_ne] at hcheck
    obtain ⟨⟨⟨hbegun, hstring⟩, hcomment⟩, hstatement⟩ := hcheck
    have hstarted := hknown.started hbegun
    refine ⟨ha.fold hstring hcomment (Cursor.Agrees.uncut hagrees ha.sound) hstarted
      fun hkind => hknown.tight (hstatement.resolve_left (absurd hkind)), fun _ => hstarted,
      fun _ => ⟨_, _, rfl, .inl rfl⟩⟩
  | role _ ih =>
    obtain ⟨inner, hinner, rfl⟩ := Option.map_eq_some_iff.1 hlays
    obtain ⟨hframed, hholds⟩ := ih hinner ha.toLaid.opened (Known.holds_nothing _) hagrees
    exact ⟨ha.closed hframed.map_withRole, hknown.closed ⟨hholds.started, fun h =>
      (hholds.tight h).map_withRole⟩⟩
  | implied himplied =>
    obtain rfl := Option.some.inj hlays
    exact hknown.implied ha himplied
  | written htake =>
    obtain rfl := Option.some.inj hlays
    obtain ⟨hframed, hstarted, htight⟩ := ha.semicolon htake hagrees
    exact ⟨hframed, fun _ => hstarted, fun h => htight (hknown.tight h)⟩
  | settled himplied =>
    obtain rfl := Option.some.inj hlays
    exact hknown.implied ha himplied
  | unsettled =>
    obtain rfl := Option.some.inj hlays
    exact ⟨ha, hknown⟩
  | htmlComments =>
    obtain rfl := Option.some.inj hlays
    rw [State.skipHtml_eq]
    exact ⟨ha.move (sound_skipHtml ha.sound) (State.leads_skipHtml _).passes.offset_le,
      hknown.started, fun h => by cases h⟩
  | goal _ ih =>
    obtain rfl := Option.some.inj hlays
    obtain ⟨hframed, hholds⟩ :=
      ih (rules_lays _ _) ha.toLaid.opened (Known.holds_nothing _) hagrees
    have hclosed := hknown.closed hholds
    exact ⟨ha.closed hframed, fun h => hclosed.started (by simp), hclosed.tight⟩

/-! ## The whole text -/

theorem State.Laid.front {state : State} (h : state.Laid text notes low) :
    state.front.Laid text notes low := by
  rw [State.front, State.skip, State.skipHtml_eq]
  exact h.move (sound_skipHtml h.sound).skip.1 (State.leads_front state).passes.offset_le

theorem passes_readStatements (dialect : Dialect) (bound : Nat) (state : State) :
    state.cursor.Passes (readStatements dialect bound state).cursor := by
  refine readStatements_invariant (motive := fun next => state.cursor.Passes next.cursor)
    (fun hpasses => ?_) (fun hread hpasses => ?_) (fun _ hpasses => ?_) bound (.refl _)
  · exact hpasses.trans (State.leads_front _).passes
  · exact hpasses.trans hread.leads.passes
  · exact hpasses.trans (Cursor.passes_advance _ _)

/-- A node without children that is neither a comment nor a statement. -/
theorem everywhere_placed_of_isNote {kind : Kind} {start stop : Nat} (hnote : kind.isNote = true)
    (hcomment : kind ≠ .comment) (hle : start ≤ stop) (hstart : Uncut notes start)
    (hstop : Uncut notes stop) :
    (Node.mk kind .plain start stop []).Everywhere (Node.Placed text notes) := by
  refine (Node.everywhere_iff _ _).2 ⟨⟨⟨hle, by simp [Node.children], List.Pairwise.nil⟩, hstart,
    hstop, hcomment, ?_, ?_⟩, by simp [Node.children]⟩
  · rintro rfl
    cases hnote
  · rintro rfl
    cases hnote

theorem State.Laid.push {state : State} (h : state.Laid text notes low) {node : Node}
    {cursor : Cursor} (hsound : cursor.Sound text)
    (hplaced : node.Everywhere (Node.Placed text notes))
    (hstart : state.cursor.offset ≤ node.start) (hstop : node.stop ≤ cursor.offset)
    (hle : state.cursor.offset ≤ cursor.offset) :
    ({ state with cursor := cursor, nodes := node :: state.nodes } : State).Laid text notes low := by
  have hmoved := h.move hsound hle
  refine ⟨hsound, hmoved.reached, ?_, List.pairwise_cons.2 ⟨fun other hmem => ?_, h.ordered⟩⟩
  · rw [List.forall_mem_cons]
    exact ⟨⟨hplaced, Nat.le_trans h.reached hstart, hstop⟩, hmoved.nodes⟩
  · exact Nat.le_trans (h.nodes other hmem).2.2 hstart

theorem laid_readStatements (dialect : Dialect) (bound : Nat) {state : State}
    (h : state.Laid text notes low)
    (hagrees : (readStatements dialect bound state).cursor.Agrees notes) :
    (readStatements dialect bound state).Laid text notes low := by
  -- The notes are those at the end of the text, so each state is laid only if it agrees with them.
  refine readStatements_invariant
    (motive := fun next => next.cursor.Agrees notes → next.Laid text notes low)
    (fun hlaid hnext => ?_) (fun hread hlaid hnext => ?_) (fun hmore hlaid hnext => ?_) bound
    (fun _ => h) hagrees
  · exact (hlaid ((State.leads_front _).passes.agrees hnext)).front
  · have hbefore := hlaid (hread.leads.passes.agrees hnext)
    cases hread with
    | goal hinner =>
      have hinside := hinner.framed (rules_lays _ _) hbefore.opened (Known.holds_nothing _) hnext
      exact hbefore.closed hinside.1.toLaid
    | look hlooks => cases hlooks
  · have hfront := (Cursor.passes_advance _ _).agrees hnext
    have hbefore := hlaid hfront
    have hsound := hbefore.sound.advance (lineWidth_le hmore)
    exact hbefore.push hsound (everywhere_placed_of_isNote rfl (by decide) (Nat.le_add_right _ _)
      (hfront.uncut hbefore.sound) (hnext.uncut hsound)) (Nat.le_refl _) (Nat.le_refl _)
      (Nat.le_add_right _ _)

theorem laid_opening (hagrees : (State.opening text).cursor.Agrees notes) :
    (State.opening text).Laid text notes 0 := by
  have hat : (State.at text).Laid text notes 0 := by
    refine ⟨⟨rfl, Nat.zero_le _, ?_, List.Pairwise.nil⟩, Nat.le_refl _, ?_, List.Pairwise.nil⟩
    · intro note hmem
      cases hmem
    · intro node hmem
      cases hmem
  refine State.opening_invariant
    (motive := fun next => next.cursor.Agrees notes → next.Laid text notes 0) (fun _ => hat)
    (fun {next} htake hnext => ?_) hagrees
  have hfront := hat.move hat.sound.skip.1 (Cursor.passes_skip _).offset_le
  obtain ⟨width, hwidth, rfl⟩ := Option.map_eq_some_iff.1 htake
  have hsound := hfront.sound.advance (Token.length_le hwidth)
  have hplaced := @everywhere_placed_of_isNote text notes .hashBangLine _ _ rfl (by decide)
    (Nat.le_add_right _ width) (((Cursor.passes_advance _ _).agrees hnext).uncut hfront.sound)
    (hnext.uncut hsound)
  have hpushed := hfront.push hsound hplaced (Nat.le_refl _) (Nat.le_refl _)
    (Nat.le_add_right _ _)
  exact ⟨hpushed.sound, hpushed.reached, hpushed.nodes, hpushed.ordered⟩

end

/-- At the end of a text everything that was read is laid with all the comments. -/
theorem laid_whole (dialect : Dialect) (text : Bytes) :
    (readStatements dialect (text.length + 1) (.opening text)).Laid text
      (readStatements dialect (text.length + 1) (.opening text)).cursor.notes 0 := by
  have hagrees : (readStatements dialect (text.length + 1) (.opening text)).cursor.Agrees
      (readStatements dialect (text.length + 1) (.opening text)).cursor.notes :=
    ⟨[], rfl, by simp⟩
  exact laid_readStatements dialect _
    (laid_opening ((passes_readStatements dialect _ _).agrees hagrees)) hagrees

end Grammar

end Prologue
