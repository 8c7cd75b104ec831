import Prologue.Proofs.Derivation
import Prologue.Proofs.Locality

/-!
# What a reading does to the state

Every rule moves the cursor forward and keeps the comments that it passes, whatever it reads. What a
rule begins with is computed from the rule: if it has to begin with a token, then a reading moves the
cursor, and the frame begins where the token does. From this a statement is one node, which reaches
from its first token to where the next statement is looked for. A property that each statement and each
broken line keeps holds at the end of the text.
-/

namespace Prologue

/-- Kinds of the nodes that stand between statements or in place of one. -/
def Kind.isNote : Kind → Bool
  | .comment | .htmlComment | .hashBangLine | .error => true
  | _ => false

/-- A comment without anything in it, which plays no part in its parent. -/
structure Node.IsComment (node : Node) : Prop where
  kind : node.kind = .comment ∨ node.kind = .htmlComment
  children : node.children = []
  role : node.role = .plain

namespace Grammar

theorem isComment_note (offset width : Nat) : (note .comment offset width).IsComment :=
  ⟨.inl rfl, rfl, rfl⟩

/-! ## The cursor -/

namespace Cursor

/-- The second cursor is `width` bytes further on, and what it noted on the way are comments that
start there. -/
def Passes (before after : Cursor) : Prop :=
  ∃ width notes,
    after = ⟨before.rest.drop width, before.offset + width, before.left - width,
      notes ++ before.notes⟩ ∧
    ∀ note ∈ notes, before.offset ≤ note.start ∧ note.start < before.offset + width ∧
      note.IsComment

theorem Passes.refl (cursor : Cursor) : cursor.Passes cursor := ⟨0, [], by simp, by simp⟩

theorem Passes.trans {a b c : Cursor} (hab : a.Passes b) (hbc : b.Passes c) : a.Passes c := by
  obtain ⟨m, first, rfl, hfirst⟩ := hab
  obtain ⟨n, second, rfl, hsecond⟩ := hbc
  refine ⟨m + n, second ++ first, ?_, ?_⟩
  · simp [Nat.add_assoc, Nat.sub_sub]
  · intro note hmem
    rcases List.mem_append.1 hmem with h | h
    · obtain ⟨hlow, hhigh, hcomment⟩ := hsecond note h
      exact ⟨by simp only at hlow; omega, by simp only at hhigh; omega, hcomment⟩
    · obtain ⟨hlow, hhigh, hcomment⟩ := hfirst note h
      exact ⟨hlow, by omega, hcomment⟩

theorem Passes.offset_le {a b : Cursor} (h : a.Passes b) : a.offset ≤ b.offset := by
  obtain ⟨width, notes, rfl, _⟩ := h
  exact Nat.le_add_right _ _

theorem passes_byte (byte : UInt8) (rest : Bytes) (offset left : Nat) (notes : List Node) :
    Passes ⟨byte :: rest, offset, left, notes⟩ ⟨rest, offset + 1, left - 1, notes⟩ :=
  ⟨1, [], by simp, by simp⟩

theorem passes_note (byte : UInt8) (rest : Bytes) (offset left width : Nat) (notes : List Node) :
    Passes ⟨byte :: rest, offset, left, notes⟩
      ⟨rest, offset + 1, left - 1, note .comment offset width :: notes⟩ := by
  refine ⟨1, [note .comment offset width], by simp, ?_⟩
  rw [List.forall_mem_singleton]
  exact ⟨Nat.le_refl _, Nat.lt_succ_self _, isComment_note _ _⟩

theorem passes_advance (cursor : Cursor) (width : Nat) : cursor.Passes (cursor.advance width) :=
  ⟨width, [], rfl, by simp⟩

theorem passes_skipFrom (bytes : Bytes) (offset left : Nat) (notes : List Node) (skip : Nat) :
    Passes ⟨bytes, offset, left, notes⟩ (skipFrom offset left notes skip bytes) := by
  induction bytes generalizing offset left notes skip with
  | nil => exact .refl _
  | cons byte rest ih =>
    cases skip with
    | succ skip => exact (passes_byte ..).trans (ih _ _ _ _)
    | zero =>
      simp only [skipFrom]
      split
      · exact (passes_byte ..).trans (ih _ _ _ _)
      split
      · split
        · exact (passes_note ..).trans (ih _ _ _ _)
        · exact .refl _
      split
      · split
        · exact (passes_byte ..).trans (ih _ _ _ _)
        · exact .refl _
      · exact .refl _

theorem passes_skip (cursor : Cursor) : cursor.Passes cursor.skip := passes_skipFrom _ _ _ _ _

theorem passes_impliedFrom {dialect : Dialect} {context : Context} {bytes : Bytes}
    {offset left : Nat} {notes : List Node} {skip : Nat} {asking : Bool} {after : Cursor}
    (h : impliedFrom dialect context offset left notes skip asking bytes = some after) :
    Passes ⟨bytes, offset, left, notes⟩ after := by
  induction bytes generalizing offset left notes skip asking with
  | nil =>
    cases asking
    · cases h
    · obtain rfl := Option.some.inj h
      exact .refl _
  | cons byte rest ih =>
    cases skip with
    | succ skip => exact (passes_byte ..).trans (ih h)
    | zero =>
      simp only [impliedFrom] at h
      split at h
      · obtain rfl := Option.some.inj h
        exact .refl _
      split at h
      · exact (passes_note ..).trans (ih h)
      split at h
      · split at h
        · exact (passes_byte ..).trans (ih h)
        · cases h
      · cases h

theorem passes_implied? {dialect : Dialect} {context : Context} {cursor after : Cursor}
    (h : cursor.implied? dialect context = some after) : cursor.Passes after :=
  passes_impliedFrom h

/-- Bytes of an HTML comment at the front; zero if none stands there. -/
def htmlWidth (bytes : Bytes) : Nat :=
  if (utf8 "<!--").isPrefixOf bytes || (utf8 "-->").isPrefixOf bytes then
    lineLength isLineEnd bytes
  else 0

theorem htmlWidth_pos {bytes : Bytes}
    (h : ((utf8 "<!--").isPrefixOf bytes || (utf8 "-->").isPrefixOf bytes) = true) :
    0 < htmlWidth bytes := by
  rw [htmlWidth, if_pos h]
  rcases bytes with _ | ⟨byte, rest⟩
  · revert h; decide
  · have hbyte : byte = 60 ∨ byte = 45 := by
      rw [Bool.or_eq_true, List.isPrefixOf_iff_prefix, List.isPrefixOf_iff_prefix] at h
      rcases h with h | h
      · exact .inl (List.cons_prefix_cons.1 h).1.symm
      · exact .inr (List.cons_prefix_cons.1 h).1.symm
    rcases hbyte with rfl | rfl <;> exact Nat.succ_pos _

theorem htmlComment?_eq (cursor : Cursor) :
    cursor.htmlComment? =
      if htmlWidth cursor.skip.rest = 0 then none
      else some { cursor.skip.advance (htmlWidth cursor.skip.rest) with
        notes := note .htmlComment cursor.skip.offset (htmlWidth cursor.skip.rest) ::
          cursor.skip.notes } := by
  unfold htmlComment?
  simp only
  by_cases hmark : ((utf8 "<!--").isPrefixOf cursor.skip.rest ||
      (utf8 "-->").isPrefixOf cursor.skip.rest) = true
  · have hpos := htmlWidth_pos hmark
    have hwidth : htmlWidth cursor.skip.rest = lineLength isLineEnd cursor.skip.rest := by
      rw [htmlWidth, if_pos hmark]
    rw [if_pos hmark, if_neg (by omega), hwidth]
  · rw [if_neg hmark, if_pos (by rw [htmlWidth, if_neg hmark])]

theorem passes_htmlComment? {cursor after : Cursor} (h : cursor.htmlComment? = some after) :
    cursor.Passes after := by
  rw [htmlComment?_eq] at h
  split at h
  · cases h
  next hwidth =>
  obtain rfl := Option.some.inj h
  refine (passes_skip cursor).trans
    ⟨htmlWidth cursor.skip.rest, [note .htmlComment cursor.skip.offset _], rfl, ?_⟩
  rw [List.forall_mem_singleton]
  exact ⟨Nat.le_refl _, by simp only [note, Node.start]; omega, .inr rfl, rfl, rfl⟩

end Cursor

/-! ## The state -/

namespace State

/-- What every reading does: it moves forward, and a frame keeps its beginning. -/
structure Leads (before after : State) : Prop where
  passes : before.cursor.Passes after.cursor
  start : ∀ offset, before.start = some offset → after.start = some offset

theorem Leads.refl (state : State) : state.Leads state := ⟨.refl _, fun _ h => h⟩

theorem Leads.trans {a b c : State} (hab : a.Leads b) (hbc : b.Leads c) : a.Leads c :=
  ⟨hab.passes.trans hbc.passes, fun offset h => hbc.start offset (hab.start offset h)⟩

theorem rounds_induct {motive : State → State → Prop} (hrefl : ∀ a, motive a a)
    (htrans : ∀ {a b c}, motive a b → motive b c → motive a c) {step : State → Option State}
    (hstep : ∀ {a b}, step a = some b → motive a b) (bound : Nat) (state : State) :
    motive state (rounds step bound state) := by
  induction bound generalizing state with
  | zero => exact hrefl state
  | succ bound ih =>
    rw [rounds]
    cases h : step state with
    | none => exact hrefl state
    | some next =>
      simp only
      split
      · exact hrefl state
      · exact htrans (hstep h) (ih next)

theorem leads_skip (state : State) : state.Leads state.skip :=
  ⟨Cursor.passes_skip _, fun _ h => h⟩

theorem leads_take {state next : State} {token : Token} (h : state.take token = some next) :
    state.Leads next := by
  obtain ⟨width, _, rfl⟩ := Option.map_eq_some_iff.1 h
  refine ⟨Cursor.passes_advance _ _, fun offset h => ?_⟩
  simp [h]

theorem leads_closed {outer inner : State} (h : outer.opened.Leads inner) :
    outer.Leads (outer.closed inner) := by
  refine ⟨h.passes, fun offset hstart => ?_⟩
  simp [closed, hstart]

theorem leads_skipHtml (state : State) : state.Leads state.skipHtml := by
  apply rounds_induct Leads.refl Leads.trans
  intro a b h
  obtain ⟨cursor, hcursor, rfl⟩ := Option.map_eq_some_iff.1 h
  exact ⟨Cursor.passes_htmlComment? hcursor, fun _ h => h⟩

/-- Passing over HTML comments moves the cursor only. -/
theorem skipHtml_eq (state : State) :
    state.skipHtml = { state with cursor := state.skipHtml.cursor } := by
  apply rounds_induct (motive := fun a b => b = { a with cursor := b.cursor }) (fun _ => rfl)
  · intro a b c hab hbc
    rw [hbc, hab]
  · intro a b h
    obtain ⟨cursor, _, rfl⟩ := Option.map_eq_some_iff.1 h
    rfl

theorem nodes_skipHtml (state : State) : state.skipHtml.nodes = state.nodes := by
  rw [skipHtml_eq]

theorem nodes_front (state : State) : state.front.nodes = state.nodes := state.nodes_skipHtml

theorem leads_front (state : State) : state.Leads state.front :=
  (leads_skipHtml state).trans (leads_skip _)

end State

theorem Derives.leads {dialect : Dialect} {rule : Rule} {state next : State}
    (h : Derives dialect rule state next) : state.Leads next := by
  induction h with
  | look => exact .refl _
  | token h => exact (State.leads_skip _).trans (State.leads_take h)
  | leaf h =>
    have hleads := (State.leads_skip _).trans (State.leads_take h)
    exact ⟨hleads.passes, hleads.start⟩
  | glued h => exact State.leads_take h
  | seq _ _ ihFirst ihSecond => exact ihFirst.trans ihSecond
  | left _ ih => exact ih
  | right _ ih => exact ih
  | finish => exact .refl _
  | again _ _ ihRound ihRest => exact ihRound.trans ihRest
  | frame _ ih => exact State.leads_closed ih
  | fold => exact ⟨.refl _, fun _ h => h⟩
  | role _ ih => exact State.leads_closed ⟨ih.passes, ih.start⟩
  | implied h => exact ⟨Cursor.passes_implied? h, fun _ h => h⟩
  | written h => exact (State.leads_skip _).trans (State.leads_take h)
  | settled h => exact ⟨Cursor.passes_implied? h, fun _ h => h⟩
  | unsettled => exact .refl _
  | htmlComments => exact State.leads_skipHtml _
  | goal _ ih => exact State.leads_closed ih

/-! ## All statements of a text -/

namespace State

/-- The state behind a line at which no statement could be read. -/
def pastLine (state : State) : State :=
  let line := (state.cursor.rest.takeWhile (· != lineFeed)).length
  let cursor := state.cursor.advance (max 1 line)
  { state with
    cursor := cursor
    nodes := .mk .error .plain state.cursor.offset cursor.offset [] :: state.nodes }

/-- The state behind the next statement, or behind the line if there is none. -/
def pastStatement (dialect : Dialect) (state : State) : State :=
  (readStatement dialect state).getD state.pastLine

/-- The state behind a line for the shell. -/
def pastShell (text : Bytes) (next : State) : State :=
  { next with
    nodes := [.mk .hashBangLine .plain (State.at text).skip.cursor.offset next.cursor.offset []] }

theorem opening_invariant {text : Bytes} {motive : State → Prop} (hat : motive (State.at text))
    (hshell : ∀ {next}, (State.at text).skip.take .hashBang = some next →
      motive (next.pastShell text)) : motive (State.opening text) := by
  rw [opening]
  cases htake : (State.at text).skip.take .hashBang with
  | none => exact hat
  | some next => exact hshell htake

end State

theorem readStatements_succ (dialect : Dialect) (bound : Nat) (state : State) :
    readStatements dialect (bound + 1) state =
      if state.front.cursor.rest.isEmpty then state.front
      else readStatements dialect bound (state.front.pastStatement dialect) := by
  rw [readStatements, State.pastStatement]
  cases readStatement dialect state.front <;> rfl

/-- What is passed of a broken line lies in the text. -/
theorem lineWidth_le {bytes : Bytes} (h : bytes ≠ []) :
    max 1 (bytes.takeWhile (· != lineFeed)).length ≤ bytes.length :=
  Nat.max_le.2 ⟨List.length_pos_iff.2 h, (List.takeWhile_prefix _).length_le⟩

/-- What holds at the beginning and is kept by gaps, statements and broken lines holds at the end. -/
theorem readStatements_invariant {dialect : Dialect} {motive : State → Prop}
    (hfront : ∀ {state}, motive state → motive state.front)
    (hstatement : ∀ {state next}, Derives dialect (.goal .statement) state next → motive state →
      motive next)
    (hline : ∀ {state}, state.cursor.rest ≠ [] → motive state → motive state.pastLine)
    (bound : Nat) {state : State} (h : motive state) :
    motive (readStatements dialect bound state) := by
  induction bound generalizing state with
  | zero => exact h
  | succ bound ih =>
    rw [readStatements_succ]
    split
    · exact hfront h
    next hmore =>
      apply ih
      rw [State.pastStatement]
      cases hread : readStatement dialect state.front with
      | some next => exact hstatement (derives_of_reach hread) (hfront h)
      | none => exact hline (fun hnil => hmore (List.isEmpty_iff.2 hnil)) (hfront h)

end Grammar

end Prologue
