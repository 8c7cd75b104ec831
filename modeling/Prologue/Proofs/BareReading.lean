import Prologue.Proofs.Alignment
import Prologue.Proofs.Relocation

/-!
# Reading without returns

If every return of a text has a line feed behind it, then the text is read alike with and without its
returns. Rule by rule, a reading of the one is a reading of the other, and so the trees are the same
apart from their places. A step that moves in the text moves without the returns too, since no token
and no comment is a return. So the rounds of a repetition are the same, and there are as many of them.
-/

namespace Prologue

open Bytes (bare bareWidth isPaired)

/-- The second place is the first one or lies behind it, also without the returns. -/
def Bytes.Beyond (text : Bytes) (first second : Nat) : Prop :=
  second = first ∨ text.bareWidth first < text.bareWidth second

namespace Bytes.Beyond

variable {text : Bytes} {a b c : Nat}

theorem refl (place : Nat) : text.Beyond place place := .inl rfl

theorem trans (hab : text.Beyond a b) (hbc : text.Beyond b c) : text.Beyond a c := by
  rcases hab with rfl | hab
  · exact hbc
  · rcases hbc with rfl | hbc
    · exact .inr hab
    · exact .inr (Nat.lt_trans hab hbc)

/-- A byte that is no return lies between the places. -/
theorem of_byte {place : Nat} {byte : UInt8} (hbyte : text[place]? = some byte) (hne : byte ≠ 13)
    (hle : a ≤ place) (hlt : place < b) : text.Beyond a b :=
  .inr (Nat.lt_of_le_of_lt (text.bareWidth_mono hle) (Bytes.bareWidth_lt hbyte hne hlt))

theorem of_endsSolid (h : text.EndsSolid a b) : text.Beyond a b := by
  obtain ⟨place, hlt, hle, hsolid, -⟩ := h
  obtain ⟨byte, hbyte, hblank⟩ := (Option.any_eq_true _ _).1 hsolid
  refine of_byte hbyte (fun hreturn => ?_) hle hlt
  subst hreturn
  cases hblank

end Bytes.Beyond

namespace Grammar

/-! ## Cursors -/

theorem head?_of_commentLength {bytes : Bytes} {width : Nat} (h : commentLength bytes = some width) :
    bytes.head? = some 47 := by
  unfold commentLength at h
  split at h
  · rfl
  · rfl
  · cases h

namespace Cursor

/-- An HTML comment begins with punctuation. -/
theorem exists_head_of_htmlWidth {bytes : Bytes} (h : htmlWidth bytes ≠ 0) :
    ∃ byte, bytes.head? = some byte ∧ byte ≠ 13 := by
  rw [htmlWidth] at h
  split at h
  next hmark =>
    rw [Bool.or_eq_true, List.isPrefixOf_iff_prefix, List.isPrefixOf_iff_prefix] at hmark
    rcases hmark with hopen | hclose
    · obtain ⟨rest, rfl⟩ := hopen
      exact ⟨60, rfl, by decide⟩
    · obtain ⟨rest, rfl⟩ := hclose
      exact ⟨45, rfl, by decide⟩
  · exact absurd rfl h

/-- The cursor stands in the text, and the comments that it passed do not begin with returns. -/
structure Marked (text : Bytes) (cursor : Cursor) : Prop where
  sound : cursor.Sound text
  counts : cursor.Counts
  notes : ∀ note ∈ cursor.notes, ∃ byte, text[note.start]? = some byte ∧ byte ≠ 13

/-- The second cursor is marked, and where it has moved it has moved without the returns too. -/
structure Gains (text : Bytes) (cursor after : Cursor) : Prop where
  marked : after.Marked text
  beyond : text.Beyond cursor.offset after.offset

variable {text : Bytes} {cursor after : Cursor}

theorem Gains.refl (h : cursor.Marked text) : Gains text cursor cursor := ⟨h, .refl _⟩

theorem Gains.trans {a b c : Cursor} (hab : Gains text a b) (hbc : Gains text b c) :
    Gains text a c :=
  ⟨hbc.marked, hab.beyond.trans hbc.beyond⟩

namespace Marked

theorem stands (h : cursor.Marked text) : cursor.Stands text := ⟨h.sound.rest, h.counts⟩

theorem advance (h : cursor.Marked text) {width : Nat} (hle : width ≤ cursor.rest.length) :
    (cursor.advance width).Marked text :=
  ⟨h.sound.advance hle, ((passes_advance cursor width).counts h.counts).1, h.notes⟩

theorem advance_note (h : cursor.Marked text) {width : Nat} (hle : width ≤ cursor.rest.length)
    {kind : Kind} (hkind : kind = .comment ∨ kind = .htmlComment) {byte : UInt8}
    (hhead : cursor.rest.head? = some byte) (hbyte : byte ≠ 13) :
    ({ cursor.advance width with
        notes := note kind cursor.offset width :: cursor.notes } : Cursor).Marked text := by
  refine ⟨h.sound.advance_note hle hkind, (h.advance hle).counts, ?_⟩
  rw [List.forall_mem_cons]
  refine ⟨⟨byte, ?_, hbyte⟩, h.notes⟩
  rw [h.sound.rest, List.head?_drop] at hhead
  exact hhead

theorem passItem (h : cursor.Marked text) : cursor.passItem.Marked text := by
  have hle := itemWidth_le cursor.rest
  unfold Cursor.passItem
  split
  next hslash => exact h.advance_note hle (.inl rfl) hslash (by decide)
  · exact h.advance hle

theorem skip (h : cursor.Marked text) : cursor.skip.Marked text :=
  skip_induct (motive := Marked text) (fun _ h => h.passItem) h

theorem htmlComment? (h : cursor.Marked text) (hhtml : cursor.htmlComment? = some after) :
    Gains text cursor after := by
  rw [htmlComment?_eq] at hhtml
  split at hhtml
  · cases hhtml
  next hwidth =>
    obtain ⟨byte, hhead, hbyte⟩ := exists_head_of_htmlWidth hwidth
    obtain rfl := Option.some.inj hhtml
    refine ⟨h.skip.advance_note (htmlWidth_le _) (.inr rfl) hhead hbyte, ?_⟩
    rw [h.skip.sound.rest, List.head?_drop] at hhead
    exact .of_byte hhead hbyte (passes_skip cursor).offset_le
      (Nat.lt_add_of_pos_right (Nat.pos_of_ne_zero hwidth))

theorem implied? (h : cursor.Marked text) {dialect : Dialect} {context : Context}
    (himplied : cursor.implied? dialect context = some after) : Gains text cursor after := by
  constructor
  · refine impliedFrom_induct (fun cursor code width h hpoint => ?_)
      (fun cursor width h hwidth => ?_) himplied h
    · cases hrest : cursor.rest with
      | nil => rw [hrest] at hpoint; cases hpoint
      | cons byte rest =>
        have hle := frontPoint_le (hrest ▸ hpoint)
        exact h.advance (hrest ▸ hle)
    · exact h.advance_note (commentLength_pos hwidth).2 (.inl rfl) (head?_of_commentLength hwidth)
        (by decide)
  · rcases (h.sound.implied? himplied).2 with heq | hsolid
    · exact .inl heq
    · exact .of_endsSolid hsolid

end Marked

end Cursor

/-! ## Rules -/

/-- All tokens of a rule have spellings that are not empty and hold no line breaks. -/
def Rule.isPlain : Rule → Bool
  | token t | leaf _ t | glued t => t.isPlain
  | seq first second | alt first second => first.isPlain && second.isPlain
  | star rule | ahead rule | absent rule | frame rule | role _ rule => rule.isPlain
  | _ => true

theorem rules_isPlain (dialect : Dialect) (goal : Goal) : (rules dialect goal).isPlain = true := by
  cases dialect <;> cases goal <;> first | decide | (rename_i mode; cases mode <;> decide)

section

variable {text : Bytes} {state next : State}

theorem State.gains_take (htext : text.isPaired = true) (h : state.cursor.Marked text)
    {token : Token} (htoken : token.isPlain = true) (htake : state.take token = some next) :
    next.cursor.Marked text ∧
      text.bareWidth state.cursor.offset < text.bareWidth next.cursor.offset := by
  obtain ⟨width, hlength, rfl⟩ := Option.map_eq_some_iff.1 htake
  refine ⟨h.advance (Token.length_le hlength), ?_⟩
  -- Without the returns the token takes something too.
  have hbare := Token.length_bare htoken (h.stands.isPaired htext)
  rw [hlength] at hbare
  have hpos := Token.length_pos_of_isPlain htoken hbare
  have hadd := h.stands.bareWidth_add width
  simp only [Cursor.advance]
  omega

theorem State.gains_token (htext : text.isPaired = true) (h : state.cursor.Marked text)
    {token : Token} (htoken : token.isPlain = true) (htake : state.skip.take token = some next) :
    Cursor.Gains text state.cursor next.cursor := by
  obtain ⟨hmarked, hlt⟩ := @gains_take text state.skip next htext h.skip token htoken htake
  have hskip := text.bareWidth_mono (Cursor.passes_skip state.cursor).offset_le
  exact ⟨hmarked, .inr (Nat.lt_of_le_of_lt hskip hlt)⟩

theorem State.gains_skipHtml (h : state.cursor.Marked text) :
    Cursor.Gains text state.cursor state.skipHtml.cursor := by
  refine State.rounds_induct
    (motive := fun a b => a.cursor.Marked text → Cursor.Gains text a.cursor b.cursor)
    (fun _ => .refl) (fun hab hbc ha => ?_) (fun hstep ha => ?_) _ _ h
  · have hfirst := hab ha
    exact hfirst.trans (hbc hfirst.marked)
  · obtain ⟨cursor, hcursor, rfl⟩ := Option.map_eq_some_iff.1 hstep
    exact ha.htmlComment? hcursor

/-- A reading that moves in the text moves without the returns too. -/
theorem Derives.gains {dialect : Dialect} {rule : Rule} {a b : State}
    (h : Derives dialect rule a b) (htext : text.isPaired = true) (hplain : rule.isPlain = true)
    (ha : a.cursor.Marked text) : Cursor.Gains text a.cursor b.cursor := by
  induction h with
  | look => exact .refl ha
  | token htake => exact State.gains_token htext ha hplain htake
  | leaf htake =>
    obtain ⟨hmarked, hbeyond⟩ := State.gains_token htext ha hplain htake
    exact ⟨hmarked, hbeyond⟩
  | glued htake =>
    obtain ⟨hmarked, hlt⟩ := State.gains_take htext ha hplain htake
    exact ⟨hmarked, .inr hlt⟩
  | seq _ _ ihFirst ihSecond =>
    obtain ⟨hfirst, hsecond⟩ := Bool.and_eq_true_iff.1 hplain
    have hab := ihFirst hfirst ha
    exact hab.trans (ihSecond hsecond hab.marked)
  | left _ ih => exact ih (Bool.and_eq_true_iff.1 hplain).1 ha
  | right _ ih => exact ih (Bool.and_eq_true_iff.1 hplain).2 ha
  | finish => exact .refl ha
  | again _ _ ihRound ihRest =>
    have hab := ihRound hplain ha
    exact hab.trans (ihRest hplain hab.marked)
  | frame _ ih => exact ih hplain ha
  | fold => exact .refl ha
  | role _ ih => exact ih hplain ha
  | implied himplied => exact ha.implied? himplied
  | written htake => exact State.gains_token htext ha (by decide) htake
  | settled himplied => exact ha.implied? himplied
  | unsettled => exact .refl ha
  | htmlComments => exact State.gains_skipHtml ha
  | goal _ ih => exact ih (rules_isPlain _ _) ha

/-! ## Readings -/

theorem State.rounds_bared {step : State → Option State}
    (hstep : ∀ {a b}, a.cursor.Marked text → step a = some b →
      Cursor.Gains text a.cursor b.cursor)
    (hsame : ∀ {a}, a.cursor.Marked text → step (a.bared text) = (step a).map (bared text))
    (bound : Nat) (h : state.cursor.Marked text) :
    rounds step bound (state.bared text) = (rounds step bound state).bared text := by
  induction bound generalizing state with
  | zero => rfl
  | succ bound ih =>
    rw [rounds, rounds, hsame h]
    cases hnext : step state with
    | none => rfl
    | some next =>
      obtain ⟨hmarked, hbeyond⟩ := hstep h hnext
      have hstill : (next.bared text).cursor.offset = (state.bared text).cursor.offset ↔
          next.cursor.offset = state.cursor.offset := by
        constructor
        · intro hsame
          rcases hbeyond with heq | hlt
          · exact heq
          · exact absurd hsame (Nat.ne_of_gt hlt)
        · exact congrArg text.bareWidth
      simp only [Option.map_some, hstill]
      split
      · rfl
      · exact ih hmarked

/-- As many rounds as bytes are left without the returns are enough. -/
theorem State.rounds_left {step : State → Option State}
    (hstep : ∀ {a b}, a.cursor.Marked text → step a = some b →
      Cursor.Gains text a.cursor b.cursor)
    (h : state.cursor.Marked text) :
    rounds step (state.bared text).cursor.left state = rounds step state.cursor.left state := by
  have hle : (state.bared text).cursor.left ≤ state.cursor.left := by
    rw [h.counts]
    exact Bytes.length_bare_le _
  have hleft : ∀ {a : State}, a.cursor.Marked text → (a.bared text).cursor.left =
      (bare text).length - text.bareWidth a.cursor.offset := by
    intro a ha
    rw [← List.length_drop, Bytes.bare_drop, ← ha.sound.rest]
    rfl
  refine @rounds_eq_of_le step (fun a => a.cursor.Marked text)
    (fun a => (a.bared text).cursor.left) (fun {a b} ha hab hmoves => ?_) _ _ _ h (Nat.le_refl _) hle
  obtain ⟨hb, hbeyond⟩ := hstep ha hab
  have hlt := hbeyond.resolve_left hmoves
  have hwithin := text.bareWidth_mono hb.sound.within
  rw [Bytes.bareWidth_length] at hwithin
  refine ⟨hb, ?_⟩
  rw [hleft ha, hleft hb]
  omega

theorem State.skipHtml_bared (htext : text.isPaired = true) (h : state.cursor.Marked text) :
    (state.bared text).skipHtml = state.skipHtml.bared text := by
  have hgains : ∀ {a b : State}, a.cursor.Marked text →
      (a.cursor.htmlComment?.map fun cursor => { a with cursor := cursor }) = some b →
      Cursor.Gains text a.cursor b.cursor := by
    intro a b ha hab
    obtain ⟨cursor, hcursor, rfl⟩ := Option.map_eq_some_iff.1 hab
    exact ha.htmlComment? hcursor
  rw [skipHtml, skipHtml, rounds_bared hgains (fun {a} ha => ?_) _ h, rounds_left hgains h]
  have hhtml : (a.bared text).cursor.htmlComment? = a.cursor.htmlComment?.map (Cursor.bared text) :=
    ha.stands.htmlComment?_bared htext
  rw [hhtml, Option.map_map, Option.map_map]
  rfl

/-- A rule is read alike without the returns, if the goals it refers to are. -/
theorem Rule.read_bared (htext : text.isPaired = true) {dialect : Dialect}
    {reach : Goal → State → Option State}
    (hderives : ∀ {goal a b}, reach goal a = some b → Derives dialect (.goal goal) a b)
    (hreach : ∀ {goal a}, a.cursor.Marked text →
      reach goal (a.bared text) = (reach goal a).map (State.bared text)) {rule : Rule}
    (hplain : rule.isPlain = true) (h : state.cursor.Marked text) :
    rule.read dialect reach (state.bared text) =
      (rule.read dialect reach state).map (State.bared text) := by
  induction rule generalizing state with
  | done => rfl
  | never => rfl
  | token t =>
    rw [read, read, State.skip_bared h.stands htext, State.take_bared h.skip.stands htext hplain]
  | leaf kind t =>
    simp only [read]
    rw [State.skip_bared h.stands htext, State.take_bared h.skip.stands htext hplain,
      Option.map_map, Option.map_map]
    congr 1
  | glued t => exact State.take_bared h.stands htext hplain
  | seq first second ihFirst ihSecond =>
    obtain ⟨hfirst, hsecond⟩ := Bool.and_eq_true_iff.1 hplain
    rw [read, read, ihFirst hfirst h]
    cases hnext : first.read dialect reach state with
    | none => rfl
    | some next =>
      exact ihSecond hsecond ((derives_of_read hderives hnext).gains htext hfirst h).marked
  | alt first second ihFirst ihSecond =>
    obtain ⟨hfirst, hsecond⟩ := Bool.and_eq_true_iff.1 hplain
    rw [read, read, ihFirst hfirst h]
    cases first.read dialect reach state with
    | none => exact ihSecond hsecond h
    | some next => rfl
  | star rule ih =>
    have hgains : ∀ {a b : State}, a.cursor.Marked text → rule.read dialect reach a = some b →
        Cursor.Gains text a.cursor b.cursor :=
      fun ha hab => (derives_of_read hderives hab).gains htext hplain ha
    rw [read, read, State.rounds_bared hgains (ih hplain) _ h, State.rounds_left hgains h]
    rfl
  | ahead rule ih =>
    rw [read, read, ih hplain h, Option.isSome_map]
    split <;> rfl
  | absent rule ih =>
    rw [read, read, ih hplain h, Option.isSome_map]
    split <;> rfl
  | frame rule ih =>
    have hinner := ih hplain (show state.opened.cursor.Marked text from h)
    rw [read, read, State.opened_bared, hinner, Option.map_map, Option.map_map]
    congr 1
    funext inner
    exact State.closed_bared state inner
  | fold kind => rw [read, read, State.fold_bared]; rfl
  | role part rule ih =>
    have hinner := ih hplain (show state.opened.cursor.Marked text from h)
    rw [read, read, State.opened_bared, hinner, Option.map_map, Option.map_map]
    congr 1
    funext inner
    rw [Function.comp_apply, Function.comp_apply, ← State.closed_bared]
    congr 1
    simp [State.bared, Function.comp_def, Node.withRole_relocate]
  | lastIs kinds =>
    obtain ⟨cursor, start, nodes⟩ := state
    cases nodes with
    | nil => rfl
    | cons node rest =>
      simp only [read, State.bared, List.map_cons, Node.kind_relocate]
      split <;> rfl
  | lastHas part =>
    obtain ⟨cursor, start, nodes⟩ := state
    cases nodes with
    | nil => rfl
    | cons node rest =>
      simp only [read, State.bared, List.map_cons, Node.child?_relocate, Option.isSome_map]
      split <;> rfl
  | unbroken context =>
    have himplied := h.stands.implied?_bared htext dialect context
    rw [read, read, show (state.bared text).cursor.implied? dialect context = _ from himplied,
      Option.isSome_map]
    split <;> rfl
  | semicolon context => exact State.semicolon_bared h.stands htext dialect context
  | settled =>
    have himplied := h.stands.implied?_bared htext dialect .other
    rw [read, read, show (state.bared text).cursor.implied? dialect .other = _ from himplied]
    cases state.cursor.implied? dialect .other <;> rfl
  | htmlComments => rw [read, read, State.skipHtml_bared htext h]; rfl
  | goal g => exact hreach h

theorem reach_bared (htext : text.isPaired = true) (dialect : Dialect) (fuel : Nat) (goal : Goal)
    (h : state.cursor.Marked text) :
    reach dialect fuel goal (state.bared text) =
      (reach dialect fuel goal state).map (State.bared text) := by
  induction fuel generalizing goal state with
  | zero => rfl
  | succ fuel ih =>
    have hread := Rule.read_bared htext derives_of_reach (fun ha => ih _ ha)
      (rules_isPlain dialect goal) (show state.opened.cursor.Marked text from h)
    rw [reach, reach, State.opened_bared, hread, Option.map_map, Option.map_map]
    congr 1
    funext inner
    exact State.closed_bared state inner

/-! ## Statements -/

theorem readStatement_bared (htext : text.isPaired = true) (dialect : Dialect)
    (h : state.cursor.Marked text) :
    readStatement dialect (state.bared text) =
      (readStatement dialect state).map (State.bared text) := by
  have hle : (state.bared text).cursor.left ≤ state.cursor.left := by
    rw [h.counts]
    exact Bytes.length_bare_le _
  have hfuel : fuelFor (state.bared text).cursor.left ≤ fuelFor state.cursor.left := by
    simp only [fuelFor]
    omega
  have hcounts : (state.bared text).cursor.Counts := rfl
  rw [readStatement_eq_reach dialect hcounts hfuel]
  exact reach_bared htext dialect _ _ h

theorem State.marked_front (h : state.cursor.Marked text) : state.front.cursor.Marked text :=
  (gains_skipHtml h).marked.skip

theorem State.front_bared (htext : text.isPaired = true) (h : state.cursor.Marked text) :
    (state.bared text).front = state.front.bared text := by
  rw [front, skipHtml_bared htext h, skip_bared (gains_skipHtml h).marked.stands htext]
  rfl

theorem isEmpty_bare {bytes : Bytes} (hpaired : bytes.isPaired = true) :
    (bare bytes).isEmpty = bytes.isEmpty := by
  rcases bytes with _ | ⟨byte, rest⟩
  · rfl
  by_cases hbyte : byte = 13
  · subst hbyte
    obtain ⟨more, rfl, -⟩ := Bytes.isPaired_return hpaired
    rfl
  · rw [Bytes.bare_cons hbyte]
    rfl

/-- A line that begins with no blank takes what is left of its bytes without the returns. -/
theorem max_line_bare {bytes : Bytes} (hitem : itemWidth bytes = 0) (hmore : bytes ≠ []) :
    max 1 ((bare bytes).takeWhile (· != lineFeed)).length =
      bytes.bareWidth (max 1 (bytes.takeWhile (· != lineFeed)).length) := by
  obtain ⟨byte, rest, rfl⟩ := List.ne_nil_iff_exists_cons.1 hmore
  have hreturn : byte ≠ 13 := by
    intro hbyte
    subst hbyte
    cases hitem
  have hfeed : byte ≠ lineFeed := by
    intro hbyte
    subst hbyte
    cases hitem
  have hline : ∀ more : Bytes, 0 < ((byte :: more).takeWhile (· != lineFeed)).length := by
    intro more
    rw [List.takeWhile_cons, if_pos (bne_iff_ne.2 hfeed)]
    exact Nat.succ_pos _
  have hpos := hline rest
  have hbare : 0 < ((bare (byte :: rest)).takeWhile (· != lineFeed)).length := by
    rw [Bytes.bare_cons hreturn]
    exact hline (bare rest)
  rw [Nat.max_eq_right hpos, Nat.max_eq_right hbare]
  exact Bytes.length_takeWhile_bare rfl _

theorem State.marked_pastStatement (htext : text.isPaired = true) (dialect : Dialect)
    (h : state.cursor.Marked text) (hmore : state.cursor.rest ≠ []) :
    (state.pastStatement dialect).cursor.Marked text := by
  rw [pastStatement]
  cases hread : readStatement dialect state with
  | some next =>
    have hderives : Derives dialect (.goal .statement) state next := derives_of_reach hread
    exact (hderives.gains htext rfl h).marked
  | none => exact h.advance (lineWidth_le hmore)

theorem State.pastStatement_bared (htext : text.isPaired = true) (dialect : Dialect)
    (h : state.cursor.Marked text) (hitem : itemWidth state.cursor.rest = 0)
    (hmore : state.cursor.rest ≠ []) :
    (state.bared text).pastStatement dialect = (state.pastStatement dialect).bared text := by
  rw [pastStatement, pastStatement, readStatement_bared htext dialect h]
  cases readStatement dialect state with
  | some next => rfl
  | none =>
    have hrest : (state.bared text).cursor.rest = bare state.cursor.rest := rfl
    have hadvance : (state.bared text).cursor.advance (bareWidth state.cursor.rest
        (max 1 (state.cursor.rest.takeWhile (· != lineFeed)).length)) = _ :=
      h.stands.advance_bared _
    simp only [Option.map_none, Option.getD_none, pastLine, hrest, max_line_bare hitem hmore,
      hadvance]
    simp only [bared, List.map_cons, Node.relocate_mk, List.map_nil]
    rfl

theorem readStatements_bared (htext : text.isPaired = true) (dialect : Dialect) (bound : Nat)
    (h : state.cursor.Marked text) :
    readStatements dialect bound (state.bared text) =
        (readStatements dialect bound state).bared text ∧
      (readStatements dialect bound state).cursor.Marked text := by
  induction bound generalizing state with
  | zero => exact ⟨rfl, h⟩
  | succ bound ih =>
    have hfront := State.marked_front h
    have hempty : (state.front.bared text).cursor.rest.isEmpty = state.front.cursor.rest.isEmpty :=
      isEmpty_bare (hfront.stands.isPaired htext)
    rw [readStatements_succ, readStatements_succ, State.front_bared htext h, hempty]
    split
    · exact ⟨rfl, hfront⟩
    next hmore =>
      rw [List.isEmpty_iff] at hmore
      have hitem : itemWidth state.front.cursor.rest = 0 :=
        (State.gains_skipHtml h).marked.sound.skip.2
      rw [State.pastStatement_bared htext dialect hfront hitem hmore]
      exact ih (State.marked_pastStatement htext dialect hfront hmore)

theorem State.pastStatement_left_lt (dialect : Dialect) (hcounts : state.cursor.Counts)
    (hmore : state.cursor.rest ≠ []) :
    (state.pastStatement dialect).cursor.Counts ∧
      (state.pastStatement dialect).cursor.left < state.cursor.left := by
  rw [pastStatement]
  cases hread : readStatement dialect state with
  | some next =>
    have hderives : Derives dialect (.goal .statement) state next := derives_of_reach hread
    exact ⟨(hderives.leads.passes.counts hcounts).1,
      (hderives.begins rfl).opens.left_lt hderives.leads hcounts⟩
  | none =>
    refine ⟨((Cursor.passes_advance _ _).counts hcounts).1, ?_⟩
    have hpos := List.length_pos_of_ne_nil hmore
    rw [← hcounts] at hpos
    simp only [Option.getD_none, pastLine, Cursor.advance]
    omega

/-- More rounds than bytes are left change nothing. -/
theorem readStatements_eq_of_lt (dialect : Dialect) {bound bound' : Nat}
    (hcounts : state.cursor.Counts) (h : state.cursor.left < bound)
    (h' : state.cursor.left < bound') :
    readStatements dialect bound state = readStatements dialect bound' state := by
  induction bound generalizing bound' state with
  | zero => omega
  | succ bound ih =>
    obtain ⟨bound', rfl⟩ : ∃ n, bound' = n + 1 := ⟨bound' - 1, by omega⟩
    obtain ⟨hfront, hle⟩ := (State.leads_front state).passes.counts hcounts
    rw [readStatements_succ, readStatements_succ]
    split
    · rfl
    next hmore =>
      rw [List.isEmpty_iff] at hmore
      obtain ⟨hnext, hlt⟩ := State.pastStatement_left_lt dialect hfront hmore
      exact ih hnext (by omega) (by omega)

/-! ## The whole text -/

theorem marked_at (text : Bytes) : (State.at text).cursor.Marked text := by
  refine ⟨⟨rfl, Nat.zero_le _, ?_, List.Pairwise.nil⟩, rfl, ?_⟩
  all_goals
    intro _ hmem
    cases hmem

theorem marked_opening (htext : text.isPaired = true) : (State.opening text).cursor.Marked text := by
  refine State.opening_invariant (motive := fun next => next.cursor.Marked text) (marked_at text) ?_
  intro next htake
  exact (State.gains_token htext (marked_at text) rfl htake).marked

theorem opening_bare (htext : text.isPaired = true) :
    State.opening (bare text) = (State.opening text).bared text := by
  have hat : State.at (bare text) = (State.at text).bared text := rfl
  have hmarked := marked_at text
  have htake := @State.take_bared text (State.at text).skip hmarked.skip.stands htext .hashBang rfl
  rw [State.opening, hat, State.skip_bared hmarked.stands htext, htake, State.opening]
  cases (State.at text).skip.take .hashBang <;> rfl

end

/-- If every return of a text has a line feed behind it, then the text without its returns has the same
tree, apart from the places. -/
theorem parse_bare (dialect : Dialect) {text : Bytes} (htext : text.isPaired = true) :
    parse dialect (bare text) = (parse dialect text).relocate text.bareWidth := by
  obtain ⟨hfinal, hmarked⟩ :=
    readStatements_bared htext dialect (text.length + 1) (marked_opening htext)
  have hopening := opening_bare htext
  have hbound : readStatements dialect ((bare text).length + 1) (State.opening (bare text)) =
      readStatements dialect (text.length + 1) (State.opening (bare text)) := by
    have hleft : (State.opening (bare text)).cursor.left ≤ (bare text).length := by
      rw [hopening]
      show (bare (State.opening text).cursor.rest).length ≤ _
      rw [(marked_opening htext).sound.rest, ← Bytes.bare_drop, List.length_drop]
      exact Nat.sub_le _ _
    have hle := Bytes.length_bare_le text
    apply readStatements_eq_of_lt dialect
    · rw [hopening]
      rfl
    · omega
    · omega
  have hnotes : ∀ note ∈ (readStatements dialect (text.length + 1)
      (State.opening text)).cursor.notes.reverse, ∀ place,
      text.bareWidth note.start < text.bareWidth place ↔ note.start < place := by
    intro note hmem place
    obtain ⟨byte, hbyte, hne⟩ := hmarked.notes note (List.mem_reverse.1 hmem)
    constructor
    · intro hlt
      by_contra hle
      exact absurd (text.bareWidth_mono (Nat.le_of_not_lt hle)) (Nat.not_le_of_lt hlt)
    · exact Bytes.bareWidth_lt hbyte hne
  rw [parse, parse, hbound, hopening, hfinal, ← Node.weave_relocate _ hnotes, Node.relocate_mk,
    Bytes.bareWidth_zero, Bytes.bareWidth_length]
  simp only [State.bared, Cursor.bared, List.map_reverse]

end Grammar

end Prologue
