import Prologue.Proofs.Progress

/-!
# What a statement begins with

Whether a rule has to begin with a token can be computed from the rule, and so can whether it ends by
making one node of its frame. Both hold of the rules for statements in every dialect. So a statement is
read as exactly one node, it takes at least one byte, and it begins with a token at the front of its
text. Which kinds of nodes a rule never makes is computed in the same way; errors are among them.
-/

namespace Prologue.Grammar

/-! ## Tokens -/

theorem le_bigMark (bytes : Bytes) (n : Nat) : n ≤ bigMark bytes n := by
  unfold bigMark
  split <;> omega

theorem stringLength_pos {bytes : Bytes} {width : Nat} (h : stringLength bytes = some width) :
    0 < width := by
  unfold stringLength at h
  split at h
  · rw [Option.ite_none_right_eq_some] at h
    obtain ⟨inner, -, rfl⟩ := Option.map_eq_some_iff.1 h.2
    exact Nat.succ_pos _
  · cases h

theorem regexLength_pos {bytes : Bytes} {width : Nat} (h : regexLength bytes = some width) :
    0 < width := by
  unfold regexLength at h
  split at h
  · rw [Option.ite_none_left_eq_some] at h
    obtain ⟨-, h⟩ := h
    split at h
    · cases h
    · obtain rfl := Option.some.inj h
      omega
  · cases h

theorem referenceLength_pos {bytes : Bytes} {width : Nat}
    (h : referenceLength bytes = some width) : 0 < width := by
  unfold referenceLength at h
  split at h
  · simp only at h
    split at h
    · rw [Option.ite_none_left_eq_some] at h
      obtain rfl := Option.some.inj h.2
      exact Nat.succ_pos _
    · cases h
  · cases h

theorem markupNameRun_pos {bytes : Bytes} (h : nameLength bytes ≠ 0) : 0 < markupNameRun bytes := by
  rcases bytes with _ | ⟨byte, rest⟩
  · exact absurd rfl h
  rw [nameLength, characterRun] at h
  rw [markupNameRun, characterRun]
  split
  next hnone =>
    rw [markupNameCharacter] at hnone
    split at hnone
    · cases hnone
    · simp [hnone] at h
  · exact Nat.succ_pos _

theorem markupStringLength_pos {bytes : Bytes} {width : Nat}
    (h : markupStringLength bytes = some width) : 0 < width := by
  unfold markupStringLength at h
  split at h
  · simp only [Option.ite_none_right_eq_some] at h
    obtain rfl := Option.some.inj h.2.2
    exact Nat.succ_pos _
  · cases h

/-- Every token takes something, if it is no punctuation with an empty spelling. -/
theorem Token.Takes.pos {token : Token} {bytes : Bytes} {width : Nat} (h : token.Takes bytes width)
    (htext : ∀ spelling longer, token = .text spelling longer → utf8 spelling ≠ []) :
    0 < width := by
  cases h with
  | @text spelling longer => exact List.length_pos_of_ne_nil (htext spelling longer rfl)
  | word hname => exact Nat.pos_of_ne_zero hname
  | name hname => exact Nat.pos_of_ne_zero hname
  | privateName => exact Nat.succ_pos _
  | radix hradix => exact Nat.lt_of_lt_of_le (Nat.pos_of_ne_zero hradix) (le_bigMark _ _)
  | decimal _ hdecimal => exact Nat.pos_of_ne_zero hdecimal
  | string h => exact stringLength_pos h
  | regex h => exact regexLength_pos h
  | templateText _ hpos => exact hpos
  | markupText hpos => exact hpos
  | reference h => exact referenceLength_pos h
  | markupName hname => exact markupNameRun_pos hname
  | markupString h => exact markupStringLength_pos h
  | hashBang hstarts =>
    obtain ⟨rest, rfl⟩ := List.isPrefixOf_iff_prefix.1 hstarts
    exact Nat.succ_pos _

/-- Tokens that a statement may begin with. Nothing that begins with a number sign and an exclamation
mark is among them. -/
def Token.opens : Token → Bool
  | text spelling _ => (utf8 spelling).head?.any (· != 35)
  | word _ | name _ | privateName | number | string | regex => true
  | _ => false

namespace Token

theorem spelling_ne_nil {spelling : String} {longer : List String}
    (hopens : (text spelling longer).opens = true) : utf8 spelling ≠ [] := by
  intro hnil
  rw [opens, hnil] at hopens
  cases hopens

theorem length_pos {token : Token} (hopens : token.opens = true) {bytes : Bytes} {width : Nat}
    (h : token.length bytes = some width) : 0 < width := by
  refine (takes_of_length h).pos fun spelling longer htoken => ?_
  rw [htoken] at hopens
  exact spelling_ne_nil hopens

/-- No token stands at the front of nothing. -/
theorem length_nil {token : Token} (hopens : token.opens = true) : token.length [] = none := by
  cases token with
  | text spelling longer =>
    cases hspelling : utf8 spelling with
    | nil => exact absurd hspelling (spelling_ne_nil hopens)
    | cons byte rest => simp [length, startsWith, hspelling]
  | name reserved => rfl
  | word spelling => rfl
  | privateName => rfl
  | number => rfl
  | string => rfl
  | regex => rfl
  | _ => cases hopens

/-- No token stands at the front of a line for the shell. -/
theorem length_hashBang {token : Token} (hopens : token.opens = true) (rest : Bytes) :
    token.length (35 :: 33 :: rest) = none := by
  have hname : nameLength (35 :: 33 :: rest) = 0 := rfl
  cases token with
  | text spelling longer =>
    cases hspelling : utf8 spelling with
    | nil => exact absurd hspelling (spelling_ne_nil hopens)
    | cons byte more =>
      have hbyte : byte ≠ 35 := by simpa [opens, hspelling] using hopens
      simp [length, startsWith, hspelling, hbyte]
  | name reserved => simp only [length, hname]
  | word spelling => simp [length, wordLength, hname]
  | privateName => rfl
  | number => rfl
  | string => rfl
  | regex => rfl
  | _ => cases hopens

end Token

/-! ## Beginnings -/

/-- Whether a reading has to begin with a token. Unless `strict`, it may also read nothing. -/
def Rule.opens (strict : Bool) : Rule → Bool
  | never | goal _ => true
  | token t | leaf _ t => t.opens
  | seq first second => first.opens true || (first.opens false && second.opens strict)
  | alt first second => first.opens strict && second.opens strict
  | star rule => !strict && rule.opens false
  | frame rule | role _ rule => rule.opens strict
  | done | ahead _ | absent _ | fold _ | lastIs _ | lastHas _ | unbroken _ => !strict
  | glued _ | semicolon _ | settled | htmlComments => false

namespace State

/-- A token was read at the front, and the frame begins with it unless it had begun before. -/
structure Opens (before after : State) : Prop where
  start : after.start = some (before.start.getD before.cursor.skip.offset)
  moves : before.cursor.skip.offset < after.cursor.offset
  token : ∃ token : Token, token.opens = true ∧ (token.length before.cursor.skip.rest).isSome

/-- Nothing was read. -/
def Stays (before after : State) : Prop := after.cursor = before.cursor ∧ after.start = before.start

theorem Opens.trans_leads {a b c : State} (hab : a.Opens b) (hbc : b.Leads c) : a.Opens c :=
  ⟨hbc.start _ hab.start, Nat.lt_of_lt_of_le hab.moves hbc.passes.offset_le, hab.token⟩

theorem Stays.opens {a b c : State} (hab : a.Stays b) (hbc : b.Opens c) : a.Opens c := by
  obtain ⟨hstart, hmoves, htoken⟩ := hbc
  rw [hab.1] at hstart hmoves htoken
  rw [hab.2] at hstart
  exact ⟨hstart, hmoves, htoken⟩

theorem Stays.trans {a b c : State} (hab : a.Stays b) (hbc : b.Stays c) : a.Stays c :=
  ⟨hbc.1.trans hab.1, hbc.2.trans hab.2⟩

/-- A reading that begins as `Rule.opens` says. -/
def Begins (strict : Bool) (before after : State) : Prop :=
  before.Opens after ∨ (strict = false ∧ before.Stays after)

theorem Begins.opens {a b : State} (h : a.Begins true b) : a.Opens b := by
  rcases h with hopened | ⟨hfalse, _⟩
  · exact hopened
  · cases hfalse

theorem Begins.trans {strict : Bool} {a b c : State} (hab : a.Begins false b)
    (hbc : b.Begins strict c) (hleads : b.Leads c) : a.Begins strict c := by
  rcases hab with hopened | ⟨_, hstays⟩
  · exact .inl (hopened.trans_leads hleads)
  rcases hbc with hopened | ⟨hstrict, hstays'⟩
  · exact .inl (hstays.opens hopened)
  · exact .inr ⟨hstrict, hstays.trans hstays'⟩

theorem opens_take {state next : State} {token : Token} (hopens : token.opens = true)
    (h : state.skip.take token = some next) : state.Opens next := by
  obtain ⟨width, hwidth, rfl⟩ := Option.map_eq_some_iff.1 h
  have hpos := Token.length_pos hopens hwidth
  refine ⟨rfl, ?_, token, hopens, ?_⟩
  · simp only [skip, Cursor.advance]
    omega
  · rw [show state.cursor.skip.rest = state.skip.cursor.rest from rfl, hwidth]
    rfl

theorem opens_closed {outer inner : State} (h : outer.opened.Opens inner) :
    outer.Opens (outer.closed inner) := by
  refine ⟨?_, h.moves, h.token⟩
  have hstart := h.start
  simp only [opened, Option.getD_none] at hstart
  cases houter : outer.start <;> simp [closed, houter, hstart]

theorem begins_closed {strict : Bool} {outer inner : State}
    (h : outer.opened.Begins strict inner) : outer.Begins strict (outer.closed inner) := by
  rcases h with h | ⟨hstrict, hstays⟩
  · exact .inl (opens_closed h)
  · refine .inr ⟨hstrict, hstays.1, ?_⟩
    have hstart : inner.start = none := hstays.2
    cases houter : outer.start <;> simp [closed, houter, hstart]

end State

theorem Rule.eq_false_of_looks {rule : Rule} {strict : Bool} (hlooks : rule.looks = true)
    (hopens : rule.opens strict = true) : strict = false := by
  cases rule <;> simp_all [looks, opens]

theorem rules_opens (dialect : Dialect) (goal : Goal) :
    (rules dialect goal).opens true = true := by
  cases dialect <;> cases goal <;> first | decide | (rename_i mode; cases mode <;> decide)

theorem Derives.begins {dialect : Dialect} {rule : Rule} {state next : State}
    (h : Derives dialect rule state next) {strict : Bool} (hopens : rule.opens strict = true) :
    state.Begins strict next := by
  induction h generalizing strict with
  | look hlooks => exact .inr ⟨Rule.eq_false_of_looks hlooks hopens, rfl, rfl⟩
  | token h => exact .inl (State.opens_take hopens h)
  | leaf h =>
    have hopened := State.opens_take hopens h
    exact .inl ⟨hopened.start, hopened.moves, hopened.token⟩
  | seq _ hsecond ihFirst ihSecond =>
    simp only [Rule.opens, Bool.or_eq_true, Bool.and_eq_true] at hopens
    rcases hopens with hstrictly | ⟨hmaybe, hthen⟩
    · exact .inl ((ihFirst hstrictly).opens.trans_leads hsecond.leads)
    · exact (ihFirst hmaybe).trans (ihSecond hthen) hsecond.leads
  | left _ ih =>
    simp only [Rule.opens, Bool.and_eq_true] at hopens
    exact ih hopens.1
  | right _ ih =>
    simp only [Rule.opens, Bool.and_eq_true] at hopens
    exact ih hopens.2
  | finish =>
    simp only [Rule.opens, Bool.and_eq_true] at hopens
    exact .inr ⟨by simpa using hopens.1, rfl, rfl⟩
  | again _ hrest ihRound ihRest =>
    have hmaybe := hopens
    simp only [Rule.opens, Bool.and_eq_true] at hmaybe
    exact (ihRound hmaybe.2).trans (ihRest hopens) hrest.leads
  | frame _ ih => exact State.begins_closed (ih hopens)
  | fold => exact .inr ⟨by simpa [Rule.opens] using hopens, rfl, rfl⟩
  | role _ ih =>
    apply State.begins_closed
    rcases ih hopens with hopened | hstays
    · exact .inl ⟨hopened.start, hopened.moves, hopened.token⟩
    · exact .inr hstays
  | goal _ ih => exact .inl (State.opens_closed (ih (rules_opens _ _)).opens)
  | glued | implied | written | settled | unsettled | htmlComments => cases hopens

/-! ## Statements as nodes -/

/-- Whether a reading ends by making one node of its frame, and of what kind. -/
def Rule.folds : Rule → Bool
  | never => true
  | fold kind => !kind.isNote
  | seq _ second => second.folds
  | alt first second => first.folds && second.folds
  | _ => false

/-- Whether a reading leaves one node that reaches from its first token to its end. -/
def Rule.yields : Rule → Bool
  | never | goal .statement | goal .block => true
  | frame rule => rule.opens true && rule.folds
  | alt first second => first.yields && second.yields
  | seq (ahead _) second | seq (absent _) second => second.yields
  | _ => false

/-- One node was left, which reaches from the first token to the end of the reading. -/
def State.Yields (before after : State) : Prop :=
  ∃ node : Node, after.nodes = node :: before.nodes ∧ node.start = before.cursor.skip.offset ∧
    node.stop = after.cursor.offset ∧ node.kind.isNote = false

section

variable {dialect : Dialect} {rule : Rule} {state next : State}

theorem Derives.folds (h : Derives dialect rule state next) (hfolds : rule.folds = true) :
    ∃ node : Node, next.nodes = [node] ∧ node.start = next.start.getD next.cursor.offset ∧
      node.stop = next.cursor.offset ∧ node.kind.isNote = false := by
  induction h with
  | fold => exact ⟨_, rfl, rfl, rfl, by simpa [Rule.folds, Node.kind] using hfolds⟩
  | seq _ _ _ ih => exact ih hfolds
  | left _ ih =>
    simp only [Rule.folds, Bool.and_eq_true] at hfolds
    exact ih hfolds.1
  | right _ ih =>
    simp only [Rule.folds, Bool.and_eq_true] at hfolds
    exact ih hfolds.2
  | @look rule _ hlooks => cases rule <;> simp_all [Rule.looks, Rule.folds]
  | _ => cases hfolds

theorem rules_yields (dialect : Dialect) {goal : Goal} (h : (Rule.goal goal).yields = true) :
    (rules dialect goal).yields = true := by
  cases goal with
  | statement => cases dialect <;> decide
  | block => cases dialect <;> decide
  | _ => cases h

theorem Derives.yields (h : Derives dialect rule state next) (hrule : rule.yields = true) :
    state.Yields next := by
  induction h with
  | frame hinner _ =>
    simp only [Rule.yields, Bool.and_eq_true] at hrule
    obtain ⟨node, hnodes, hstart, hstop, hkind⟩ := hinner.folds hrule.2
    refine ⟨node, by simp [State.closed, hnodes], ?_, hstop, hkind⟩
    rw [hstart, (hinner.begins hrule.1).opens.start]
    rfl
  | left _ ih =>
    simp only [Rule.yields, Bool.and_eq_true] at hrule
    exact ih hrule.1
  | right _ ih =>
    simp only [Rule.yields, Bool.and_eq_true] at hrule
    exact ih hrule.2
  | @seq first _ _ _ _ hfirst _ _ ih =>
    -- In front of a rule that leaves one node stands one that only looks.
    cases first with
    | ahead => cases hfirst; exact ih hrule
    | absent => cases hfirst; exact ih hrule
    | _ => cases hrule
  | goal _ ih =>
    obtain ⟨node, hnodes, hstart, hstop, hkind⟩ := ih (rules_yields _ hrule)
    exact ⟨node, by simp [State.closed, hnodes, State.opened], hstart, hstop, hkind⟩
  | @look rule _ hlooks => cases rule <;> simp_all [Rule.looks, Rule.yields]
  | _ => cases hrule

end

/-! ## Kinds of nodes that are not made -/

/-- No rule makes an error node. -/
def Rule.faultless : Rule → Bool
  | leaf kind _ | fold kind => kind != .error
  | seq first second | alt first second => first.faultless && second.faultless
  | star rule | frame rule | role _ rule => rule.faultless
  | _ => true

/-- A rule makes no node of the given kind, the goals in it aside. -/
def Rule.avoids (kind : Kind) : Rule → Bool
  | leaf own _ | fold own => own != kind
  | seq first second | alt first second => first.avoids kind && second.avoids kind
  | star rule | frame rule | role _ rule => rule.avoids kind
  | _ => true

theorem Rule.avoids_error (rule : Rule) : rule.avoids .error = rule.faultless := by
  induction rule <;> simp_all [avoids, faultless]

end Prologue.Grammar

namespace Prologue.Node

theorem hasAny_eq (kind : Kind) (nodes : List Node) : hasAny kind nodes = nodes.any (has kind) := by
  induction nodes with
  | nil => rfl
  | cons node rest ih => rw [hasAny, ih, List.any_cons]

theorem has_eq (kind : Kind) (node : Node) :
    node.has kind = (decide (node.kind = kind) || node.children.any (has kind)) := by
  obtain ⟨own, role, start, stop, children⟩ := node
  rw [has, hasAny_eq]
  rfl

theorem has_withRole (kind : Kind) (part : Role) (node : Node) :
    (node.withRole part).has kind = node.has kind := by
  cases node
  rfl

end Prologue.Node

namespace Prologue.Grammar

/-- No node of the frame holds one of the given kind. -/
def State.Lacks (kind : Kind) (state : State) : Prop := ∀ node ∈ state.nodes, node.has kind = false

theorem State.Lacks.closed {kind : Kind} {outer inner : State} (houter : outer.Lacks kind)
    (hinner : inner.Lacks kind) : (outer.closed inner).Lacks kind := by
  intro node hmem
  rcases List.mem_append.1 hmem with h | h
  · exact hinner node h
  · exact houter node h

theorem State.lacks_opened (kind : Kind) (state : State) : state.opened.Lacks kind := by
  intro node hmem
  cases hmem

theorem Derives.lacks {dialect : Dialect} {kind : Kind}
    (hrules : ∀ goal, (rules dialect goal).avoids kind = true) {rule : Rule} {state next : State}
    (h : Derives dialect rule state next) (hrule : rule.avoids kind = true)
    (hstate : state.Lacks kind) : next.Lacks kind := by
  have htake : ∀ {a b : State} {t : Token}, a.take t = some b → a.Lacks kind → b.Lacks kind := by
    intro a b t htake ha
    obtain ⟨width, _, rfl⟩ := Option.map_eq_some_iff.1 htake
    exact ha
  induction h with
  | look => exact hstate
  | token h => exact htake h hstate
  | @leaf own t state next h =>
    intro node hmem
    rcases List.mem_cons.1 hmem with rfl | hold
    · have hkind : own ≠ kind := by simpa [Rule.avoids] using hrule
      rw [Node.has_eq, Bool.or_eq_false_iff]
      exact ⟨decide_eq_false hkind, rfl⟩
    · exact htake h hstate node hold
  | glued h => exact htake h hstate
  | seq _ _ ihFirst ihSecond =>
    simp only [Rule.avoids, Bool.and_eq_true] at hrule
    exact ihSecond hrule.2 (ihFirst hrule.1 hstate)
  | left _ ih =>
    simp only [Rule.avoids, Bool.and_eq_true] at hrule
    exact ih hrule.1 hstate
  | right _ ih =>
    simp only [Rule.avoids, Bool.and_eq_true] at hrule
    exact ih hrule.2 hstate
  | finish => exact hstate
  | again _ _ ihRound ihRest => exact ihRest hrule (ihRound hrule hstate)
  | @frame rule outer inner _ ih => exact hstate.closed (ih hrule (outer.lacks_opened kind))
  | @fold own state =>
    intro node hmem
    obtain rfl := List.mem_singleton.1 hmem
    have hkind : own ≠ kind := by simpa [Rule.avoids] using hrule
    rw [Node.has_eq, Bool.or_eq_false_iff, List.any_eq_false]
    refine ⟨decide_eq_false hkind, fun child hchild => ?_⟩
    rw [hstate child (List.mem_reverse.1 hchild)]
    decide
  | @role part rule outer inner _ ih =>
    apply hstate.closed
    intro node hmem
    obtain ⟨plain, hplain, rfl⟩ := List.mem_map.1 hmem
    rw [Node.has_withRole]
    exact ih hrule (outer.lacks_opened kind) plain hplain
  | implied => exact hstate
  | written h => exact htake h hstate
  | settled => exact hstate
  | unsettled => exact hstate
  | @htmlComments state =>
    intro node hmem
    rw [State.nodes_skipHtml] at hmem
    exact hstate node hmem
  | @goal g outer inner _ ih => exact hstate.closed (ih (hrules g) (outer.lacks_opened kind))

/-- No node of the frame holds an error. -/
def State.Faultless (state : State) : Prop := ∀ node ∈ state.nodes, node.has .error = false

theorem rules_faultless (dialect : Dialect) (goal : Goal) :
    (rules dialect goal).faultless = true := by
  cases dialect <;> cases goal <;> first | decide | (rename_i mode; cases mode <;> decide)

theorem Derives.faultless {dialect : Dialect} {rule : Rule} {state next : State}
    (h : Derives dialect rule state next) (hrule : rule.faultless = true)
    (hstate : state.Faultless) : next.Faultless :=
  h.lacks (fun goal => (Rule.avoids_error _).trans (rules_faultless dialect goal))
    ((Rule.avoids_error rule).trans hrule) hstate

end Prologue.Grammar
