import Prologue.Grammar.Parse

/-!
# Derivations

A reading that succeeds leaves a derivation, which says of every rule in which state it was read and in
which state it ended. Neither the fuel nor the alternatives that failed show in it, and a goal is the
rule that the grammar assigns to it. What holds of all readings is proved by induction over derivations,
and what holds of all tokens by a look at the ways in which a token can take bytes.
-/

namespace Prologue.Grammar

/-! ## Tokens -/

/-- A token takes so many bytes at the front of a text. -/
inductive Token.Takes (bytes : Bytes) : Token → Nat → Prop
  | text {spelling : String} {longer : List String} (hstarts : startsWith spelling bytes = true)
      (hlonger : longer.any (startsWith · bytes) = false) :
      Takes bytes (.text spelling longer) (utf8 spelling).length
  | word {spelling : String} (hname : nameLength bytes ≠ 0)
      (hspelling : bytes.take (nameLength bytes) = utf8 spelling) :
      Takes bytes (.word spelling) (nameLength bytes)
  | name {reserved : List String} (hname : nameLength bytes ≠ 0)
      (hfree : reserved.any (fun word => utf8 word == bytes.take (nameLength bytes)) = false) :
      Takes bytes (.name reserved) (nameLength bytes)
  | privateName {rest : Bytes} (hbytes : bytes = 35 :: rest) (hname : nameLength rest ≠ 0) :
      Takes bytes .privateName (nameLength rest + 1)
  | radix (hradix : radixLength bytes ≠ 0) :
      Takes bytes .number (bigMark bytes (radixLength bytes))
  | decimal (hradix : radixLength bytes = 0) (hdecimal : decimalLength bytes ≠ 0) :
      Takes bytes .number (decimalLength bytes)
  | string {width : Nat} (h : stringLength bytes = some width) : Takes bytes .string width
  | regex {width : Nat} (h : regexLength bytes = some width) : Takes bytes .regex width
  | templateText {width : Nat} (h : templateRun 0 bytes = some width) (hpos : 0 < width) :
      Takes bytes .templateText width
  | markupText (hpos : 0 < markupTextLength bytes) :
      Takes bytes .markupText (markupTextLength bytes)
  | reference {width : Nat} (h : referenceLength bytes = some width) : Takes bytes .reference width
  | markupName (hname : nameLength bytes ≠ 0) : Takes bytes .markupName (markupNameRun bytes)
  | markupString {width : Nat} (h : markupStringLength bytes = some width) :
      Takes bytes .markupString width
  | hashBang (hstarts : startsWith "#!" bytes = true) :
      Takes bytes .hashBang (bytes.takeWhile (· != lineFeed)).length

theorem Token.takes_of_length {token : Token} {bytes : Bytes} {width : Nat}
    (h : token.length bytes = some width) : token.Takes bytes width := by
  cases token with
  | text spelling longer =>
    rw [length, Option.ite_none_right_eq_some, Bool.and_eq_true, Bool.not_eq_true'] at h
    obtain ⟨⟨hstarts, hlonger⟩, hwidth⟩ := h
    obtain rfl := Option.some.inj hwidth
    exact .text hstarts hlonger
  | word spelling =>
    simp only [length, wordLength, Option.ite_none_right_eq_some, Bool.and_eq_true, bne_iff_ne,
      beq_iff_eq] at h
    obtain ⟨⟨hname, hspelling⟩, hwidth⟩ := h
    obtain rfl := Option.some.inj hwidth
    exact .word hname hspelling
  | name reserved =>
    simp only [length] at h
    split at h
    · cases h
    next hname =>
      rw [Option.ite_none_left_eq_some, Bool.not_eq_true] at h
      obtain rfl := Option.some.inj h.2
      exact .name hname h.1
  | privateName =>
    simp only [length] at h
    split at h
    · split at h
      · cases h
      next hname =>
        obtain rfl := Option.some.inj h
        exact .privateName rfl hname
    · cases h
  | number =>
    simp only [length, numberLength] at h
    split at h
    next hradix =>
      split at h
      · cases h
      next hdecimal =>
        obtain rfl := Option.some.inj h
        exact .decimal hradix hdecimal
    next hradix =>
      obtain rfl := Option.some.inj h
      exact .radix hradix
  | string => exact .string h
  | regex => exact .regex h
  | templateText =>
    simp only [length] at h
    split at h
    next hrun =>
      obtain rfl := Option.some.inj h
      exact .templateText hrun (Nat.succ_pos _)
    · cases h
  | markupText =>
    simp only [length] at h
    split at h
    · cases h
    next hrun =>
      obtain rfl := Option.some.inj h
      exact .markupText (Nat.pos_of_ne_zero hrun)
  | reference => exact .reference h
  | markupName =>
    simp only [length] at h
    split at h
    · cases h
    next hname =>
      obtain rfl := Option.some.inj h
      exact .markupName hname
  | markupString => exact .markupString h
  | hashBang =>
    rw [length, Option.ite_none_right_eq_some] at h
    obtain rfl := Option.some.inj h.2
    exact .hashBang h.1

/-! ## Rules -/

/-- Rules that look at what comes next or what was read last, and leave all as it is. -/
def Rule.looks : Rule → Bool
  | done | ahead _ | absent _ | lastIs _ | lastHas _ | unbroken _ => true
  | _ => false

/-- A rule was read, from the first state to the second. -/
inductive Derives (dialect : Dialect) : Rule → State → State → Prop
  | look {rule : Rule} {state : State} (h : rule.looks = true) : Derives dialect rule state state
  | token {t : Token} {state next : State} (h : state.skip.take t = some next) :
      Derives dialect (.token t) state next
  | leaf {kind : Kind} {t : Token} {state next : State} (h : state.skip.take t = some next) :
      Derives dialect (.leaf kind t) state
        { next with
          nodes := .mk kind .plain state.skip.cursor.offset next.cursor.offset [] :: next.nodes }
  | glued {t : Token} {state next : State} (h : state.take t = some next) :
      Derives dialect (.glued t) state next
  | seq {first second : Rule} {a b c : State} (hfirst : Derives dialect first a b)
      (hsecond : Derives dialect second b c) : Derives dialect (.seq first second) a c
  | left {first second : Rule} {a b : State} (h : Derives dialect first a b) :
      Derives dialect (.alt first second) a b
  | right {first second : Rule} {a b : State} (h : Derives dialect second a b) :
      Derives dialect (.alt first second) a b
  | finish {rule : Rule} {state : State} : Derives dialect (.star rule) state state
  | again {rule : Rule} {a b c : State} (hround : Derives dialect rule a b)
      (hrest : Derives dialect (.star rule) b c) : Derives dialect (.star rule) a c
  | frame {rule : Rule} {outer inner : State} (h : Derives dialect rule outer.opened inner) :
      Derives dialect (.frame rule) outer (outer.closed inner)
  | fold {kind : Kind} {state : State} : Derives dialect (.fold kind) state (state.fold kind)
  | role {part : Role} {rule : Rule} {outer inner : State}
      (h : Derives dialect rule outer.opened inner) :
      Derives dialect (.role part rule) outer
        (outer.closed { inner with nodes := inner.nodes.map (Node.withRole part) })
  | implied {context : Context} {state : State} {cursor : Cursor}
      (h : state.cursor.implied? dialect context = some cursor) :
      Derives dialect (.semicolon context) state { state with cursor := cursor }
  | written {context : Context} {state next : State}
      (h : state.skip.take (.text ";" []) = some next) :
      Derives dialect (.semicolon context) state next
  | settled {state : State} {cursor : Cursor}
      (h : state.cursor.implied? dialect .other = some cursor) :
      Derives dialect .settled state { state with cursor := cursor }
  | unsettled {state : State} : Derives dialect .settled state state
  | htmlComments {state : State} : Derives dialect .htmlComments state state.skipHtml
  | goal {g : Goal} {outer inner : State} (h : Derives dialect (rules dialect g) outer.opened inner) :
      Derives dialect (.goal g) outer (outer.closed inner)

section

variable {dialect : Dialect}

theorem derives_rounds {rule : Rule} {step : State → Option State}
    (hstep : ∀ {a b}, step a = some b → Derives dialect rule a b) (bound : Nat) (state : State) :
    Derives dialect (.star rule) state (State.rounds step bound state) := by
  induction bound generalizing state with
  | zero => exact .finish
  | succ bound ih =>
    rw [State.rounds]
    cases h : step state with
    | none => exact .finish
    | some next =>
      simp only
      split
      · exact .finish
      · exact .again (hstep h) (ih next)

/-- A rule that only looks ends where it began. -/
theorem derives_of_ite {rule : Rule} (hlooks : rule.looks = true) {c : Prop} [Decidable c]
    {a b : State} (h : (if c then some a else none) = some b) : Derives dialect rule a b := by
  split at h
  · obtain rfl := Option.some.inj h
    exact .look hlooks
  · cases h

theorem Rule.derives_of_read {reach : Goal → State → Option State}
    (hreach : ∀ {goal a b}, reach goal a = some b → Derives dialect (.goal goal) a b) {rule : Rule}
    {state next : State} (h : rule.read dialect reach state = some next) :
    Derives dialect rule state next := by
  induction rule generalizing state next with
  | done => obtain rfl := Option.some.inj h; exact .look rfl
  | never => cases h
  | token t => exact .token h
  | leaf kind t =>
    obtain ⟨after, htake, rfl⟩ := Option.map_eq_some_iff.1 h
    exact .leaf htake
  | glued t => exact .glued h
  | seq first second ihFirst ihSecond =>
    simp only [read] at h
    split at h
    · cases h
    next hfirst => exact .seq (ihFirst hfirst) (ihSecond h)
  | alt first second ihFirst ihSecond =>
    simp only [read] at h
    split at h
    · exact .right (ihSecond h)
    next hfirst => obtain rfl := Option.some.inj h; exact .left (ihFirst hfirst)
  | star rule ih =>
    obtain rfl := Option.some.inj h
    exact derives_rounds ih _ _
  | ahead rule _ => exact derives_of_ite rfl h
  | absent rule _ =>
    simp only [read] at h
    split at h
    · cases h
    · obtain rfl := Option.some.inj h; exact .look rfl
  | frame rule ih =>
    obtain ⟨inner, hinner, rfl⟩ := Option.map_eq_some_iff.1 h
    exact .frame (ih hinner)
  | fold kind => obtain rfl := Option.some.inj h; exact .fold
  | role part rule ih =>
    obtain ⟨inner, hinner, rfl⟩ := Option.map_eq_some_iff.1 h
    exact .role (ih hinner)
  | lastIs kinds =>
    simp only [read] at h
    split at h
    · exact derives_of_ite rfl h
    · cases h
  | lastHas part =>
    simp only [read] at h
    split at h
    · exact derives_of_ite rfl h
    · cases h
  | unbroken context =>
    simp only [read] at h
    split at h
    · cases h
    · obtain rfl := Option.some.inj h; exact .look rfl
  | semicolon context =>
    simp only [read, State.semicolon] at h
    split at h
    next himplied => obtain rfl := Option.some.inj h; exact .implied himplied
    · exact .written h
  | settled =>
    simp only [read] at h
    split at h
    next himplied => obtain rfl := Option.some.inj h; exact .settled himplied
    · obtain rfl := Option.some.inj h; exact .unsettled
  | htmlComments => obtain rfl := Option.some.inj h; exact .htmlComments
  | goal g => exact hreach h

theorem derives_of_reach {fuel : Nat} {goal : Goal} {state next : State}
    (h : reach dialect fuel goal state = some next) : Derives dialect (.goal goal) state next := by
  induction fuel generalizing goal state next with
  | zero => cases h
  | succ fuel ih =>
    obtain ⟨inner, hinner, rfl⟩ := Option.map_eq_some_iff.1 h
    exact .goal (Rule.derives_of_read ih hinner)

end

end Prologue.Grammar
