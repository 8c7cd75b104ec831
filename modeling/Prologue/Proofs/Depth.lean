import Prologue.Proofs.Openings

/-!
# How deep goals nest

A goal that is read inside another one without a byte in between has a lower rank, and this can be
computed from the rules. As there are few ranks, goals nest at most a constant times as deep as there
are bytes left. So the fuel that is granted for a statement is never the reason of a failure, and more
of it changes nothing. Neither do more rounds of a step change anything once there are as many of them
as the step can make.
-/

namespace Prologue.Grammar

/-- Goals of a higher rank may begin with those of a lower one. -/
def Goal.rank : Goal → Nat
  | .statement => 4
  | .expressions _ => 3
  | .expression _ => 2
  | .operand _ | .type _ => 1
  | _ => 0

/-- Whether all goals that a rule may begin with have a rank below the bound. -/
def Rule.nests (bound : Nat) : Rule → Bool
  | goal g => g.rank < bound
  | seq first second => first.nests bound && (first.opens true || second.nests bound)
  | alt first second => first.nests bound && second.nests bound
  | star rule | ahead rule | absent rule | frame rule | role _ rule => rule.nests bound
  | _ => true

theorem rules_nests (dialect : Dialect) (goal : Goal) :
    (rules dialect goal).nests goal.rank = true := by
  cases dialect <;> cases goal <;> first | decide | (rename_i mode; cases mode <;> decide)

theorem Goal.rank_le (goal : Goal) : goal.rank ≤ 4 := by
  cases goal <;> simp [rank]

/-! ## Bytes that are left -/

/-- The cursor knows how many bytes follow. -/
def Cursor.Counts (cursor : Cursor) : Prop := cursor.left = cursor.rest.length

theorem Cursor.Passes.counts {a b : Cursor} (h : a.Passes b) (ha : a.Counts) :
    b.Counts ∧ b.left ≤ a.left := by
  obtain ⟨width, notes, rfl, -⟩ := h
  refine ⟨?_, Nat.sub_le _ _⟩
  rw [Counts, List.length_drop, ← ha]

/-- A reading that begins with a token leaves fewer bytes. -/
theorem State.Opens.left_lt {a b : State} (h : a.Opens b) (hleads : a.Leads b)
    (ha : a.cursor.Counts) : b.cursor.left < a.cursor.left := by
  obtain ⟨width, notes, hpasses, -⟩ := hleads.passes
  have hskip := (Cursor.passes_skip a.cursor).offset_le
  have hmoves := h.moves
  have hsome : a.cursor.left ≠ 0 := by
    -- No token stands at the front of nothing.
    intro hnone
    rw [ha, List.length_eq_zero_iff] at hnone
    obtain ⟨token, hopens, hlength⟩ := h.token
    obtain ⟨skipped, passed, hskipped, -⟩ := Cursor.passes_skip a.cursor
    rw [hskipped, hnone, List.drop_nil, Token.length_nil hopens] at hlength
    cases hlength
  rw [hpasses] at hmoves ⊢
  simp only at hmoves ⊢
  omega

/-- Fewer bytes than the bound are left, or as many as it and something is true besides. -/
structure State.Below (left : Nat) (fits : Prop) (state : State) : Prop where
  counts : state.cursor.Counts
  left : state.cursor.left < left ∨ state.cursor.left = left ∧ fits

namespace State.Below

variable {left : Nat} {fits fits' : Prop} {state next : State}

theorem imp (h : state.Below left fits) (hfits : fits → fits') : state.Below left fits' :=
  ⟨h.counts, h.left.imp_right (And.imp_right hfits)⟩

theorem leads (h : state.Below left fits) (hleads : state.Leads next) : next.Below left fits := by
  obtain ⟨hcounts, hle⟩ := hleads.passes.counts h.counts
  refine ⟨hcounts, ?_⟩
  rcases h.left with hlt | ⟨heq, hfits⟩
  · exact .inl (by omega)
  · rcases Nat.lt_or_eq_of_le hle with hlt | hsame
    · exact .inl (by omega)
    · exact .inr ⟨hsame.trans heq, hfits⟩

theorem opened (h : state.Below left fits) : state.opened.Below left fits := ⟨h.counts, h.left⟩

/-- Behind a token the bound is met strictly. -/
theorem opens (h : state.Below left fits) (hopens : state.Opens next) (hleads : state.Leads next) :
    next.Below left fits' := by
  have hlt := hopens.left_lt hleads h.counts
  refine ⟨(hleads.passes.counts h.counts).1, .inl ?_⟩
  rcases h.left with hleft | ⟨hleft, -⟩ <;> omega

end State.Below

/-! ## Readings that agree -/

theorem State.rounds_congr {first second : State → Option State} {P : State → Prop}
    (hsame : ∀ state, P state → first state = second state)
    (hkept : ∀ {state next}, P state → first state = some next → P next) (bound : Nat)
    {state : State} (h : P state) : rounds first bound state = rounds second bound state := by
  induction bound generalizing state with
  | zero => rfl
  | succ bound ih =>
    rw [rounds, rounds, ← hsame state h]
    cases hnext : first state with
    | none => rfl
    | some next =>
      simp only
      split
      · rfl
      · exact ih (hkept h hnext)

section

variable {dialect : Dialect} {reach₁ reach₂ : Goal → State → Option State} {left bound : Nat}

/-- A rule is read alike if the goals that it may begin with are, and all goals behind a token. -/
theorem Rule.read_congr
    (hderives : ∀ {goal a b}, reach₁ goal a = some b → Derives dialect (.goal goal) a b)
    (hsame : ∀ goal state, state.Below left (goal.rank < bound) →
      reach₁ goal state = reach₂ goal state) {rule : Rule} {state : State}
    (h : state.Below left (rule.nests bound = true)) :
    rule.read dialect reach₁ state = rule.read dialect reach₂ state := by
  induction rule generalizing state with
  | seq first second ihFirst ihSecond =>
    simp only [nests, Bool.and_eq_true, Bool.or_eq_true] at h
    rw [read, read, ← ihFirst (h.imp And.left)]
    cases hfirst : first.read dialect reach₁ state with
    | none => rfl
    | some next =>
      have hread := derives_of_read hderives hfirst
      by_cases hopens : first.opens true = true
      · exact ihSecond (h.opens (hread.begins hopens).opens hread.leads)
      · exact ihSecond ((h.leads hread.leads).imp fun hfits => hfits.2.resolve_left hopens)
  | alt first second ihFirst ihSecond =>
    simp only [nests, Bool.and_eq_true] at h
    rw [read, read, ← ihFirst (h.imp And.left)]
    cases first.read dialect reach₁ state with
    | none => exact ihSecond (h.imp And.right)
    | some next => rfl
  | star rule ih =>
    rw [read, read]
    congr 1
    refine State.rounds_congr (fun state h => ih h) (fun {state next} h hnext => ?_) _ h
    exact h.leads (derives_of_read hderives hnext).leads
  | ahead rule ih => rw [read, read, ih h]
  | absent rule ih => rw [read, read, ih h]
  | frame rule ih => rw [read, read, ih h.opened]
  | role part rule ih => rw [read, read, ih h.opened]
  | goal g => exact hsame g state (h.imp of_decide_eq_true)
  | done | never | token | leaf | glued | fold | lastIs | lastHas | unbroken | semicolon | settled
    | htmlComments => rfl

end

/-- Fuel beyond what the bytes that are left can use up changes nothing. -/
theorem reach_eq_of_lt (dialect : Dialect) {fuel fuel' : Nat} {goal : Goal} {state : State}
    (hcounts : state.cursor.Counts) (h : 16 * state.cursor.left + goal.rank < fuel)
    (h' : 16 * state.cursor.left + goal.rank < fuel') :
    reach dialect fuel goal state = reach dialect fuel' goal state := by
  induction fuel generalizing fuel' goal state with
  | zero => omega
  | succ fuel ih =>
    obtain ⟨fuel', rfl⟩ : ∃ n, fuel' = n + 1 := ⟨fuel' - 1, by omega⟩
    rw [reach, reach]
    congr 1
    refine Rule.read_congr derives_of_reach (fun g inner hinner => ?_)
      ⟨hcounts, .inr ⟨rfl, rules_nests dialect goal⟩⟩
    have hrank := g.rank_le
    rcases hinner.left with hlt | ⟨heq, hlower⟩
    · exact ih hinner.counts (by simp only [State.opened] at hlt; omega)
        (by simp only [State.opened] at hlt; omega)
    · exact ih hinner.counts (by simp only [State.opened] at heq; omega)
        (by simp only [State.opened] at heq; omega)

/-- The fuel for a statement is as good as any larger amount. -/
theorem readStatement_eq_reach (dialect : Dialect) {state : State} (hcounts : state.cursor.Counts)
    {fuel : Nat} (h : fuelFor state.cursor.left ≤ fuel) :
    readStatement dialect state = reach dialect fuel .statement state := by
  apply reach_eq_of_lt dialect hcounts
  · simp only [fuelFor, Goal.rank]
    omega
  · simp only [fuelFor, Goal.rank] at h ⊢
    omega

/-! ## Rounds -/

/-- Where no round moves, rounds change nothing. -/
theorem State.rounds_of_stuck {step : State → Option State} {state : State}
    (h : ∀ next, step state = some next → next.cursor.offset = state.cursor.offset) (bound : Nat) :
    rounds step bound state = state := by
  cases bound with
  | zero => rfl
  | succ bound =>
    rw [rounds]
    split
    · rfl
    next next hnext => rw [if_pos (h next hnext)]

/-- Rounds beyond what a measure allows change nothing, if each round that moves lowers it. -/
theorem State.rounds_eq_of_le {step : State → Option State} {P : State → Prop} {size : State → Nat}
    (hstep : ∀ {state next}, P state → step state = some next →
      next.cursor.offset ≠ state.cursor.offset → P next ∧ size next < size state)
    {bound bound' : Nat} {state : State} (hstate : P state) (h : size state ≤ bound)
    (h' : size state ≤ bound') : rounds step bound state = rounds step bound' state := by
  induction bound generalizing bound' state with
  | zero =>
    have hstuck : ∀ next, step state = some next → next.cursor.offset = state.cursor.offset := by
      intro next hnext
      by_contra hmoves
      have hsize := (hstep hstate hnext hmoves).2
      omega
    rw [rounds_of_stuck hstuck, rounds_of_stuck hstuck]
  | succ bound ih =>
    by_cases hstuck : ∀ next, step state = some next → next.cursor.offset = state.cursor.offset
    · rw [rounds_of_stuck hstuck, rounds_of_stuck hstuck]
    push Not at hstuck
    obtain ⟨next, hnext, hmoves⟩ := hstuck
    obtain ⟨hkept, hsize⟩ := hstep hstate hnext hmoves
    obtain ⟨bound', rfl⟩ : ∃ n, bound' = n + 1 := ⟨bound' - 1, by omega⟩
    rw [rounds, rounds, hnext]
    simp only [if_neg hmoves]
    exact ih hkept (by omega) (by omega)

end Prologue.Grammar
