import Prologue.Proofs.Laying
import Prologue.Proofs.Outline

/-!
# Every source that is read is well laid

The comments that were passed are woven into the nodes that were read. No comment reaches across a place
where a node begins or ends, so each of them falls between two siblings or into one of them, and the
children of every node stay in order.
-/

namespace Prologue

/-- Some of the notes, one behind the other between two offsets. -/
structure Strewn (notes : List Node) (low high : Nat) (some : List Node) : Prop where
  among : ∀ note ∈ some, note ∈ notes ∧ note.IsComment
  within : ∀ note ∈ some, low ≤ note.start ∧ note.start ≤ note.stop ∧ note.stop ≤ high
  ordered : some.Pairwise fun a b => a.stop ≤ b.start

/-- An offset that no note reaches across parts the notes. -/
theorem Strewn.split {notes some : List Node} {low high offset : Nat}
    (h : Strewn notes low high some) (huncut : Uncut notes offset) :
    Strewn notes low offset (some.takeWhile (·.start < offset)) ∧
      Strewn notes offset high (some.dropWhile (·.start < offset)) := by
  have htake := List.takeWhile_sublist (fun note : Node => note.start < offset) (l := some)
  have hdrop := List.dropWhile_sublist (fun note : Node => note.start < offset) (l := some)
  refine ⟨⟨fun note hmem => h.among note (htake.subset hmem), fun note hmem => ?_,
    h.ordered.sublist htake⟩, ⟨fun note hmem => h.among note (hdrop.subset hmem), fun note hmem => ?_,
    h.ordered.sublist hdrop⟩⟩
  · have hbefore : note.start < offset := by
      simpa using List.all_eq_true.1 (List.all_takeWhile (l := some)) note hmem
    obtain ⟨hlow, hbounds, _⟩ := h.within note (htake.subset hmem)
    refine ⟨hlow, hbounds, ?_⟩
    rcases huncut note (h.among note (htake.subset hmem)).1 with hstop | hstart
    · exact hstop
    · omega
  · obtain ⟨_, hbounds, hhigh⟩ := h.within note (hdrop.subset hmem)
    refine ⟨?_, hbounds, hhigh⟩
    -- The first note that is left starts behind the offset, and the others behind that one.
    cases hleft : some.dropWhile (·.start < offset) with
    | nil => rw [hleft] at hmem; cases hmem
    | cons first rest =>
      have hfirst : offset ≤ first.start := by
        have := List.head?_dropWhile_not (fun note : Node => note.start < offset) some
        rw [hleft] at this
        simpa using this
      have hordered := h.ordered.sublist hdrop
      rw [hleft, List.pairwise_cons] at hordered
      have hbounds' := h.within first (hdrop.subset (hleft ▸ List.mem_cons_self))
      rw [hleft] at hmem
      rcases List.mem_cons.1 hmem with rfl | hmem
      · exact hfirst
      · have := hordered.1 note hmem
        omega

namespace Node

variable {text : Bytes} {notes : List Node}

/-- The children are in order, and a bare string is compact. -/
def Tidy (text : Bytes) (node : Node) : Prop :=
  node.Orderly ∧ ((node.literal? text).isSome = true → node.Compact text)

theorem everywhere_tidy_of_isComment {note : Node} (h : note.IsComment)
    (hbounds : note.start ≤ note.stop) : note.Everywhere (Tidy text) := by
  refine (everywhere_iff _ _).2 ⟨⟨⟨hbounds, ?_, ?_⟩, ?_⟩, ?_⟩
  · simp [h.2]
  · simp [h.2]
  · rcases h.1 with hkind | hkind <;> simp [literal?, hkind]
  · simp [h.2]

/-- Notes are put between and into siblings, and all of them stay in order. -/
theorem weaveAll_tidy {nodes some : List Node}
    {low high : Nat} (hle : low ≤ high) (hsome : Strewn notes low high some)
    (hnodes : ∀ node ∈ nodes, node.Placed text notes ∧ low ≤ node.start ∧ node.stop ≤ high ∧
      ∀ inside, Strewn notes node.start node.stop inside →
        (node.weave inside).Everywhere (Tidy text))
    (hordered : nodes.Pairwise fun a b => a.stop ≤ b.start) :
    (∀ node ∈ weaveAll some nodes, low ≤ node.start ∧ node.stop ≤ high ∧
        node.Everywhere (Tidy text)) ∧
      (weaveAll some nodes).Pairwise fun a b => a.stop ≤ b.start := by
  induction nodes generalizing some low with
  | nil =>
    refine ⟨fun note hmem => ?_, hsome.ordered⟩
    obtain ⟨hlow, hbounds, hhigh⟩ := hsome.within note hmem
    exact ⟨hlow, hhigh, everywhere_tidy_of_isComment (hsome.among note hmem).2 hbounds⟩
  | cons node rest ih =>
    rw [List.forall_mem_cons] at hnodes
    rw [List.pairwise_cons] at hordered
    obtain ⟨⟨hplaced, hlow, hhigh, hnode⟩, hrest⟩ := hnodes
    obtain ⟨hbefore, hlater⟩ := hsome.split hplaced.start
    obtain ⟨hinside, hbehind⟩ := hlater.split hplaced.stop
    have hbounds := hplaced.orderly.bounds
    obtain ⟨hall, hpairs⟩ := ih hhigh hbehind (fun other hmem =>
      ⟨(hrest other hmem).1, hordered.1 other hmem, (hrest other hmem).2.2⟩) hordered.2
    rw [weaveAll]
    refine ⟨fun item hmem => ?_, List.pairwise_append.2 ⟨hbefore.ordered,
      List.pairwise_cons.2 ⟨fun item hmem => ?_, hpairs⟩, fun note hmem item hitem => ?_⟩⟩
    · rcases List.mem_append.1 hmem with hmem | hmem
      · obtain ⟨hstart, hwidth, hstop⟩ := hbefore.within item hmem
        exact ⟨hstart, by omega, everywhere_tidy_of_isComment (hbefore.among item hmem).2 hwidth⟩
      rcases List.mem_cons.1 hmem with rfl | hmem
      · rw [start_weave, stop_weave]
        exact ⟨hlow, hhigh, hnode _ hinside⟩
      · obtain ⟨hstart, hstop, hitem⟩ := hall item hmem
        exact ⟨by omega, hstop, hitem⟩
    · rw [stop_weave]
      exact (hall item hmem).1
    · have hstop := (hbefore.within note hmem).2.2
      rcases List.mem_cons.1 hitem with rfl | hitem
      · rw [start_weave]
        exact hstop
      · have := (hall item hitem).1
        omega

/-- If comments are all that stands beside one node, then it is the only one that they were woven
with. -/
theorem weaveAll_of_filter_eq {nodes some : List Node} {only : Node} (hne : nodes ≠ [])
    (hkinds : ∀ node ∈ nodes, node.kind ≠ .comment)
    (h : (weaveAll some nodes).filter (·.kind != .comment) = [only]) :
    ∃ child before inside behind, nodes = [child] ∧ only = child.weave inside ∧
      weaveAll some nodes = before ++ child.weave inside :: behind ∧
      ∀ note ∈ before ++ (inside ++ behind), note ∈ some := by
  have hkept : ∀ (child : Node) (inside rest : List Node), child.kind ≠ .comment →
      (child.weave inside :: rest).filter (·.kind != .comment) =
        child.weave inside :: rest.filter (·.kind != .comment) := by
    intro child inside rest hkind
    simp [hkind]
  cases nodes with
  | nil => exact absurd rfl hne
  | cons child rest =>
    rw [List.forall_mem_cons] at hkinds
    rw [weaveAll, List.filter_append, hkept _ _ _ hkinds.1] at h
    obtain ⟨_, hcons⟩ | ⟨_, hnil⟩ := List.append_eq_singleton_iff.1 h
    · obtain ⟨rfl, hnone⟩ := List.cons.inj hcons
      cases rest with
      | nil =>
        refine ⟨child, _, _, _, rfl, rfl, rfl, fun note hmem => ?_⟩
        rwa [weaveAll, List.takeWhile_append_dropWhile, List.takeWhile_append_dropWhile] at hmem
      | cons other more =>
        rw [weaveAll, List.filter_append, List.append_eq_nil_iff,
          hkept _ _ _ (hkinds.2 other List.mem_cons_self)] at hnone
        cases hnone.2
    · cases hnil

/-- A bare string with its comments is compact. -/
theorem Placed.compact_weave {node : Node} (h : node.Placed text notes)
    (hchildren : ∀ child ∈ node.children, child.Placed text notes) {some : List Node}
    (hsome : Strewn notes node.start node.stop some)
    (hliteral : ((node.weave some).literal? text).isSome = true) :
    (node.weave some).Compact text := by
  unfold literal? at hliteral
  rw [kind_weave, children_weave] at hliteral
  split at hliteral
  next hkind =>
    split at hliteral
    next only honly =>
      split at hliteral
      next hstring =>
        obtain ⟨hsolid, leading, last, hcons, hend⟩ := h.statement hkind
        obtain ⟨child, before, inside, behind, hnodes, rfl, hwoven, hamong⟩ :=
          weaveAll_of_filter_eq (by simp [hcons]) (fun child hmem => (hchildren child hmem).kind)
            honly
        have hmem : child ∈ node.children := by simp [hnodes]
        rw [kind_weave] at hstring
        obtain ⟨hleaf, hproper, hquote⟩ := (hchildren child hmem).string hstring
        obtain ⟨hfirst, hlast⟩ := h.orderly.inside child hmem
        have hlength := Bytes.lt_length_of_isSolid hquote
        have hcomments : ∀ note ∈ before ++ (inside ++ behind), note.Everywhere fun inner =>
            inner.kind.isFunction = false ∧ inner.kind ≠ .arrowFunction := by
          intro note hnote
          obtain ⟨hcomment, hnone⟩ := (hsome.among note (hamong note hnote)).2
          rw [everywhere_iff, hnone]
          refine ⟨?_, by simp⟩
          rcases hcomment with hcomment | hcomment <;> rw [hcomment] <;> decide
        refine ⟨by rw [start_weave, stop_weave]; omega, ?_, ?_, ?_⟩
        · rw [start_weave]
          exact hsolid (by omega)
        · rw [start_weave, stop_weave]
          obtain rfl : last = child := by
            rw [hnodes] at hcons
            have := congrArg List.getLast? hcons
            simpa using this.symm
          rcases hend with hend | hend
          · rw [hend]
            exact (Bytes.endsSolid_of_isSolid hproper hquote).mono hfirst
          · exact hend.mono (by omega)
        · rw [everywhere_iff, kind_weave, children_weave, hwoven, hkind]
          refine ⟨by decide, fun inner hinner => ?_⟩
          rcases List.mem_append.1 hinner with hinner | hinner
          · exact hcomments inner (List.mem_append_left _ hinner)
          rcases List.mem_cons.1 hinner with rfl | hinner
          · rw [everywhere_iff, kind_weave, children_weave, hleaf, hstring, weaveAll]
            exact ⟨by decide, fun note hnote => hcomments note
              (List.mem_append_right _ (List.mem_append_left _ hnote))⟩
          · exact hcomments inner (List.mem_append_right _ (List.mem_append_right _ hinner))
      · cases hliteral
    · cases hliteral
  · cases hliteral

/-- Weaving leaves children in order, and bare strings compact. -/
theorem everywhere_weave {node : Node} (h : node.Everywhere (Placed text notes)) {some : List Node}
    (hsome : Strewn notes node.start node.stop some) :
    (node.weave some).Everywhere (Tidy text) := by
  induction node using Node.children_induction generalizing some with
  | step node ih =>
    obtain ⟨hplaced, hchildren⟩ := (everywhere_iff _ _).1 h
    have hbelow : ∀ child ∈ node.children, child.Placed text notes :=
      fun child hmem => ((everywhere_iff _ _).1 (hchildren child hmem)).1
    obtain ⟨hall, hpairs⟩ := weaveAll_tidy hplaced.orderly.bounds hsome
      (fun child hmem => ⟨hbelow child hmem, (hplaced.orderly.inside child hmem).1,
        (hplaced.orderly.inside child hmem).2,
        fun inside hinside => ih child hmem (hchildren child hmem) hinside⟩)
      hplaced.orderly.ordered
    rw [everywhere_iff, children_weave]
    refine ⟨⟨⟨?_, fun child hmem => ?_, ?_⟩, hplaced.compact_weave hbelow hsome⟩,
      fun child hmem => (hall child hmem).2.2⟩
    · rw [start_weave, stop_weave]
      exact hplaced.orderly.bounds
    · rw [start_weave, stop_weave]
      rw [children_weave] at hmem
      exact ⟨(hall child hmem).1, (hall child hmem).2.1⟩
    · rw [children_weave]
      exact hpairs

end Node

/-- Every source that is read is well laid. -/
theorem Source.read_wellLaid (dialect : Dialect) (bytes : Bytes) :
    (Source.read dialect bytes).WellLaid := by
  have hlaid := Grammar.laid_whole dialect bytes
  generalize hfinal : Grammar.readStatements dialect (bytes.length + 1) (.opening bytes) = final
    at hlaid
  have hwithin := hlaid.sound.within
  have hstop : ∀ note ∈ final.cursor.notes, note.stop ≤ bytes.length := fun note hmem =>
    Nat.le_trans (hlaid.sound.notes note hmem).2.1 hwithin
  have hroot : (Node.mk .program .plain 0 bytes.length final.nodes.reverse).Everywhere
      (Node.Placed bytes final.cursor.notes) := by
    refine (Node.everywhere_iff _ _).2 ⟨⟨⟨Nat.zero_le _, fun child hmem => ⟨Nat.zero_le _, ?_⟩,
      List.pairwise_reverse.2 hlaid.ordered⟩, fun _ _ => .inr (Nat.zero_le _),
      fun note hmem => .inl (hstop note hmem), nofun, nofun, nofun⟩, fun child hmem => ?_⟩
    · exact Nat.le_trans (hlaid.nodes child (List.mem_reverse.1 hmem)).2.2 hwithin
    · exact (hlaid.nodes child (List.mem_reverse.1 hmem)).1
  have hnotes : Strewn final.cursor.notes 0 bytes.length final.cursor.notes.reverse := by
    refine ⟨fun note hmem => ?_, fun note hmem => ?_, List.pairwise_reverse.2 hlaid.sound.ordered⟩ <;>
      rw [List.mem_reverse] at hmem
    · exact ⟨hmem, (hlaid.sound.notes note hmem).2.2⟩
    · exact ⟨Nat.zero_le _, (hlaid.sound.notes note hmem).1, hstop note hmem⟩
  have htree : (Source.read dialect bytes).tree =
      (Node.mk .program .plain 0 bytes.length final.nodes.reverse).weave
        final.cursor.notes.reverse := by
    rw [← hfinal]
    rfl
  have hall := Node.everywhere_weave hroot hnotes
  rw [← htree] at hall
  refine ⟨?_, fun entry hmem => (hall entry hmem).1, fun entry hmem => (hall entry hmem).2⟩
  rw [htree, Node.stop_weave]
  exact Nat.le_refl _

end Prologue
