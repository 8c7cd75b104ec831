import Prologue.Proofs.Depth
import Prologue.Proofs.Outline
import Prologue.Proofs.SemicolonScans

/-!
# Places without returns

Every place in a text is a place in the text without its returns, as many bytes from the beginning as
are left in front of it. A node, a cursor or a state goes over with all the places it holds, and what
one step of a reading does to it is done to its counterpart too.
-/

namespace Prologue

open Bytes (bare bareWidth isPaired)

namespace Node

mutual

/-- The same tree with other places. -/
def relocate (f : Nat → Nat) : Node → Node
  | mk kind role start stop children => mk kind role (f start) (f stop) (relocateAll f children)

def relocateAll (f : Nat → Nat) : List Node → List Node
  | [] => []
  | node :: rest => node.relocate f :: relocateAll f rest

end

variable (f : Nat → Nat) (node : Node)

theorem relocateAll_eq (nodes : List Node) : relocateAll f nodes = nodes.map (relocate f) := by
  induction nodes with
  | nil => rfl
  | cons node rest ih => rw [relocateAll, ih, List.map_cons]

@[simp] theorem kind_relocate : (node.relocate f).kind = node.kind := by
  cases node; rfl

@[simp] theorem role_relocate : (node.relocate f).role = node.role := by
  cases node; rfl

@[simp] theorem start_relocate : (node.relocate f).start = f node.start := by
  cases node; rfl

@[simp] theorem stop_relocate : (node.relocate f).stop = f node.stop := by
  cases node; rfl

@[simp] theorem children_relocate :
    (node.relocate f).children = node.children.map (relocate f) := by
  cases node; exact relocateAll_eq f _

theorem relocate_mk (kind : Kind) (role : Role) (start stop : Nat) (children : List Node) :
    (mk kind role start stop children).relocate f =
      mk kind role (f start) (f stop) (children.map (relocate f)) := by
  rw [relocate, relocateAll_eq]

theorem withRole_relocate (part : Role) :
    (node.relocate f).withRole part = (node.withRole part).relocate f := by
  cases node; rfl

theorem child?_relocate (part : Role) :
    (node.relocate f).child? part = (node.child? part).map (relocate f) := by
  have hsame : (fun child : Node => decide (child.role = part)) ∘ relocate f =
      fun child => decide (child.role = part) := by
    funext child
    simp
  rw [child?, child?, children_relocate, List.find?_map, hsame]

/-- Notes in front of a place stay in front of it. -/
theorem split_relocate {notes : List Node} {place : Nat}
    (hnotes : ∀ note ∈ notes, (f note.start < f place ↔ note.start < place)) :
    (notes.map (relocate f)).takeWhile (·.start < f place) =
        (notes.takeWhile (·.start < place)).map (relocate f) ∧
      (notes.map (relocate f)).dropWhile (·.start < f place) =
        (notes.dropWhile (·.start < place)).map (relocate f) := by
  induction notes with
  | nil => exact ⟨rfl, rfl⟩
  | cons note notes ih =>
    rw [List.forall_mem_cons] at hnotes
    obtain ⟨htake, hdrop⟩ := ih hnotes.2
    simp only [List.map_cons, List.takeWhile_cons, List.dropWhile_cons, start_relocate,
      decide_eq_true_eq, hnotes.1]
    split
    · exact ⟨congrArg _ htake, hdrop⟩
    · exact ⟨rfl, rfl⟩

/-- Weaving notes into a node whose places have changed, if the order of the notes and the nodes has
not. -/
theorem weave_relocate {notes : List Node}
    (hnotes : ∀ note ∈ notes, ∀ place, f note.start < f place ↔ note.start < place) (node : Node) :
    (node.relocate f).weave (notes.map (relocate f)) = (node.weave notes).relocate f := by
  induction node using Node.children_induction generalizing notes with
  | step node ih =>
    have hall : ∀ (nodes notes : List Node), (∀ child ∈ nodes, child ∈ node.children) →
        (∀ note ∈ notes, ∀ place, f note.start < f place ↔ note.start < place) →
        weaveAll (notes.map (relocate f)) (nodes.map (relocate f)) =
          (weaveAll notes nodes).map (relocate f) := by
      intro nodes
      induction nodes with
      | nil => exact fun notes _ _ => rfl
      | cons child rest ihrest =>
        intro notes hmem hnotes
        rw [List.forall_mem_cons] at hmem
        have hfront := split_relocate f fun note h => hnotes note h child.start
        have hlater : ∀ note ∈ notes.dropWhile (·.start < child.start), ∀ place,
            f note.start < f place ↔ note.start < place := fun note h =>
          hnotes note ((List.dropWhile_sublist _).subset h)
        have hback := split_relocate f fun note h => hlater note h child.stop
        rw [List.map_cons, weaveAll, weaveAll, start_relocate, stop_relocate, hfront.1, hfront.2,
          hback.1, hback.2, ih child hmem.1, ihrest _ hmem.2, List.map_append, List.map_cons]
        · exact fun note h => hlater note ((List.dropWhile_sublist _).subset h)
        · exact fun note h => hlater note ((List.takeWhile_sublist _).subset h)
    rw [weave_eq, weave_eq notes, relocate_mk, kind_relocate, role_relocate, start_relocate,
      stop_relocate, children_relocate, hall _ _ (fun child h => h) hnotes]

end Node

namespace Grammar

/-- The place of a cursor in the text without the returns. -/
def Cursor.bared (text : Bytes) (cursor : Cursor) : Cursor where
  rest := bare cursor.rest
  offset := text.bareWidth cursor.offset
  left := (bare cursor.rest).length
  notes := cursor.notes.map (Node.relocate text.bareWidth)

/-- The cursor stands in the text and knows how many bytes follow. -/
structure Cursor.Stands (text : Bytes) (cursor : Cursor) : Prop where
  rest : cursor.rest = text.drop cursor.offset
  counts : cursor.Counts

namespace Cursor

variable {text : Bytes} {cursor after : Cursor}

theorem Passes.stands (h : cursor.Passes after) (hstands : cursor.Stands text) :
    after.Stands text := by
  have hcounts := (h.counts hstands.counts).1
  obtain ⟨width, notes, rfl, -⟩ := h
  exact ⟨by rw [hstands.rest, List.drop_drop], hcounts⟩

theorem Stands.isPaired (h : cursor.Stands text) (htext : text.isPaired = true) :
    cursor.rest.isPaired = true := by
  rw [h.rest]
  exact Bytes.isPaired_drop htext _

theorem Stands.bareWidth_add (h : cursor.Stands text) (width : Nat) :
    text.bareWidth (cursor.offset + width) =
      text.bareWidth cursor.offset + bareWidth cursor.rest width := by
  rw [Bytes.bareWidth_add, h.rest]

theorem Stands.advance_bared (h : cursor.Stands text) (width : Nat) :
    (cursor.bared text).advance (bareWidth cursor.rest width) = (cursor.advance width).bared text := by
  have hdrop := Bytes.bare_drop cursor.rest width
  simp only [advance, bared, hdrop, h.bareWidth_add]
  rw [← List.length_drop, hdrop]

/-! ### Blanks and comments -/

theorem drop_succ_of_cons {byte : UInt8} {rest : Bytes} {offset : Nat}
    (h : byte :: rest = text.drop offset) : rest = text.drop (offset + 1) := by
  rw [← List.drop_drop, ← h]
  rfl

theorem bareWidth_succ_return {rest : Bytes} {offset : Nat} (h : 13 :: rest = text.drop offset) :
    text.bareWidth (offset + 1) = text.bareWidth offset := by
  rw [Bytes.bareWidth_add, ← h]
  rfl

theorem bareWidth_succ {byte : UInt8} (hbyte : byte ≠ 13) {rest : Bytes} {offset : Nat}
    (h : byte :: rest = text.drop offset) :
    text.bareWidth (offset + 1) = text.bareWidth offset + 1 := by
  rw [Bytes.bareWidth_add, ← h, Bytes.bareWidth_cons hbyte]
  rfl

theorem note_relocate {bytes : Bytes} {offset : Nat} (h : bytes = text.drop offset) (kind : Kind)
    (width : Nat) :
    (note kind offset width).relocate text.bareWidth =
      note kind (text.bareWidth offset) (bytes.bareWidth width) := by
  rw [note, note, Node.relocate_mk, Bytes.bareWidth_add, h]
  rfl

theorem skipFrom_bared {bytes : Bytes} {offset : Nat} (hrest : bytes = text.drop offset)
    (hpaired : bytes.isPaired = true) (left : Nat) (notes : List Node) (skip : Nat) :
    skipFrom (text.bareWidth offset) (bare bytes).length
        (notes.map (Node.relocate text.bareWidth)) (bytes.bareWidth skip) (bare bytes) =
      (skipFrom offset left notes skip bytes).bared text := by
  induction bytes generalizing offset left notes skip with
  | nil => rfl
  | cons byte rest ih =>
    have hmore := drop_succ_of_cons hrest
    have hpairedRest := (Bytes.isPaired_cons.1 hpaired).2
    by_cases hreturn : byte = 13
    · subst hreturn
      rw [Bytes.bare_return, ← bareWidth_succ_return hrest]
      cases skip with
      | succ skip => exact ih hmore hpairedRest _ _ skip
      | zero => exact ih hmore hpairedRest _ _ 0
    have hnext : ∀ notes skip,
        skipFrom (text.bareWidth offset + 1) ((bare rest).length + 1 - 1)
            (notes.map (Node.relocate text.bareWidth)) (bareWidth rest skip) (bare rest) =
          (skipFrom (offset + 1) (left - 1) notes skip rest).bared text := by
      intro notes skip
      rw [← bareWidth_succ hreturn hrest]
      exact ih hmore hpairedRest _ _ _
    have hhere : Cursor.bared text ⟨byte :: rest, offset, left, notes⟩ =
        ⟨byte :: bare rest, text.bareWidth offset, (bare rest).length + 1,
          notes.map (Node.relocate text.bareWidth)⟩ := by
      rw [bared, Bytes.bare_cons hreturn]
      rfl
    have hcomment := commentLength_bare hpaired
    rw [Bytes.bare_cons hreturn] at hcomment ⊢
    rw [List.length_cons]
    cases skip with
    | succ skip =>
      rw [Bytes.bareWidth_cons hreturn, skipFrom, skipFrom]
      exact hnext _ _
    | zero =>
      obtain ⟨hpoint, hwidth⟩ := frontPoint_bare byte hpairedRest
      rw [Bytes.bareWidth_zero, skipFrom, skipFrom, hcomment, hpoint]
      split
      · exact hnext notes 0
      split
      · rcases hlength : commentLength (byte :: rest) with _ | _ | width
        · exact hhere.symm
        · exact hhere.symm
        · have hnote := note_relocate hrest .comment (width + 1)
          rw [Bytes.bareWidth_cons hreturn] at hnote
          simp only [Option.map_some, Bytes.bareWidth_cons hreturn, ← hnote]
          exact hnext (_ :: notes) width
      split
      next code width hfound =>
        split
        · have hblank := hnext notes width
          rwa [hwidth hfound] at hblank
        · exact hhere.symm
      · exact hhere.symm

theorem Stands.skip_bared (h : cursor.Stands text) (htext : text.isPaired = true) :
    (cursor.bared text).skip = cursor.skip.bared text :=
  skipFrom_bared h.rest (h.isPaired htext) _ _ 0

/-- Where no semicolon is implied it does not matter whether one was asked for. -/
theorem impliedFrom_of_not {dialect : Dialect} {context : Context} {asking : Bool} {byte : UInt8}
    {rest : Bytes} (h : (asking && impliesSemicolon dialect context (byte :: rest)) = false)
    (offset left : Nat) (notes : List Node) :
    impliedFrom dialect context offset left notes 0 asking (byte :: rest) =
      impliedFrom dialect context offset left notes 0 false (byte :: rest) := by
  rw [impliedFrom, impliedFrom, h]
  rfl

theorem impliedFrom_bared {dialect : Dialect} {context : Context} {bytes : Bytes} {offset : Nat}
    (hrest : bytes = text.drop offset) (hpaired : bytes.isPaired = true) (left : Nat)
    (notes : List Node) (skip : Nat) (asking : Bool) :
    impliedFrom dialect context (text.bareWidth offset) (bare bytes).length
        (notes.map (Node.relocate text.bareWidth)) (bytes.bareWidth skip) asking (bare bytes) =
      (impliedFrom dialect context offset left notes skip asking bytes).map (bared text) := by
  induction bytes generalizing offset left notes skip asking with
  | nil => cases asking <;> rfl
  | cons byte rest ih =>
    have hmore := drop_succ_of_cons hrest
    have hpairedRest := (Bytes.isPaired_cons.1 hpaired).2
    have hasked := impliesSemicolon_bare dialect context hpaired
    by_cases hreturn : byte = 13
    · subst hreturn
      cases skip with
      | succ skip =>
        rw [← bareWidth_succ_return hrest]
        exact ih hmore hpairedRest _ _ skip asking
      | zero =>
        obtain ⟨more, rfl, -⟩ := Bytes.isPaired_return hpaired
        have hfeed : bare (13 :: 10 :: more) = 10 :: bare more := rfl
        rw [hfeed] at hasked
        cases hask : asking && impliesSemicolon dialect context (13 :: 10 :: more) with
        | true =>
          rw [hfeed, Bytes.bareWidth_zero, impliedFrom, impliedFrom, hasked, if_pos hask,
            if_pos hask]
          rfl
        | false =>
          have hhere : impliedFrom dialect context offset left notes 0 asking (13 :: 10 :: more) =
              impliedFrom dialect context (offset + 1) (left - 1) notes 0 false (10 :: more) := by
            rw [impliedFrom, hask]
            rfl
          rw [hhere, ← ih hmore hpairedRest, bareWidth_succ_return hrest]
          exact impliedFrom_of_not (hasked ▸ hask) _ _ _
    have hnext : ∀ notes skip asking,
        impliedFrom dialect context (text.bareWidth offset + 1) ((bare rest).length + 1 - 1)
            (notes.map (Node.relocate text.bareWidth)) (bareWidth rest skip) asking (bare rest) =
          (impliedFrom dialect context (offset + 1) (left - 1) notes skip asking rest).map
            (bared text) := by
      intro notes skip asking
      rw [← bareWidth_succ hreturn hrest]
      exact ih hmore hpairedRest _ _ _ _
    have hcomment := commentLength_bare hpaired
    rw [Bytes.bare_cons hreturn] at hcomment hasked ⊢
    rw [List.length_cons]
    cases skip with
    | succ skip =>
      rw [Bytes.bareWidth_cons hreturn, impliedFrom, impliedFrom]
      exact hnext _ _ _
    | zero =>
      obtain ⟨hpoint, hwidth⟩ := frontPoint_bare byte hpairedRest
      rw [Bytes.bareWidth_zero, impliedFrom, impliedFrom, hcomment, hpoint, hasked]
      split
      · rw [Option.map_some, bared, Bytes.bare_cons hreturn]
        rfl
      rcases hlength : commentLength (byte :: rest) with _ | _ | width
      rotate_left 2
      · have hnote := note_relocate hrest .comment (width + 1)
        rw [Bytes.bareWidth_cons hreturn] at hnote
        simp only [Option.map_some, Bytes.bareWidth_cons hreturn, ← hnote]
        exact hnext (_ :: notes) width true
      -- No comment stands here.
      all_goals
        simp only [Option.map_none, Option.map_some, Bytes.bareWidth_zero]
        split
        next code width hfound =>
          split
          · have hblank := hnext notes width false
            rwa [hwidth hfound] at hblank
          · rfl
        · rfl

theorem Stands.implied?_bared (h : cursor.Stands text) (htext : text.isPaired = true)
    (dialect : Dialect) (context : Context) :
    (cursor.bared text).implied? dialect context =
      (cursor.implied? dialect context).map (bared text) :=
  impliedFrom_bared h.rest (h.isPaired htext) _ _ 0 true

theorem Stands.htmlComment?_bared (h : cursor.Stands text) (htext : text.isPaired = true) :
    (cursor.bared text).htmlComment? = cursor.htmlComment?.map (bared text) := by
  have hopening : Bytes.Unbroken (utf8 "<!--") := Bytes.unbroken_of_all rfl
  have hclosing : Bytes.Unbroken (utf8 "-->") := Bytes.unbroken_of_all rfl
  have hskip := (passes_skip cursor).stands h
  have hopen := LineLocal.bare (lineLocal_startsWith hopening) (hskip.isPaired htext)
  have hclose := LineLocal.bare (lineLocal_startsWith hclosing) (hskip.isPaired htext)
  have hwidth := @lineLength_bare isLineEnd rfl _ (hskip.isPaired htext)
  rw [startsWith, startsWith] at hopen hclose
  have hrest : (cursor.skip.bared text).rest = bare cursor.skip.rest := rfl
  unfold htmlComment?
  simp only [h.skip_bared htext, hrest, hopen, hclose, hwidth, hskip.advance_bared]
  split
  · simp only [Option.map_some, bared, List.map_cons, note_relocate hskip.rest]
  · rfl

end Cursor

/-! ## States -/

/-- The state in the text without the returns. -/
def State.bared (text : Bytes) (state : State) : State where
  cursor := state.cursor.bared text
  start := state.start.map text.bareWidth
  nodes := state.nodes.map (Node.relocate text.bareWidth)

namespace State

variable {text : Bytes} {state : State}

theorem skip_bared (h : state.cursor.Stands text) (htext : text.isPaired = true) :
    (state.bared text).skip = state.skip.bared text :=
  congrArg (State.mk · _ _) (h.skip_bared htext)

theorem take_bared (h : state.cursor.Stands text) (htext : text.isPaired = true) {token : Token}
    (htoken : token.isPlain = true) :
    (state.bared text).take token = (state.take token).map (bared text) := by
  have hlength := Token.length_bare htoken (h.isPaired htext)
  have hrest : (state.bared text).cursor.rest = bare state.cursor.rest := rfl
  rw [take, take, hrest, hlength, Option.map_map, Option.map_map]
  congr 1
  funext width
  have hadvance := h.advance_bared width
  obtain ⟨cursor, start, nodes⟩ := state
  simp only [Function.comp_apply, bared, ← hadvance]
  cases start <;> rfl

theorem opened_bared : (state.bared text).opened = state.opened.bared text := rfl

theorem closed_bared (outer inner : State) :
    (outer.bared text).closed (inner.bared text) = (outer.closed inner).bared text := by
  unfold closed bared
  cases outer.start <;> simp

theorem fold_bared (kind : Kind) : (state.bared text).fold kind = (state.fold kind).bared text := by
  unfold fold bared
  cases state.start <;> simp [Node.relocate_mk, Cursor.bared]

theorem semicolon_bared (h : state.cursor.Stands text) (htext : text.isPaired = true)
    (dialect : Dialect) (context : Context) :
    (state.bared text).semicolon dialect context =
      (state.semicolon dialect context).map (bared text) := by
  have himplied : (state.bared text).cursor.implied? dialect context =
      (state.cursor.implied? dialect context).map (Cursor.bared text) :=
    h.implied?_bared htext dialect context
  have hskip := (Cursor.passes_skip state.cursor).stands h
  unfold semicolon
  rw [himplied, skip_bared h htext, take_bared hskip htext (by decide)]
  cases state.cursor.implied? dialect context <;> rfl

end State

end Grammar

end Prologue
