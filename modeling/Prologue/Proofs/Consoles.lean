import Mathlib
import Prologue.Console
import Prologue.Proofs.Lists

/-!
# Laws of consoles

The commands rely on little in a console. Whatever it shows has a line, the tags of a style are not
shown, and only text with brackets in it can keep it from showing something. The standard console
keeps these laws at every width: it refuses a message only where a tag closes what is not open, where
the parameters of an action cannot be read, or where a style has a number that cannot be read.
-/

namespace Prologue.Console

/-- The styles of messages. -/
def messageStyles : List (List Char) :=
  [['r', 'e', 'd'], ['g', 'r', 'e', 'e', 'n'], ['y', 'e', 'l', 'l', 'o', 'w']]

/-- A text in a style. -/
def styled (style text : List Char) : List Char :=
  '[' :: (style ++ ']' :: (text ++ '[' :: ('/' :: style ++ [']'])))

/-- Text that is shown as it is. -/
def isPlain (text : List Char) : Bool :=
  text.all fun c => c != '[' && c != '\\' && c != ':' && !Markup.isHidden c

/-- What the commands rely on in a console. -/
structure Lawful (console : Console) : Prop where
  message_ne_nil {message : List Char} {lines : List (List Char)} :
    console.message message = .ok lines → lines ≠ []
  table_ne_nil {title : List Char} {rows : List Row} {lines : List (List Char)} :
    console.table title rows = .ok lines → lines ≠ []
  shows_plain {text : List Char} : isPlain text = true → ∃ lines, console.message text = .ok lines
  /-- Tags do not show. -/
  message_styled_append {style front back : List Char} : style ∈ messageStyles →
    isPlain front = true → isPlain back = true →
      console.message (styled style front ++ back) = console.message (front ++ back)
  shows_styled {style text : List Char} : style ∈ messageStyles → '[' ∉ text →
    ∃ lines, console.message (styled style text) = .ok lines
  shows_table {title : List Char} {rows : List Row} : '[' ∉ title →
    (∀ row ∈ rows, ∀ cell ∈ row, '[' ∉ cell ∨ ']' ∉ cell) →
      ∃ lines, console.table title rows = .ok lines

theorem isPlain_iff {text : List Char} :
    isPlain text = true ↔
      ∀ c ∈ text, c ≠ '[' ∧ c ≠ '\\' ∧ c ≠ ':' ∧ Markup.isHidden c = false := by
  simp only [isPlain, List.all_eq_true, Bool.and_eq_true, bne_iff_ne, Bool.not_eq_true', and_assoc]

theorem isPlain_append (first second : List Char) :
    isPlain (first ++ second) = (isPlain first && isPlain second) := List.all_append

theorem Style.normalize_of_color {word : List Char}
    (hwords : (word.splitOnP Text.isBlank).filter (!·.isEmpty) = [word])
    (htrim : Text.trim word = word) (hlower : Text.lower word = word)
    (hplain : word ∉ ["none", "on", "not", "link"].map String.toList)
    (hattribute : attribute? word = none) (hcolor : readColor word = .ok word) :
    normalize word = some word := by
  simp only [List.map_cons, List.map_nil, List.mem_cons, List.not_mem_nil, or_false, not_or] at hplain
  obtain ⟨hnone, hon, hnot, hlink⟩ := hplain
  have hread : read word = .ok ⟨[], some word, none, none⟩ := by
    simp only [read, htrim, if_neg hnone, hwords, withWords, hlower, if_neg hon, if_neg hnot,
      if_neg hlink, hattribute, hcolor]
  have hspelled : words ⟨[], some word, none, none⟩ = [word] := rfl
  rw [normalize, hread]
  simp only [written, hspelled, List.flatMap_nil, List.append_nil]

namespace Markup

/-! ## Tags -/

/-- A tag's body begins as a tag does and holds no bracket. -/
def isBody (body : List Char) : Bool :=
  body.head?.any beginsTag && body.all fun c => c != ']' && c != '['

/-- A style that its closing tag closes. -/
structure IsStyle (style : List Char) : Prop where
  opening : isBody style = true
  closing : isBody ('/' :: style) = true
  normal : Style.normalize style = some style
  opens (reading : Reading) (position : Nat) : reading.follow style position =
    .ok { reading with opened := (reading.shown.length, ⟨style, none⟩) :: reading.opened }
  closes {reading : Reading} {offset : Nat} {outer : List (Nat × Tag)}
    (hopened : reading.opened = (offset, ⟨style, none⟩) :: outer) (position : Nat) :
    reading.follow ('/' :: style) position =
      .ok { reading with
        opened := outer
        spans := ⟨offset, reading.shown.length, style⟩ :: reading.spans }

theorem isStyle_of_normalize {first : Char} {rest : List Char}
    (hopening : isBody (first :: rest) = true) (hclosing : isBody ('/' :: first :: rest) = true)
    (hname : (first :: rest).takeWhile (· != '=') = first :: rest) (hslash : first ≠ '/')
    (haction : first ≠ '@') (htrim : Text.trim (first :: rest) = first :: rest)
    (hnormal : Style.normalize (first :: rest) = some (first :: rest)) :
    IsStyle (first :: rest) where
  opening := hopening
  closing := hclosing
  normal := hnormal
  opens reading position := by
    simp only [Reading.follow, hname, List.drop_length]
    split
    next name heq => exact absurd (List.cons.inj heq).1 hslash
    next => rw [hnormal]; rfl
  closes hopened position := by
    have hclose : ('/' :: first :: rest).takeWhile (· != '=') = '/' :: first :: rest := by
      rw [List.takeWhile_cons_of_pos (by decide), hname]
    simp only [Reading.follow, hclose, htrim, hnormal, hopened, List.isEmpty_cons, Bool.false_eq_true,
      if_false, List.find?_cons, decide_true, List.eraseP_cons, cond_true, Reading.close,
      Tag.badParameters?, List.head?_cons, Option.some.injEq, haction, Tag.style]

theorem isStyle_of_mem {style : List Char} (h : style ∈ messageStyles) : IsStyle style := by
  simp only [messageStyles, List.mem_cons, List.not_mem_nil, or_false] at h
  rcases h with rfl | rfl | rfl <;>
    exact isStyle_of_normalize (by decide) (by decide) (by decide) (by decide) (by decide) (by cbv)
      (Style.normalize_of_color (by cbv) (by cbv) (by cbv) (by decide) (by cbv) (by cbv))

theorem mem_of_tagBody? {rest body : List Char} (h : tagBody? rest = some body) : ']' ∈ rest := by
  simp only [tagBody?] at h
  split at h
  next hbody =>
    rw [Bool.and_eq_true, decide_eq_true_eq] at hbody
    exact List.mem_of_mem_drop (List.mem_of_head? hbody.2)
  next => exact absurd h (by simp)

theorem tagBody?_eq_some {body : List Char} (hbody : isBody body = true) (rest : List Char) :
    tagBody? (body ++ ']' :: rest) = some body := by
  rw [isBody, Bool.and_eq_true] at hbody
  have htake : (body ++ ']' :: rest).takeWhile (fun c => c != ']' && c != '[') = body := by
    rw [List.takeWhile_append_of_pos (List.all_eq_true.1 hbody.2),
      List.takeWhile_cons_of_neg (by decide), List.append_nil]
  simp only [tagBody?, htake, List.drop_left, hbody.1, List.head?_cons, Bool.true_and,
    decide_true, if_true]

/-! ## Tokens -/

/-- The tokens of a tag behind backslashes. -/
def tagTokens (position slashes : Nat) (body : List Char) : List Token :=
  .cut :: backslashes (slashes / 2) ++
    if slashes % 2 = 0 then [.tag body position]
    else .cut :: plain ('[' :: body ++ [']']) ++ [.cut]

section

variable (position slashes skip : Nat) (rest : List Char)

theorem tokensFrom_nil : tokensFrom position slashes skip [] = backslashes slashes := rfl

theorem tokensFrom_succ (c : Char) :
    tokensFrom position slashes (skip + 1) (c :: rest) = tokensFrom (position + 1) 0 skip rest := rfl

theorem tokensFrom_backslash :
    tokensFrom position slashes 0 ('\\' :: rest) =
      tokensFrom (position + 1) (slashes + 1) 0 rest := rfl

variable {rest}

theorem tokensFrom_open_of_some {body : List Char} (h : tagBody? rest = some body) :
    tokensFrom position slashes 0 ('[' :: rest) =
      tagTokens position slashes body ++ tokensFrom (position + 1) 0 (body.length + 1) rest := by
  rw [tokensFrom, if_neg (by decide), if_pos rfl, h]
  rfl

theorem tokensFrom_open_of_none (h : tagBody? rest = none) :
    tokensFrom position slashes 0 ('[' :: rest) =
      backslashes (slashes - 1) ++ .char '[' :: tokensFrom (position + 1) 0 0 rest := by
  rw [tokensFrom, if_neg (by decide), if_pos rfl, h]

theorem tokensFrom_char {c : Char} (hslash : c ≠ '\\') (hopen : c ≠ '[') :
    tokensFrom position slashes 0 (c :: rest) =
      backslashes slashes ++ .char c :: tokensFrom (position + 1) 0 0 rest :=
  (if_neg hslash).trans (if_neg hopen)

end

theorem tokensFrom_skip (position : Nat) (front rest : List Char) :
    tokensFrom position 0 front.length (front ++ rest) =
      tokensFrom (position + front.length) 0 0 rest := by
  induction front generalizing position with
  | nil => rfl
  | cons c front ih =>
    rw [List.length_cons, List.cons_append, tokensFrom_succ, ih]
    congr 1
    omega

theorem tokensFrom_tag (position slashes : Nat) {body : List Char} (hbody : isBody body = true)
    (rest : List Char) :
    tokensFrom position slashes 0 ('[' :: (body ++ ']' :: rest)) =
      tagTokens position slashes body ++
        tokensFrom (position + 1 + (body.length + 1)) 0 0 rest := by
  have hskip := tokensFrom_skip (position + 1) (body ++ [']']) rest
  rw [List.length_append, List.length_singleton, List.append_assoc, List.singleton_append] at hskip
  rw [tokensFrom_open_of_some _ _ (tagBody?_eq_some hbody rest), hskip]

theorem backslashes_eq (count : Nat) : backslashes count = plain (List.replicate count '\\') := by
  simp [backslashes, plain]

/-- What stands before the first opening bracket is text. -/
theorem exists_tokensFrom_append {front : List Char} (hopen : '[' ∉ front)
    (position slashes : Nat) (rest : List Char) :
    ∃ text after left, tokensFrom position slashes 0 (front ++ rest) =
      plain text ++ tokensFrom after left 0 rest := by
  induction front generalizing position slashes with
  | nil => exact ⟨[], position, slashes, rfl⟩
  | cons c front ih =>
    rw [List.mem_cons, not_or] at hopen
    by_cases hslash : c = '\\'
    · rw [hslash, List.cons_append, tokensFrom_backslash]
      exact ih hopen.2 ..
    · obtain ⟨text, after, left, htext⟩ := ih hopen.2 (position + 1) 0
      refine ⟨List.replicate slashes '\\' ++ c :: text, after, left, ?_⟩
      rw [List.cons_append, tokensFrom_char _ _ hslash (Ne.symm hopen.1), htext]
      simp [plain, backslashes]

/-- Text without a closing bracket holds no tag. -/
theorem exists_tokensFrom_eq_plain {message : List Char} (hclose : ']' ∉ message)
    (position slashes : Nat) : ∃ text, tokensFrom position slashes 0 message = plain text := by
  induction message generalizing position slashes with
  | nil => exact ⟨List.replicate slashes '\\', backslashes_eq slashes⟩
  | cons c rest ih =>
    have hrest : ']' ∉ rest := fun hmem => hclose (List.mem_cons_of_mem _ hmem)
    have hbody : tagBody? rest = none :=
      Option.eq_none_iff_forall_ne_some.2 fun _ hbody => hrest (mem_of_tagBody? hbody)
    obtain ⟨text, htext⟩ := ih hrest (position + 1) 0
    by_cases hslash : c = '\\'
    · rw [hslash, tokensFrom_backslash]
      exact ih hrest ..
    by_cases hopen : c = '['
    · refine ⟨List.replicate (slashes - 1) '\\' ++ c :: text, ?_⟩
      rw [hopen, tokensFrom_open_of_none _ _ hbody, htext]
      simp [plain, backslashes]
    · refine ⟨List.replicate slashes '\\' ++ c :: text, ?_⟩
      rw [tokensFrom_char _ _ hslash hopen, htext]
      simp [plain, backslashes]

/-- Text without a bracket that opens a tag and without a backslash. -/
def isBare (text : List Char) : Bool := text.all fun c => c != '[' && c != '\\'

theorem isBare_of_isPlain {text : List Char} (h : isPlain text = true) : isBare text = true := by
  simp only [isBare, List.all_eq_true, Bool.and_eq_true, bne_iff_ne]
  exact fun c hc => ⟨(isPlain_iff.1 h c hc).1, (isPlain_iff.1 h c hc).2.1⟩

theorem tokensFrom_bare {text : List Char} (htext : isBare text = true) (position : Nat)
    (rest : List Char) :
    tokensFrom position 0 0 (text ++ rest) =
      plain text ++ tokensFrom (position + text.length) 0 0 rest := by
  induction text generalizing position with
  | nil => rfl
  | cons c text ih =>
    simp only [isBare, List.all_cons, Bool.and_eq_true, bne_iff_ne] at htext
    rw [List.cons_append, tokensFrom_char _ _ htext.1.2 htext.1.1, ih htext.2, List.length_cons,
      Nat.add_right_comm, Nat.add_assoc position]
    rfl

theorem tokensFrom_eq_plain {text : List Char} (htext : isBare text = true) (position : Nat) :
    tokensFrom position 0 0 text = plain text := by
  have h := tokensFrom_bare htext position []
  rwa [List.append_nil, tokensFrom_nil, backslashes, List.replicate_zero, List.append_nil] at h

/-! ## Readings -/

theorem picturesFrom_eq_self (find? : List Char → Option (List Char)) {text : List Char}
    (h : ':' ∉ text) : picturesFrom find? 0 text = text := by
  induction text with
  | nil => rfl
  | cons c rest ih =>
    rw [List.mem_cons, not_or] at h
    rw [picturesFrom, if_neg (Ne.symm h.1), ih h.2]

/-- What is shown of text without tags. -/
def shownOf (text : List Char) : List Char := (picturesFrom picture? 0 text).filter (!isHidden ·)

theorem shownOf_eq_self {text : List Char} (h : isPlain text = true) : shownOf text = text := by
  have hcolon : ':' ∉ text := fun hmem => (isPlain_iff.1 h _ hmem).2.2.1 rfl
  rw [shownOf, picturesFrom_eq_self _ hcolon, List.filter_eq_self]
  intro c hc
  rw [(isPlain_iff.1 h c hc).2.2.2, Bool.not_false]

namespace Reading

theorem run_plain_append (reading : Reading) (text : List Char) (rest : List Token) :
    reading.run (plain text ++ rest) =
      run { reading with pending := reading.pending ++ text } rest := by
  induction text generalizing reading with
  | nil => rw [List.append_nil]; rfl
  | cons c text ih =>
    show run { reading with pending := reading.pending ++ [c] } (plain text ++ rest) = _
    rw [ih, List.append_assoc, List.singleton_append]

theorem run_plain (reading : Reading) (text : List Char) :
    reading.run (plain text) = .ok { reading with pending := reading.pending ++ text } := by
  rw [← List.append_nil (plain text), run_plain_append, run]

theorem run_cut (reading : Reading) (rest : List Token) :
    reading.run (.cut :: rest) = reading.flush.run rest := rfl

theorem run_tag {reading next : Reading} {body : List Char} {position : Nat}
    (h : reading.flush.follow body position = .ok next) (rest : List Token) :
    reading.run (.tag body position :: rest) = next.run rest := by
  rw [run, h]

theorem flush_eq (shown pending : List Char) (opened : List (Nat × Tag)) (spans : List Span) :
    flush ⟨shown, pending, opened, spans⟩ = ⟨shown ++ shownOf pending, [], opened, spans⟩ := rfl

/-- The styles of all parts of the text can be read. -/
def IsClear (reading : Reading) : Prop :=
  ∀ span ∈ reading.allSpans, (Style.normalize span.style).isSome = true

theorem isClear_of_nil {reading : Reading} (hopened : reading.opened = [])
    (hspans : reading.spans = []) : reading.IsClear := by
  simp [IsClear, allSpans, hopened, hspans]

theorem lines_eq {reading : Reading} (h : reading.IsClear) (folds : Bool) (width : Nat) :
    reading.lines folds width = .ok (wrap folds width reading.shown) := by
  simp only [lines]
  rw [if_neg]
  rw [List.any_eq_true]
  rintro ⟨span, hspan, hbad⟩
  rw [← Option.not_isSome, h span hspan, Bool.not_true, Bool.and_false] at hbad
  exact Bool.false_ne_true hbad

end Reading

/-- A message without tags. -/
def Tagless (message : List Char) : Prop := ∃ text, tokens message = plain text

theorem tagless_of_no_close {message : List Char} (h : ']' ∉ message) : Tagless message :=
  exists_tokensFrom_eq_plain h 0 0

theorem tagless_of_no_open {message : List Char} (h : '[' ∉ message) : Tagless message := by
  obtain ⟨text, after, left, htext⟩ := exists_tokensFrom_append h 0 0 []
  refine ⟨text ++ List.replicate left '\\', ?_⟩
  rw [List.append_nil] at htext
  rw [tokens, htext, tokensFrom_nil, backslashes_eq]
  exact (List.map_append).symm

theorem Tagless.read_eq {message : List Char} (h : Tagless message) :
    ∃ reading, read message = .ok reading ∧ reading.IsClear := by
  obtain ⟨text, htext⟩ := h
  exact ⟨_, by rw [read, htext, Reading.run_plain]; rfl, Reading.isClear_of_nil rfl rfl⟩

theorem read_of_isBare {text : List Char} (h : isBare text = true) :
    read text = .ok ⟨shownOf text, [], [], []⟩ := by
  rw [read, tokens, tokensFrom_eq_plain h, Reading.run_plain]
  rfl

theorem run_tokens_opening {style : List Char} (hstyle : IsStyle style) (rest : List Char) :
    ∃ position, Reading.start.run (tokens ('[' :: (style ++ ']' :: rest))) =
      Reading.run ⟨[], [], [(0, ⟨style, none⟩)], []⟩ (tokensFrom position 0 0 rest) := by
  refine ⟨0 + 1 + (style.length + 1), ?_⟩
  rw [tokens, tokensFrom_tag 0 0 hstyle.opening]
  show Reading.run Reading.start.flush (.tag style 0 :: _) = _
  exact Reading.run_tag (hstyle.opens _ 0) _

/-- A closing tag closes the style that is open, or is shown if backslashes say so. -/
theorem exists_run_closing {style : List Char} (hstyle : IsStyle style) {reading : Reading}
    {offset : Nat} (hopened : reading.opened = [(offset, ⟨style, none⟩)])
    (hspans : reading.spans = []) (position slashes : Nat) :
    ∃ next, reading.run (tokensFrom position slashes 0 ('[' :: ('/' :: style ++ [']']))) = .ok next ∧
      next.flush.IsClear := by
  rw [tokensFrom_tag position slashes hstyle.closing, tokensFrom_nil, tagTokens, backslashes_eq]
  simp only [List.cons_append, List.append_assoc]
  rw [Reading.run_cut, Reading.run_plain_append]
  let before : Reading :=
    { reading.flush with
      pending := reading.flush.pending ++ List.replicate (slashes / 2) '\\' }
  have hbefore : before.flush.opened = [(offset, ⟨style, none⟩)] := hopened
  split
  next =>
    refine ⟨_, (Reading.run_tag (hstyle.closes hbefore position) []).trans rfl, ?_⟩
    have hsame : before.spans = [] := hspans
    simp [Reading.IsClear, Reading.allSpans, Reading.flush, hsame, hstyle.normal]
  next =>
    rw [List.cons_append, Reading.run_cut, List.append_assoc, Reading.run_plain_append]
    refine ⟨_, rfl, ?_⟩
    simp [Reading.IsClear, Reading.allSpans, Reading.flush, hspans, hopened, Tag.style,
      hstyle.normal]

theorem read_styled {style : List Char} (hstyle : IsStyle style) {text : List Char}
    (h : '[' ∉ text) : ∃ reading, read (styled style text) = .ok reading ∧ reading.IsClear := by
  obtain ⟨position, hopen⟩ := run_tokens_opening hstyle (text ++ '[' :: ('/' :: style ++ [']']))
  obtain ⟨front, after, left, hfront⟩ := exists_tokensFrom_append h position 0
    ('[' :: ('/' :: style ++ [']']))
  rw [hfront, Reading.run_plain_append] at hopen
  have hopened : (⟨[], [] ++ front, [(0, ⟨style, none⟩)], []⟩ : Reading).opened =
      [(0, ⟨style, none⟩)] := rfl
  obtain ⟨next, hnext, hclear⟩ := exists_run_closing hstyle hopened rfl after left
  exact ⟨next.flush, by rw [read, styled, hopen, hnext]; rfl, hclear⟩

/-- A text in a style is read as it is without, with what follows it. -/
theorem read_styled_append {style : List Char} (hstyle : IsStyle style) {front back : List Char}
    (hfront : isBare front = true) (hback : isBare back = true) :
    read (styled style front ++ back) =
      .ok ⟨shownOf front ++ shownOf back, [], [], [⟨0, (shownOf front).length, style⟩]⟩ := by
  have hsplit : styled style front ++ back =
      '[' :: (style ++ ']' :: (front ++ '[' :: ('/' :: style ++ ']' :: back))) := by
    simp [styled]
  obtain ⟨position, hopen⟩ := run_tokens_opening hstyle
    (front ++ '[' :: ('/' :: style ++ ']' :: back))
  have hagain : Reading.flush ⟨shownOf front, [], [(0, ⟨style, none⟩)], []⟩ =
      ⟨shownOf front, [], [(0, ⟨style, none⟩)], []⟩ := by
    rw [Reading.flush_eq]
    exact congrArg (Reading.mk · [] [(0, ⟨style, none⟩)] []) (List.append_nil _)
  rw [read, hsplit, hopen, tokensFrom_bare hfront, tokensFrom_tag _ _ hstyle.closing,
    tokensFrom_eq_plain hback, Reading.run_plain_append]
  show Except.map _ (Reading.run ⟨[], front, [(0, ⟨style, none⟩)], []⟩
    (.cut :: .tag ('/' :: style) _ :: plain back)) = _
  rw [Reading.run_cut, Reading.flush_eq, List.nil_append,
    Reading.run_tag (by rw [hagain]; exact hstyle.closes rfl _), Reading.run_plain]
  rfl

end Markup

/-! ## Lines -/

theorem piecesAt_ne_nil (start : Nat) (text : List Char) (offsets : List Nat) :
    piecesAt start text offsets ≠ [] := by
  cases offsets <;> exact List.cons_ne_nil _ _

theorem linesOf_ne_nil (text : List Char) : linesOf text ≠ [] := by
  cases text with
  | nil => exact List.cons_ne_nil _ _
  | cons c rest =>
    rw [linesOf]
    split
    next => exact List.cons_ne_nil _ _
    next => split <;> exact List.cons_ne_nil _ _

theorem wrap_ne_nil (folds : Bool) (width : Nat) (text : List Char) : wrap folds width text ≠ [] := by
  obtain ⟨line, rest, hlines⟩ := List.exists_cons_of_ne_nil (linesOf_ne_nil text)
  simp only [wrap, hlines, List.flatMap_cons]
  intro hnil
  exact piecesAt_ne_nil _ _ _ (List.map_eq_nil_iff.1 (List.append_eq_nil_iff.1 hnil).1)

theorem Table.lines_ne_nil {columns : Nat} {title : List Char} {rows : List Row}
    {lines : List (List Char)} (h : Table.lines columns title rows = .ok lines) : lines ≠ [] := by
  rw [Table.lines] at h
  obtain ⟨cells, -, h⟩ := of_bind_eq_ok h
  obtain ⟨titleLines, -, h⟩ := of_bind_eq_ok h
  obtain ⟨laid, -, h⟩ := of_bind_eq_ok h
  rw [← Except.ok.inj h]
  simp

/-! ## The standard console -/

theorem message_standard (columns : Nat) {message : List Char} {reading : Markup.Reading}
    (hread : Markup.read message = .ok reading) (hclear : reading.IsClear) :
    (standard columns).message message =
      .ok ((wrap true columns reading.shown).map (crop columns)) := by
  simp only [standard, hread, bind, Except.bind, Markup.Reading.lines_eq hclear, pure, Except.pure]

theorem message_standard_styled (columns : Nat) {style front back : List Char}
    (hstyle : style ∈ messageStyles) (hfront : Markup.isBare front = true)
    (hback : Markup.isBare back = true) :
    (standard columns).message (styled style front ++ back) =
      .ok ((wrap true columns (Markup.shownOf front ++ Markup.shownOf back)).map
        (crop columns)) := by
  have hstyle := Markup.isStyle_of_mem hstyle
  apply message_standard columns (Markup.read_styled_append hstyle hfront hback)
  simp [Markup.Reading.IsClear, Markup.Reading.allSpans, hstyle.normal]

theorem Table.exists_layOut (widths : List Nat) {row : List Markup.Reading}
    (h : ∀ cell ∈ row, cell.IsClear) : ∃ laid, Table.layOut widths row = .ok laid := by
  have hcell : ∀ entry ∈ widths.zip row, ∃ lines,
      Table.cellLines entry.1 entry.2 = .ok lines := by
    intro entry hentry
    rw [Table.cellLines]
    split
    · exact ⟨_, rfl⟩
    · exact ⟨_, by rw [Markup.Reading.lines_eq (h _ (List.of_mem_zip hentry).2)]; rfl⟩
  obtain ⟨laid, hlaid, -⟩ := exists_mapM_eq_ok hcell
  exact ⟨laid, hlaid⟩

theorem Table.exists_titleLines (width : Nat) {title : List Char} (h : Markup.Tagless title) :
    ∃ lines, Table.titleLines width title = .ok lines := by
  rw [Table.titleLines]
  split
  · exact ⟨_, rfl⟩
  · obtain ⟨reading, hread, hclear⟩ := h.read_eq
    refine ⟨(wrap true width reading.shown).map (center width), ?_⟩
    simp only [hread, bind, Except.bind, Markup.Reading.lines_eq hclear, pure, Except.pure]

/-- A table is shown if neither its title nor any of its cells has a tag. -/
theorem Table.exists_lines (columns : Nat) {title : List Char} {rows : List Row}
    (htitle : Markup.Tagless title) (hrows : ∀ row ∈ rows, ∀ cell ∈ row, Markup.Tagless cell) :
    ∃ lines, Table.lines columns title rows = .ok lines := by
  have hheader : ∀ cell ∈ Table.header, Markup.Tagless cell := by
    have hopen : ∀ cell ∈ Table.header, '[' ∉ cell := by decide
    exact fun cell hcell => Markup.tagless_of_no_open (hopen cell hcell)
  obtain ⟨cells, hcells, hclear⟩ := exists_mapM_of fun row hrow =>
    exists_mapM_of fun cell hcell =>
      (List.forall_mem_cons.2 ⟨hheader, hrows⟩ row hrow cell hcell).read_eq
  let widths := Table.widths columns (cells.map fun row => row.map (·.shown))
  obtain ⟨titleLines, htitle⟩ := Table.exists_titleLines (Table.totalWidth widths) htitle
  obtain ⟨laid, hlaid, -⟩ := exists_mapM_eq_ok fun row hrow =>
    Table.exists_layOut widths (hclear row hrow)
  rw [Table.lines, hcells]
  show ∃ lines, (Table.titleLines (Table.totalWidth widths) title >>= fun titleLines =>
    cells.mapM (Table.layOut widths) >>= _) = .ok lines
  rw [htitle]
  show ∃ lines, (cells.mapM (Table.layOut widths) >>= _) = .ok lines
  rw [hlaid]
  exact ⟨_, rfl⟩

/-- The standard console keeps the laws at every width. -/
theorem standard_lawful (columns : Nat) : (standard columns).Lawful where
  message_ne_nil h := by
    obtain ⟨reading, -, h⟩ := of_bind_eq_ok h
    obtain ⟨lines, hlines, h⟩ := of_bind_eq_ok h
    rw [← Except.ok.inj h, Ne, List.map_eq_nil_iff]
    simp only [Markup.Reading.lines] at hlines
    split at hlines
    · cases hlines
    · exact Except.ok.inj hlines ▸ wrap_ne_nil _ _ _
  table_ne_nil := Table.lines_ne_nil
  shows_plain h :=
    ⟨_, message_standard columns (Markup.read_of_isBare (Markup.isBare_of_isPlain h))
      (Markup.Reading.isClear_of_nil rfl rfl)⟩
  message_styled_append {style front back} hstyle hfront hback := by
    have hplain : isPlain (front ++ back) = true := by
      rw [isPlain_append, hfront, hback, Bool.and_true]
    rw [message_standard_styled columns hstyle (Markup.isBare_of_isPlain hfront)
        (Markup.isBare_of_isPlain hback),
      message_standard columns (Markup.read_of_isBare (Markup.isBare_of_isPlain hplain))
        (Markup.Reading.isClear_of_nil rfl rfl),
      Markup.shownOf_eq_self hfront, Markup.shownOf_eq_self hback, Markup.shownOf_eq_self hplain]
  shows_styled hstyle h := by
    obtain ⟨reading, hread, hclear⟩ := Markup.read_styled (Markup.isStyle_of_mem hstyle) h
    exact ⟨_, message_standard columns hread hclear⟩
  shows_table htitle hrows := Table.exists_lines columns (Markup.tagless_of_no_open htitle)
    fun row hrow cell hcell => (hrows row hrow cell hcell).elim Markup.tagless_of_no_open
      Markup.tagless_of_no_close

end Prologue.Console
