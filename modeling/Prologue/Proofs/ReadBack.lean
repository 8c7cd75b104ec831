import Mathlib
import Prologue.Index.Run
import Prologue.Json.Reader
import Prologue.Proofs.Encoding
import Prologue.Proofs.Places

/-!
# The index reads back

What is written as JSON is read as the value that was written. The text of a value is followed
through the reader: an escaped text, a word or a mark is one token, blanks are none, and from any
stage where a value may come the text of a value leads to the stage behind it, whatever is still
open around it. This holds of all values whose objects name no member twice, and the index is one of
them. So its document leads back to it, and no two indices have the same document.
-/

namespace Prologue

namespace Json

/-! ## Strings -/

theorem eq_ofNat_of_toNat {c : Char} {n : Nat} (h : c.toNat = n) : c = Char.ofNat n := by
  rw [← h, Char.ofNat_toNat]

/-- A character is escaped by a letter or mark, as a number, or not at all. -/
theorem escape_cases (c : Char) :
    (∃ mark, escape c = ['\\', mark] ∧ mark ≠ 'u' ∧ shortEscape? mark = some c.toNat) ∨
      (c.toNat < 0x20 ∧
        escape c = ['\\', 'u', '0', '0', hexDigit (c.toNat / 16), hexDigit (c.toNat % 16)]) ∨
      (escape c = [c] ∧ c ≠ '\\' ∧ c ≠ quote ∧ 0x20 ≤ c.toNat) := by
  unfold escape
  split
  next h => obtain rfl := eq_ofNat_of_toNat h; exact .inl ⟨_, rfl, by decide, rfl⟩
  next h => obtain rfl := eq_ofNat_of_toNat h; exact .inl ⟨_, rfl, by decide, rfl⟩
  next h => obtain rfl := eq_ofNat_of_toNat h; exact .inl ⟨_, rfl, by decide, rfl⟩
  next h => obtain rfl := eq_ofNat_of_toNat h; exact .inl ⟨_, rfl, by decide, rfl⟩
  next h => obtain rfl := eq_ofNat_of_toNat h; exact .inl ⟨_, rfl, by decide, rfl⟩
  next h => obtain rfl := eq_ofNat_of_toNat h; exact .inl ⟨_, rfl, by decide, rfl⟩
  next h => obtain rfl := eq_ofNat_of_toNat h; exact .inl ⟨_, rfl, by decide, rfl⟩
  next hquote hslash _ _ _ _ _ =>
    split
    next hcontrol => exact .inr (.inl ⟨hcontrol, rfl⟩)
    next hcontrol =>
      refine .inr (.inr ⟨rfl, ?_, ?_, by omega⟩)
      · rintro rfl
        exact hslash rfl
      · rintro rfl
        exact hquote rfl

theorem hexNumber?_of_lt : ∀ n < 32,
    hexNumber? ['0', '0', hexDigit (n / 16), hexDigit (n % 16)] = some n := by decide

/-- An escaped character stands for its own code. -/
theorem codes?_escape (c : Char) (rest : List Char) :
    codes? (escape c ++ rest) = (codes? rest).map (c.toNat :: ·) := by
  rcases escape_cases c with ⟨mark, hescape, hmark, hcode⟩ | ⟨hcontrol, hescape⟩ |
    ⟨hescape, hslash, hquote, hcode⟩
  · rw [hescape, List.cons_append, List.singleton_append, codes?, hcode, Option.bind_some]
    rintro _ _ _ _ _ rfl -
    exact hmark rfl
  · simp only [hescape, List.cons_append, List.nil_append, codes?, hexNumber?_of_lt _ hcontrol,
      Option.bind_some]
  · rw [hescape, List.singleton_append, codes?, if_neg]
    · rintro (h | h | h)
      · exact hslash h
      · exact hquote h
      · omega
    · rintro _ _ _ _ _ h -
      exact hslash h
    · rintro _ _ h -
      exact hslash h

theorem codes?_flatMap_escape (text : List Char) :
    codes? (text.flatMap escape) = some (text.map Char.toNat) := by
  induction text with
  | nil => rfl
  | cons c text ih => rw [List.flatMap_cons, codes?_escape, ih, Option.map_some, List.map_cons]

theorem characters?_map_toNat (text : List Char) :
    characters? (text.map Char.toNat) = some text := by
  induction text with
  | nil => rfl
  | cons c text ih =>
    have hvalid : c.toNat < 0xD800 ∨ (0xDFFF < c.toNat ∧ c.toNat < 0x110000) := c.valid
    have hhigh : isHighSurrogate c.toNat = false := by
      simp only [isHighSurrogate, Bool.and_eq_false_iff, decide_eq_false_iff_not]
      omega
    have hlow : isLowSurrogate c.toNat = false := by
      simp only [isLowSurrogate, Bool.and_eq_false_iff, decide_eq_false_iff_not]
      omega
    rw [List.map_cons, characters?.eq_def]
    simp only [hhigh, hlow, ih, Option.map_some, Char.ofNat_toNat, Bool.false_eq_true, if_false]

theorem unescape_flatMap_escape (text : List Char) : unescape (text.flatMap escape) = some text := by
  rw [unescape, codes?_flatMap_escape, Option.bind_some, characters?_map_toNat]

/-! ## Tokens -/

theorem hexDigit_ne : ∀ n < 16, hexDigit n ≠ quote ∧ hexDigit n ≠ '\\' := by decide

/-- An escaped character does not end a string. -/
theorem tokens?_escape (c : Char) (held rest : List Char) :
    tokens? (.string held) (escape c ++ rest) =
      tokens? (.string ((escape c).reverse ++ held)) rest := by
  rcases escape_cases c with ⟨mark, hescape, -⟩ | ⟨hcontrol, hescape⟩ | ⟨hescape, hslash, hquote, -⟩
  · rw [hescape]
    rfl
  · have hfirst := hexDigit_ne (c.toNat / 16) (by omega)
    have hlast := hexDigit_ne (c.toNat % 16) (by omega)
    have hzero : '0' ≠ quote ∧ '0' ≠ '\\' := by decide
    rw [hescape]
    simp only [List.cons_append, List.nil_append, List.reverse_cons, List.reverse_nil]
    rw [tokens?, if_neg (by decide), if_pos rfl, tokens?, tokens?_plain hzero.1 hzero.2,
      tokens?_plain hzero.1 hzero.2, tokens?_plain hfirst.1 hfirst.2, tokens?_plain hlast.1 hlast.2]
  · rw [hescape, List.singleton_append, tokens?_plain hquote hslash]
    rfl

theorem tokens?_string (text held rest : List Char) :
    tokens? (.string held) (text.flatMap escape ++ quote :: rest) =
      (unescape (held.reverse ++ text.flatMap escape)).bind fun inside =>
        (tokens? .between rest).map (.value (.text inside) :: ·) := by
  induction text generalizing held with
  | nil => rw [List.flatMap_nil, List.nil_append, tokens?, if_pos rfl, List.append_nil]
  | cons c text ih =>
    rw [List.flatMap_cons, List.append_assoc, tokens?_escape, ih, List.reverse_append,
      List.reverse_reverse, List.append_assoc]

/-- A written text is one token, whatever stands behind it. -/
theorem tokens?_quoted (text rest : List Char) :
    tokens? .between (quoted text ++ rest) =
      (tokens? .between rest).map (.value (.text text) :: ·) := by
  have hstring := tokens?_string text [] rest
  rw [List.reverse_nil, List.nil_append, unescape_flatMap_escape, Option.bind_some] at hstring
  rw [quoted, List.cons_append, List.cons_append, List.append_assoc, List.singleton_append, tokens?,
    if_neg (by decide), if_pos rfl, hstring]

theorem tokens?_blank {c : Char} (h : isBlank c = true) (rest : List Char) :
    tokens? .between (c :: rest) = tokens? .between rest := by
  rw [tokens?, if_pos h]

theorem ne_quote_of_mark? {c : Char} {token : Token} (h : mark? c = some token) : c ≠ quote := by
  rintro rfl
  cases h

theorem isBlank_of_mark? {c : Char} {token : Token} (h : mark? c = some token) :
    isBlank c = false := by
  rw [← Bool.not_eq_true]
  intro hblank
  simp only [isBlank, Bool.or_eq_true, decide_eq_true_eq] at hblank
  rcases hblank with ((rfl | rfl) | rfl) | rfl <;> cases h

theorem tokens?_mark {c : Char} {token : Token} (h : mark? c = some token) (rest : List Char) :
    tokens? .between (c :: rest) = (tokens? .between rest).map (token :: ·) := by
  rw [tokens?, if_neg (by simp [isBlank_of_mark? h]), if_neg (ne_quote_of_mark? h)]
  simp only [h]

/-- A character that ends no word. -/
def isWordly (c : Char) : Bool := !isBlank c && (mark? c).isNone

/-- What can stand behind a word: nothing, a blank or a mark. -/
def Delimited (rest : List Char) : Prop := ∀ c ∈ rest.head?, isWordly c = false

theorem tokens?_wordly {c : Char} (h : isWordly c = true) (held rest : List Char) :
    tokens? (.word held) (c :: rest) = tokens? (.word (c :: held)) rest := by
  simp only [isWordly, Bool.and_eq_true, Bool.not_eq_true', Option.isNone_iff_eq_none] at h
  rw [tokens?, if_neg (by simp [h.1])]
  simp only [h.2]

theorem tokens?_word {word : List Char} (h : ∀ c ∈ word, isWordly c = true) (held rest : List Char) :
    tokens? (.word held) (word ++ rest) = tokens? (.word (word.reverse ++ held)) rest := by
  induction word generalizing held with
  | nil => rfl
  | cons c word ih =>
    rw [List.forall_mem_cons] at h
    rw [List.cons_append, tokens?_wordly h.1, ih h.2, List.reverse_cons, List.append_assoc,
      List.singleton_append]

/-- A word ends in front of a blank or a mark. -/
theorem tokens?_of_delimited {rest : List Char} (h : Delimited rest) (held : List Char) :
    tokens? (.word held) rest =
      (word? held.reverse).bind fun value => (tokens? .between rest).map (.value value :: ·) := by
  cases rest with
  | nil =>
    rw [tokens?, tokens?]
    cases word? held.reverse <;> rfl
  | cons c rest =>
    by_cases hblank : isBlank c = true
    · rw [tokens?_blank hblank]
      conv_lhs => rw [tokens?, if_pos hblank]
    · have hc := h c rfl
      cases hmark : mark? c with
      | none => simp [isWordly, hblank, hmark] at hc
      | some token =>
        rw [tokens?_mark hmark]
        conv_lhs => rw [tokens?, if_neg hblank]
        simp only [hmark, Option.map_map]
        rfl

/-- A word is one token in front of a blank, a mark or the end. -/
theorem tokens?_of_word? {word rest : List Char} {value : Json} (hword : word? word = some value)
    (hwordly : ∀ c ∈ word, isWordly c = true ∧ c ≠ quote) (hrest : Delimited rest) :
    tokens? .between (word ++ rest) = (tokens? .between rest).map (.value value :: ·) := by
  rcases word with _ | ⟨c, word⟩
  · cases hword
  · have hc := hwordly c (List.mem_cons_self ..)
    have hstart : tokens? .between (c :: (word ++ rest)) = tokens? (.word [c]) (word ++ rest) := by
      simp only [isWordly, Bool.and_eq_true, Bool.not_eq_true', Option.isNone_iff_eq_none] at hc
      rw [tokens?, if_neg (by simp [hc.1.1]), if_neg hc.2]
      simp only [hc.1.2]
    rw [List.cons_append, hstart,
      tokens?_word fun c hc => (hwordly c (List.mem_cons_of_mem _ hc)).1,
      tokens?_of_delimited hrest, List.reverse_append, List.reverse_reverse]
    simp only [List.reverse_cons, List.reverse_nil, List.nil_append, List.singleton_append, hword,
      Option.bind_some]

/-! ## Numbers -/

theorem isWordly_digit : ∀ n < 10,
    isWordly (Char.ofNat (48 + n)) = true ∧ Char.ofNat (48 + n) ≠ quote ∧
      Char.ofNat (48 + n) ∉ ['-', 'n', 't', 'f'] := by decide

/-- A digit can stand in a word, but begins none that is not a number. -/
theorem isWordly_of_isDigit {c : Char} (h : c.isDigit = true) :
    isWordly c = true ∧ c ≠ quote ∧ c ∉ ['-', 'n', 't', 'f'] := by
  rw [Char.isDigit_iff_toNat] at h
  have hbounds : 48 ≤ c.toNat ∧ c.toNat ≤ 57 := h
  have hdigit := isWordly_digit (c.toNat - 48) (by omega)
  rwa [Nat.add_sub_cancel' hbounds.1, Char.ofNat_toNat] at hdigit

theorem eq_zero_of_head?_toDigits (n : Nat) (h : (Nat.toDigits 10 n).head? = some '0') : n = 0 := by
  induction n using Nat.strongRecOn with
  | ind n ih =>
    rw [Nat.toDigits_eq_if (by decide)] at h
    split at h
    next hlt =>
      have hzero : ∀ n < 10, [Nat.digitChar n].head? = some '0' → n = 0 := by decide
      exact hzero n hlt h
    next hge =>
      rw [List.head?_append_of_ne_nil _ Nat.toDigits_ne_nil] at h
      have := ih (n / 10) (by omega) h
      omega

theorem natural?_toDigits (n : Nat) : natural? (Nat.toDigits 10 n) = some n := by
  have hdigits : ∀ c ∈ Nat.toDigits 10 n, c.isDigit = true := fun c hc =>
    Nat.isDigit_of_mem_toDigits (by decide) (by decide) hc
  have hzero : (Nat.toDigits 10 n).head? = some '0' → ¬ 1 < (Nat.toDigits 10 n).length := by
    intro hhead
    rw [eq_zero_of_head?_toDigits n hhead]
    decide
  rw [natural?, if_neg, Nat.ofDigitChars_ten_toDigits]
  simp only [Bool.or_eq_true, Bool.and_eq_true, decide_eq_true_eq, Bool.not_eq_true', not_or,
    Bool.not_eq_false, List.all_eq_true, List.isEmpty_iff, not_and]
  exact ⟨⟨Nat.toDigits_ne_nil, hdigits⟩, hzero⟩

theorem word?_of_not_mem {c : Char} {rest : List Char} (h : c ∉ ['n', 't', 'f']) :
    word? (c :: rest) = (integer? (c :: rest)).map int := by
  simp only [List.mem_cons, List.not_mem_nil, or_false, not_or] at h
  rw [word?, if_neg (by simp [h.1]), if_neg (by simp [h.2.1]), if_neg (by simp [h.2.2])]

theorem word?_decimal (n : Int) : word? (decimal n) = some (int n) := by
  cases n with
  | ofNat n =>
    obtain ⟨c, rest, hdigits⟩ := List.exists_cons_of_ne_nil (Nat.toDigits_ne_nil (n := n) (b := 10))
    have hc := (isWordly_of_isDigit (Nat.isDigit_of_mem_toDigits (by decide) (by decide)
      (hdigits ▸ List.mem_cons_self ..))).2.2
    simp only [List.mem_cons, List.not_mem_nil, or_false, not_or] at hc
    rw [decimal, hdigits, word?_of_not_mem (by simp [hc]), integer?, ← hdigits, natural?_toDigits]
    · rfl
    · intro _ h
      exact hc.1 (List.cons.inj h).1
  | negSucc n =>
    rw [decimal, word?_of_not_mem (by decide), integer?, natural?_toDigits]
    rfl

theorem isWordly_of_mem_decimal {n : Int} {c : Char} (h : c ∈ decimal n) :
    isWordly c = true ∧ c ≠ quote := by
  have hdigit : ∀ m : Nat, c ∈ Nat.toDigits 10 m → isWordly c = true ∧ c ≠ quote := fun m hc =>
    have := isWordly_of_isDigit (Nat.isDigit_of_mem_toDigits (by decide) (by decide) hc)
    ⟨this.1, this.2.1⟩
  cases n with
  | ofNat n => exact hdigit n h
  | negSucc n =>
    rcases List.mem_cons.1 h with rfl | h
    · decide
    · exact hdigit (n + 1) h

/-! ## Values -/

namespace Stage

variable {stage next : Stage} {token : Token} {c : Char}

theorem read?_blank (h : isBlank c = true) (rest : List Char) :
    stage.read? (c :: rest) = stage.read? rest := by
  rw [read?, read?, tokens?_blank h]

theorem read?_newLine (level : Nat) (rest : List Char) :
    stage.read? (newLine level ++ rest) = stage.read? rest := by
  have hblanks : ∀ n, stage.read? (List.replicate n ' ' ++ rest) = stage.read? rest := by
    intro n
    induction n with
    | zero => rfl
    | succ n ih => rw [List.replicate_succ, List.cons_append, read?_blank rfl, ih]
  rw [newLine, List.cons_append, read?_blank rfl, hblanks]

/-- A text that begins with a token is read on from the stage behind it. -/
theorem read?_of_tokens? {text rest : List Char}
    (htokens : tokens? .between text = (tokens? .between rest).map (token :: ·))
    (hnext : stage.next? token = some next) : stage.read? text = next.read? rest := by
  rw [read?, read?, htokens]
  cases tokens? .between rest with
  | none => rfl
  | some tokens => rw [Option.map_some, Option.bind_some, finish?, hnext, Option.bind_some,
      Option.bind_some]

theorem read?_mark (hmark : mark? c = some token) (hnext : stage.next? token = some next)
    (rest : List Char) : stage.read? (c :: rest) = next.read? rest :=
  read?_of_tokens? (tokens?_mark hmark rest) hnext

end Stage

/-- No object in the value names a member twice. -/
inductive Proper : Json → Prop where
  | null : Proper null
  | bool (value : Bool) : Proper (bool value)
  | int (value : Int) : Proper (int value)
  | text (value : List Char) : Proper (text value)
  | list {items : List Json} (hitems : ∀ item ∈ items, Proper item) : Proper (list items)
  | object {members : Members} (hnames : (members.map Prod.fst).Nodup)
      (hmembers : ∀ member ∈ members, Proper member.2) : Proper (object members)

/-- Where a value may come, its text is read as this value, at any level and whatever comes behind
it. -/
def Reads (value : Json) : Prop :=
  ∀ (level : Nat) (stack : List Frame) (rest : List Char), Delimited rest →
    (Stage.value stack).read? (renderAt level value ++ rest) = (Stage.after value stack).read? rest

theorem reads_of_word? {value : Json} {word : List Char}
    (hrender : ∀ level, renderAt level value = word) (hword : word? word = some value)
    (hwordly : word.all (fun c => isWordly c && c != quote) = true) : Reads value := by
  intro level stack rest hrest
  simp only [List.all_eq_true, Bool.and_eq_true, bne_iff_ne] at hwordly
  rw [hrender]
  exact Stage.read?_of_tokens? (tokens?_of_word? hword hwordly hrest) rfl

theorem reads_text (value : List Char) : Reads (text value) := by
  intro level stack rest _
  rw [renderAt]
  exact Stage.read?_of_tokens? (tokens?_quoted value rest) rfl

theorem delimited_newLine (level : Nat) (rest : List Char) : Delimited (newLine level ++ rest) := by
  rintro c ⟨⟩
  rfl

theorem delimited_renderItems (level : Nat) (items : List Json) {rest : List Char}
    (h : Delimited rest) : Delimited (renderItems level items ++ rest) := by
  cases items with
  | nil => rwa [renderItems]
  | cons item items =>
    rw [renderItems]
    rintro c ⟨⟩
    rfl

theorem delimited_renderMembers (level : Nat) (members : Members) {rest : List Char}
    (h : Delimited rest) : Delimited (renderMembers level members ++ rest) := by
  cases members with
  | nil => rwa [renderMembers]
  | cons member members =>
    rw [renderMembers]
    rintro c ⟨⟩
    rfl

/-- Behind an item of a list, the items after it are read to its end. -/
theorem read?_renderItems {items : List Json} (hitems : ∀ item ∈ items, Reads item)
    (level outer : Nat) (item : Json) (done : List Json) (stack : List Frame) (rest : List Char) :
    (Stage.after item (.list done :: stack)).read?
        (renderItems level items ++ (newLine outer ++ ']' :: rest)) =
      (Stage.after (list (done ++ item :: items)) stack).read? rest := by
  induction items generalizing item done with
  | nil => rw [renderItems, List.nil_append, Stage.read?_newLine, Stage.read?_mark rfl rfl]
  | cons second items ih =>
    rw [List.forall_mem_cons] at hitems
    have hrest := delimited_renderItems level items (delimited_newLine outer (']' :: rest))
    simp only [renderItems, List.cons_append, List.append_assoc]
    rw [Stage.read?_mark rfl rfl, Stage.read?_newLine, hitems.1 level _ _ hrest, ih hitems.2,
      List.append_assoc, List.singleton_append]

theorem reads_list {items : List Json} (hitems : ∀ item ∈ items, Reads item) :
    Reads (list items) := by
  intro level stack rest _
  cases items with
  | nil =>
    rw [renderAt, List.cons_append, Stage.read?_mark rfl rfl, List.singleton_append,
      Stage.read?_mark rfl rfl]
  | cons item items =>
    rw [List.forall_mem_cons] at hitems
    have hrest := delimited_renderItems (level + 1) items (delimited_newLine level (']' :: rest))
    simp only [renderAt, List.cons_append, List.append_assoc, List.nil_append]
    rw [Stage.read?_mark rfl rfl, Stage.read?_newLine, hitems.1 _ _ _ hrest,
      read?_renderItems hitems.2, List.nil_append]

theorem withMember_of_nodup {done members : Members} {member : List Char × Json}
    (hnames : ((done ++ member :: members).map Prod.fst).Nodup) :
    withMember done member.1 member.2 = done ++ [member] := by
  rw [List.map_append, List.map_cons, List.nodup_append] at hnames
  rw [withMember, List.filter_eq_self.2]
  intro earlier hearlier
  rw [bne_iff_ne]
  exact hnames.2.2 _ (List.mem_map_of_mem hearlier) _ (List.mem_cons_self ..)

theorem read?_renderMember {member : List Char × Json} (hmember : Reads member.2) (level : Nat)
    (done : Members) (stack : List Frame) {rest : List Char} (hrest : Delimited rest) :
    (Stage.name done stack).read? (renderMember level member ++ rest) =
      (Stage.after member.2 (.object done member.1 :: stack)).read? rest := by
  rw [renderMember, List.append_assoc, Stage.read?_of_tokens? (tokens?_quoted _ _) rfl,
    List.cons_append, Stage.read?_mark rfl rfl, List.cons_append, Stage.read?_blank rfl,
    hmember level _ _ hrest]

/-- Behind a member of an object, the members after it are read to its end. -/
theorem read?_renderMembers {members : Members} (hmembers : ∀ member ∈ members, Reads member.2)
    (level outer : Nat) (member : List Char × Json) (done : Members)
    (hnames : ((done ++ member :: members).map Prod.fst).Nodup) (stack : List Frame)
    (rest : List Char) :
    (Stage.after member.2 (.object done member.1 :: stack)).read?
        (renderMembers level members ++ (newLine outer ++ closeBrace :: rest)) =
      (Stage.after (object (done ++ member :: members)) stack).read? rest := by
  induction members generalizing member done with
  | nil =>
    rw [renderMembers, List.nil_append, Stage.read?_newLine, Stage.read?_mark rfl rfl,
      withMember_of_nodup hnames]
  | cons second members ih =>
    have hmember := withMember_of_nodup hnames
    rw [List.append_cons] at hnames
    rw [List.forall_mem_cons] at hmembers
    have hrest := delimited_renderMembers level members
      (delimited_newLine outer (closeBrace :: rest))
    simp only [renderMembers, List.cons_append, List.append_assoc]
    rw [Stage.read?_mark rfl rfl, Stage.read?_newLine, hmember,
      read?_renderMember hmembers.1 _ _ _ hrest, ih hmembers.2 _ _ hnames, ← List.append_cons]

theorem reads_object {members : Members} (hnames : (members.map Prod.fst).Nodup)
    (hmembers : ∀ member ∈ members, Reads member.2) : Reads (object members) := by
  intro level stack rest _
  cases members with
  | nil =>
    rw [renderAt, List.cons_append, Stage.read?_mark rfl rfl, List.singleton_append,
      Stage.read?_mark rfl rfl]
  | cons member members =>
    rw [List.forall_mem_cons] at hmembers
    have hrest := delimited_renderMembers (level + 1) members
      (delimited_newLine level (closeBrace :: rest))
    simp only [renderAt, List.cons_append, List.append_assoc, List.nil_append]
    rw [Stage.read?_mark rfl rfl, Stage.read?_newLine, read?_renderMember hmembers.1 _ _ _ hrest,
      read?_renderMembers hmembers.2 _ _ _ _ hnames, List.nil_append]

theorem Proper.reads {value : Json} (h : Proper value) : Reads value := by
  induction h with
  | null => exact reads_of_word? (fun _ => by rw [renderAt]) rfl rfl
  | bool value =>
    cases value with
    | false => exact reads_of_word? (fun _ => by rw [renderAt]) rfl rfl
    | true => exact reads_of_word? (fun _ => by rw [renderAt]) rfl rfl
  | int value =>
    refine reads_of_word? (fun _ => by rw [renderAt]) (word?_decimal value) ?_
    simp only [List.all_eq_true, Bool.and_eq_true, bne_iff_ne]
    exact fun _ => isWordly_of_mem_decimal
  | text value => exact reads_text value
  | list _ ih => exact reads_list ih
  | object hnames _ ih => exact reads_object hnames ih

/-- The text of a value is read as this value. -/
theorem read?_render {value : Json} (h : Proper value) : read? (render value) = some value := by
  have hreads := h.reads 0 [] [] (by rintro c ⟨⟩)
  rw [List.append_nil] at hreads
  exact hreads

-- Other texts of a value are read as well, with blanks, escapes and a negative zero in them.
example : read? " [ -0 ,\t10, \"\\u00e9\\/\\ud83d\\ude00\", [ ] ]\r\n".toList =
    some (list [int 0, int 10, text ['é', '/', '😀'], list []]) := by cbv

-- These are texts of no value.
example : read? "[01]".toList = none ∧ read? "[1,]".toList = none ∧
    read? "[\"\\ud83d\"]".toList = none ∧ read? "1 2".toList = none := by cbv

/-! ## Shapes -/

theorem Checked.items_map {α : Type} {check : Json → Checked α} {write : α → Json}
    (h : ∀ a, check (write a) = .ok a) (values : List α) (index : Nat) :
    Checked.items check index (values.map write) = .ok values := by
  induction values generalizing index with
  | nil => rfl
  | cons a values ih =>
    rw [List.map_cons, Checked.items, h, ih]
    rfl

end Json

open Json

theorem Runner.ofJson_toJson (runner : Runner) : Runner.ofJson runner.toJson = .ok runner := rfl

theorem Schema.ofJson_toJson (schema : Schema) : Schema.ofJson schema.toJson = .ok schema := by
  obtain ⟨name, runnerName, line⟩ := schema
  cases runnerName with
  | none => rfl
  | some runnerName => rfl

theorem Runner.proper_toJson (runner : Runner) : runner.toJson.Proper := by
  refine .object (by simp) ?_
  simp only [List.forall_mem_cons]
  exact ⟨.text _, .int _, by simp⟩

theorem Schema.proper_toJson (schema : Schema) : schema.toJson.Proper := by
  refine .object (by simp) ?_
  simp only [List.forall_mem_cons]
  refine ⟨.text _, ?_, .int _, by simp⟩
  cases schema.runnerName with
  | none => exact .null
  | some runnerName => exact .text runnerName

namespace FileMetadata

variable {metadata : FileMetadata} {value : Json}

theorem exists_toJson (h : Utf8.Valid metadata.file) : ∃ value, metadata.toJson = .ok value := by
  obtain ⟨file, hfile⟩ := h
  rw [toJson, (Utf8.decode_eq_ok_iff _ file).2 hfile]
  exact ⟨_, rfl⟩

theorem toJson_cases (h : metadata.toJson = .ok value) :
    ∃ file, Utf8.encode file = metadata.file ∧
      value = .object [("file".toList, .text file),
        ("runners".toList, .list (metadata.runners.map Runner.toJson)),
        ("schemas".toList, .list (metadata.schemas.map Schema.toJson))] := by
  unfold toJson at h
  split at h
  · cases h
  next file hfile =>
    cases h
    exact ⟨file, (Utf8.decode_eq_ok_iff _ file).1 hfile, rfl⟩

theorem ofJson_of_toJson (h : metadata.toJson = .ok value) : ofJson value = .ok metadata := by
  obtain ⟨file, hfile, rfl⟩ := toJson_cases h
  have hrunners := Checked.items_map Runner.ofJson_toJson metadata.runners 0
  have hschemas := Checked.items_map Schema.ofJson_toJson metadata.schemas 0
  show Checked.both _ (Checked.both Prod.mk (.ok file) (Checked.within _ (Checked.items _ 0 _)))
    (Checked.within _ (Checked.items _ 0 _)) = _
  rw [hrunners, hschemas]
  show Except.ok (FileMetadata.mk (Utf8.encode file) metadata.runners metadata.schemas) = _
  rw [hfile]

theorem proper_of_toJson (h : metadata.toJson = .ok value) : value.Proper := by
  obtain ⟨file, -, rfl⟩ := toJson_cases h
  refine .object (by simp) ?_
  simp only [List.forall_mem_cons]
  refine ⟨.text _, .list ?_, .list ?_, by simp⟩
  · rw [List.forall_mem_map]
    exact fun runner _ => runner.proper_toJson
  · rw [List.forall_mem_map]
    exact fun schema _ => schema.proper_toJson

theorem exists_mapM_toJson {files : List FileMetadata} (h : ∀ file ∈ files, Utf8.Valid file.file) :
    ∃ values, files.mapM toJson = .ok values := by
  induction files with
  | nil => exact ⟨[], rfl⟩
  | cons file files ih =>
    rw [List.forall_mem_cons] at h
    obtain ⟨value, hvalue⟩ := exists_toJson h.1
    obtain ⟨values, hvalues⟩ := ih h.2
    rw [List.mapM_cons, hvalue, hvalues]
    exact ⟨_, rfl⟩

theorem of_mapM_toJson {files : List FileMetadata} {values : List Json}
    (h : files.mapM toJson = .ok values) :
    (∀ value ∈ values, value.Proper) ∧ ∀ index, Checked.items ofJson index values = .ok files := by
  induction files generalizing values with
  | nil =>
    cases h
    exact ⟨nofun, fun _ => rfl⟩
  | cons file files ih =>
    rw [List.mapM_cons] at h
    cases hvalue : file.toJson with
    | error cause => rw [hvalue] at h; cases h
    | ok value =>
      cases hvalues : files.mapM toJson with
      | error cause => rw [hvalue, hvalues] at h; cases h
      | ok values =>
        rw [hvalue, hvalues] at h
        cases h
        obtain ⟨hproper, hitems⟩ := ih hvalues
        constructor
        · exact List.forall_mem_cons.2 ⟨proper_of_toJson hvalue, hproper⟩
        · intro index
          rw [Checked.items, ofJson_of_toJson hvalue, hitems]
          rfl

end FileMetadata

/-! ## The index -/

/-- A document is the text of a JSON value that describes the index. -/
theorem indexDocument_cases {metadata : List FileMetadata} {document : Bytes}
    (h : indexDocument metadata = .ok document) :
    ∃ value : Json, Utf8.decode document = .ok value.render ∧ read? value.render = some value ∧
      indexOfJson value = .ok metadata := by
  unfold indexDocument at h
  cases hvalues : metadata.mapM FileMetadata.toJson with
  | error cause => rw [hvalues] at h; cases h
  | ok values =>
    rw [hvalues] at h
    cases h
    obtain ⟨hproper, hitems⟩ := FileMetadata.of_mapM_toJson hvalues
    exact ⟨list values, (Utf8.decode_eq_ok_iff _ _).2 rfl, read?_render (.list hproper), hitems 0⟩

theorem exists_indexDocument {metadata : List FileMetadata}
    (h : ∀ file ∈ metadata, Utf8.Valid file.file) :
    ∃ document, indexDocument metadata = .ok document := by
  obtain ⟨values, hvalues⟩ := FileMetadata.exists_mapM_toJson h
  rw [indexDocument, hvalues]
  exact ⟨_, rfl⟩

/-- No two indices have the same document. -/
theorem indexDocument_injective {first second : List FileMetadata} {document : Bytes}
    (hfirst : indexDocument first = .ok document) (hsecond : indexDocument second = .ok document) :
    first = second := by
  obtain ⟨value, hdecode, hread, hshape⟩ := indexDocument_cases hfirst
  obtain ⟨other, hdecode', hread', hshape'⟩ := indexDocument_cases hsecond
  rw [hdecode, Except.ok.injEq] at hdecode'
  rw [← hdecode', hread, Option.some.injEq] at hread'
  rw [← hread', hshape, Except.ok.injEq] at hshape'
  exact hshape'

/-- What a successful write leaves in the file. -/
theorem writeIndex_cases {disk written : Disk} {metadata : List FileMetadata} {output : Path}
    (h : writeIndex disk metadata output = (.ok (), written)) :
    ∃ document, indexDocument metadata = .ok document ∧ written.read output = .ok document := by
  unfold writeIndex at h
  split at h
  · cases h
  split at h
  · cases h
  next document hdocument =>
    split at h
    · cases h
    next hwrite =>
      cases h
      exact ⟨document, hdocument, Disk.read_of_write hwrite⟩

theorem writeIndex_ne_document {metadata : List FileMetadata} {document : Bytes}
    (h : indexDocument metadata = .ok document) (disk : Disk) (output : Path) (cause : StrayBytes) :
    (writeIndex disk metadata output).1 ≠ .error (.document cause) := by
  unfold writeIndex
  rw [h]
  dsimp only
  split
  · nofun
  · split <;> nofun

/-- An index whose names are UTF-8 has a document, every successful write leaves it in the file, and
it is read back as a value that describes this index and no other. -/
theorem index_reads_back (metadata : List FileMetadata)
    (hvalid : ∀ file ∈ metadata, Utf8.Valid file.file) :
    ∃ document value, indexDocument metadata = .ok document ∧
      (∀ disk output cause, (writeIndex disk metadata output).1 ≠ .error (.document cause)) ∧
      (∀ disk output written, writeIndex disk metadata output = (.ok (), written) →
        written.read output = .ok document) ∧
      Utf8.decode document = .ok value.render ∧ read? value.render = some value ∧
      indexOfJson value = .ok metadata ∧
      ∀ other, indexDocument other = .ok document → other = metadata := by
  obtain ⟨document, hdocument⟩ := exists_indexDocument hvalid
  obtain ⟨value, hdecode, hread, hshape⟩ := indexDocument_cases hdocument
  refine ⟨document, value, hdocument, writeIndex_ne_document hdocument, ?_, hdecode, hread, hshape,
    ?_⟩
  · intro disk output written hwrite
    obtain ⟨content, hcontent, hfile⟩ := writeIndex_cases hwrite
    rw [hdocument, Except.ok.injEq] at hcontent
    rw [hfile, hcontent]
  · intro other hother
    exact indexDocument_injective hother hdocument

/-- An index with quotes, backslashes, control characters and characters beyond the first plane. -/
def awkwardIndex : List FileMetadata :=
  [⟨utf8 "a\"\\😀.ts", [⟨['\n', Char.ofNat 0, 'é'], 12⟩],
      [⟨[], none, 1⟩, ⟨['/'], some [Char.ofNat 31, '😀'], 1⟩]⟩,
    ⟨[], [], []⟩]

set_option maxRecDepth 4000 in
/-- It is written, and nothing else has the same document. -/
theorem awkwardIndex_reads_back :
    let output := Path.ofBytes (utf8 "out/index.json")
    let document := utf8 <|
      "[\n  \x7b\n    \"file\": \"a\\\"\\\\😀.ts\",\n    \"runners\": [\n      \x7b\n" ++
      "        \"name\": \"\\n\\u0000é\",\n        \"line\": 12\n      \x7d\n    ],\n" ++
      "    \"schemas\": [\n      \x7b\n        \"name\": \"\",\n        \"runner_name\": null,\n" ++
      "        \"line\": 1\n      \x7d,\n      \x7b\n        \"name\": \"/\",\n" ++
      "        \"runner_name\": \"\\u001f😀\",\n        \"line\": 1\n      \x7d\n    ]\n  \x7d,\n" ++
      "  \x7b\n    \"file\": \"\",\n    \"runners\": [],\n    \"schemas\": []\n  \x7d\n]"
    (writeIndex ⟨[], []⟩ awkwardIndex output).2.read output = .ok document ∧
      ∀ other, indexDocument other = .ok document → other = awkwardIndex := by
  intro output document
  have hvalid : ∀ file ∈ awkwardIndex, Utf8.Valid file.file := by
    refine List.forall_mem_cons.2 ⟨?_, List.forall_mem_singleton.2 Utf8.valid_nil⟩
    exact ⟨"a\"\\😀.ts".toList, by decide +kernel⟩
  have hdocument : indexDocument awkwardIndex = .ok document := by cbv
  have hwritten : (writeIndex ⟨[], []⟩ awkwardIndex output).1 = .ok () := by cbv
  obtain ⟨found, value, hfound, -, hwrites, -, -, -, hunique⟩ := index_reads_back awkwardIndex hvalid
  obtain rfl : document = found := Except.ok.inj (hdocument.symm.trans hfound)
  exact ⟨hwrites _ _ _ (Prod.ext hwritten rfl), hunique⟩

end Prologue
