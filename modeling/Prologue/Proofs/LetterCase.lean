import Mathlib.Data.List.Basic
import Mathlib.Data.List.Infix
import Prologue.Index.Discovery
import Prologue.Proofs.Encoding
import Prologue.Proofs.Lists

/-!
# Letter case and the sigma

Lower case is almost a matter of single characters. The capital sigma is the exception: at the end of a
word it becomes another letter than elsewhere, so that a text may be spelled in one way alone and in
another way as a part of a longer text. Whether that can happen depends on the characters next to the
sigma only, and these say the same about a word in either case, since every character that has a
lower case has case, and so has its lower case.
-/

namespace Prologue

theorem occursIn_eq_true_iff (part text : List Char) : occursIn part text = true ↔ part <:+: text := by
  induction text with
  | nil => simp [occursIn]
  | cons c rest ih =>
    rw [occursIn, Bool.or_eq_true, List.isPrefixOf_iff_prefix, ih, List.infix_cons_iff]

namespace Text

/-! ## Ranges -/

namespace Ranges

/-- Whether all code points from `first` to `last` lie in one of the ranges. -/
def covers (ranges : Ranges) (first last : Nat) : Bool :=
  ranges.any fun range => range.1.ble first && last.ble range.2

theorem holds_of_covers {ranges : Ranges} {first last code : Nat}
    (h : ranges.covers first last = true) (hfirst : first ≤ code) (hlast : code ≤ last) :
    ranges.holds code = true := by
  obtain ⟨range, hmem, hrange⟩ := List.any_eq_true.1 h
  rw [Bool.and_eq_true, Nat.ble_eq, Nat.ble_eq] at hrange
  refine List.any_eq_true.2 ⟨range, hmem, ?_⟩
  rw [Bool.and_eq_true, decide_eq_true_eq, decide_eq_true_eq]
  omega

/-- The first range ends before the second one begins. -/
def Before (first second : Nat × Nat) : Prop := first.1 ≤ first.2 ∧ first.2 < second.1

instance (first second : Nat × Nat) : Decidable (Before first second) :=
  inferInstanceAs (Decidable (_ ∧ _))

instance : Trans Before Before Before where
  trans := by
    intro first second third hfirst hsecond
    unfold Before at *
    omega

/-- Whether no code point lies in ranges of both lists, found in one pass along the two. -/
def apart : Ranges → Ranges → Bool
  | [], _ => true
  | range :: rest, others =>
    let later := others.dropWhile fun other => other.2.blt range.1
    (later.head?.all fun other => range.2.blt other.1) && apart rest later

theorem disjoint_of_apart {ranges others : Ranges} (hranges : ranges.Pairwise Before)
    (hothers : others.Pairwise Before) (h : apart ranges others = true) :
    ∀ range ∈ ranges, ∀ other ∈ others, range.2 < other.1 ∨ other.2 < range.1 := by
  induction ranges generalizing others with
  | nil => simp
  | cons range rest ih =>
    rw [List.pairwise_cons] at hranges
    have hlater := hothers.sublist (List.dropWhile_sublist fun other => other.2.blt range.1)
    have hsplit := List.takeWhile_append_dropWhile (p := fun other => other.2.blt range.1) (l := others)
    rw [apart, Bool.and_eq_true] at h
    -- What is passed over ends before the first range, and so before the others, too.
    have hpassed : ∀ other ∈ others.takeWhile (fun other => other.2.blt range.1),
        other.2 < range.1 := by
      intro other hmem
      simpa using List.all_eq_true.1 List.all_takeWhile other hmem
    have hfirst : ∀ other ∈ others.dropWhile (fun other => other.2.blt range.1),
        range.2 < other.1 := by
      intro other hmem
      cases hdrop : others.dropWhile fun other => other.2.blt range.1 with
      | nil => simp [hdrop] at hmem
      | cons first more =>
        rw [hdrop] at hmem hlater
        have hbefore : range.2 < first.1 := by simpa [hdrop] using h.1
        rcases List.mem_cons.1 hmem with rfl | hmem
        · exact hbefore
        · obtain ⟨hbounds, hnext⟩ := (List.pairwise_cons.1 hlater).1 other hmem
          omega
    intro own hown other hother
    rw [← hsplit, List.mem_append] at hother
    rcases List.mem_cons.1 hown with rfl | hown
    · exact hother.elim (fun hmem => .inr (hpassed other hmem)) fun hmem => .inl (hfirst other hmem)
    · rcases hother with hmem | hmem
      · have hgap := hranges.1 own hown
        have hend := hpassed other hmem
        unfold Before at hgap
        omega
      · exact ih hranges.2 hlater h.2 own hown other hmem

end Ranges

/-- No character with case is one that a word's case does not depend on. -/
theorem caseIgnorable_of_cased {code : Nat} (h : cased.holds code = true) :
    caseIgnorable.holds code = false := by
  have hcased : cased.Pairwise Ranges.Before := by
    rw [← List.isChain_iff_pairwise]
    decide +kernel
  have hignorable : caseIgnorable.Pairwise Ranges.Before := by
    rw [← List.isChain_iff_pairwise]
    decide +kernel
  have happart := Ranges.disjoint_of_apart hcased hignorable (by decide +kernel)
  obtain ⟨range, hrange, hcode⟩ := List.any_eq_true.1 h
  rw [Ranges.holds, List.any_eq_false]
  intro other hother hboth
  simp only [Bool.and_eq_true, decide_eq_true_eq] at hcode hboth
  have hdisjoint := happart range hrange other hother
  omega

/-! ## Single characters -/

/-- Every code point that is moved has case, and so has the one that it is moved to. -/
theorem lowerRuns_cased : ∀ run ∈ lowerRuns,
    (cased.covers run.first run.last ||
        (List.range ((run.last - run.first) / run.step + 1)).all fun count =>
          cased.holds (run.first + run.step * count)) = true ∧
      cased.covers (run.first + run.shift).toNat (run.last + run.shift).toNat = true := by
  decide +kernel

theorem lowerCode_eq_or (code : Nat) : lowerCode code = code ∨ ∃ run ∈ lowerRuns,
    (run.first ≤ code ∧ code ≤ run.last ∧ (code - run.first) % run.step = 0) ∧
      lowerCode code = (code + run.shift).toNat := by
  unfold lowerCode
  split
  next run hrun =>
    refine .inr ⟨run, List.mem_of_find?_eq_some hrun, ?_, rfl⟩
    simpa [and_assoc] using List.find?_some hrun
  · exact .inl rfl

theorem cased_of_lowerCode_ne {code : Nat} (h : lowerCode code ≠ code) :
    cased.holds code = true ∧ cased.holds (lowerCode code) = true := by
  obtain ⟨run, hrun, ⟨hfirst, hlast, hstep⟩, himage⟩ := (lowerCode_eq_or code).resolve_left h
  obtain ⟨hsource, htarget⟩ := lowerRuns_cased run hrun
  rw [himage]
  refine ⟨?_, Ranges.holds_of_covers htarget (by omega) (by omega)⟩
  rw [Bool.or_eq_true] at hsource
  rcases hsource with hcovers | hpoints
  · exact Ranges.holds_of_covers hcovers hfirst hlast
  · have hcount : code = run.first + run.step * ((code - run.first) / run.step) := by
      have := Nat.div_add_mod (code - run.first) run.step
      omega
    rw [hcount]
    refine List.all_eq_true.1 hpoints _ (List.mem_range.2 (Nat.lt_succ_of_le ?_))
    exact Nat.div_le_div_right (by omega)

/-- The code points with case are those of characters. -/
theorem cased_scalar {code : Nat} (h : cased.holds code = true) :
    code < 0xD800 ∨ (0xDFFF < code ∧ code < 0x110000) := by
  have hranges : ∀ range ∈ cased, range.2 < 0xD800 ∨ (0xDFFF < range.1 ∧ range.2 < 0x110000) := by
    decide +kernel
  obtain ⟨range, hrange, hcode⟩ := List.any_eq_true.1 h
  have hscalar := hranges range hrange
  simp only [Bool.and_eq_true, decide_eq_true_eq] at hcode
  omega

def capitalSigma : Char := Char.ofNat 0x3A3

def sigma : Char := Char.ofNat 0x3C3

/-- The form of the sigma at the end of a word. -/
def finalSigma : Char := Char.ofNat 0x3C2

/-- The lower case of a single character, context left aside. -/
def lowerChar (c : Char) : List Char :=
  if c.toNat = 0x130 then [Char.ofNat 0x69, Char.ofNat 0x307] else [Char.ofNat (lowerCode c.toNat)]

/-- The lower case of a text, character by character. -/
def lowerEach (text : List Char) : List Char := text.flatMap lowerChar

/-- Whether a character has case, if a word's case depends on it. -/
def bearing (c : Char) : Option Bool :=
  if caseIgnorable.holds c.toNat then none else some (cased.holds c.toNat)

theorem meetsCased_eq (text : List Char) : meetsCased text = (text.findSome? bearing).getD false := by
  induction text with
  | nil => rfl
  | cons c rest ih =>
    rw [meetsCased, List.findSome?_cons, bearing]
    split <;> simp [ih]

theorem meetsCased_eq_true_iff (text : List Char) :
    meetsCased text = true ↔ text.findSome? bearing = some true := by
  rw [meetsCased_eq]
  cases text.findSome? bearing <;> simp

theorem bearing_of_cased {c : Char} (h : cased.holds c.toNat = true) : bearing c = some true := by
  rw [bearing, caseIgnorable_of_cased h, h]
  rfl

theorem bearing_ofNat_lowerCode (c : Char) : bearing (Char.ofNat (lowerCode c.toNat)) = bearing c := by
  by_cases h : lowerCode c.toNat = c.toNat
  · rw [h, Char.ofNat_toNat]
  · obtain ⟨hsource, himage⟩ := cased_of_lowerCode_ne h
    rw [bearing_of_cased hsource, bearing_of_cased]
    rwa [Utf8.toNat_ofNat_of_valid (cased_scalar himage)]

theorem findSome?_lowerChar (c : Char) :
    (lowerChar c).findSome? bearing = bearing c ∧ (lowerChar c).reverse.findSome? bearing = bearing c := by
  rw [lowerChar]
  split
  next hdotted =>
    have hc : c = Char.ofNat 0x130 := by rw [← hdotted, Char.ofNat_toNat]
    subst hc
    decide +kernel
  · simp [bearing_ofNat_lowerCode]

/-- What a text shows of its case to the text before it is the same in lower case. -/
theorem findSome?_lowerEach (text : List Char) :
    (lowerEach text).findSome? bearing = text.findSome? bearing :=
  findSome?_flatMap_of (fun c => (findSome?_lowerChar c).1) text

/-- And so is what it shows to the text behind it. -/
theorem findSome?_reverse_lowerEach (text : List Char) :
    (lowerEach text).reverse.findSome? bearing = text.reverse.findSome? bearing := by
  rw [lowerEach, List.reverse_flatMap]
  exact findSome?_flatMap_of (fun c => (findSome?_lowerChar c).2) text.reverse

/-! ## Parts of a text -/

theorem lowerEach_cons (c : Char) (rest : List Char) :
    lowerEach (c :: rest) = lowerChar c ++ lowerEach rest :=
  List.flatMap_cons

theorem lowerEach_append (front back : List Char) :
    lowerEach (front ++ back) = lowerEach front ++ lowerEach back :=
  List.flatMap_append

theorem lowerChar_capitalSigma : lowerChar capitalSigma = [sigma] := by decide

theorem lowerChar_sigma : lowerChar sigma = [sigma] := by decide

/-- The capital sigma alone depends on what stands around it. -/
theorem lowerFrom_cons (before : List Char) (c : Char) (rest : List Char) :
    lowerFrom before (c :: rest) =
      (if c = capitalSigma ∧ meetsCased before = true ∧ meetsCased rest = false then [finalSigma]
        else lowerChar c) ++ lowerFrom (c :: before) rest := by
  rw [lowerFrom]
  by_cases hsigma : c = capitalSigma
  · subst hsigma
    rw [lowerChar_capitalSigma]
    cases meetsCased before <;> cases meetsCased rest <;> rfl
  · have hcode : c.toNat ≠ 0x3A3 := fun h => hsigma (by rw [capitalSigma, ← h, Char.ofNat_toNat])
    simp only [hsigma, hcode, lowerChar, false_and, if_false]
    split
    · rw [if_neg (by omega)]
    · rfl

/-- A part of a text is spelled as it is alone, if none of its capital sigmas ends a word there. -/
theorem lowerFrom_append_of_forall (outer : List Char) {text : List Char} (after : List Char)
    (h : ∀ front back, text = front ++ capitalSigma :: back →
      meetsCased (front.reverse ++ outer) = false ∨ meetsCased (back ++ after) = true) :
    lowerFrom outer (text ++ after) = lowerEach text ++ lowerFrom (text.reverse ++ outer) after := by
  induction text generalizing outer with
  | nil => rfl
  | cons c rest ih =>
    have hmedial : ¬(c = capitalSigma ∧ meetsCased outer = true ∧
        meetsCased (rest ++ after) = false) := by
      rintro ⟨rfl, hbefore, hbehind⟩
      have hbetween := h [] rest rfl
      simp [hbefore, hbehind] at hbetween
    have hrest := ih (c :: outer) fun front back hsplit => by
      simpa using h (c :: front) back (by rw [hsplit]; rfl)
    rw [List.cons_append, lowerFrom_cons, if_neg hmedial, hrest, lowerEach_cons]
    simp

theorem lowerFrom_append_of_not_mem (outer : List Char) {text : List Char} (after : List Char)
    (h : capitalSigma ∉ text) :
    lowerFrom outer (text ++ after) = lowerEach text ++ lowerFrom (text.reverse ++ outer) after :=
  lowerFrom_append_of_forall outer after fun front back hsplit => absurd (by simp [hsplit]) h

theorem lowerFrom_of_not_mem (before : List Char) {text : List Char} (h : capitalSigma ∉ text) :
    lowerFrom before text = lowerEach text := by
  have hlower := lowerFrom_append_of_not_mem before [] h
  rwa [List.append_nil, lowerFrom, List.append_nil] at hlower

theorem exists_lowerFrom_append (outer front back : List Char) : ∃ image,
    lowerFrom outer (front ++ back) = image ++ lowerFrom (front.reverse ++ outer) back := by
  induction front generalizing outer with
  | nil => exact ⟨[], rfl⟩
  | cons c rest ih =>
    obtain ⟨image, himage⟩ := ih (c :: outer)
    rw [List.cons_append, lowerFrom_cons, himage, List.reverse_cons, List.append_assoc rest.reverse]
    exact ⟨_, (List.append_assoc ..).symm⟩

/-- Each sigma of a text has a letter behind it in the text, or a sign without case in front of it:
its form does not depend on where the text stands. -/
def Firm (text : List Char) : Prop :=
  ∀ front back, lowerEach text = front ++ sigma :: back →
    back.findSome? bearing = some true ∨ front.reverse.findSome? bearing = some false

theorem firm_iff (text : List Char) : Firm text ↔ ∀ index < (lowerEach text).length,
    (lowerEach text)[index]? = some sigma →
      ((lowerEach text).drop (index + 1)).findSome? bearing = some true ∨
        ((lowerEach text).take index).reverse.findSome? bearing = some false := by
  constructor
  · intro h index hindex hsigma
    apply h
    rw [List.getElem?_eq_getElem hindex, Option.some.injEq] at hsigma
    rw [← hsigma, List.getElem_cons_drop, List.take_append_drop]
  · intro h front back hsplit
    simpa [hsplit] using h front.length

instance (text : List Char) : Decidable (Firm text) := decidable_of_iff' _ (firm_iff text)

/-- The name holds the text, in whatever case. -/
def NamedAfter (name text : List Char) : Prop :=
  ∃ part, part <:+: name ∧ lowerEach part = lowerEach text

theorem lowerFrom_append_of_firm {text : List Char} (h : Firm text) (outer after : List Char) :
    lowerFrom outer (text ++ after) = lowerEach text ++ lowerFrom (text.reverse ++ outer) after := by
  apply lowerFrom_append_of_forall
  intro front back hsplit
  have hletters := h (lowerEach front) (lowerEach back) (by
    rw [hsplit, lowerEach_append, lowerEach_cons, lowerChar_capitalSigma]
    rfl)
  rw [findSome?_lowerEach, findSome?_reverse_lowerEach] at hletters
  simp only [meetsCased_eq, List.findSome?_append]
  rcases hletters with hletter | hsign
  · exact .inr (by simp [hletter])
  · exact .inl (by simp [hsign])

theorem lower_infix_of_firm {name text : List Char} (h : Firm text) (hnamed : NamedAfter name text) :
    lower text <:+: lower name := by
  obtain ⟨part, ⟨front, back, rfl⟩, hpart⟩ := hnamed
  have hfirm : Firm part := by rwa [Firm, hpart]
  have htext : lower text = lowerEach part := by
    have hlower := lowerFrom_append_of_firm h [] []
    rw [List.append_nil, lowerFrom, List.append_nil] at hlower
    rw [lower, hlower, hpart]
  obtain ⟨image, himage⟩ := exists_lowerFrom_append [] front (part ++ back)
  rw [htext, lower, List.append_assoc, himage, lowerFrom_append_of_firm hfirm]
  exact List.infix_append' ..

/-! ## Names that are spelled otherwise -/

theorem lowerChar_eq_of_mem {c : Char} (h : sigma ∈ lowerChar c) : lowerChar c = [sigma] := by
  rw [lowerChar] at h ⊢
  split at h
  next hdotted => exact absurd h (by decide)
  next hother => rw [if_neg hother, List.mem_singleton.1 h]

/-- A sigma of the lower case comes from one character. -/
theorem exists_of_lowerEach_eq {text front back : List Char}
    (h : lowerEach text = front ++ sigma :: back) : ∃ first c last, text = first ++ c :: last ∧
      lowerEach first = front ∧ lowerChar c = [sigma] ∧ lowerEach last = back := by
  induction text generalizing front with
  | nil => simp [lowerEach] at h
  | cons d rest ih =>
    rw [lowerEach_cons, List.append_eq_append_iff] at h
    rcases h with ⟨more, rfl, hrest⟩ | ⟨image, hd, htail⟩
    · obtain ⟨first, c, last, rfl, rfl, hc⟩ := ih hrest
      exact ⟨d :: first, c, last, rfl, lowerEach_cons d first, hc⟩
    · cases image with
      | nil =>
        have hrest : lowerEach rest = [] ++ sigma :: back := htail.symm
        obtain ⟨first, c, last, rfl, hfirst, hc⟩ := ih hrest
        refine ⟨d :: first, c, last, rfl, ?_, hc⟩
        rw [lowerEach_cons, hfirst, hd, List.append_nil, List.append_nil]
      | cons first image =>
        obtain ⟨rfl, rfl⟩ := List.cons.inj htail
        have hsigma := lowerChar_eq_of_mem (c := d) (by simp [hd])
        rw [hd, List.append_eq_singleton_iff] at hsigma
        simp only [List.cons_ne_nil, and_false, or_false, List.cons.injEq, true_and] at hsigma
        obtain ⟨rfl, rfl⟩ := hsigma
        exact ⟨[], d, rest, rfl, rfl, hd, rfl⟩

/-- A text with its capital sigmas made small. -/
def settle (text : List Char) : List Char :=
  text.map fun c => if c = capitalSigma then sigma else c

theorem not_mem_settle (text : List Char) : capitalSigma ∉ settle text := by
  intro hmem
  obtain ⟨c, -, hc⟩ := List.mem_map.1 hmem
  split at hc
  next => exact absurd hc (by decide)
  next hother => exact hother hc

theorem lowerEach_settle (text : List Char) : lowerEach (settle text) = lowerEach text := by
  rw [lowerEach, settle, List.flatMap_map]
  refine List.flatMap_congr fun c _ => ?_
  split
  next h => rw [h, lowerChar_sigma, lowerChar_capitalSigma]
  · rfl

/-- A text that is not spelled character by character has another sigma at the end of a word. -/
theorem lowerFrom_eq_or_count_lt (before text : List Char) : lowerFrom before text = lowerEach text ∨
    (lowerEach text).count finalSigma < (lowerFrom before text).count finalSigma := by
  induction text generalizing before with
  | nil => exact .inl rfl
  | cons c rest ih =>
    rw [lowerFrom_cons, lowerEach_cons]
    have hrest := ih (c :: before)
    have hle : (lowerEach rest).count finalSigma ≤
        (lowerFrom (c :: before) rest).count finalSigma :=
      hrest.elim (fun heq => heq ▸ Nat.le_refl _) Nat.le_of_lt
    split
    next hfinal =>
      refine .inr ?_
      have hnone : (lowerChar c).count finalSigma = 0 := by
        rw [hfinal.1, lowerChar_capitalSigma]
        decide
      rw [List.count_append, List.count_append, hnone, List.count_singleton_self]
      omega
    · rcases hrest with heq | hlt
      · exact .inl (by rw [heq])
      · refine .inr ?_
        rw [List.count_append, List.count_append]
        omega

/-- After a letter, a sigma that no letter follows has the form at the end of a word. -/
theorem lower_append_capitalSigma {word first last : List Char} (hword : capitalSigma ∉ word)
    (hcased : word.reverse.findSome? bearing = some true)
    (hfirst : (lowerEach first).reverse.findSome? bearing ≠ some false)
    (hlast : (lowerEach last).findSome? bearing ≠ some true) :
    lower (word ++ settle first ++ capitalSigma :: settle last) =
      lowerEach word ++ lowerEach first ++ finalSigma :: lowerEach last := by
  have hmem : capitalSigma ∉ word ++ settle first := by
    rw [List.mem_append, not_or]
    exact ⟨hword, not_mem_settle first⟩
  have hbefore : meetsCased (word ++ settle first).reverse = true := by
    rw [← lowerEach_settle, findSome?_reverse_lowerEach] at hfirst
    rw [meetsCased_eq_true_iff, List.reverse_append, List.findSome?_append, hcased]
    cases hsettled : (settle first).reverse.findSome? bearing with
    | none => rfl
    | some letter =>
      cases letter with
      | false => exact absurd hsettled hfirst
      | true => rfl
  have hbehind : meetsCased (settle last) = false := by
    rw [← lowerEach_settle, findSome?_lowerEach] at hlast
    rwa [← Bool.not_eq_true, meetsCased_eq_true_iff]
  rw [lower, lowerFrom_append_of_not_mem _ _ hmem, List.append_nil, lowerFrom_cons,
    if_pos ⟨rfl, hbefore, hbehind⟩, lowerFrom_of_not_mem _ (not_mem_settle last), lowerEach_append,
    lowerEach_settle, lowerEach_settle]
  rfl

/-- A text with a sigma whose form is not settled can stand in a name that is spelled otherwise. -/
theorem exists_not_infix_of_not_firm {text : List Char} (h : ¬Firm text) (word : List Char)
    (hword : capitalSigma ∉ word) (hcased : word.reverse.findSome? bearing = some true)
    (hsigma : sigma ∉ lowerEach word) (hfinal : finalSigma ∉ lowerEach word) :
    ∃ name, NamedAfter name text ∧ lowerEach word <:+: lower name ∧ ¬lower text <:+: lower name := by
  simp only [Firm, not_forall, not_or] at h
  obtain ⟨front, back, hsplit, hback, hfront⟩ := h
  obtain ⟨first, c, last, rfl, rfl, hc, rfl⟩ := exists_of_lowerEach_eq hsplit
  rcases lowerFrom_eq_or_count_lt [] (first ++ c :: last) with heach | hlt
  -- Alone, the sigma is inside a word: make it a capital one at the end of a word.
  · have hlower := lower_append_capitalSigma hword hcased hfront hback
    refine ⟨word ++ settle first ++ capitalSigma :: settle last,
      ⟨settle first ++ capitalSigma :: settle last, ?_, ?_⟩, ?_, ?_⟩
    · exact ⟨word, [], by simp⟩
    · rw [hsplit, lowerEach_append, lowerEach_cons, lowerChar_capitalSigma, lowerEach_settle,
        lowerEach_settle]
      rfl
    · rw [hlower, List.append_assoc]
      exact List.infix_append_left ..
    · intro hinfix
      have hcount := hinfix.sublist.count_le sigma
      rw [lower, heach, hsplit, hlower] at hcount
      simp only [List.count_append, List.count_cons_self, List.count_eq_zero_of_not_mem hsigma,
        List.count_cons_of_ne (show finalSigma ≠ sigma by decide)] at hcount
      omega
  -- Alone, it is at the end of a word: a small one has no such form.
  · have hmem : capitalSigma ∉ word ++ settle (first ++ c :: last) := by
      rw [List.mem_append, not_or]
      exact ⟨hword, not_mem_settle _⟩
    have hlower : lower (word ++ settle (first ++ c :: last)) =
        lowerEach word ++ lowerEach (first ++ c :: last) := by
      rw [lower, lowerFrom_of_not_mem _ hmem, lowerEach_append, lowerEach_settle]
    refine ⟨word ++ settle (first ++ c :: last),
      ⟨settle (first ++ c :: last), List.infix_append_right .., lowerEach_settle _⟩, ?_, ?_⟩
    · rw [hlower]
      exact List.infix_append_left ..
    · intro hinfix
      have hcount := hinfix.sublist.count_le finalSigma
      rw [lower, hlower, List.count_append, List.count_eq_zero_of_not_mem hfinal] at hcount
      omega

end Text

end Prologue
