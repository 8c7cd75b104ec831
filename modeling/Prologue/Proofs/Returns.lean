import Prologue.Index.Run
import Prologue.Proofs.Extent
import Prologue.Proofs.LineEndings

/-!
# Returns in front of line feeds

A text is *paired* if each of its carriage returns has a line feed behind it. Of such a text,
`normalizeLines` keeps all but the returns (`normalizeLines_eq_bare`), so a place `offset` bytes
into the text lies `bareWidth offset` bytes into what is kept.

To compare how the two texts are read, a text is split into its first line, which is the same in
both, and a rest that ends the line in both (`exists_unbroken`, `Broken.bare`).
-/

namespace Prologue

namespace Bytes

/-- A text without its carriage returns. -/
def bare (bytes : Bytes) : Bytes := bytes.filter (· != carriageReturn)

/-- How many of the first bytes are left without the carriage returns. -/
def bareWidth (bytes : Bytes) (width : Nat) : Nat := (bare (bytes.take width)).length

/-- Whether every carriage return has a line feed behind it. -/
def isPaired : Bytes → Bool
  | [] => true
  | byte :: rest => (byte != carriageReturn || rest.head? == some lineFeed) && isPaired rest

/-! ## Texts without returns -/

@[simp] theorem bare_nil : bare [] = [] := rfl

@[simp] theorem bare_return (rest : Bytes) : bare (13 :: rest) = bare rest := rfl

theorem bare_cons {byte : UInt8} (h : byte ≠ 13) (rest : Bytes) :
    bare (byte :: rest) = byte :: bare rest :=
  List.filter_cons_of_pos (bne_iff_ne.2 h)

theorem bare_append (first second : Bytes) : bare (first ++ second) = bare first ++ bare second :=
  List.filter_append ..

theorem bare_of_not_mem {bytes : Bytes} (h : (13 : UInt8) ∉ bytes) : bare bytes = bytes :=
  List.filter_eq_self.2 fun _ hmem => bne_iff_ne.2 (ne_of_mem_of_not_mem hmem h)

theorem length_bare_le (bytes : Bytes) : (bare bytes).length ≤ bytes.length :=
  List.length_filter_le ..

/-! ## Widths without returns -/

@[simp] theorem bareWidth_zero (bytes : Bytes) : bytes.bareWidth 0 = 0 := rfl

@[simp] theorem bareWidth_return (rest : Bytes) (width : Nat) :
    bareWidth (13 :: rest) (width + 1) = rest.bareWidth width := rfl

theorem bareWidth_cons {byte : UInt8} (h : byte ≠ 13) (rest : Bytes) (width : Nat) :
    bareWidth (byte :: rest) (width + 1) = rest.bareWidth width + 1 := by
  rw [bareWidth, List.take_succ_cons, bare_cons h, List.length_cons, bareWidth]

theorem bareWidth_length (bytes : Bytes) : bytes.bareWidth bytes.length = (bare bytes).length := by
  rw [bareWidth, List.take_length]

theorem bare_take (bytes : Bytes) (width : Nat) :
    (bare bytes).take (bytes.bareWidth width) = bare (bytes.take width) := by
  have hsplit := bare_append (bytes.take width) (bytes.drop width)
  rw [List.take_append_drop] at hsplit
  rw [hsplit, bareWidth, List.take_left]

theorem bare_drop (bytes : Bytes) (width : Nat) :
    (bare bytes).drop (bytes.bareWidth width) = bare (bytes.drop width) := by
  have hsplit := bare_append (bytes.take width) (bytes.drop width)
  rw [List.take_append_drop] at hsplit
  rw [hsplit, bareWidth, List.drop_left]

theorem bareWidth_add (bytes : Bytes) (first second : Nat) :
    bytes.bareWidth (first + second) =
      bytes.bareWidth first + bareWidth (bytes.drop first) second := by
  rw [bareWidth, List.take_add, bare_append, List.length_append, bareWidth, bareWidth]

theorem bareWidth_mono (bytes : Bytes) {first second : Nat} (h : first ≤ second) :
    bytes.bareWidth first ≤ bytes.bareWidth second := by
  obtain ⟨more, rfl⟩ := Nat.exists_eq_add_of_le h
  rw [bareWidth_add]
  exact Nat.le_add_right _ _

/-- Without returns among them, all of the bytes are left. -/
theorem bareWidth_eq {bytes : Bytes} {width : Nat} (hle : width ≤ bytes.length)
    (h : (13 : UInt8) ∉ bytes.take width) : bytes.bareWidth width = width := by
  rw [bareWidth, bare_of_not_mem h, List.length_take, Nat.min_eq_left hle]

/-- A byte that is no return counts. -/
theorem bareWidth_lt {bytes : Bytes} {offset : Nat} {byte : UInt8}
    (hbyte : bytes[offset]? = some byte) (hne : byte ≠ 13) {other : Nat} (h : offset < other) :
    bytes.bareWidth offset < bytes.bareWidth other := by
  obtain ⟨hlt, hget⟩ := List.getElem?_eq_some_iff.1 hbyte
  have hnext : bytes.bareWidth (offset + 1) = bytes.bareWidth offset + 1 := by
    rw [bareWidth_add, List.drop_eq_getElem_cons hlt, hget, bareWidth_cons hne]
    rfl
  have hle := bytes.bareWidth_mono (show offset + 1 ≤ other from h)
  omega

/-! ## Returns in pairs with line feeds -/

theorem isPaired_cons {byte : UInt8} {rest : Bytes} :
    isPaired (byte :: rest) = true ↔
      (byte = 13 → rest.head? = some 10) ∧ rest.isPaired = true := by
  simp only [isPaired, Bool.and_eq_true, Bool.or_eq_true, bne_iff_ne, beq_iff_eq, carriageReturn,
    lineFeed, ne_eq, ← imp_iff_not_or]

theorem isPaired_return {rest : Bytes} (h : isPaired (13 :: rest) = true) :
    ∃ more : Bytes, rest = 10 :: more ∧ more.isPaired = true := by
  obtain ⟨hhead, hrest⟩ := isPaired_cons.1 h
  cases rest with
  | nil => cases hhead rfl
  | cons byte more =>
    obtain rfl : byte = 10 := Option.some.inj (hhead rfl)
    exact ⟨more, rfl, (isPaired_cons.1 hrest).2⟩

theorem isPaired_drop {bytes : Bytes} (h : bytes.isPaired = true) (width : Nat) :
    isPaired (bytes.drop width) = true := by
  induction bytes generalizing width with
  | nil => rwa [List.drop_nil]
  | cons byte rest ih =>
    cases width with
    | zero => exact h
    | succ width => exact ih (isPaired_cons.1 h).2 width

/-- Turning line ends into line feeds drops the returns of a text whose returns all stand in front of
line feeds. -/
theorem normalizeLines_eq_bare {bytes : Bytes} (h : bytes.isPaired = true) :
    normalizeLines bytes = bare bytes := by
  fun_induction normalizeLines bytes with
  | case1 => rfl
  | case2 rest ih =>
    rw [ih (isPaired_cons.1 (isPaired_cons.1 h).2).2]
    rfl
  | case3 byte rest hpair ih =>
    have hne : byte ≠ 13 := by
      rintro rfl
      obtain ⟨more, rfl, -⟩ := isPaired_return h
      exact hpair more rfl rfl
    rw [if_neg hne, ih (isPaired_cons.1 h).2, bare_cons hne]

/-- What a text begins with stays, and a return gives way to the line feed behind it. -/
theorem head?_bare {bytes : Bytes} (h : bytes.isPaired = true) :
    (bare bytes).head? = bytes.head?.map fun byte => if byte = 13 then 10 else byte := by
  cases bytes with
  | nil => rfl
  | cons byte rest =>
    by_cases hbyte : byte = 13
    · subst hbyte
      obtain ⟨more, rfl, -⟩ := isPaired_return h
      rfl
    · rw [bare_cons hbyte]
      simp [hbyte]

/-- A text begins with the same byte without its returns, line breaks apart. -/
theorem head?_bare_eq_some {bytes : Bytes} (h : bytes.isPaired = true) {byte : UInt8}
    (hfeed : byte ≠ 10) (hreturn : byte ≠ 13) :
    (bare bytes).head? = some byte ↔ bytes.head? = some byte := by
  rw [head?_bare h, Option.map_eq_some_iff]
  constructor
  · rintro ⟨first, hfirst, heq⟩
    split at heq
    · exact absurd heq.symm hfeed
    · rwa [heq] at hfirst
  · intro hfirst
    exact ⟨byte, hfirst, if_neg hreturn⟩

theorem head?_bare_beq {bytes : Bytes} (h : bytes.isPaired = true) {byte : UInt8}
    (hfeed : byte ≠ 10) (hreturn : byte ≠ 13) :
    ((bare bytes).head? == some byte) = (bytes.head? == some byte) := by
  rw [Bool.eq_iff_iff, beq_iff_eq, beq_iff_eq, head?_bare_eq_some h hfeed hreturn]

theorem takeWhile_bare {p : UInt8 → Bool} (hp : p 13 = true) (bytes : Bytes) :
    (bare bytes).takeWhile p = bare (bytes.takeWhile p) := by
  induction bytes with
  | nil => rfl
  | cons byte rest ih =>
    by_cases hbyte : byte = 13
    · subst hbyte
      rw [bare_return, List.takeWhile_cons_of_pos hp, bare_return, ih]
    · rw [bare_cons hbyte, List.takeWhile_cons, List.takeWhile_cons]
      split
      · rw [bare_cons hbyte, ih]
      · rfl

theorem dropWhile_bare {p : UInt8 → Bool} (hp : p 13 = true) (bytes : Bytes) :
    (bare bytes).dropWhile p = bare (bytes.dropWhile p) := by
  induction bytes with
  | nil => rfl
  | cons byte rest ih =>
    by_cases hbyte : byte = 13
    · subst hbyte
      rw [bare_return, List.dropWhile_cons_of_pos hp, ih]
    · rw [bare_cons hbyte, List.dropWhile_cons, List.dropWhile_cons]
      split
      · exact ih
      · rw [bare_cons hbyte]

theorem length_takeWhile_bare {p : UInt8 → Bool} (hp : p 13 = true) (bytes : Bytes) :
    ((bare bytes).takeWhile p).length = bytes.bareWidth (bytes.takeWhile p).length := by
  rw [takeWhile_bare hp, bareWidth, ← List.prefix_iff_eq_take.1 (List.takeWhile_prefix p)]

/-! ## Lines -/

/-- No byte ends a line. -/
def Unbroken (line : Bytes) : Prop := ∀ byte ∈ line, byte ≠ 10 ∧ byte ≠ 13

/-- The text is over, or a line ends at its front. -/
inductive Broken : Bytes → Prop
  | ended : Broken []
  | feed (rest : Bytes) : Broken (10 :: rest)
  | pair (rest : Bytes) : Broken (13 :: 10 :: rest)

theorem Unbroken.not_mem {line : Bytes} (h : line.Unbroken) : (13 : UInt8) ∉ line := fun hmem =>
  (h 13 hmem).2 rfl

theorem unbroken_cons {byte : UInt8} {line : Bytes} :
    Unbroken (byte :: line) ↔ (byte ≠ 10 ∧ byte ≠ 13) ∧ line.Unbroken :=
  List.forall_mem_cons

theorem unbroken_of_all {line : Bytes}
    (h : line.all (fun byte => byte != 10 && byte != 13) = true) : line.Unbroken := by
  intro byte hmem
  simpa using List.all_eq_true.1 h byte hmem

/-- A text is its first line and what follows the line. -/
theorem exists_unbroken {bytes : Bytes} (h : bytes.isPaired = true) :
    ∃ line rest : Bytes, bytes = line ++ rest ∧ line.Unbroken ∧ rest.Broken := by
  induction bytes with
  | nil => exact ⟨[], [], rfl, fun _ hmem => absurd hmem List.not_mem_nil, .ended⟩
  | cons byte bytes ih =>
    by_cases hreturn : byte = 13
    · subst hreturn
      obtain ⟨more, rfl, -⟩ := isPaired_return h
      exact ⟨[], _, rfl, fun _ hmem => absurd hmem List.not_mem_nil, .pair more⟩
    by_cases hfeed : byte = 10
    · subst hfeed
      exact ⟨[], _, rfl, fun _ hmem => absurd hmem List.not_mem_nil, .feed bytes⟩
    · obtain ⟨line, rest, rfl, hline, hrest⟩ := ih (isPaired_cons.1 h).2
      exact ⟨byte :: line, rest, rfl, unbroken_cons.2 ⟨⟨hfeed, hreturn⟩, hline⟩, hrest⟩

theorem Broken.bare {rest : Bytes} (h : rest.Broken) : Broken rest.bare := by
  cases h with
  | ended => exact .ended
  | feed rest =>
    rw [bare_cons (by decide)]
    exact .feed _
  | pair rest =>
    rw [bare_return, bare_cons (by decide)]
    exact .feed _

/-- The first line stays as it is. -/
theorem bare_line {line : Bytes} (h : line.Unbroken) (rest : Bytes) :
    bare (line ++ rest) = line ++ bare rest := by
  rw [bare_append, bare_of_not_mem h.not_mem]

theorem takeWhile_append_broken {line rest : Bytes} (hrest : rest.Broken) {p : UInt8 → Bool}
    (hfeed : p 10 = false) (hreturn : p 13 = false) :
    (line ++ rest).takeWhile p = line.takeWhile p := by
  have hnone : rest.takeWhile p = [] := by
    cases hrest with
    | ended => rfl
    | feed rest => rw [List.takeWhile_cons, hfeed]; rfl
    | pair rest => rw [List.takeWhile_cons, hreturn]; rfl
  rw [List.takeWhile_append, hnone, List.append_nil]
  split
  next hall => rw [(List.takeWhile_prefix p).eq_of_length hall]
  · rfl

theorem head?_append_broken {line rest : Bytes} (hrest : rest.Broken) {byte : UInt8} (hfeed : byte ≠ 10)
    (hreturn : byte ≠ 13) : (line ++ rest).head? = some byte ↔ line.head? = some byte := by
  cases line with
  | cons first line => rfl
  | nil =>
    cases hrest with
    | ended => rfl
    | feed rest => simp [Ne.symm hfeed]
    | pair rest => simp [Ne.symm hreturn]

end Bytes

end Prologue
