import Prologue.Proofs.Places

/-!
# What a file name shares with a directory

A file name is given as seen from a directory: the parts that the two share at their beginning go, and
nothing else does. For a file below the directory the shared parts are those of the directory, so
asking for the rest of the path below it and counting the parts that agree come to the same. What is
left is written so that it is read back as it is.
-/

namespace Prologue

namespace Path

/-! ## Shared parts -/

/-- The longest list that two lists both begin with. -/
structure LongestShared {α : Type} (shared first second : List α) : Prop where
  begins : shared <+: first
  begins' : shared <+: second
  longest : ∀ other, other <+: first → other <+: second → other <+: shared

/-- As many parts agree as the longest shared list has. -/
theorem longestShared_take_agreement (first second : List Bytes) :
    LongestShared (first.take (agreement first second)) first second := by
  induction first generalizing second with
  | nil => exact ⟨List.nil_prefix, List.nil_prefix, fun other hother _ => hother⟩
  | cons a first ih =>
    cases second with
    | nil => exact ⟨List.nil_prefix, List.nil_prefix, fun other _ hother => hother⟩
    | cons b second =>
      rw [agreement]
      split
      next hab =>
        subst hab
        obtain ⟨hfirst, hsecond, hlongest⟩ := ih second
        rw [List.take_succ_cons]
        refine ⟨List.cons_prefix_cons.2 ⟨rfl, hfirst⟩, List.cons_prefix_cons.2 ⟨rfl, hsecond⟩, ?_⟩
        intro other hother hother'
        rcases List.prefix_cons_iff.1 hother with rfl | ⟨rest, rfl, hrest⟩
        · exact List.nil_prefix
        · have hrest' := (List.cons_prefix_cons.1 hother').2
          exact List.cons_prefix_cons.2 ⟨rfl, hlongest rest hrest hrest'⟩
      next hab =>
        refine ⟨List.nil_prefix, List.nil_prefix, fun other hother hother' => ?_⟩
        rcases List.prefix_cons_iff.1 hother with rfl | ⟨rest, rfl, -⟩
        · exact List.nil_prefix
        · exact absurd (List.cons_prefix_cons.1 hother').1 hab

/-- A list that another one begins with agrees with it in all of its parts. -/
theorem agreement_eq_length {first second : List Bytes} (h : second <+: first) :
    agreement first second = second.length := by
  induction second generalizing first with
  | nil => cases first <;> rfl
  | cons b second ih =>
    obtain ⟨rest, rfl⟩ := h
    rw [List.cons_append, agreement, if_pos rfl, ih (List.prefix_append _ _), List.length_cons]

/-- A path lies below another one, or is the same. -/
def IsBelow (path base : Path) : Prop := path.root = base.root ∧ base.names <+: path.names

instance (path base : Path) : Decidable (path.IsBelow base) :=
  inferInstanceAs (Decidable (path.root = base.root ∧ base.names <+: path.names))

theorem relativeTo?_eq_some_iff {path base rest : Path} :
    path.relativeTo? base = some rest ↔
      path.IsBelow base ∧ rest = ⟨.here, path.names.drop base.names.length⟩ := by
  simp only [relativeTo?, IsBelow, Bool.and_eq_true, decide_eq_true_eq, List.isPrefixOf_iff_prefix,
    Option.ite_none_right_eq_some, Option.some.injEq]
  exact and_congr_right fun _ => eq_comm

theorem IsBelow.parts {path base : Path} (h : path.IsBelow base) :
    base.parts <+: path.parts ∧
      path.parts.drop base.parts.length = path.names.drop base.names.length := by
  obtain ⟨root, names⟩ := path
  obtain ⟨root', names'⟩ := base
  obtain ⟨rfl, hnames⟩ : root = root' ∧ names' <+: names := h
  cases root with
  | here => exact ⟨hnames, rfl⟩
  | slash => exact ⟨List.cons_prefix_cons.2 ⟨rfl, hnames⟩, rfl⟩
  | doubleSlash => exact ⟨List.cons_prefix_cons.2 ⟨rfl, hnames⟩, rfl⟩

/-- What is below a directory is what follows the parts that agree. -/
theorem IsBelow.drop_agreement {path base : Path} (h : path.IsBelow base) :
    path.parts.drop (agreement path.parts base.parts) = path.names.drop base.names.length := by
  rw [agreement_eq_length h.parts.1, h.parts.2]

/-- Behind at least one part of a path there are only names. -/
theorem drop_parts_sublist (path : Path) {count : Nat} (h : 0 < count) :
    (path.parts.drop count).Sublist path.names := by
  obtain ⟨count, rfl⟩ : ∃ n, count = n + 1 := ⟨count - 1, by omega⟩
  obtain ⟨root, names⟩ := path
  cases root with
  | here => exact List.drop_sublist _ names
  | slash => exact List.drop_sublist count names
  | doubleSlash => exact List.drop_sublist count names

theorem parts_written {names : List Bytes} (h : (Path.mk .here names).Plain) :
    (ofBytes (Path.mk .here names).written).parts = names := by
  rw [ofBytes_written h]
  rfl

/-! ## Backslashes -/

def backslash : UInt8 := 92

theorem not_mem_forwardSlashes (written : Bytes) : backslash ∉ forwardSlashes written := by
  intro h
  obtain ⟨byte, -, hbyte⟩ := List.mem_map.1 h
  split at hbyte
  · cases hbyte
  next hne => exact hne hbyte

/-- Names that are read from a text without backslashes have none. -/
theorem not_mem_of_mem_names {written name : Bytes} (h : backslash ∉ written)
    (hname : name ∈ (ofBytes written).names) : backslash ∉ name := fun hmem =>
  h (mem_of_mem_splitOn (List.mem_filter.1 hname).1 hmem).1

theorem mem_joined {names : List Bytes} {byte : UInt8} (h : byte ∈ joined names) :
    byte = slash ∨ ∃ name ∈ names, byte ∈ name := by
  induction names with
  | nil => cases h
  | cons name rest ih =>
    cases rest with
    | nil => exact .inr ⟨name, List.mem_cons_self, h⟩
    | cons next more =>
      rw [joined, List.mem_append, List.mem_cons] at h
      · rcases h with hname | rfl | hrest
        · exact .inr ⟨name, List.mem_cons_self, hname⟩
        · exact .inl rfl
        · rcases ih hrest with hslash | ⟨other, hother, hmem⟩
          · exact .inl hslash
          · exact .inr ⟨other, List.mem_cons_of_mem _ hother, hmem⟩
      · exact List.cons_ne_nil _ _

/-- Names without backslashes are written without them. -/
theorem not_mem_written {names : List Bytes} (h : ∀ name ∈ names, backslash ∉ name) :
    backslash ∉ (Path.mk .here names).written := by
  intro hmem
  rw [written] at hmem
  split at hmem
  · revert hmem
    decide
  · rcases mem_joined hmem with hslash | ⟨name, hname, hbyte⟩
    · revert hslash
      decide
    · exact h name hname hbyte

end Path

open Prologue.Path

/-- The rest below the directory and the rest behind the parts that agree are one and the same. -/
theorem relativeFilename_eq (file : Bytes) {directory : Bytes} (hdirectory : directory ≠ []) :
    let path := Path.ofBytes (forwardSlashes file)
    let base := Path.ofBytes (forwardSlashes directory)
    relativeFilename file (some directory) =
      if path.IsBelow base ∨ agreement path.parts base.parts ≠ 0 then
        (Path.mk .here (path.parts.drop (agreement path.parts base.parts))).written
      else forwardSlashes file := by
  intro path base
  obtain ⟨head, tail, rfl⟩ := List.exists_cons_of_ne_nil hdirectory
  rw [relativeFilename]
  · split
    next rest hrest =>
      obtain ⟨hbelow, rfl⟩ := relativeTo?_eq_some_iff.1 hrest
      rw [if_pos (.inl hbelow), hbelow.drop_agreement]
    next hnone =>
      have hbelow : ¬ path.IsBelow base := fun hbelow => by
        rw [relativeTo?_eq_some_iff.2 ⟨hbelow, rfl⟩] at hnone
        cases hnone
      split
      next hzero => rw [if_neg (not_or.2 ⟨hbelow, fun hne => hne hzero⟩)]
      next shared hshared => rw [if_pos (.inr hshared)]
  · exact hdirectory

/-- A file name as seen from a directory is what follows the parts that both begin with, if they
share any, and else the name itself, with slashes for backslashes. -/
theorem relativeFilename_drops_shared_parts (file : Bytes) {directory : Bytes}
    (hdirectory : directory ≠ []) :
    let path := Path.ofBytes (forwardSlashes file)
    let base := Path.ofBytes (forwardSlashes directory)
    let result := relativeFilename file (some directory)
    (∃ shared, LongestShared shared path.parts base.parts ∧
      (path.IsBelow base ∨ shared ≠ [] →
        shared ++ (Path.ofBytes result).parts = path.parts ∧
          (path.parts = shared → result = [Path.dot])) ∧
      (¬ (path.IsBelow base ∨ shared ≠ []) → result = forwardSlashes file)) ∧
    backslash ∉ result ∧
    ∀ rest, path.relativeTo? base = some rest →
      rest = ⟨.here, path.parts.drop (agreement path.parts base.parts)⟩ := by
  intro path base result
  obtain ⟨head, tail, rfl⟩ := List.exists_cons_of_ne_nil hdirectory
  have hbackslash := not_mem_forwardSlashes file
  have hresult := relativeFilename_eq file hdirectory
  have hshares : path.parts.take (agreement path.parts base.parts) ≠ [] ↔
      agreement path.parts base.parts ≠ 0 := by
    rw [Ne, List.take_eq_nil_iff, not_or, and_iff_left_iff_imp]
    intro hagree hnil
    rw [hnil] at hagree
    exact hagree rfl
  -- Where something is dropped, only names are left.
  have hnames : path.IsBelow base ∨ agreement path.parts base.parts ≠ 0 →
      (path.parts.drop (agreement path.parts base.parts)).Sublist path.names := by
    rintro (hbelow | hagree)
    · rw [hbelow.drop_agreement]
      exact List.drop_sublist _ _
    · exact drop_parts_sublist path (Nat.pos_of_ne_zero hagree)
  refine ⟨⟨_, longestShared_take_agreement path.parts base.parts, fun h => ?_, fun h => ?_⟩, ?_, ?_⟩
  · rw [hshares] at h
    have hplain : (Path.mk .here (path.parts.drop (agreement path.parts base.parts))).Plain :=
      fun name hname => plain_ofBytes _ name ((hnames h).subset hname)
    rw [show result = _ from hresult, if_pos h]
    refine ⟨?_, fun hall => ?_⟩
    · rw [parts_written hplain, List.take_append_drop]
    · have hnone : path.parts.drop (agreement path.parts base.parts) = [] := by
        have hsplit := List.take_append_drop (agreement path.parts base.parts) path.parts
        rw [← hall] at hsplit
        exact List.append_right_eq_self.1 hsplit
      rw [hnone]
      rfl
  · rw [hshares] at h
    exact hresult.trans (if_neg h)
  · rw [show result = _ from hresult]
    split
    next h =>
      exact not_mem_written fun name hname =>
        not_mem_of_mem_names hbackslash ((hnames h).subset hname)
    next => exact hbackslash
  · intro rest hrest
    obtain ⟨hbelow, rfl⟩ := relativeTo?_eq_some_iff.1 hrest
    rw [hbelow.drop_agreement]

/-- A file beside the directory, written with a backslash and a single dot. -/
theorem neighbour_named :
    let file := utf8 "/work\\lib/./a.ts"
    let directory := utf8 "/work/app"
    directory ≠ [] ∧ relativeFilename file (some directory) = utf8 "lib/a.ts" ∧
      ∃ shared, shared ++ (Path.ofBytes (utf8 "lib/a.ts")).parts =
        (Path.ofBytes (forwardSlashes file)).parts := by
  intro file directory
  have hdirectory : directory ≠ [] := by decide +kernel
  have hresult : relativeFilename file (some directory) = utf8 "lib/a.ts" := by decide +kernel
  obtain ⟨⟨shared, hshared, hdrops, -⟩, -⟩ := relativeFilename_drops_shared_parts file hdirectory
  rw [hresult] at hdrops
  have hsome : shared ≠ [] := by
    have hroot := hshared.longest [[slash]] (by decide +kernel) (by decide +kernel)
    rintro rfl
    exact List.cons_ne_nil _ _ (List.prefix_nil.1 hroot)
  exact ⟨hdirectory, hresult, shared, (hdrops (.inr hsome)).1⟩

end Prologue
