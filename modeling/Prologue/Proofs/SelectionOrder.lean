import Prologue.Proofs.Coverage
import Prologue.Proofs.Encoding
import Prologue.Proofs.Lists

/-!
# The order of a selection

A selection holds every file once. A file stands where the first pattern that leads to it stands, and
among the files of one pattern by its segments, which are compared by code points. Patterns that
cannot be read leave no trace in it.
-/

namespace Prologue

/-! ## The order of paths -/

namespace Path

/-- The parts of a path as lists of code points. -/
def segments (path : Path) : List (List Nat) := path.parts.map Utf8.scalars

theorem nameBefore_go_iff (first second : List Nat) :
    nameBefore.go first second = true ↔ ¬ second < first := by
  induction first generalizing second with
  | nil => simp [nameBefore.go]
  | cons a first ih =>
    cases second with
    | nil => simp [nameBefore.go]
    | cons b second =>
      rw [nameBefore.go, List.cons_lt_cons_iff]
      split
      next h => simp [h, ih]
      next h =>
        rw [decide_eq_true_eq, not_or, not_and]
        omega

theorem before_go_iff (first second : List Bytes) :
    before.go first second = true ↔ ¬ second.map Utf8.scalars < first.map Utf8.scalars := by
  induction first generalizing second with
  | nil => simp [before.go]
  | cons a first ih =>
    cases second with
    | nil => simp [before.go]
    | cons b second =>
      rw [before.go, List.map_cons, List.map_cons, List.cons_lt_cons_iff]
      split
      next h => simp [h, ih]
      next h =>
        have hne : Utf8.scalars b ≠ Utf8.scalars a := fun heq => h (Utf8.scalars_injective heq).symm
        simp [nameBefore, nameBefore_go_iff, hne]

/-- Paths are ordered by their segments. -/
theorem before_iff (first second : Path) :
    before first second = true ↔ first.segments ≤ second.segments := by
  rw [before, before_go_iff]
  exact not_lt

theorem pairwise_mergeSort_before (paths : List Path) :
    (paths.mergeSort before).Pairwise fun first second => first.segments ≤ second.segments := by
  have hsorted : (paths.mergeSort before).Pairwise fun first second =>
      before first second = true := by
    apply List.pairwise_mergeSort
    · intro a b c
      rw [before_iff, before_iff, before_iff]
      exact le_trans
    · intro a b
      rw [Bool.or_eq_true, before_iff, before_iff]
      exact le_total _ _
  exact hsorted.imp fun {first second} h => (before_iff first second).1 h

theorem segments_below (base : Path) (rel : List Bytes) :
    (Glob.below base rel).segments = base.segments ++ rel.map Utf8.scalars := by
  obtain ⟨root, names⟩ := base
  cases root <;> simp [segments, parts, Glob.below]

/-- Below one base the segments tell paths apart. -/
theorem eq_of_segments_eq {base : Path} {first second : List Bytes}
    (h : (Glob.below base first).segments = (Glob.below base second).segments) : first = second := by
  rw [segments_below, segments_below] at h
  exact List.map_injective_iff.2 Utf8.scalars_injective (List.append_cancel_left h)

end Path

/-! ## Matches lie below the base -/

namespace Glob

theorem below_nil (path : Path) : below path [] = path := by rw [below, List.append_nil]

theorem below_below (path : Path) (first second : List Bytes) :
    below (below path first) second = below path (first ++ second) := by
  simp only [below, List.append_assoc]

theorem Segment.exists_below {disk : Disk} {directory : Bool} {path next : Path} {segment : Segment}
    (h : next ∈ segment.expand disk directory path) : ∃ rel, next = below path rel := by
  cases segment with
  | anywhere =>
    rcases List.mem_cons.1 h with rfl | hbelow
    · exact ⟨[], (below_nil next).symm⟩
    · obtain ⟨rel, -, rfl⟩ := List.mem_map.1 hbelow
      exact ⟨rel, rfl⟩
  | name bytes =>
    simp only [Segment.expand, List.mem_ite_nil_right] at h
    exact ⟨[bytes], List.mem_singleton.1 h.2⟩
  | wild pieces =>
    obtain ⟨entry, -, hentry⟩ := List.mem_filterMap.1 h
    simp only at hentry
    split at hentry
    · cases hentry
    · exact ⟨[entry], (Option.some.inj hentry).symm⟩

theorem exists_below_of_mem_expandAll {disk : Disk} {directoriesOnly : Bool} {segments : List Segment}
    {path found : Path} (h : found ∈ expandAll disk directoriesOnly segments path) :
    ∃ rel, found = below path rel := by
  induction segments generalizing path with
  | nil => exact ⟨[], by rw [below_nil, List.mem_singleton.1 h]⟩
  | cons segment rest ih =>
    obtain ⟨next, hnext, hfound⟩ := List.mem_flatMap.1 h
    obtain ⟨first, rfl⟩ := Segment.exists_below hnext
    obtain ⟨second, rfl⟩ := ih hfound
    exact ⟨first ++ second, below_below path first second⟩

/-- Whatever a pattern leads to lies below the base. -/
theorem Pattern.exists_below {disk : Disk} {base path : Path} {pattern : Pattern}
    (h : path ∈ pattern.expand disk base) : ∃ rel, path = below base rel := by
  rw [Pattern.expand] at h
  split at h
  · exact exists_below_of_mem_expandAll (List.mem_mergeSort.1 h)
  · cases h

end Glob

namespace Selection

variable {disk : Disk} {base : Path}

theorem Matched.exists_below {patterns : List (List Char)} {path : Path}
    (h : Matched disk base patterns path) : ∃ rel, path = Glob.below base rel := by
  obtain ⟨-, -, parsed, -, hpath⟩ := h
  exact parsed.exists_below hpath

theorem admits_below (rel : List Bytes) :
    admits disk base (Glob.below base rel) = true ↔
      disk.isFile (Glob.below base rel) = true ∧ ∀ name ∈ rel, name ∉ excludedNames := by
  rw [admits, relativeTo?_below]
  simp [isExcluded, Path.parts]

/-! ## Patterns one after the other -/

/-- Whether a pattern can be read and leads to a path. -/
def leads (disk : Disk) (base path : Path) (pattern : List Char) : Bool :=
  match Glob.Pattern.read (Utf8.encode pattern) with
  | .ok parsed => (parsed.expand disk base).contains path
  | .error _ => false

/-- The place of the first pattern that leads to a path, among all the patterns. -/
def rank (disk : Disk) (base : Path) (patterns : List (List Char)) (path : Path) : Nat :=
  patterns.findIdx (leads disk base path)

/-- A path comes before another one: an earlier pattern leads to it, or the same one does and its
segments are smaller. -/
def Precedes (disk : Disk) (base : Path) (patterns : List (List Char)) (first second : Path) : Prop :=
  rank disk base patterns first < rank disk base patterns second ∨
    rank disk base patterns first = rank disk base patterns second ∧
      first.segments < second.segments

theorem leads_iff {path : Path} {pattern : List Char} :
    leads disk base path pattern = true ↔
      ∃ parsed, Glob.Pattern.read (Utf8.encode pattern) = .ok parsed ∧
        path ∈ parsed.expand disk base := by
  rw [leads]
  split
  next parsed hread => simp [hread]
  next error hread => simp [hread]

theorem matched_iff {patterns : List (List Char)} {path : Path} :
    Matched disk base patterns path ↔ ∃ pattern ∈ patterns, leads disk base path pattern = true := by
  simp only [Matched, leads_iff]

theorem rank_lt_length_iff {patterns : List (List Char)} {path : Path} :
    rank disk base patterns path < patterns.length ↔ Matched disk base patterns path := by
  rw [rank, List.findIdx_lt_length, matched_iff]

theorem rank_append (done rest : List (List Char)) (path : Path) :
    rank disk base (done ++ rest) path =
      if rank disk base done path < done.length then rank disk base done path
      else rank disk base rest path + done.length :=
  List.findIdx_append

/-- Further patterns do not move a path that is matched already. -/
theorem rank_append_of_matched {done : List (List Char)} {path : Path}
    (h : Matched disk base done path) (rest : List (List Char)) :
    rank disk base (done ++ rest) path = rank disk base done path := by
  rw [rank_append, if_pos (rank_lt_length_iff.2 h)]

theorem rank_concat_of_not_matched {done : List (List Char)} {pattern : List Char} {path : Path}
    (h : ¬ Matched disk base done path) (hleads : leads disk base path pattern = true) :
    rank disk base (done ++ [pattern]) path = done.length := by
  rw [rank_append, if_neg fun hlt => h (rank_lt_length_iff.1 hlt), rank, List.findIdx_cons, hleads,
    cond_true, Nat.zero_add]

theorem Precedes.append {done : List (List Char)} {first second : Path}
    (h : Precedes disk base done first second) (hfirst : Matched disk base done first)
    (hsecond : Matched disk base done second) (rest : List (List Char)) :
    Precedes disk base (done ++ rest) first second := by
  rwa [Precedes, rank_append_of_matched hfirst, rank_append_of_matched hsecond]

theorem Precedes.asymm {patterns : List (List Char)} {first second : Path}
    (h : Precedes disk base patterns first second) : ¬ Precedes disk base patterns second first := by
  intro hback
  rcases h with hlt | ⟨heq, hlt⟩
  · rcases hback with hlt' | ⟨heq', -⟩ <;> omega
  · rcases hback with hlt' | ⟨-, hlt'⟩
    · omega
    · exact lt_asymm hlt hlt'

/-! ## The files of one more pattern -/

/-- Adding paths keeps what is there and puts behind it those that are new, in order. -/
theorem foldl_insert_eq (paths files : List Path) :
    ∃ added, paths.foldl insert files = files ++ added ∧ added.Sublist paths ∧ added.Nodup ∧
      ∀ path ∈ added, path ∉ files := by
  induction paths generalizing files with
  | nil => exact ⟨[], by simp, List.Sublist.refl _, List.nodup_nil, by simp⟩
  | cons path paths ih =>
    rw [List.foldl_cons, insert]
    split
    next hin =>
      obtain ⟨added, heq, hsublist, hnodup, hnew⟩ := ih files
      exact ⟨added, heq, hsublist.cons path, hnodup, hnew⟩
    next hout =>
      rw [List.contains_iff_mem] at hout
      obtain ⟨added, heq, hsublist, hnodup, hnew⟩ := ih (files ++ [path])
      refine ⟨path :: added, ?_, hsublist.cons_cons path, ?_, ?_⟩
      · rw [heq, List.append_assoc, List.singleton_append]
      · refine List.nodup_cons.2 ⟨fun hmem => hnew path hmem (by simp), hnodup⟩
      · rw [List.forall_mem_cons]
        exact ⟨hout, fun other hmem hfile => hnew other hmem (List.mem_append_left _ hfile)⟩

/-- One more pattern: the files that it adds come behind all others, in the order of their segments. -/
theorem pairwise_precedes_concat {done : List (List Char)} {pattern : List Char}
    {parsed : Glob.Pattern} {files : List Path}
    (hread : Glob.Pattern.read (Utf8.encode pattern) = .ok parsed)
    (hfiles : ∀ path, path ∈ files ↔
      Matched disk base done path ∧ admits disk base path = true)
    (horder : files.Pairwise (Precedes disk base done)) :
    ((matching disk base parsed).foldl insert files).Pairwise
      (Precedes disk base (done ++ [pattern])) := by
  obtain ⟨added, heq, hsublist, hnodup, hnew⟩ := foldl_insert_eq (matching disk base parsed) files
  have hadded : ∀ path ∈ added, path ∈ parsed.expand disk base ∧ ¬ Matched disk base done path := by
    intro path hmem
    obtain ⟨hexpand, hadmits⟩ := List.mem_filter.1 (hsublist.subset hmem)
    exact ⟨hexpand, fun hmatched => hnew path hmem ((hfiles path).2 ⟨hmatched, hadmits⟩)⟩
  have hrank : ∀ path ∈ added, rank disk base (done ++ [pattern]) path = done.length := by
    intro path hmem
    obtain ⟨hexpand, hnot⟩ := hadded path hmem
    exact rank_concat_of_not_matched hnot (leads_iff.2 ⟨parsed, hread, hexpand⟩)
  rw [heq, List.pairwise_append]
  refine ⟨?_, ?_, ?_⟩
  · refine horder.imp_of_mem fun {first second} hfirst hsecond h => ?_
    exact h.append ((hfiles first).1 hfirst).1 ((hfiles second).1 hsecond).1 _
  · have hsorted : added.Pairwise fun first second => first.segments ≤ second.segments := by
      refine List.Pairwise.sublist hsublist (List.Pairwise.filter _ ?_)
      rw [Glob.Pattern.expand]
      split
      · exact Path.pairwise_mergeSort_before _
      · exact List.Pairwise.nil
    refine (hsorted.and hnodup).imp_of_mem fun {first second} hfirst hsecond h => .inr ⟨?_, ?_⟩
    · rw [hrank first hfirst, hrank second hsecond]
    · -- Both lie below the base, so different paths have different segments.
      obtain ⟨rel, rfl⟩ := parsed.exists_below (hadded first hfirst).1
      obtain ⟨rel', rfl⟩ := parsed.exists_below (hadded second hsecond).1
      exact lt_of_le_of_ne h.1 fun hsegments => h.2 (congrArg _ (Path.eq_of_segments_eq hsegments))
  · intro first hfirst second hsecond
    have hmatched := ((hfiles first).1 hfirst).1
    left
    rw [rank_append_of_matched hmatched, hrank second hsecond]
    exact rank_lt_length_iff.2 hmatched

/-! ## All patterns -/

/-- What the last pattern does to the files of those before it. -/
theorem extend_concat {done : List (List Char)} {pattern : List Char} {files result : List Path}
    (h : (extend disk base files (done ++ [pattern])).1 = .ok result) :
    ∃ before, (extend disk base files done).1 = .ok before ∧
      ((∃ parsed, Glob.Pattern.read (Utf8.encode pattern) = .ok parsed ∧
        result = (matching disk base parsed).foldl insert before) ∨
      (∃ error, Glob.Pattern.read (Utf8.encode pattern) = .error error ∧ result = before)) := by
  induction done generalizing files with
  | nil =>
    refine ⟨files, rfl, ?_⟩
    rw [List.nil_append, extend] at h
    split at h
    next parsed hread => exact .inl ⟨parsed, hread, (Except.ok.inj h).symm⟩
    next error hread =>
      split at h
      · exact .inr ⟨error, hread, (Except.ok.inj h).symm⟩
      · cases h
  | cons other done ih =>
    rw [List.cons_append, extend] at h
    rw [extend]
    split at h
    next parsed hread => exact ih h
    next error hread =>
      split at h
      next hskipped =>
        simp only [hskipped, if_true]
        exact ih h
      · cases h

/-- Whether a pattern can be read. -/
def accepts (pattern : List Char) : Bool := (Glob.Pattern.read (Utf8.encode pattern)).isOk

/-- Whether a pattern ends the search. Others that cannot be read are reported and left out. -/
def endsSearch (pattern : List Char) : Bool :=
  match Glob.Pattern.read (Utf8.encode pattern) with
  | .ok _ => false
  | .error error => !error.isSkipped

/-- The search comes to an end with all patterns, and it finds what it finds with those alone that can
be read. -/
theorem exists_extend_eq_ok {patterns : List (List Char)}
    (h : ∀ pattern ∈ patterns, endsSearch pattern = false) (files : List Path) :
    ∃ result, (extend disk base files patterns).1 = .ok result ∧
      (extend disk base files (patterns.filter accepts)).1 = .ok result := by
  induction patterns generalizing files with
  | nil => exact ⟨files, rfl, rfl⟩
  | cons pattern rest ih =>
    obtain ⟨hpattern, hrest⟩ := List.forall_mem_cons.1 h
    cases hread : Glob.Pattern.read (Utf8.encode pattern) with
    | ok parsed =>
      obtain ⟨result, hall, haccepted⟩ := ih hrest ((matching disk base parsed).foldl insert files)
      have haccepts : accepts pattern = true := by rw [accepts, hread]; rfl
      refine ⟨result, ?_, ?_⟩
      · simp only [extend, hread, hall]
      · rw [List.filter_cons_of_pos haccepts]
        simp only [extend, hread, haccepted]
    | error error =>
      obtain ⟨result, hall, haccepted⟩ := ih hrest files
      have haccepts : accepts pattern = false := by rw [accepts, hread]; rfl
      have hskipped : error.isSkipped = true := by simpa [endsSearch, hread] using hpattern
      refine ⟨result, ?_, ?_⟩
      · simp only [extend, hread, hskipped, if_true, hall]
      · rw [List.filter_cons_of_neg (by simp [haccepts]), haccepted]

end Selection

theorem selectFiles_pairwise_precedes {disk : Disk} {base : Path} {patterns : List (List Char)}
    {files : List Path} (h : (selectFiles disk patterns base).1 = .ok files) :
    files.Pairwise (Selection.Precedes disk base patterns) := by
  induction patterns using List.reverseRecOn generalizing files with
  | nil =>
    obtain rfl := Except.ok.inj h
    exact List.Pairwise.nil
  | append_singleton done pattern ih =>
    obtain ⟨before, hbefore, ⟨parsed, hread, rfl⟩ | ⟨error, hread, rfl⟩⟩ := Selection.extend_concat h
    · exact Selection.pairwise_precedes_concat hread (mem_selectFiles_iff hbefore) (ih hbefore)
    · refine (ih hbefore).imp_of_mem fun {first second} hfirst hsecond h => ?_
      exact h.append ((mem_selectFiles_iff hbefore first).1 hfirst).1
        ((mem_selectFiles_iff hbefore second).1 hsecond).1 _

/-- If no pattern ends the search, it selects each file once that a readable pattern leads to below
the base, with no excluded name in between, in the order of the patterns and then of the segments.
-/
theorem selectFiles_complete_and_ordered (disk : Disk) (base : Path) {patterns : List (List Char)}
    (hpatterns : ∀ pattern ∈ patterns, Selection.endsSearch pattern = false) :
    ∃ files, (selectFiles disk patterns base).1 = .ok files ∧
      (∀ path, path ∈ files ↔
        Selection.Matched disk base patterns path ∧ disk.isFile path = true ∧
          ∃ rel, path = Glob.below base rel ∧
            ∀ name ∈ rel, name ∉ [utf8 "node_modules", utf8 "dist", utf8 ".nitro"]) ∧
      files.Nodup ∧
      (∀ first ∈ files, ∀ second ∈ files,
        files.idxOf first < files.idxOf second ↔
          Selection.Precedes disk base patterns first second) ∧
      (selectFiles disk (patterns.filter Selection.accepts) base).1 = .ok files := by
  obtain ⟨files, hfiles, haccepted⟩ := Selection.exists_extend_eq_ok hpatterns []
  have horder := selectFiles_pairwise_precedes hfiles
  refine ⟨files, hfiles, fun path => ?_, ?_, fun first hfirst second hsecond => ?_, haccepted⟩
  · rw [mem_selectFiles_iff hfiles]
    refine and_congr_right fun hmatched => ?_
    obtain ⟨rel, rfl⟩ := hmatched.exists_below
    rw [Selection.admits_below]
    constructor
    · rintro ⟨hfile, hnames⟩
      exact ⟨hfile, rel, rfl, hnames⟩
    · rintro ⟨hfile, rel', heq, hnames⟩
      obtain rfl := Path.eq_of_segments_eq (congrArg Path.segments heq)
      exact ⟨hfile, hnames⟩
  · refine horder.imp fun {first second} h heq => ?_
    subst heq
    exact h.asymm h
  · exact idxOf_lt_idxOf_iff horder Selection.Precedes.asymm hfirst hsecond

/-- A project with sources beside, below and in an excluded directory. -/
def overlapProject : Disk where
  items :=
    [([utf8 "a.ts"], .file []), ([utf8 "dist"], .directory),
      ([utf8 "dist", utf8 "c.ts"], .file []), ([utf8 "src"], .directory),
      ([utf8 "src", utf8 "b.ts"], .file [])]
  here := []

/-- Two patterns that overlap, each with one behind it that cannot be read. -/
def overlapPatterns : List (List Char) :=
  ["src/*.ts".toList, "".toList, "**/*.ts".toList, "a**".toList]

/-- The second file is smaller by its segments, but a later pattern leads to it. -/
theorem overlapProject_selected :
    let b : Path := ⟨.here, [utf8 "src", utf8 "b.ts"]⟩
    let a : Path := ⟨.here, [utf8 "a.ts"]⟩
    (∀ pattern ∈ overlapPatterns, Selection.endsSearch pattern = false) ∧
      (selectFiles overlapProject overlapPatterns .here).1 = .ok [b, a] ∧
      Selection.Precedes overlapProject .here overlapPatterns b a := by
  intro b a
  have hpatterns : ∀ pattern ∈ overlapPatterns, Selection.endsSearch pattern = false := by
    decide
  have hselected : (selectFiles overlapProject overlapPatterns .here).1 = .ok [b, a] := by cbv
  obtain ⟨files, hfiles, -, -, horder, -⟩ :=
    selectFiles_complete_and_ordered overlapProject .here hpatterns
  obtain rfl := Except.ok.inj (hselected.symm.trans hfiles)
  exact ⟨hpatterns, hselected, (horder b (by simp) a (by simp)).1 (by decide)⟩

end Prologue
