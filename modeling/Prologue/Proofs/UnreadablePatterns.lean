import Mathlib
import Prologue.Index.Run
import Prologue.Proofs.SelectionOrder

/-!
# Patterns that cannot be read

A pattern can be read if it is not empty, has no root, names something and keeps two stars apart
from other characters. A search reports a pattern that cannot be read and goes on as if it were not
there, with one exception: a pattern that is written and names nothing, such as a dot, spells the
current directory, and it ends the search together with the extraction.
-/

namespace Prologue

/-! ## What a written pattern is -/

theorem Path.rootOf_eq_here_iff (written : Bytes) :
    rootOf written = .here ↔ written.head? ≠ some slash := by
  cases written with
  | nil => simp [rootOf]
  | cons byte rest =>
    by_cases hbyte : byte = slash
    · have hlength : ((slash :: rest).takeWhile (· == slash)).length ≠ 0 := by simp
      simp only [List.head?_cons, hbyte, ne_eq, not_true_eq_false, iff_false]
      rw [rootOf]
      split
      next hzero => exact absurd hzero hlength
      next => simp
      next => simp
    · simp [rootOf, hbyte]

namespace Glob

/-- The names of a written pattern: what stands between its slashes, single dots left out. -/
def namesOf (written : Bytes) : List Bytes := (Path.splitOn Path.slash written).filter Path.isName

/-- Whether two stars stand in a name together with something else. -/
def isCrowded (name : Bytes) : Bool := name != doubleStar && name.includes doubleStar

/-- Whether a pattern names nothing although something is written. -/
def spellsHere (written : Bytes) : Bool :=
  !written.isEmpty && written.head? != some Path.slash && (namesOf written).isEmpty

/-- Whether a pattern can be read. -/
def isReadable (written : Bytes) : Bool :=
  !written.isEmpty && written.head? != some Path.slash && !(namesOf written).isEmpty &&
    !(namesOf written).any isCrowded

/-- What is wrong with a pattern that cannot be read. -/
def complaint (written : Bytes) : PatternError :=
  if written.isEmpty then .empty
  else if written.head? = some Path.slash then .rooted
  else if (namesOf written).isEmpty then
    if written.getLast? = some Path.slash then .hollowDirectory else .hollow
  else .doubleStar

theorem Segment.read_of_isCrowded {name : Bytes} (h : isCrowded name = true) :
    Segment.read name = .error .doubleStar := by
  simp only [isCrowded, Bool.and_eq_true, bne_iff_ne] at h
  rw [Segment.read, if_neg h.1, if_pos h.2]

theorem Segment.exists_read {name : Bytes} (h : isCrowded name = false) :
    ∃ segment, Segment.read name = .ok segment := by
  rw [Segment.read]
  by_cases hstars : name = doubleStar
  · exact ⟨.anywhere, if_pos hstars⟩
  · have hfree : name.includes doubleStar = false := by simpa [isCrowded, hstars] using h
    rw [if_neg hstars, hfree]
    exact ⟨_, rfl⟩

/-- The names of a pattern are read one by one, up to the first that is crowded. -/
theorem Segment.mapM_read (names : List Bytes) :
    (names.any isCrowded = false ∧
      ∃ segments, names.mapM Segment.read = .ok segments ∧ segments.length = names.length) ∨
    (names.any isCrowded = true ∧ names.mapM Segment.read = .error .doubleStar) := by
  induction names with
  | nil => exact .inl ⟨rfl, [], rfl, rfl⟩
  | cons name names ih =>
    rw [List.any_cons, List.mapM_cons]
    cases hname : isCrowded name with
    | true =>
      right
      rw [Segment.read_of_isCrowded hname]
      exact ⟨rfl, rfl⟩
    | false =>
      obtain ⟨segment, hsegment⟩ := Segment.exists_read hname
      rw [hsegment, Bool.false_or]
      rcases ih with ⟨hfree, segments, hsegments, hlength⟩ | ⟨hcrowded, herror⟩
      · left
        rw [hsegments]
        exact ⟨hfree, segment :: segments, rfl, congrArg (· + 1) hlength⟩
      · right
        rw [herror]
        exact ⟨hcrowded, rfl⟩

/-- A pattern is read exactly if it is readable, and otherwise the complaint about it is given. -/
theorem Pattern.read_cases (written : Bytes) :
    (isReadable written = true ∧ ∃ pattern, Pattern.read written = .ok pattern) ∨
    (isReadable written = false ∧ Pattern.read written = .error (complaint written)) := by
  by_cases hempty : written.isEmpty = true
  · right
    simp [isReadable, Pattern.read, complaint, hempty]
  by_cases hrooted : written.head? = some Path.slash
  · have hroot : (Path.ofBytes written).root ≠ .here := fun h =>
      (Path.rootOf_eq_here_iff written).1 h hrooted
    right
    simp [isReadable, Pattern.read, complaint, hempty, hrooted, hroot]
  have hroot : (Path.ofBytes written).root = .here := (Path.rootOf_eq_here_iff written).2 hrooted
  have hnames : (Path.ofBytes written).names = namesOf written := rfl
  rcases Segment.mapM_read (namesOf written) with
    ⟨hfree, segments, hsegments, hlength⟩ | ⟨hcrowded, herror⟩
  · cases segments with
    | nil =>
      have hhollow : namesOf written = [] := List.length_eq_zero_iff.1 hlength.symm
      right
      simp [isReadable, Pattern.read, complaint, hempty, hrooted, hroot, hnames, hhollow, pure,
        Except.pure]
    | cons first rest =>
      have hnamed : namesOf written ≠ [] := fun h => by simp [h] at hlength
      left
      simp [isReadable, Pattern.read, hempty, hrooted, hroot, hnames, hsegments, hnamed, hfree]
  · have hnamed : namesOf written ≠ [] := fun h => by simp [h] at hcrowded
    right
    simp [isReadable, Pattern.read, complaint, hempty, hrooted, hroot, hnames, herror, hnamed,
      hcrowded]

/-- A complaint ends the search exactly if the pattern spells the current directory. -/
theorem isSkipped_complaint (written : Bytes) :
    (complaint written).isSkipped = !spellsHere written := by
  by_cases hempty : written.isEmpty = true
  · simp [complaint, spellsHere, hempty, PatternError.isSkipped]
  by_cases hrooted : written.head? = some Path.slash
  · simp [complaint, spellsHere, hempty, hrooted, PatternError.isSkipped]
  by_cases hhollow : (namesOf written).isEmpty = true
  · by_cases hlast : written.getLast? = some Path.slash <;>
      simp [complaint, spellsHere, hempty, hrooted, hhollow, hlast, PatternError.isSkipped]
  · simp [complaint, spellsHere, hempty, hrooted, hhollow, PatternError.isSkipped]

theorem isReadable_of_spellsHere {written : Bytes} (h : spellsHere written = true) :
    isReadable written = false := by
  simp only [spellsHere, Bool.and_eq_true] at h
  simp [isReadable, h.2]

end Glob

/-! ## The search -/

namespace Selection

theorem accepts_eq (pattern : List Char) :
    accepts pattern = Glob.isReadable (Utf8.encode pattern) := by
  rcases Glob.Pattern.read_cases (Utf8.encode pattern) with
    ⟨hreadable, parsed, hread⟩ | ⟨hunreadable, hread⟩
  · rw [accepts, hread, hreadable]
    rfl
  · rw [accepts, hread, hunreadable]
    rfl

theorem endsSearch_eq (pattern : List Char) :
    endsSearch pattern = Glob.spellsHere (Utf8.encode pattern) := by
  rcases Glob.Pattern.read_cases (Utf8.encode pattern) with
    ⟨hreadable, parsed, hread⟩ | ⟨-, hread⟩
  · have hnamed : Glob.spellsHere (Utf8.encode pattern) = false := by
      rw [← Bool.not_eq_true]
      intro hhere
      rw [Glob.isReadable_of_spellsHere hhere] at hreadable
      cases hreadable
    rw [endsSearch, hread, hnamed]
  · rw [endsSearch, hread]
    show (!(Glob.complaint (Utf8.encode pattern)).isSkipped) = _
    rw [Glob.isSkipped_complaint, Bool.not_not]

variable (disk : Disk) (base : Path)

/-- The report on a pattern that cannot be read. -/
def reportOn (pattern : List Char) : Notice :=
  .invalidPattern (Utf8.encode pattern) (Glob.complaint (Utf8.encode pattern)).message

/-- The reports on those among some patterns that cannot be read. -/
def reports (patterns : List (List Char)) : List Notice :=
  (patterns.filter fun pattern => !Glob.isReadable (Utf8.encode pattern)).map reportOn

/-- Some files and those that one more pattern leads to, if it can be read. -/
def gatherOne (files : List Path) (pattern : List Char) : List Path :=
  match Glob.Pattern.read (Utf8.encode pattern) with
  | .ok parsed => (matching disk base parsed).foldl insert files
  | .error _ => files

/-- Some files and those that patterns lead to, one pattern after the other. -/
def gather (files : List Path) (patterns : List (List Char)) : List Path :=
  patterns.foldl (gatherOne disk base) files

/-- One pattern that does not end the search. -/
theorem extend_cons_of_not_spellsHere {pattern : List Char}
    (h : Glob.spellsHere (Utf8.encode pattern) = false) (files : List Path)
    (rest : List (List Char)) :
    extend disk base files (pattern :: rest) =
      ((extend disk base (gatherOne disk base files pattern) rest).1,
        reports [pattern] ++ (extend disk base (gatherOne disk base files pattern) rest).2) := by
  rw [extend]
  rcases Glob.Pattern.read_cases (Utf8.encode pattern) with
    ⟨hreadable, parsed, hread⟩ | ⟨hunreadable, hread⟩
  · simp [gatherOne, reports, hread, hreadable]
  · have hskipped : (Glob.complaint (Utf8.encode pattern)).isSkipped = true := by
      rw [Glob.isSkipped_complaint, h]
      rfl
    simp [gatherOne, reports, reportOn, hread, hunreadable, hskipped]

/-- One pattern that ends the search. -/
theorem extend_cons_of_spellsHere {pattern : List Char}
    (h : Glob.spellsHere (Utf8.encode pattern) = true) (files : List Path)
    (rest : List (List Char)) :
    extend disk base files (pattern :: rest) =
      (.error (Glob.complaint (Utf8.encode pattern)), []) := by
  have hunreadable := Glob.isReadable_of_spellsHere h
  have hends : (Glob.complaint (Utf8.encode pattern)).isSkipped = false := by
    rw [Glob.isSkipped_complaint, h]
    rfl
  rcases Glob.Pattern.read_cases (Utf8.encode pattern) with ⟨hreadable, -⟩ | ⟨-, hread⟩
  · rw [hreadable] at hunreadable
    cases hunreadable
  · simp [extend, hread, hends]

/-- Patterns that do not end the search, with others behind them: the files of the first are there
when the others are tried, and the reports on the first come before those on the others. -/
theorem extend_append {done : List (List Char)}
    (h : ∀ pattern ∈ done, Glob.spellsHere (Utf8.encode pattern) = false) (files : List Path)
    (rest : List (List Char)) :
    extend disk base files (done ++ rest) =
      ((extend disk base (gather disk base files done) rest).1,
        reports done ++ (extend disk base (gather disk base files done) rest).2) := by
  induction done generalizing files with
  | nil => rfl
  | cons pattern done ih =>
    obtain ⟨hpattern, hdone⟩ := List.forall_mem_cons.1 h
    have hreports : reports (pattern :: done) = reports [pattern] ++ reports done := by
      rw [← List.singleton_append, reports, List.filter_append, List.map_append]
      rfl
    rw [List.cons_append, extend_cons_of_not_spellsHere disk base hpattern, ih hdone, hreports,
      List.append_assoc]
    rfl

end Selection

theorem selectFiles_of_not_spellsHere (disk : Disk) (base : Path) {patterns : List (List Char)}
    (h : ∀ pattern ∈ patterns, Glob.spellsHere (Utf8.encode pattern) = false) :
    selectFiles disk patterns base =
      (.ok (Selection.gather disk base [] patterns), Selection.reports patterns) := by
  have hextend := Selection.extend_append disk base h [] []
  rw [List.append_nil] at hextend
  rw [selectFiles, hextend]
  simp [Selection.extend]

theorem selectFiles_of_spellsHere (disk : Disk) (base : Path) {done rest : List (List Char)}
    {pattern : List Char} (hdone : ∀ other ∈ done, Glob.spellsHere (Utf8.encode other) = false)
    (hpattern : Glob.spellsHere (Utf8.encode pattern) = true) :
    selectFiles disk (done ++ pattern :: rest) base =
      (.error (Glob.complaint (Utf8.encode pattern)), Selection.reports done) := by
  rw [selectFiles, Selection.extend_append disk base hdone,
    Selection.extend_cons_of_spellsHere disk base hpattern,
    List.append_nil]

/-- Among patterns of which some end the search, there is a first one that does. -/
theorem exists_first_spellsHere {patterns : List (List Char)}
    (h : ∃ pattern ∈ patterns, Glob.spellsHere (Utf8.encode pattern) = true) :
    ∃ done pattern rest, patterns = done ++ pattern :: rest ∧
      (∀ other ∈ done, Glob.spellsHere (Utf8.encode other) = false) ∧
      Glob.spellsHere (Utf8.encode pattern) = true := by
  have hsome : (patterns.find? fun pattern => Glob.spellsHere (Utf8.encode pattern)).isSome := by
    simpa using h
  obtain ⟨pattern, hfind⟩ := Option.isSome_iff_exists.1 hsome
  obtain ⟨hpattern, done, rest, hsplit, hdone⟩ := List.find?_eq_some_iff_append.1 hfind
  exact ⟨done, pattern, rest, hsplit, by simpa using hdone, hpattern⟩

theorem selectFiles_eq_ok_iff (disk : Disk) (base : Path) (patterns : List (List Char)) :
    (∃ files, (selectFiles disk patterns base).1 = .ok files) ↔
      ∀ pattern ∈ patterns, Glob.spellsHere (Utf8.encode pattern) = false := by
  constructor
  · intro hfiles
    by_contra hends
    have hsome : ∃ pattern ∈ patterns, Glob.spellsHere (Utf8.encode pattern) = true := by
      simpa using hends
    obtain ⟨done, pattern, rest, rfl, hdone, hpattern⟩ := exists_first_spellsHere hsome
    obtain ⟨files, hfiles⟩ := hfiles
    rw [selectFiles_of_spellsHere disk base hdone hpattern] at hfiles
    cases hfiles
  · intro h
    rw [selectFiles_of_not_spellsHere disk base h]
    exact ⟨_, rfl⟩

/-- An extraction fails because of a pattern exactly if the search for its files does. -/
theorem extract_eq_pattern_iff (settings : Settings) (disk : Disk) :
    (∃ cause, (extract settings disk).outcome = .error (.pattern cause)) ↔
      ¬ ∃ files,
        (selectFiles disk (splitPatterns settings.patterns) settings.base).1 = .ok files := by
  unfold extract
  split
  next cause notices hselect => simp [hselect]
  next paths notices hselect =>
    dsimp only
    split <;> simp [hselect]

/-- A search comes to its end exactly if none of its patterns spells the current directory.
Unreadable patterns are then reported once each and change nothing else; otherwise the first such
pattern ends the search. -/
theorem search_ends_iff_spellsHere (disk : Disk) (base : Path) (patterns : List (List Char)) :
    ((∃ files, (selectFiles disk patterns base).1 = .ok files) ↔
      ∀ pattern ∈ patterns, Glob.spellsHere (Utf8.encode pattern) = false) ∧
    ((∀ pattern ∈ patterns, Glob.spellsHere (Utf8.encode pattern) = false) →
      ∃ files, selectFiles disk patterns base = (.ok files, Selection.reports patterns) ∧
        selectFiles disk
            (patterns.filter fun pattern => Glob.isReadable (Utf8.encode pattern)) base =
          (.ok files, [])) ∧
    (∀ done pattern rest, patterns = done ++ pattern :: rest →
      (∀ other ∈ done, Glob.spellsHere (Utf8.encode other) = false) →
      Glob.spellsHere (Utf8.encode pattern) = true →
      selectFiles disk patterns base =
        (.error (Glob.complaint (Utf8.encode pattern)), Selection.reports done)) ∧
    ∀ settings : Settings, splitPatterns settings.patterns = patterns →
      ((∃ cause, (extract settings disk).outcome = .error (.pattern cause)) ↔
        ∃ pattern ∈ patterns, Glob.spellsHere (Utf8.encode pattern) = true) := by
  refine ⟨selectFiles_eq_ok_iff disk base patterns, fun h => ?_, ?_, ?_⟩
  · let readable := patterns.filter fun pattern => Glob.isReadable (Utf8.encode pattern)
    have hnamed : ∀ pattern ∈ readable, Glob.spellsHere (Utf8.encode pattern) = false :=
      fun pattern hpattern => h pattern (List.mem_of_mem_filter hpattern)
    have haccepts : patterns.filter Selection.accepts = readable :=
      List.filter_congr fun pattern _ => Selection.accepts_eq pattern
    have hall := selectFiles_of_not_spellsHere disk base h
    have hreadable := selectFiles_of_not_spellsHere disk base hnamed
    obtain ⟨files, hfiles, haccepted⟩ := Selection.exists_extend_eq_ok
      (fun pattern hpattern => (Selection.endsSearch_eq pattern).trans (h pattern hpattern)) []
    rw [haccepts] at haccepted
    have hsame := Except.ok.inj ((congrArg Prod.fst hall).symm.trans hfiles)
    have hsame' := Except.ok.inj ((congrArg Prod.fst hreadable).symm.trans haccepted)
    refine ⟨files, hall.trans (by rw [hsame]), hreadable.trans ?_⟩
    rw [hsame']
    simp [Selection.reports, readable]
  · rintro done pattern rest rfl hdone hpattern
    exact selectFiles_of_spellsHere disk base hdone hpattern
  · rintro settings rfl
    rw [extract_eq_pattern_iff, selectFiles_eq_ok_iff]
    simp

/-- A source at the top of the disk. -/
def lonelySource : Disk := ⟨[([utf8 "a.ts"], .file [])], []⟩

/-- Three patterns that cannot be read stand around the one that can; the source is found, and there
are three reports. -/
theorem lonelySource_found :
    let a : Path := ⟨.here, [utf8 "a.ts"]⟩
    let patterns := ["/x".toList, "*.ts".toList, "".toList, "x/a**".toList]
    (∀ pattern ∈ patterns, Glob.spellsHere (Utf8.encode pattern) = false) ∧
      selectFiles lonelySource patterns .here = (.ok [a],
        [.invalidPattern (utf8 "/x") Glob.PatternError.rooted.message,
          .invalidPattern [] Glob.PatternError.empty.message,
          .invalidPattern (utf8 "x/a**") Glob.PatternError.doubleStar.message]) := by
  intro a patterns
  have hpatterns : ∀ pattern ∈ patterns, Glob.spellsHere (Utf8.encode pattern) = false := by
    decide
  obtain ⟨files, hall, hreadable⟩ :=
    (search_ends_iff_spellsHere lonelySource .here patterns).2.1 hpatterns
  have hfiles : selectFiles lonelySource
      (patterns.filter fun pattern => Glob.isReadable (Utf8.encode pattern)) .here =
        (.ok [a], []) := by cbv
  have hreports : Selection.reports patterns =
      [.invalidPattern (utf8 "/x") Glob.PatternError.rooted.message,
        .invalidPattern [] Glob.PatternError.empty.message,
        .invalidPattern (utf8 "x/a**") Glob.PatternError.doubleStar.message] := by decide
  rw [hfiles] at hreadable
  cases hreadable
  exact ⟨hpatterns, hreports ▸ hall⟩

/-- A dot behind a pattern that finds the source: the extraction fails without a report. -/
theorem lonelySource_lost :
    let settings : Settings := { Settings.default with patterns := "*.ts,.".toList }
    splitPatterns settings.patterns = ["*.ts".toList, ".".toList] ∧
      selectFiles lonelySource ["*.ts".toList] settings.base =
        (.ok [⟨.here, [utf8 "a.ts"]⟩], []) ∧
      selectFiles lonelySource (splitPatterns settings.patterns) settings.base =
        (.error .hollow, []) ∧
      (extract settings lonelySource).outcome = .error (.pattern .hollow) ∧
      (extract settings lonelySource).notices = [] := by
  intro settings
  refine ⟨by decide, by cbv, by cbv, ?_, ?_⟩ <;> cbv

end Prologue
