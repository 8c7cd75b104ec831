import Mathlib
import Prologue.Proofs.WatchHistory
import Prologue.Proofs.WriteSafety

/-!
# A watch and its own output

An extraction that succeeds changes the file that the index goes to, and the change is reported to
the watch. Whether the watch heeds it depends on the name and the place of that file alone, as for
any other file: it does if the name has the suffix of a source and the place is below the watched
directory with no excluded name in between. Then every report of the index leads to one more
extraction, which writes the index again. Otherwise no report of it leads to anything.
-/

namespace Prologue

/-! ## The place of a file -/

namespace Path

/-- A name of a path that was read leads to the directory above or is one that an entry can have. -/
theorem isEntryName_of_mem_ofBytes {written name : Bytes} (h : name ∈ (ofBytes written).names)
    (habove : name ≠ Disk.above) : isEntryName name = true := by
  obtain ⟨hname, hslash⟩ := plain_ofBytes written name h
  simp [isEntryName, hname, habove, hslash]

end Path

namespace Disk

theorem read_eq_ok_iff {disk : Disk} {path : Path} {content : Bytes} :
    disk.read path = .ok content ↔
      ∃ place, disk.locate path = .ok place ∧ disk.item? place = some (.file content) := by
  rw [read]
  split
  next refusal hlocate => simp [hlocate]
  next place hlocate =>
    rw [hlocate]
    simp only [Except.ok.injEq, exists_eq_left']
    split <;> simp_all

theorem forall_mem_foldl_step {p : Bytes → Prop} {names : List Bytes} {place : Place}
    (hplace : ∀ name ∈ place, p name) (hnames : ∀ name ∈ names, name ≠ above → p name) :
    ∀ name ∈ names.foldl step place, p name := by
  induction names generalizing place with
  | nil => exact hplace
  | cons name names ih =>
    obtain ⟨hname, hnames⟩ := List.forall_mem_cons.1 hnames
    refine ih ?_ hnames
    rw [step]
    split
    next => exact fun other hother => hplace other (List.mem_of_mem_dropLast hother)
    next habove =>
      rw [List.forall_mem_append]
      exact ⟨hplace, List.forall_mem_singleton.2 (hname habove)⟩

/-- If the names of the current directory are names of entries, so are those of every place that a
path resolves to. -/
theorem isEntryName_of_mem_resolve {disk : Disk}
    (hhere : ∀ name ∈ disk.here, Path.isEntryName name = true) (written : Bytes) :
    ∀ name ∈ disk.resolve (Path.ofBytes written), Path.isEntryName name = true := by
  refine forall_mem_foldl_step ?_ fun name hname => Path.isEntryName_of_mem_ofBytes hname
  rw [origin]
  split
  next => exact hhere
  next => exact fun name hname => absurd hname List.not_mem_nil

/-- A path whose last name is not the one for the directory above leads to a place of that name. -/
theorem getLast?_resolve (disk : Disk) {path : Path} {name : Bytes}
    (hlast : path.names.getLast? = some name) (habove : name ≠ above) :
    (disk.resolve path).getLast? = some name := by
  obtain ⟨front, hfront⟩ := List.getLast?_eq_some_iff.1 hlast
  rw [resolve, hfront, List.foldl_append, List.foldl_cons, List.foldl_nil, step, if_neg habove,
    List.getLast?_append]
  rfl

end Disk

/-! ## What an extraction leaves -/

theorem here_extract (settings : Settings) (disk : Disk) :
    (extract settings disk).disk.here = disk.here := by
  have hwrite : ∀ metadata, (writeIndex disk metadata settings.outputPath).2.here = disk.here := by
    intro metadata
    obtain ⟨made, hgrows, ⟨cause, heq, -⟩ | ⟨document, heq, -⟩⟩ :=
      writeIndex_outcome disk metadata settings.outputPath
    · rw [heq]
      exact hgrows.here
    · rw [heq]
      exact hgrows.here
  unfold extract
  split
  next => rfl
  next paths notices hselect =>
    have hhere := hwrite (indexFilesWith disk settings.workers paths).1
    dsimp only
    split
    next cause after hafter =>
      rw [hafter] at hhere
      exact hhere
    next after hafter =>
      rw [hafter] at hhere
      exact hhere

/-- Behind an extraction that succeeds, the output path leads to a file. -/
theorem locate_outputPath {settings : Settings} {disk : Disk} {extraction : Extraction}
    (h : (extract settings disk).outcome = .ok extraction) :
    ∃ document, (extract settings disk).disk.locate settings.outputPath =
        .ok (disk.resolve settings.outputPath) ∧
      (extract settings disk).disk.item? (disk.resolve settings.outputPath) =
        some (.file document) := by
  have hsearch : ∀ cause, (extract settings disk).outcome ≠ .error (.pattern cause) := by
    intro cause hcause
    rw [h] at hcause
    cases hcause
  rcases (extract_cases settings disk hsearch).2 with
    ⟨cause, hfailed⟩ | ⟨paths, document, -, -, -, hread⟩
  · rw [h] at hfailed
    cases hfailed
  · obtain ⟨place, hlocate, hitem⟩ := Disk.read_eq_ok_iff.1 hread
    have hplace : disk.resolve settings.outputPath = place := by
      rw [← Disk.resolve_of_locate hlocate, Disk.resolve, Disk.resolve, Disk.origin, Disk.origin,
        here_extract]
    rw [hplace]
    exact ⟨document, hlocate, hitem⟩

/-! ## Reports of one file -/

namespace Watch

/-- Whether a watch on a directory heeds changes at a place: the name there has the suffix of a
source, and the place is below the directory with no excluded name in between. -/
def Heeds (root place : Place) : Prop :=
  Dialect.supports (Disk.pathTo place) = true ∧
    ∃ rel, root ++ rel = place ∧
      ∀ name ∈ rel, name ∉ [utf8 "node_modules", utf8 "dist", utf8 ".nitro"]

/-- A batch that changes nothing on the disk and reports one file. -/
def reportOf (place : Place) : Batch := ⟨id, [(Disk.pathTo place).written]⟩

theorem isRelevant_pathTo_iff (disk : Disk) (root : Place) {place : Place}
    (h : ∀ name ∈ place, name ≠ Disk.above) :
    isRelevant disk root (Disk.pathTo place) = true ↔ Heeds root place := by
  have hexcluded : ∀ rel : List Bytes, isExcluded ⟨.here, rel⟩ = false ↔
      ∀ name ∈ rel, name ∉ [utf8 "node_modules", utf8 "dist", utf8 ".nitro"] := by
    intro rel
    simp [isExcluded, Path.parts, excludedNames]
  rw [isRelevant, Disk.resolve_pathTo disk h]
  simp only [Bool.and_eq_true, Bool.not_eq_true', List.isPrefixOf_iff_prefix, hexcluded, and_assoc]
  constructor
  · rintro ⟨hsupports, ⟨rel, rfl⟩, hnames⟩
    rw [List.drop_left] at hnames
    exact ⟨hsupports, rel, rfl, hnames⟩
  · rintro ⟨hsupports, rel, rfl, hnames⟩
    rw [List.drop_left]
    exact ⟨hsupports, List.prefix_append root rel, hnames⟩

section

variable (root : Place) {place : Place}
  (hnames : ∀ name ∈ place, Path.isEntryName name = true)

include hnames

/-- A report of one file has this file as its relevant change or none, whatever is on the disk. -/
theorem mem_relevantChanges_reportOf (disk : Disk) (path : Path) :
    path ∈ relevantChanges disk root (reportOf place).changes ↔
      path = Disk.pathTo place ∧ Heeds root place := by
  have hread := Path.ofBytes_written_pathTo hnames
  have hheeds := isRelevant_pathTo_iff disk root fun name hname =>
    Path.ne_above_of_isEntryName (hnames name hname)
  rw [mem_relevantChanges]
  simp only [reportOf, List.mem_singleton, exists_eq_left, hread]
  constructor
  · rintro ⟨rfl, hrelevant⟩
    exact ⟨rfl, hheeds.1 hrelevant⟩
  · rintro ⟨rfl, hplace⟩
    exact ⟨rfl, hheeds.2 hplace⟩

theorem isCall_reportOf_iff (disk : Disk) :
    (Turn.ofBatch root disk (reportOf place)).isCall = true ↔ Heeds root place := by
  have hmem := mem_relevantChanges_reportOf root hnames disk
  show (!(relevantChanges disk root (reportOf place).changes).isEmpty) = true ↔ Heeds root place
  rw [Bool.not_eq_true', List.isEmpty_eq_false_iff_exists_mem]
  constructor
  · rintro ⟨path, hpath⟩
    exact ((hmem path).1 hpath).2
  · intro hplace
    exact ⟨_, (hmem _).2 ⟨rfl, hplace⟩⟩

/-- Reports of a file that is heeded lead to an extraction each. -/
theorem length_calls_of_heeds (settings : Settings) (hplace : Heeds root place) (disk : Disk)
    (count : Nat) :
    (calls settings root disk (List.replicate count (reportOf place))).length = count := by
  induction count generalizing disk with
  | zero => rfl
  | succ count ih =>
    have hcall := (isCall_reportOf_iff root hnames disk).2 hplace
    rw [List.replicate_succ, calls, turns, List.filter_cons_of_pos hcall, List.length_cons]
    exact congrArg (· + 1) (ih _)

/-- Reports of a file that is not heeded lead to no extraction. -/
theorem calls_of_not_heeds (settings : Settings) (hplace : ¬ Heeds root place) (disk : Disk)
    (count : Nat) : calls settings root disk (List.replicate count (reportOf place)) = [] := by
  induction count generalizing disk with
  | zero => rfl
  | succ count ih =>
    have hcall := mt (isCall_reportOf_iff root hnames disk).1 hplace
    rw [List.replicate_succ, calls, turns, List.filter_cons_of_neg hcall]
    exact ih _

end

/-- A report on the written index alone has no relevant change exactly if the watch does not heed
its place. Otherwise each such report leads to one extraction more. -/
theorem own_index_heeded_iff (settings : Settings) {disk : Disk}
    (hhere : ∀ name ∈ disk.here, Path.isEntryName name = true) {extraction : Extraction}
    (h : (extract settings disk).outcome = .ok extraction) :
    let after := (extract settings disk).disk
    let root := root settings disk
    let place := disk.resolve settings.outputPath
    after.locate settings.outputPath = .ok place ∧
      (∃ document, after.item? place = some (.file document)) ∧
      (relevantChanges after root (reportOf place).changes = [] ↔ ¬ Heeds root place) ∧
      (Heeds root place → ∀ count,
        (calls settings root after (List.replicate count (reportOf place))).length = count) ∧
      (¬ Heeds root place → ∀ count,
        calls settings root after (List.replicate count (reportOf place)) = []) ∧
      ∀ name, settings.outputPath.names.getLast? = some name → name ≠ Disk.above →
        Dialect.supports (Disk.pathTo place) = Dialect.supports settings.outputPath := by
  intro after root place
  obtain ⟨document, hlocate, hitem⟩ := locate_outputPath h
  have hnames : ∀ name ∈ place, Path.isEntryName name = true :=
    Disk.isEntryName_of_mem_resolve hhere _
  refine ⟨hlocate, ⟨document, hitem⟩, ?_,
    fun hplace => length_calls_of_heeds root hnames settings hplace after,
    fun hplace => calls_of_not_heeds root hnames settings hplace after, ?_⟩
  · rw [← isCall_reportOf_iff root hnames after, Bool.not_eq_true, Turn.isCall,
      Bool.not_eq_false', List.isEmpty_iff]
    rfl
  · intro name hlast habove
    exact supports_congr ((disk.getLast?_resolve hlast habove).trans hlast.symm)

/-- Settings that send the index to a file with the suffix of a source. -/
def echoSettings : Settings :=
  { Settings.default with patterns := "*.ts".toList, output := "index.ts".toList }

/-- On an empty disk the index is all that is there, and three reports of it make three extractions.
-/
theorem echoSettings_called :
    let disk : Disk := ⟨[], []⟩
    let place := disk.resolve echoSettings.outputPath
    (extract echoSettings disk).outcome = .ok ⟨[], echoSettings.outputPath⟩ ∧
      Heeds (root echoSettings disk) place ∧
      (calls echoSettings (root echoSettings disk) (extract echoSettings disk).disk
        (List.replicate 3 (reportOf place))).length = 3 := by
  intro disk place
  have houtcome : (extract echoSettings disk).outcome = .ok ⟨[], echoSettings.outputPath⟩ := by cbv
  have hheeds : Heeds (root echoSettings disk) place :=
    ⟨by decide, [utf8 "index.ts"], by decide +kernel, by decide +kernel⟩
  obtain ⟨-, -, -, hcalls, -⟩ := own_index_heeded_iff echoSettings (by decide) houtcome
  exact ⟨houtcome, hheeds, hcalls hheeds 3⟩

/-- The index that was just written is a relevant change. -/
theorem echoSettings_relevant :
    let run := extract echoSettings ⟨[], []⟩
    run.outcome = .ok ⟨[], ⟨.here, [utf8 "index.ts"]⟩⟩ ∧
      run.disk.read ⟨.slash, [utf8 "index.ts"]⟩ = .ok (utf8 "[]") ∧
      relevantChanges run.disk (root echoSettings ⟨[], []⟩) [utf8 "/index.ts"] =
        [⟨.slash, [utf8 "index.ts"]⟩] := by
  have hrun : extract echoSettings ⟨[], []⟩ =
      ⟨.ok ⟨[], ⟨.here, [utf8 "index.ts"]⟩⟩, [.extracted 0 0],
        ⟨[([utf8 "index.ts"], .file (utf8 "[]"))], []⟩⟩ := by cbv
  rw [hrun]
  refine ⟨rfl, by decide, by cbv⟩

end Watch

end Prologue
