import Mathlib
import Prologue.Proofs.SharedParts
import Prologue.Proofs.UnreadablePatterns
import Prologue.Proofs.WatchHistory

/-!
# Detours

A selection compares paths as they are spelled. Names that a pattern finds on a disk are names of
directory entries, so two spellings of one place below the base can only come from double dots, and
double dots can only come from the pattern. Where no pattern spells them, every source is selected
and indexed once, however the patterns overlap.
-/

open Prologue.Path

namespace Prologue

/-! ## Names on the way to a match -/

namespace Glob

/-- Whether a pattern names the directory above. -/
def spellsAbove (pattern : List Char) : Bool :=
  (namesOf (Utf8.encode pattern)).contains Disk.above

/-- Every name that a segment spells out is the name of a directory entry. -/
def Segment.IsDirect (segment : Segment) : Prop :=
  ∀ bytes, segment = .name bytes → isEntryName bytes = true

/-- A path that lies below another one, with names of directory entries in between. -/
def IsDirectlyBelow (base path : Path) : Prop :=
  ∃ rel, path = below base rel ∧ ∀ name ∈ rel, isEntryName name = true

variable {disk : Disk} {base path next found : Path}

theorem isDirectlyBelow_refl (path : Path) : IsDirectlyBelow path path :=
  ⟨[], (below_nil path).symm, fun _ h => absurd h List.not_mem_nil⟩

theorem isDirectlyBelow_singleton {name : Bytes} (h : isEntryName name = true) :
    IsDirectlyBelow path (below path [name]) :=
  ⟨[name], rfl, fun _ hmem => List.mem_singleton.1 hmem ▸ h⟩

theorem IsDirectlyBelow.trans (hnext : IsDirectlyBelow path next)
    (hfound : IsDirectlyBelow next found) : IsDirectlyBelow path found := by
  obtain ⟨first, rfl, hfirst⟩ := hnext
  obtain ⟨second, rfl, hsecond⟩ := hfound
  refine ⟨first ++ second, below_below path first second, fun name hname => ?_⟩
  exact (List.mem_append.1 hname).elim (hfirst name) (hsecond name)

theorem isEntryName_of_mem_entries (hnamed : disk.WellNamed) {name : Bytes}
    (h : name ∈ disk.entries path) : isEntryName name = true := by
  rw [Disk.entries] at h
  split at h
  · cases h
  next =>
    obtain ⟨entry, hentry, hname⟩ := List.mem_filterMap.1 h
    rw [Option.ite_none_right_eq_some] at hname
    exact hnamed entry hentry name (List.mem_of_getLast? hname.2)

theorem isEntryName_of_mem_directoriesBelow (hnamed : disk.WellNamed) {rel : List Bytes}
    (h : rel ∈ disk.directoriesBelow path) : ∀ name ∈ rel, isEntryName name = true := by
  rw [Disk.directoriesBelow] at h
  split at h
  · cases h
  next =>
    obtain ⟨entry, hentry, hrel⟩ := List.mem_filterMap.1 h
    rw [Option.ite_none_right_eq_some] at hrel
    obtain ⟨-, rfl⟩ : _ ∧ entry.1.drop _ = rel := hrel.imp_right Option.some.inj
    exact fun name hname => hnamed entry hentry name (List.mem_of_mem_drop hname)

theorem Segment.IsDirect.directlyBelow (hnamed : disk.WellNamed) {segment : Segment}
    (hsegment : segment.IsDirect) {directory : Bool}
    (h : next ∈ segment.expand disk directory path) : IsDirectlyBelow path next := by
  cases segment with
  | anywhere =>
    rcases List.mem_cons.1 h with rfl | hbelow
    · exact isDirectlyBelow_refl next
    · obtain ⟨rel, hrel, rfl⟩ := List.mem_map.1 hbelow
      exact ⟨rel, rfl, isEntryName_of_mem_directoriesBelow hnamed hrel⟩
  | name bytes =>
    simp only [Segment.expand, List.mem_ite_nil_right] at h
    rw [List.mem_singleton.1 h.2]
    exact isDirectlyBelow_singleton (hsegment bytes rfl)
  | wild pieces =>
    obtain ⟨entry, hentry, hnext⟩ := List.mem_filterMap.1 h
    simp only at hnext
    split at hnext
    · cases hnext
    · rw [← Option.some.inj hnext]
      exact isDirectlyBelow_singleton
        (isEntryName_of_mem_entries hnamed (List.mem_filter.1 hentry).1)

theorem directlyBelow_of_mem_expandAll (hnamed : disk.WellNamed) {directoriesOnly : Bool}
    {segments : List Segment} (hsegments : ∀ segment ∈ segments, segment.IsDirect)
    (h : found ∈ expandAll disk directoriesOnly segments path) : IsDirectlyBelow path found := by
  induction segments generalizing path with
  | nil =>
    rw [List.mem_singleton.1 h]
    exact isDirectlyBelow_refl path
  | cons segment rest ih =>
    rw [List.forall_mem_cons] at hsegments
    obtain ⟨next, hnext, hfound⟩ := List.mem_flatMap.1 h
    exact (hsegments.1.directlyBelow hnamed hnext).trans (ih hsegments.2 hfound)

/-! ## Names that a pattern spells -/

theorem Segment.isDirect_of_read {name : Bytes} {segment : Segment}
    (h : Segment.read name = .ok segment) (hname : isEntryName name = true) : segment.IsDirect := by
  rintro bytes rfl
  rw [Segment.read] at h
  split at h
  · cases h
  · split at h
    · cases h
    · -- A name without wildcards is kept as it is.
      have hkept := Except.ok.inj h
      split at hkept
      · cases hkept
      · exact Segment.name.inj hkept ▸ hname

theorem Segment.isDirect_of_mapM {names : List Bytes} {segments : List Segment}
    (h : names.mapM Segment.read = .ok segments) (hnames : ∀ name ∈ names, isEntryName name = true) :
    ∀ segment ∈ segments, segment.IsDirect := by
  induction names generalizing segments with
  | nil =>
    obtain rfl := Except.ok.inj h
    exact fun _ h => absurd h List.not_mem_nil
  | cons name names ih =>
    rw [List.forall_mem_cons] at hnames
    rw [List.mapM_cons] at h
    cases hread : Segment.read name with
    | error error =>
      rw [hread] at h
      cases h
    | ok segment =>
      cases hrest : names.mapM Segment.read with
      | error error =>
        rw [hread, hrest] at h
        cases h
      | ok rest =>
        rw [hread, hrest] at h
        rw [← Except.ok.inj h, List.forall_mem_cons]
        exact ⟨Segment.isDirect_of_read hread hnames.1, ih hrest hnames.2⟩

/-- A pattern that does not spell double dots spells names of directory entries only. -/
theorem isEntryName_of_mem_namesOf {pattern : List Char} (h : spellsAbove pattern = false)
    {name : Bytes} (hname : name ∈ namesOf (Utf8.encode pattern)) : isEntryName name = true := by
  obtain ⟨hsplit, hisName⟩ := List.mem_filter.1 hname
  have hne : name ≠ Disk.above := by
    rintro rfl
    rw [spellsAbove, List.contains_eq_mem, decide_eq_false_iff_not] at h
    exact h hname
  have hslash : slash ∉ name := fun hmem => (mem_of_mem_splitOn hsplit hmem).2 rfl
  simp [isEntryName, hisName, hne, hslash]

/-- Whatever such a pattern leads to lies directly below the base. -/
theorem directlyBelow_of_leads (hnamed : disk.WellNamed) {pattern : List Char}
    (h : spellsAbove pattern = false) (hleads : Selection.leads disk base path pattern = true) :
    IsDirectlyBelow base path := by
  obtain ⟨parsed, hread, hpath⟩ := Selection.leads_iff.1 hleads
  rw [Pattern.expand] at hpath
  split at hpath
  · refine directlyBelow_of_mem_expandAll hnamed ?_ (List.mem_mergeSort.1 hpath)
    rw [Pattern.read] at hread
    split at hread
    · cases hread
    · simp only at hread
      split at hread
      · cases hread
      · split at hread
        · cases hread
        · cases hread
        next first rest hsegments =>
          obtain rfl := Except.ok.inj hread
          exact Segment.isDirect_of_mapM hsegments fun name => isEntryName_of_mem_namesOf h
  · cases hpath

/-! ## One place, one spelling -/

/-- Without double dots, places below a base tell paths apart. -/
theorem eq_of_resolve_below_eq {rel rel' : List Bytes} (hrel : Disk.above ∉ rel)
    (hrel' : Disk.above ∉ rel')
    (h : disk.resolve (below base rel) = disk.resolve (below base rel')) : rel = rel' := by
  rw [resolve_below disk base hrel, resolve_below disk base hrel'] at h
  exact List.append_cancel_left h

theorem not_directlyBelow {rel : List Bytes} (h : Disk.above ∈ rel) :
    ¬ IsDirectlyBelow base (below base rel) := by
  intro hdirect
  obtain ⟨rel', heq, hrel'⟩ := hdirect
  obtain rfl := eq_of_segments_eq (congrArg segments heq)
  exact ne_above_of_isEntryName (hrel' _ h) rfl

/-- A path directly below a base that was read is read as it is written. -/
theorem IsDirectlyBelow.ofBytes_written {written : Bytes}
    (h : IsDirectlyBelow (ofBytes written) path) : ofBytes path.written = path := by
  obtain ⟨rel, rfl, hrel⟩ := h
  refine Path.ofBytes_written fun name hname => ?_
  rcases List.mem_append.1 hname with hbase | hbelow
  · exact plain_ofBytes written name hbase
  · exact ⟨isName_of_isEntryName (hrel name hbelow), slash_not_mem_of_isEntryName (hrel name hbelow)⟩

end Glob

/-! ## Sources and their records -/

theorem file_of_indexFile {disk : Disk} {path : Path} {record : FileMetadata}
    (h : (indexFile disk path).1 = some record) : record.file = path.written := by
  unfold indexFile indexText at h
  split at h
  · cases h
  · split at h
    · obtain rfl := Option.some.inj h
      rfl
    · cases h

/-- The files that records are about stand in the order of the files that were indexed. -/
theorem records_sublist (disk : Disk) (place : Path → Place) {files : List Path}
    (h : ∀ path ∈ files, place (ofBytes path.written) = place path) :
    (((indexFiles disk files).1).map fun record => place (ofBytes record.file)).Sublist
      (files.map place) := by
  rw [indexFiles_eq]
  induction files with
  | nil => exact .slnil
  | cons path files ih =>
    rw [List.forall_mem_cons] at h
    rw [List.filterMap_cons]
    split
    next => exact (ih h.2).cons _
    next record hrecord =>
      rw [List.map_cons, List.map_cons, file_of_indexFile hrecord, h.1]
      exact (ih h.2).cons_cons _

/-- Two selected paths lead to one place only through double dots in a pattern. Where no readable
pattern has them, every source is selected once and has at most one record. -/
theorem sources_indexed_once_without_double_dots {disk : Disk} (hnamed : disk.WellNamed) {base : Path}
    {patterns : List (List Char)} {files : List Path}
    (hfiles : (selectFiles disk patterns base).1 = .ok files) :
    (∀ first ∈ files, ∀ second ∈ files, first ≠ second →
      disk.resolve first = disk.resolve second →
        ∃ detour ∈ [first, second], (∃ rel, detour = Glob.below base rel ∧ Disk.above ∈ rel) ∧
          ∀ pattern ∈ patterns, Selection.leads disk base detour pattern = true →
            Glob.spellsAbove pattern = true) ∧
    ((∀ pattern ∈ patterns, Selection.accepts pattern = true → Glob.spellsAbove pattern = false) →
      (files.map disk.resolve).Nodup ∧
      ∀ settings extraction, splitPatterns settings.patterns = patterns → settings.base = base →
        (extract settings disk).outcome = .ok extraction →
          (extraction.metadata.map fun record => disk.resolve (ofBytes record.file)).Nodup) := by
  have hmatched : ∀ path ∈ files, Selection.Matched disk base patterns path := fun path hpath =>
    ((mem_selectFiles_iff hfiles path).1 hpath).1
  have hdetour : ∀ first ∈ files, ∀ second ∈ files, first ≠ second →
      disk.resolve first = disk.resolve second →
        ∃ detour ∈ [first, second], (∃ rel, detour = Glob.below base rel ∧ Disk.above ∈ rel) ∧
          ∀ pattern ∈ patterns, Selection.leads disk base detour pattern = true →
            Glob.spellsAbove pattern = true := by
    intro first hfirst second hsecond hne hresolve
    obtain ⟨rel, rfl⟩ := (hmatched first hfirst).exists_below
    obtain ⟨rel', rfl⟩ := (hmatched second hsecond).exists_below
    have hspelled : ∀ rel, Disk.above ∈ rel → ∀ pattern ∈ patterns,
        Selection.leads disk base (Glob.below base rel) pattern = true →
          Glob.spellsAbove pattern = true := by
      intro rel hrel pattern _ hleads
      by_contra hnot
      exact Glob.not_directlyBelow hrel
        (Glob.directlyBelow_of_leads hnamed (Bool.eq_false_iff.2 hnot) hleads)
    by_cases hrel : Disk.above ∈ rel
    · exact ⟨_, by simp, ⟨rel, rfl, hrel⟩, hspelled rel hrel⟩
    by_cases hrel' : Disk.above ∈ rel'
    · exact ⟨_, by simp, ⟨rel', rfl, hrel'⟩, hspelled rel' hrel'⟩
    · exact absurd (congrArg _ (Glob.eq_of_resolve_below_eq hrel hrel' hresolve)) hne
  refine ⟨hdetour, fun hpatterns => ?_⟩
  -- Some readable pattern leads to each of the files, and it does not spell double dots.
  have hleads : ∀ path ∈ files, ∃ pattern ∈ patterns,
      Selection.leads disk base path pattern = true ∧ Glob.spellsAbove pattern = false := by
    intro path hpath
    obtain ⟨pattern, hmem, hleads⟩ := Selection.matched_iff.1 (hmatched path hpath)
    refine ⟨pattern, hmem, hleads, hpatterns pattern hmem ?_⟩
    obtain ⟨parsed, hread, -⟩ := Selection.leads_iff.1 hleads
    rw [Selection.accepts, hread]
    rfl
  have hnodup : (files.map disk.resolve).Nodup := by
    apply List.Nodup.map_on
    · intro first hfirst second hsecond hresolve
      by_contra hne
      obtain ⟨detour, hdetour, -, hspelled⟩ := hdetour first hfirst second hsecond hne hresolve
      have hfile : detour ∈ files := by
        rcases List.mem_pair.1 hdetour with rfl | rfl <;> assumption
      obtain ⟨pattern, hmem, hleads, hnot⟩ := hleads detour hfile
      rw [hspelled pattern hmem hleads] at hnot
      cases hnot
    · refine (selectFiles_pairwise_precedes hfiles).imp fun {first second} h heq => ?_
      subst heq
      exact h.asymm h
  refine ⟨hnodup, ?_⟩
  rintro settings extraction rfl rfl houtcome
  obtain ⟨-, ⟨cause, herror⟩ | ⟨paths, document, hpaths, hok, -⟩⟩ :=
    extract_cases settings disk fun cause hcause => by rw [houtcome] at hcause; cases hcause
  · rw [houtcome] at herror
    cases herror
  · obtain rfl := Except.ok.inj (hpaths.symm.trans hfiles)
    obtain rfl := Except.ok.inj (houtcome.symm.trans hok)
    refine hnodup.sublist (records_sublist disk disk.resolve fun path hpath => ?_)
    obtain ⟨pattern, -, hleads, hnot⟩ := hleads path hpath
    rw [(Glob.directlyBelow_of_leads hnamed hnot hleads).ofBytes_written]

/-- A project with a source and an empty directory beside it. -/
def bypassProject : Disk where
  items := [([utf8 "a.ts"], .file (utf8 "'use runner'")), ([utf8 "b"], .directory)]
  here := []

/-- Two patterns that lead to the source directly. -/
def directSettings : Settings := { Settings.default with patterns := "*.ts, ./**/a.ts".toList }

/-- The second of the patterns goes into the directory and out of it again. -/
def bypassSettings : Settings := { Settings.default with patterns := "a.ts,b/../a.ts".toList }

/-- Patterns that overlap without double dots give one record. -/
theorem bypassProject_indexed_once :
    bypassProject.WellNamed ∧
      (∀ pattern ∈ splitPatterns directSettings.patterns, Glob.spellsAbove pattern = false) ∧
      ∃ extraction, (extract directSettings bypassProject).outcome = .ok extraction ∧
        (extraction.metadata.map (·.file)) = [utf8 "a.ts"] ∧
        (extraction.metadata.map fun record =>
          bypassProject.resolve (ofBytes record.file)).Nodup := by
  have hnamed : bypassProject.WellNamed := by decide
  have hpatterns : ∀ pattern ∈ splitPatterns directSettings.patterns,
      Glob.spellsAbove pattern = false := by decide
  have hfiles : (selectFiles bypassProject (splitPatterns directSettings.patterns)
      directSettings.base).1 = .ok [ofBytes (utf8 "a.ts")] := by cbv
  have houtcome : (extract directSettings bypassProject).outcome =
      .ok ⟨[⟨utf8 "a.ts", [], []⟩], directSettings.outputPath⟩ := by cbv
  obtain ⟨-, hunique⟩ := sources_indexed_once_without_double_dots hnamed hfiles
  obtain ⟨-, hrecords⟩ := hunique fun pattern hmem _ => hpatterns pattern hmem
  exact ⟨hnamed, hpatterns, _, houtcome, rfl, hrecords directSettings _ rfl rfl houtcome⟩

/-- One source, reached directly and through the directory beside it, is selected and indexed twice. -/
theorem bypassProject_indexed_twice :
    let direct := ofBytes (utf8 "a.ts")
    let detour := ofBytes (utf8 "b/../a.ts")
    (selectFiles bypassProject (splitPatterns bypassSettings.patterns) bypassSettings.base).1 =
        .ok [direct, detour] ∧
      bypassProject.resolve direct = bypassProject.resolve detour ∧
      (extract bypassSettings bypassProject).outcome =
        .ok ⟨[⟨utf8 "a.ts", [], []⟩, ⟨utf8 "b/../a.ts", [], []⟩], bypassSettings.outputPath⟩ := by
  intro direct detour
  refine ⟨?_, ?_, ?_⟩
  · cbv
  · decide
  · cbv

end Prologue
