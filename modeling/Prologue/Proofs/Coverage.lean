import Mathlib
import Prologue.Proofs.Places
import Prologue.Watch

/-!
# The watch covers the selection

A path is selected exactly if a pattern that can be read leads to it, it is a file, and no excluded
name stands between the base and it. A changed path is relevant exactly if it has the suffix of a
source and resolves to a place below the watched directory with no excluded name in between. For a
source that is reached without double dots, the names in between are the same on both sides, however
the base is spelled.
-/

namespace Prologue

/-! ## Selected paths -/

namespace Selection

theorem mem_insert {files : List Path} {path other : Path} :
    other ∈ insert files path ↔ other ∈ files ∨ other = path := by
  rw [insert]
  split
  next hin =>
    rw [List.contains_iff_mem] at hin
    exact ⟨.inl, fun h => h.elim id fun heq => heq ▸ hin⟩
  next => rw [List.mem_append, List.mem_singleton]

theorem mem_foldl_insert {paths files : List Path} {other : Path} :
    other ∈ paths.foldl insert files ↔ other ∈ files ∨ other ∈ paths := by
  induction paths generalizing files with
  | nil => simp
  | cons path paths ih => rw [List.foldl_cons, ih, mem_insert, List.mem_cons, or_assoc]

/-- Some of the patterns can be read and leads to the path. -/
def Matched (disk : Disk) (base : Path) (patterns : List (List Char)) (path : Path) : Prop :=
  ∃ pattern ∈ patterns, ∃ parsed, Glob.Pattern.read (Utf8.encode pattern) = .ok parsed ∧
    path ∈ parsed.expand disk base

theorem matched_cons {disk : Disk} {base path : Path} {pattern : List Char}
    {rest : List (List Char)} :
    Matched disk base (pattern :: rest) path ↔
      (∃ parsed, Glob.Pattern.read (Utf8.encode pattern) = .ok parsed ∧
        path ∈ parsed.expand disk base) ∨ Matched disk base rest path := by
  simp [Matched]

theorem mem_of_extend {disk : Disk} {base : Path} {patterns : List (List Char)}
    {files result : List Path} (h : (extend disk base files patterns).1 = .ok result) (path : Path) :
    path ∈ result ↔
      path ∈ files ∨ Matched disk base patterns path ∧ admits disk base path = true := by
  induction patterns generalizing files with
  | nil =>
    obtain rfl := Except.ok.inj h
    simp [Matched]
  | cons pattern rest ih =>
    rw [extend] at h
    rw [matched_cons]
    split at h
    next parsed hread =>
      rw [ih h, mem_foldl_insert, matching, List.mem_filter, hread, or_assoc, ← or_and_right]
      simp only [Except.ok.injEq, exists_eq_left']
    next error hread =>
      split at h
      · rw [ih h, hread]
        simp
      · cases h

end Selection

theorem mem_selectFiles_iff {disk : Disk} {base : Path} {patterns : List (List Char)}
    {files : List Path} (h : (selectFiles disk patterns base).1 = .ok files) (path : Path) :
    path ∈ files ↔
      Selection.Matched disk base patterns path ∧ Selection.admits disk base path = true := by
  rw [Selection.mem_of_extend h, or_iff_right (List.not_mem_nil)]

theorem Selection.Matched.isDirectory {disk : Disk} {base path : Path} {patterns : List (List Char)}
    (h : Selection.Matched disk base patterns path) : disk.isDirectory base = true := by
  obtain ⟨pattern, -, parsed, -, hpath⟩ := h
  rw [Glob.Pattern.expand] at hpath
  split at hpath
  · assumption
  · cases hpath

/-! ## Relevant changes -/

namespace Watch

theorem mem_relevantChanges {disk : Disk} {root : Place} {changes : List Bytes} {path : Path} :
    path ∈ relevantChanges disk root changes ↔
      (∃ written ∈ changes, Path.ofBytes written = path) ∧ isRelevant disk root path = true := by
  rw [relevantChanges, List.mem_mergeSort, Selection.mem_foldl_insert, List.mem_filter, List.mem_map]
  simp

end Watch

/-! ## Paths below a base -/

theorem relativeTo?_below (base : Path) (rel : List Bytes) :
    (Glob.below base rel).relativeTo? base = some ⟨.here, rel⟩ := by
  simp [Path.relativeTo?, Glob.below]

theorem resolve_below (disk : Disk) (base : Path) {rel : List Bytes} (h : Disk.above ∉ rel) :
    disk.resolve (Glob.below base rel) = disk.resolve base ++ rel := by
  have hne : ∀ name ∈ rel, name ≠ Disk.above := fun name hname heq => h (heq ▸ hname)
  rw [Disk.resolve, Glob.below, List.foldl_append, Disk.foldl_step_of_forall_ne hne]
  rfl

theorem supports_congr {path other : Path} (h : path.names.getLast? = other.names.getLast?) :
    Dialect.supports path = Dialect.supports other := by
  have hname : path.name = other.name := by rw [Path.name, Path.name, h]
  have hsuffix : path.suffix = other.suffix := by rw [Path.suffix, Path.suffix, hname]
  rw [Dialect.supports, Dialect.supports, Dialect.suffixOf, Dialect.suffixOf, hsuffix]

/-- A source below the base that a readable pattern reaches without double dots is selected exactly
if a change of it is kept, and exactly if no name on the way is excluded. -/
theorem selected_iff_change_kept (settings : Settings) {disk : Disk} (hnamed : disk.WellNamed)
    {patterns : List (List Char)} {files : List Path} {rel : List Bytes} {place : Place}
    {content : Bytes}
    (hfiles : (selectFiles disk patterns settings.base).1 = .ok files)
    (hmatched : Selection.Matched disk settings.base patterns (Glob.below settings.base rel))
    (habove : Disk.above ∉ rel)
    (hplace : disk.locate (Glob.below settings.base rel) = .ok place)
    (hfile : disk.item? place = some (.file content))
    (hsupported : Dialect.supports (Glob.below settings.base rel) = true)
    {changes : List Bytes} (hchange : (Disk.pathTo place).written ∈ changes) :
    (Glob.below settings.base rel ∈ files ↔
      Disk.pathTo place ∈ Watch.relevantChanges disk (Watch.root settings disk) changes) ∧
    (Glob.below settings.base rel ∈ files ↔ isExcluded ⟨.here, rel⟩ = false) := by
  have hentries := hnamed.of_item? hfile
  have hresolve : Watch.root settings disk ++ rel = place := by
    rw [← Disk.resolve_of_locate hplace, resolve_below disk settings.base habove, Watch.root]
  have hrel : rel ≠ [] := by
    -- The base itself is a directory and no file.
    rintro rfl
    have hdirectory := hmatched.isDirectory
    rw [Glob.below, List.append_nil] at hplace
    rw [Disk.isDirectory, Disk.find?_of_locate hplace, hfile] at hdirectory
    cases hdirectory
  have hselected : Glob.below settings.base rel ∈ files ↔ isExcluded ⟨.here, rel⟩ = false := by
    rw [mem_selectFiles_iff hfiles, and_iff_right hmatched, Selection.admits, relativeTo?_below]
    simp [Disk.isFile, Disk.find?_of_locate hplace, hfile]
  refine ⟨hselected.trans ?_, hselected⟩
  have hwritten : ∃ written ∈ changes, Path.ofBytes written = Disk.pathTo place :=
    ⟨_, hchange, Path.ofBytes_written_pathTo hentries⟩
  have hsuffix : Dialect.supports (Disk.pathTo place) = true := by
    rw [← hsupported]
    apply supports_congr
    have hlast : rel.getLast?.isSome = true := by simpa using hrel
    rw [Disk.pathTo, ← hresolve, Glob.below, List.getLast?_append, List.getLast?_append,
      Option.or_of_isSome hlast, Option.or_of_isSome hlast]
  have hsettled := Disk.resolve_pathTo disk fun name hname =>
    Path.ne_above_of_isEntryName (hentries name hname)
  rw [Watch.mem_relevantChanges, and_iff_right hwritten, Watch.isRelevant, hsettled, hsuffix,
    ← hresolve]
  simp

/-- A project in a directory with an excluded name, with a source in it and one in an excluded
directory below. -/
def distProject : Disk where
  items :=
    [([utf8 "p"], .directory), ([utf8 "p", utf8 "dist"], .directory),
      ([utf8 "p", utf8 "dist", utf8 "a.ts"], .file []),
      ([utf8 "p", utf8 "dist", utf8 ".nitro"], .directory),
      ([utf8 "p", utf8 "dist", utf8 ".nitro", utf8 "b.ts"], .file [])]
  here := [utf8 "p"]

/-- Settings that name the project's directory in a roundabout way. -/
def distSettings : Settings := { Settings.default with directory := "dist/../dist".toList }

/-- The source itself is selected and its change kept, the one in the excluded directory is neither.
-/
theorem distProject_changes :
    let a := Glob.below distSettings.base [utf8 "a.ts"]
    let changes := [utf8 "/p/dist/a.ts", utf8 "/p/dist/.nitro/b.ts"]
    let kept := Watch.relevantChanges distProject (Watch.root distSettings distProject) changes
    (selectFiles distProject ["**/*.ts".toList] distSettings.base).1 = .ok [a] ∧
      Disk.pathTo [utf8 "p", utf8 "dist", utf8 "a.ts"] ∈ kept ∧
      Disk.pathTo [utf8 "p", utf8 "dist", utf8 ".nitro", utf8 "b.ts"] ∉ kept := by
  intro a changes kept
  have hnamed : distProject.WellNamed := by decide +kernel
  have hfiles : (selectFiles distProject ["**/*.ts".toList] distSettings.base).1 = .ok [a] := by cbv
  let parsed : Glob.Pattern :=
    ⟨.anywhere, [.wild [.star, .char 46, .char 116, .char 115]], false⟩
  have hparsed : Glob.Pattern.read (Utf8.encode "**/*.ts".toList) = .ok parsed := by cbv
  have hexpand : parsed.expand distProject distSettings.base =
      [Glob.below distSettings.base [utf8 ".nitro", utf8 "b.ts"], a] := by cbv
  have hmatched : ∀ path ∈ parsed.expand distProject distSettings.base,
      Selection.Matched distProject distSettings.base ["**/*.ts".toList] path :=
    fun path hpath => ⟨_, List.mem_singleton_self _, parsed, hparsed, hpath⟩
  rw [hexpand, List.forall_mem_cons, List.forall_mem_singleton] at hmatched
  have haPlace : distProject.locate a = .ok [utf8 "p", utf8 "dist", utf8 "a.ts"] := by cbv
  have haFile : distProject.item? [utf8 "p", utf8 "dist", utf8 "a.ts"] = some (.file []) := by cbv
  have haChange : (Disk.pathTo [utf8 "p", utf8 "dist", utf8 "a.ts"]).written ∈ changes := by
    decide +kernel
  have hbPlace : distProject.locate (Glob.below distSettings.base [utf8 ".nitro", utf8 "b.ts"]) =
      .ok [utf8 "p", utf8 "dist", utf8 ".nitro", utf8 "b.ts"] := by cbv
  have hbFile : distProject.item? [utf8 "p", utf8 "dist", utf8 ".nitro", utf8 "b.ts"] =
      some (.file []) := by cbv
  have hbChange : (Disk.pathTo [utf8 "p", utf8 "dist", utf8 ".nitro", utf8 "b.ts"]).written ∈
      changes := by decide +kernel
  have hkept := selected_iff_change_kept distSettings hnamed hfiles hmatched.2 (by decide +kernel)
    haPlace haFile (by decide +kernel) haChange
  have hleft := selected_iff_change_kept distSettings hnamed hfiles hmatched.1 (by decide +kernel)
    hbPlace hbFile (by decide +kernel) hbChange
  refine ⟨hfiles, hkept.1.1 (List.mem_singleton_self _), fun hin => ?_⟩
  have hexcluded := hleft.2.1 (hleft.1.2 hin)
  revert hexcluded
  decide +kernel

end Prologue
