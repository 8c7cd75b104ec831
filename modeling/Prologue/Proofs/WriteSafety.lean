import Mathlib
import Prologue.Proofs.ReadBack

/-!
# Writing the index harms no file

The directories that lead to the output are made from the top down, each only where nothing is, and
the file is written last, when its document is there. So a write that fails has made directories on
the way to the output and nothing else, and one that succeeds has put the document at the place of
the output besides. It succeeds exactly if no file stands on the way, no directory stands at that
place, and every file name of the index is UTF-8.
-/

namespace Prologue

/-- The paths that lead to a path, from its root on, the path itself included. -/
def Path.way (path : Path) : List Path := path.names.inits.map (Path.mk path.root)

namespace Disk

/-- The places on the way to a path, from where it starts, its own place included. -/
def placesTo (disk : Disk) (path : Path) : List Place := path.way.map disk.resolve

theorem mem_placesTo {disk : Disk} {path : Path} {place : Place} :
    place ∈ disk.placesTo path ↔
      ∃ front, front <+: path.names ∧ front.foldl step (disk.origin path) = place := by
  simp only [placesTo, Path.way, List.map_map, List.mem_map, List.mem_inits]
  rfl

theorem resolve_mem_placesTo (disk : Disk) (path : Path) :
    disk.resolve path ∈ disk.placesTo path :=
  mem_placesTo.2 ⟨path.names, List.prefix_refl _, rfl⟩

theorem placesTo_parent_subset (disk : Disk) (path : Path) :
    disk.placesTo path.parent ⊆ disk.placesTo path := by
  intro place hplace
  obtain ⟨front, hfront, rfl⟩ := mem_placesTo.1 hplace
  exact mem_placesTo.2 ⟨front, hfront.trans (List.dropLast_prefix _), rfl⟩

/-- Behind its last name, a path has been at the places on the way to its parent. -/
theorem foldl_step_mem_placesTo_parent (disk : Disk) (path : Path) {front : List Bytes}
    (hfront : front <+: path.names) (hne : front ≠ path.names) :
    front.foldl step (disk.origin path) ∈ disk.placesTo path.parent := by
  refine mem_placesTo.2 ⟨front, ?_, rfl⟩
  obtain ⟨rest, hrest⟩ := hfront
  have hnonempty : rest ≠ [] := by
    rintro rfl
    exact hne ((List.append_nil front).symm.trans hrest)
  show front <+: path.names.dropLast
  rw [← hrest, List.dropLast_append_of_ne_nil hnonempty]
  exact List.prefix_append _ _

/-! ## Following paths -/

/-- A path is followed to its end if all places before it are directories. Otherwise the first of
them that is none tells why. -/
theorem follow_cases (disk : Disk) (place : Place) (names : List Bytes) :
    (disk.follow place names = .ok (names.foldl step place) ∧
      ∀ front, front <+: names → front ≠ names →
        disk.item? (front.foldl step place) = some .directory) ∨
    (∃ front, front <+: names ∧ front ≠ names ∧
      ((disk.follow place names = .error .missing ∧ disk.item? (front.foldl step place) = none) ∨
        (disk.follow place names = .error .notDirectory ∧
          ∃ content, disk.item? (front.foldl step place) = some (.file content)))) := by
  induction names generalizing place with
  | nil => exact .inl ⟨rfl, fun front hfront hne => absurd (List.prefix_nil.1 hfront) hne⟩
  | cons name names ih =>
    rw [follow]
    cases hitem : disk.item? place with
    | none => exact .inr ⟨[], List.nil_prefix, (List.cons_ne_nil _ _).symm, .inl ⟨rfl, hitem⟩⟩
    | some item =>
      cases item with
      | file content =>
        exact .inr ⟨[], List.nil_prefix, (List.cons_ne_nil _ _).symm, .inr ⟨rfl, content, hitem⟩⟩
      | directory =>
        rcases ih (step place name) with ⟨hfollow, hway⟩ | ⟨front, hfront, hne, hstop⟩
        · refine .inl ⟨hfollow, fun front hfront hne => ?_⟩
          cases front with
          | nil => exact hitem
          | cons first front =>
            obtain ⟨rfl, hrest⟩ := List.cons_prefix_cons.1 hfront
            exact hway front hrest fun heq => hne (congrArg _ heq)
        · exact .inr ⟨name :: front, List.cons_prefix_cons.2 ⟨rfl, hfront⟩,
            fun heq => hne (List.cons.inj heq).2, hstop⟩

theorem find?_of_locate_error {disk : Disk} {path : Path} {refusal : Refusal}
    (h : disk.locate path = .error refusal) : disk.find? path = none := by
  rw [find?, h]
  rfl

/-- If all places on the way to its parent are directories, a path leads to its place. -/
theorem locate_of_placesTo_parent {disk : Disk} {path : Path}
    (h : ∀ place ∈ disk.placesTo path.parent, disk.item? place = some .directory) :
    disk.locate path = .ok (disk.resolve path) := by
  rcases disk.follow_cases (disk.origin path) path.names with
    ⟨hfollow, -⟩ | ⟨front, hfront, hne, ⟨-, hnone⟩ | ⟨-, content, hfile⟩⟩
  · exact hfollow
  · rw [h _ (disk.foldl_step_mem_placesTo_parent path hfront hne)] at hnone
    cases hnone
  · rw [h _ (disk.foldl_step_mem_placesTo_parent path hfront hne)] at hfile
    cases hfile

/-! ## Disks that grow -/

/-- A disk has grown into another one: all that is new are directories, at some of the given places,
where nothing was before. -/
structure GrowsTo (places : List Place) (before after : Disk) : Prop where
  here : after.here = before.here
  items : ∀ place, after.item? place = before.item? place ∨
    place ∈ places ∧ before.item? place = none ∧ after.item? place = some .directory

namespace GrowsTo

variable {places : List Place} {before between after : Disk}

theorem refl (places : List Place) (disk : Disk) : GrowsTo places disk disk :=
  ⟨rfl, fun _ => .inl rfl⟩

theorem mono {more : List Place} (h : GrowsTo places before after) (hmore : places ⊆ more) :
    GrowsTo more before after :=
  ⟨h.here, fun place => (h.items place).imp_right fun hnew => ⟨hmore hnew.1, hnew.2⟩⟩

theorem trans (h : GrowsTo places before between) (h' : GrowsTo places between after) :
    GrowsTo places before after := by
  refine ⟨h'.here.trans h.here, fun place => ?_⟩
  rcases h.items place with hsame | ⟨hplace, hnone, hdirectory⟩
  · rw [← hsame]
    exact h'.items place
  · rcases h'.items place with hsame | ⟨-, hnone', -⟩
    · exact .inr ⟨hplace, hnone, hsame.trans hdirectory⟩
    · rw [hdirectory] at hnone'
      cases hnone'

/-- The files of the two disks are the same, with the same contents. -/
theorem file_iff (h : GrowsTo places before after) (place : Place) (content : Bytes) :
    after.item? place = some (.file content) ↔ before.item? place = some (.file content) := by
  rcases h.items place with hsame | ⟨-, hnone, hdirectory⟩
  · rw [hsame]
  · simp [hnone, hdirectory]

theorem directory (h : GrowsTo places before after) {place : Place}
    (hplace : before.item? place = some .directory) : after.item? place = some .directory := by
  rcases h.items place with hsame | ⟨-, hnone, -⟩
  · exact hsame.trans hplace
  · rw [hplace] at hnone
    cases hnone

theorem resolve_eq (h : GrowsTo places before after) (path : Path) :
    after.resolve path = before.resolve path := by
  simp only [resolve, origin, h.here]

theorem placesTo_eq (h : GrowsTo places before after) (path : Path) :
    after.placesTo path = before.placesTo path :=
  List.map_congr_left fun other _ => h.resolve_eq other

end GrowsTo

theorem growsTo_put {disk : Disk} {place : Place} (h : disk.item? place = none) :
    GrowsTo [place] disk (disk.put place .directory) := by
  have hne : place ≠ [] := by
    rintro rfl
    cases h
  refine ⟨rfl, fun other => ?_⟩
  rw [item?_put _ hne]
  by_cases hother : other = place
  · exact .inr ⟨List.mem_singleton.2 hother, hother ▸ h, if_pos hother⟩
  · exact .inl (if_neg hother)

/-! ## Making directories -/

/-- One directory is made or is there already, and so are those before it. Otherwise one of those is
missing, or a file is on the way. -/
theorem requireDirectory_cases (disk : Disk) (path : Path) :
    (∃ after, disk.requireDirectory path = .ok after ∧ GrowsTo (disk.placesTo path) disk after ∧
      ∀ place ∈ disk.placesTo path, after.item? place = some .directory) ∨
    (∃ error, disk.requireDirectory path = .error error ∧ error.refusal = .missing ∧
      path.names ≠ [] ∧ ∃ place ∈ disk.placesTo path.parent, disk.item? place = none) ∨
    (∃ error, disk.requireDirectory path = .error error ∧ error.refusal ≠ .missing ∧
      ∃ place ∈ disk.placesTo path, ∃ content, disk.item? place = some (.file content)) := by
  rcases disk.follow_cases (disk.origin path) path.names with
    ⟨hfollow, hway⟩ | ⟨front, hfront, hne, ⟨hfollow, hnone⟩ | ⟨hfollow, content, hfile⟩⟩
  · have hlocate : disk.locate path = .ok (disk.resolve path) := hfollow
    have hplaces : ∀ {after : Disk}, GrowsTo (disk.placesTo path) disk after →
        after.item? (disk.resolve path) = some .directory →
        ∀ place ∈ disk.placesTo path, after.item? place = some .directory := by
      intro after hgrows hlast place hplace
      obtain ⟨front, hfront, rfl⟩ := mem_placesTo.1 hplace
      by_cases hne : front = path.names
      · exact hne ▸ hlast
      · exact hgrows.directory (hway front hfront hne)
    cases hitem : disk.item? (disk.resolve path) with
    | none =>
      left
      have hne : disk.resolve path ≠ [] := by
        intro hnil
        simp [hnil, item?] at hitem
      have hmade : disk.requireDirectory path = .ok (disk.put (disk.resolve path) .directory) := by
        simp [requireDirectory, makeDirectory, hlocate, hitem]
      have hgrows := (growsTo_put hitem).mono
        (List.cons_subset.2 ⟨resolve_mem_placesTo disk path, List.nil_subset _⟩)
      exact ⟨_, hmade, hgrows, hplaces hgrows (by rw [item?_put _ hne, if_pos rfl])⟩
    | some item =>
      cases item with
      | directory =>
        left
        have hthere : disk.isDirectory path = true := by
          simp [isDirectory, find?_of_locate hlocate, hitem]
        refine ⟨disk, ?_, GrowsTo.refl _ _, hplaces (GrowsTo.refl _ _) hitem⟩
        simp [requireDirectory, makeDirectory, hlocate, hitem, hthere]
      | file content =>
        right; right
        have hother : disk.isDirectory path = false := by
          simp [isDirectory, find?_of_locate hlocate, hitem]
        refine ⟨⟨.occupied, path⟩, ?_, by simp, disk.resolve path, resolve_mem_placesTo disk path,
          content, hitem⟩
        simp [requireDirectory, makeDirectory, hlocate, hitem, hother]
  · right; left
    have hlocate : disk.locate path = .error .missing := hfollow
    have hnothing : disk.isDirectory path = false := by
      simp [isDirectory, find?_of_locate_error hlocate]
    refine ⟨⟨.missing, path⟩, ?_, rfl, ?_, _,
      disk.foldl_step_mem_placesTo_parent path hfront hne, hnone⟩
    · simp [requireDirectory, makeDirectory, hlocate, hnothing]
    · intro hnil
      rw [hnil, List.prefix_nil] at hfront
      exact hne (hfront.trans hnil.symm)
  · right; right
    have hlocate : disk.locate path = .error .notDirectory := hfollow
    have hnothing : disk.isDirectory path = false := by
      simp [isDirectory, find?_of_locate_error hlocate]
    refine ⟨⟨.notDirectory, path⟩, ?_, by simp, _, mem_placesTo.2 ⟨front, hfront, rfl⟩, content,
      hfile⟩
    simp [requireDirectory, makeDirectory, hlocate, hnothing]

/-- Directories are made from the top down, and if that fails, a file is on the way. -/
theorem requireDirectories_cases (disk : Disk) {depth : Nat} {path : Path}
    (hdepth : path.names.length ≤ depth) :
    ∃ after, GrowsTo (disk.placesTo path) disk after ∧
      ((requireDirectories depth disk path = (.ok (), after) ∧
        ∀ place ∈ disk.placesTo path, after.item? place = some .directory) ∨
      (∃ error, requireDirectories depth disk path = (.error error, after) ∧
        ∃ place ∈ disk.placesTo path, ∃ content, disk.item? place = some (.file content))) := by
  -- What is missing before the path is on the way to its parent, which has a name less.
  induction depth generalizing path with
  | zero =>
    have hnil : path.names = [] := List.length_eq_zero_iff.1 (Nat.le_zero.1 hdepth)
    rcases disk.requireDirectory_cases path with
      ⟨after, hok, hgrows, hplaces⟩ | ⟨error, -, -, hnames, -⟩ | ⟨error, herror, -, hfile⟩
    · exact ⟨after, hgrows, .inl ⟨by rw [requireDirectories, hok], hplaces⟩⟩
    · exact absurd hnil hnames
    · exact ⟨disk, GrowsTo.refl _ _, .inr ⟨error, by rw [requireDirectories, herror], hfile⟩⟩
  | succ depth ih =>
    rcases disk.requireDirectory_cases path with
      ⟨after, hok, hgrows, hplaces⟩ | ⟨error, herror, hmissing, hnames, -⟩ |
        ⟨error, herror, hother, hfile⟩
    · exact ⟨after, hgrows, .inl ⟨by rw [requireDirectories, hok], hplaces⟩⟩
    · have hparent : path.parent.names.length ≤ depth := by
        rw [Path.parent, List.length_dropLast]
        omega
      obtain ⟨between, hgrows, ⟨hok, hplaces⟩ | ⟨error', herror', place, hplace, hfile⟩⟩ :=
        ih hparent
      · have hgrows := hgrows.mono (disk.placesTo_parent_subset path)
        rcases between.requireDirectory_cases path with
          ⟨after, hok', hgrows', hplaces'⟩ | ⟨error', -, -, -, place, hplace, hnone⟩ |
            ⟨error', herror', -, place, hplace, content, hfile⟩
        · rw [hgrows.placesTo_eq] at hgrows' hplaces'
          refine ⟨after, hgrows.trans hgrows', .inl ⟨?_, hplaces'⟩⟩
          rw [requireDirectories, herror]
          simp [hmissing, hok, hok']
        · rw [hgrows.placesTo_eq] at hplace
          rw [hplaces place hplace] at hnone
          cases hnone
        · rw [hgrows.placesTo_eq] at hplace
          refine ⟨between, hgrows, .inr ⟨error', ?_, place, hplace, content,
            (hgrows.file_iff place content).1 hfile⟩⟩
          rw [requireDirectories, herror]
          simp [hmissing, hok, herror']
      · refine ⟨between, hgrows.mono (disk.placesTo_parent_subset path), .inr ⟨error', ?_, place,
          disk.placesTo_parent_subset path hplace, hfile⟩⟩
        rw [requireDirectories, herror]
        simp [hmissing, herror']
    · refine ⟨disk, GrowsTo.refl _ _, .inr ⟨error, ?_, hfile⟩⟩
      rw [requireDirectories, herror]
      simp [hother]

/-! ## Writing the file -/

/-- Behind directories, a file is written unless a directory is in its place. -/
theorem write_of_placesTo_parent {disk : Disk} {path : Path}
    (h : ∀ place ∈ disk.placesTo path.parent, disk.item? place = some .directory)
    (content : Bytes) :
    disk.write path content =
      if disk.item? (disk.resolve path) = some .directory then .error ⟨.isDirectory, path⟩
      else .ok (disk.put (disk.resolve path) (.file content)) := by
  rw [write, locate_of_placesTo_parent h]

theorem GrowsTo.put {places : List Place} {before after : Disk} (h : GrowsTo places before after)
    {place : Place} (hne : place ≠ []) (item : Item) :
    GrowsTo places (before.put place item) (after.put place item) := by
  refine ⟨h.here, fun other => ?_⟩
  rw [item?_put _ hne, item?_put _ hne]
  by_cases hother : other = place
  · exact .inl (by rw [if_pos hother, if_pos hother])
  · rw [if_neg hother, if_neg hother]
    exact h.items other

end Disk

theorem exists_indexDocument_iff (metadata : List FileMetadata) :
    (∃ document, indexDocument metadata = .ok document) ↔
      ∀ file ∈ metadata, Utf8.Valid file.file := by
  constructor
  · rintro ⟨document, hdocument⟩
    have hvalues : ∃ values, metadata.mapM FileMetadata.toJson = .ok values := by
      rw [indexDocument] at hdocument
      cases hvalues : metadata.mapM FileMetadata.toJson with
      | error cause => rw [hvalues] at hdocument; cases hdocument
      | ok values => exact ⟨values, rfl⟩
    clear hdocument
    induction metadata with
    | nil => simp
    | cons file files ih =>
      obtain ⟨values, hvalues⟩ := hvalues
      rw [List.mapM_cons] at hvalues
      cases hfile : file.toJson with
      | error cause => rw [hfile] at hvalues; cases hvalues
      | ok value =>
        cases hfiles : files.mapM FileMetadata.toJson with
        | error cause => rw [hfile, hfiles] at hvalues; cases hvalues
        | ok rest =>
          obtain ⟨text, htext, -⟩ := FileMetadata.toJson_cases hfile
          exact List.forall_mem_cons.2 ⟨⟨text, htext⟩, ih ⟨rest, hfiles⟩⟩
  · exact exists_indexDocument

/-- What a write of the index has done: it has made directories, and either that is all and there
was a reason to fail, or the document is in its place as well and there was none. -/
theorem writeIndex_outcome (disk : Disk) (metadata : List FileMetadata) (output : Path) :
    ∃ made, Disk.GrowsTo (disk.placesTo output.parent) disk made ∧
      ((∃ cause, writeIndex disk metadata output = (.error cause, made) ∧
        ((∃ place ∈ disk.placesTo output.parent, ∃ content,
            disk.item? place = some (.file content)) ∨
          disk.item? (disk.resolve output) = some .directory ∨
          disk.resolve output ∈ disk.placesTo output.parent ∨
          ¬ ∃ document, indexDocument metadata = .ok document)) ∨
      (∃ document, writeIndex disk metadata output =
          (.ok (), made.put (disk.resolve output) (.file document)) ∧
        indexDocument metadata = .ok document ∧
        disk.item? (disk.resolve output) ≠ some .directory ∧
        ∀ place ∈ disk.placesTo output.parent, made.item? place = some .directory ∧
          place ≠ disk.resolve output)) := by
  have hdepth : output.parent.names.length ≤ output.names.length := by
    rw [Path.parent, List.length_dropLast]
    omega
  obtain ⟨made, hgrows, ⟨hok, hplaces⟩ | ⟨error, herror, hfile⟩⟩ :=
    disk.requireDirectories_cases hdepth
  · refine ⟨made, hgrows, ?_⟩
    have hprepare : disk.prepareFor output = (.ok (), made) := hok
    cases hdocument : indexDocument metadata with
    | error cause =>
      left
      refine ⟨.document cause, ?_, .inr (.inr (.inr (by simp)))⟩
      simp [writeIndex, hprepare, hdocument]
    | ok document =>
      have hwrite :=
        Disk.write_of_placesTo_parent (hgrows.placesTo_eq output.parent ▸ hplaces) document
      rw [hgrows.resolve_eq] at hwrite
      by_cases hdirectory : made.item? (disk.resolve output) = some .directory
      · left
        rw [if_pos hdirectory] at hwrite
        refine ⟨.file ⟨.isDirectory, output⟩, by simp [writeIndex, hprepare, hdocument, hwrite], ?_⟩
        rcases hgrows.items (disk.resolve output) with hsame | ⟨hplace, -, -⟩
        · exact .inr (.inl (hsame ▸ hdirectory))
        · exact .inr (.inr (.inl hplace))
      · right
        rw [if_neg hdirectory] at hwrite
        refine ⟨document, by simp [writeIndex, hprepare, hdocument, hwrite], rfl,
          fun hbefore => hdirectory (hgrows.directory hbefore), fun place hplace => ?_⟩
        refine ⟨hplaces place hplace, ?_⟩
        rintro rfl
        exact hdirectory (hplaces _ hplace)
  · refine ⟨made, hgrows, .inl ⟨.directory error, ?_, .inl hfile⟩⟩
    have hprepare : disk.prepareFor output = (.error error, made) := herror
    simp [writeIndex, hprepare]

/-- Writing an index loses and changes no other file, whether it succeeds or fails, and makes
nothing but directories on the way to the output. It succeeds exactly if nothing stands in the way
and all names are UTF-8. -/
theorem writeIndex_harms_no_file (disk : Disk) (metadata : List FileMetadata) (output : Path) :
    let written := writeIndex disk metadata output
    let above := disk.placesTo output.parent
    let target := disk.resolve output
    (∀ cause, written.1 = .error cause →
      (∀ place content, written.2.item? place = some (.file content) ↔
        disk.item? place = some (.file content)) ∧
      Disk.GrowsTo above disk written.2) ∧
    (written.1 = .ok () → ∃ document, indexDocument metadata = .ok document ∧
      written.2.item? target = some (.file document) ∧
      (∀ place content, place ≠ target → (written.2.item? place = some (.file content) ↔
        disk.item? place = some (.file content))) ∧
      Disk.GrowsTo above (disk.put target (.file document)) written.2) ∧
    (written.1 = .ok () ↔
      (∀ place ∈ above, ∀ content, disk.item? place ≠ some (.file content)) ∧
      disk.item? target ≠ some .directory ∧ target ∉ above ∧
      ∀ file ∈ metadata, Utf8.Valid file.file) := by
  intro written above target
  obtain ⟨made, hgrows, ⟨cause, heq, hreason⟩ | ⟨document, heq, hdocument, hfree, hplaces⟩⟩ :=
    writeIndex_outcome disk metadata output
  · have hwritten : written = (.error cause, made) := heq
    rw [hwritten]
    refine ⟨fun _ _ => ⟨hgrows.file_iff, hgrows⟩, fun hok => absurd hok (by simp), ?_⟩
    refine iff_of_false (by simp) ?_
    rintro ⟨hfiles, hfree, haside, hvalid⟩
    rcases hreason with ⟨place, hplace, content, hfile⟩ | hdirectory | habove | hdocument
    · exact absurd hfile (hfiles place hplace content)
    · exact absurd hdirectory hfree
    · exact absurd habove haside
    · exact absurd ((exists_indexDocument_iff metadata).2 hvalid) hdocument
  · have hwritten : written = (.ok (), made.put target (.file document)) := heq
    have hne : target ≠ [] := by
      intro hnil
      exact hfree (show disk.item? target = _ by rw [hnil]; rfl)
    have hitem := Disk.item?_put made hne (.file document)
    rw [hwritten]
    refine ⟨fun cause herror => absurd herror (by simp),
      fun _ => ⟨document, hdocument, ?_, ?_, ?_⟩, ?_⟩
    · exact (hitem target).trans (if_pos rfl)
    · intro place content hother
      rw [hitem place, if_neg hother]
      exact hgrows.file_iff place content
    · exact hgrows.put hne (.file document)
    · refine iff_of_true rfl ⟨fun place hplace content hfile => ?_, hfree, fun habove => ?_,
        (exists_indexDocument_iff metadata).1 ⟨document, hdocument⟩⟩
      · rw [← hgrows.file_iff, (hplaces place hplace).1] at hfile
        cases hfile
      · exact (hplaces target habove).2 rfl

end Prologue
