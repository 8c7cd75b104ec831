import Prologue.Disk

/-!
# Paths and places

A path that is written and read again is the same path, if its names are names of directory entries.
The place that a path leads to is the one that it resolves to, so the disk decides only whether the
path leads anywhere. A file that was written is read back from the place that it was written to, and
nothing else on the disk has changed.
-/

namespace Prologue

namespace Path

/-- A name that an entry of a directory can have: it has no slash and is neither empty nor made of
one or two dots alone. -/
def isEntryName (name : Bytes) : Bool := isName name && name != Disk.above && !name.contains slash

theorem isName_of_isEntryName {name : Bytes} (h : isEntryName name = true) : isName name = true := by
  simp only [isEntryName, Bool.and_eq_true] at h
  exact h.1.1

theorem ne_above_of_isEntryName {name : Bytes} (h : isEntryName name = true) :
    name ≠ Disk.above := by
  simp only [isEntryName, Bool.and_eq_true, bne_iff_ne] at h
  exact h.1.2

theorem slash_not_mem_of_isEntryName {name : Bytes} (h : isEntryName name = true) :
    slash ∉ name := by
  simpa [isEntryName] using (Bool.and_eq_true_iff.1 h).2

/-! ## Writing and reading -/

theorem splitOn_of_not_mem {mark : UInt8} {piece : Bytes} (h : mark ∉ piece) :
    splitOn mark piece = [piece] := by
  induction piece with
  | nil => rfl
  | cons byte piece ih =>
    rw [List.mem_cons, not_or] at h
    rw [splitOn, if_neg (Ne.symm h.1), ih h.2]

theorem splitOn_append {mark : UInt8} {piece : Bytes} (h : mark ∉ piece) (rest : Bytes) :
    splitOn mark (piece ++ mark :: rest) = piece :: splitOn mark rest := by
  induction piece with
  | nil => rw [List.nil_append, splitOn, if_pos rfl]
  | cons byte piece ih =>
    rw [List.mem_cons, not_or] at h
    rw [List.cons_append, splitOn, if_neg (Ne.symm h.1), ih h.2]

theorem splitOn_joined {names : List Bytes} (hne : names ≠ [])
    (h : ∀ name ∈ names, slash ∉ name) : splitOn slash (joined names) = names := by
  induction names with
  | nil => exact absurd rfl hne
  | cons name rest ih =>
    rw [List.forall_mem_cons] at h
    cases rest with
    | nil => exact splitOn_of_not_mem h.1
    | cons next more => rw [joined, splitOn_append h.1, ih (List.cons_ne_nil _ _) h.2]; simp

/-- The pieces of a text hold its bytes, the mark apart. -/
theorem mem_of_mem_splitOn {mark byte : UInt8} {written piece : Bytes}
    (hpiece : piece ∈ splitOn mark written) (hbyte : byte ∈ piece) : byte ∈ written ∧ byte ≠ mark := by
  induction written generalizing piece with
  | nil =>
    rw [List.mem_singleton.1 hpiece] at hbyte
    cases hbyte
  | cons head rest ih =>
    have hrest : ∀ {piece}, piece ∈ splitOn mark rest → byte ∈ piece →
        byte ∈ head :: rest ∧ byte ≠ mark := fun hpiece hbyte =>
      (ih hpiece hbyte).imp_left (List.mem_cons_of_mem head)
    rw [splitOn] at hpiece
    split at hpiece
    · rcases List.mem_cons.1 hpiece with rfl | hpiece
      · cases hbyte
      · exact hrest hpiece hbyte
    next hhead =>
      split at hpiece
      · rw [List.mem_singleton.1 hpiece, List.mem_singleton] at hbyte
        subst hbyte
        exact ⟨List.mem_cons_self, hhead⟩
      next first pieces hsplit =>
        rw [hsplit] at hrest
        rcases List.mem_cons.1 hpiece with rfl | hpiece
        · rcases List.mem_cons.1 hbyte with rfl | hbyte
          · exact ⟨List.mem_cons_self, hhead⟩
          · exact hrest List.mem_cons_self hbyte
        · exact hrest (List.mem_cons_of_mem _ hpiece) hbyte

/-- All names are such as are read: not empty, no single dot, and without a slash. -/
def Plain (path : Path) : Prop := ∀ name ∈ path.names, isName name = true ∧ slash ∉ name

theorem plain_ofBytes (written : Bytes) : (ofBytes written).Plain := fun _ hname =>
  ⟨(List.mem_filter.1 hname).2, fun hslash =>
    (mem_of_mem_splitOn (List.mem_filter.1 hname).1 hslash).2 rfl⟩

/-- What names begin with is no slash. -/
theorem takeWhile_joined {names : List Bytes}
    (h : ∀ name ∈ names, isName name = true ∧ slash ∉ name) :
    (joined names).takeWhile (· == slash) = [] := by
  cases names with
  | nil => rfl
  | cons name rest =>
    obtain ⟨hname, hslash⟩ := h name List.mem_cons_self
    cases name with
    | nil => cases hname
    | cons byte tail =>
      have hbyte : (byte == slash) = false := by
        rw [beq_eq_false_iff_ne]
        rintro rfl
        exact hslash List.mem_cons_self
      obtain ⟨more, hjoined⟩ : ∃ more, joined ((byte :: tail) :: rest) = byte :: more := by
        cases rest with
        | nil => exact ⟨tail, rfl⟩
        | cons next rest => exact ⟨_, rfl⟩
      rw [hjoined, List.takeWhile_cons_of_neg (by simp [hbyte])]

theorem filter_splitOn_joined {names : List Bytes}
    (h : ∀ name ∈ names, isName name = true ∧ slash ∉ name) :
    (splitOn slash (joined names)).filter isName = names := by
  by_cases hne : names = []
  · subst hne
    rfl
  · rw [splitOn_joined hne fun name hname => (h name hname).2, List.filter_eq_self]
    exact fun name hname => (h name hname).1

/-- A slash in front of a path adds a piece without a name. -/
theorem filter_splitOn_slash (written : Bytes) :
    (splitOn slash (slash :: written)).filter isName = (splitOn slash written).filter isName := by
  rw [← List.nil_append (slash :: written), splitOn_append List.not_mem_nil,
    List.filter_cons_of_neg (by decide)]

/-- A path is read as it was written. -/
theorem ofBytes_written {path : Path} (h : path.Plain) : ofBytes path.written = path := by
  obtain ⟨root, names⟩ := path
  have hstart := takeWhile_joined h
  have hnames := filter_splitOn_joined h
  cases root with
  | here =>
    by_cases hne : names = []
    · subst hne
      rfl
    · have hwritten : (Path.mk .here names).written = joined names := by simp [written, hne, Root.written]
      rw [hwritten, ofBytes, hnames, rootOf, hstart]
      rfl
  | slash =>
    have hwritten : (Path.mk .slash names).written = slash :: joined names := by
      simp [written, Root.written]
    rw [hwritten, ofBytes, filter_splitOn_slash, hnames, rootOf,
      List.takeWhile_cons_of_pos (by decide), hstart]
    rfl
  | doubleSlash =>
    have hwritten : (Path.mk .doubleSlash names).written = slash :: slash :: joined names := by
      simp [written, Root.written]
    rw [hwritten, ofBytes, filter_splitOn_slash, filter_splitOn_slash, hnames, rootOf,
      List.takeWhile_cons_of_pos (by decide), List.takeWhile_cons_of_pos (by decide), hstart]
    rfl

/-- A path from the top is read as it was written. -/
theorem ofBytes_written_pathTo {place : Place} (h : ∀ name ∈ place, isEntryName name = true) :
    ofBytes (Disk.pathTo place).written = Disk.pathTo place :=
  ofBytes_written fun name hname =>
    ⟨isName_of_isEntryName (h name hname), slash_not_mem_of_isEntryName (h name hname)⟩

end Path

namespace Disk

/-- The names of all items are names of directory entries. -/
def WellNamed (disk : Disk) : Prop :=
  ∀ entry ∈ disk.items, ∀ name ∈ entry.1, Path.isEntryName name = true

instance (disk : Disk) : Decidable disk.WellNamed :=
  inferInstanceAs (Decidable (∀ entry ∈ disk.items, ∀ name ∈ entry.1, Path.isEntryName name = true))

theorem WellNamed.of_item? {disk : Disk} (h : disk.WellNamed) {place : Place} {item : Item}
    (hitem : disk.item? place = some item) : ∀ name ∈ place, Path.isEntryName name = true := by
  rw [item?] at hitem
  split at hitem
  next hempty =>
    rw [List.isEmpty_iff.1 hempty]
    exact fun name hname => absurd hname List.not_mem_nil
  next =>
    obtain ⟨before, after, hitems, -⟩ := List.lookup_eq_some_iff.1 hitem
    exact h (place, item) (by simp [hitems])

/-! ## Following paths -/

theorem foldl_step_of_forall_ne {names : List Bytes} (h : ∀ name ∈ names, name ≠ above)
    (place : Place) : names.foldl step place = place ++ names := by
  induction names generalizing place with
  | nil => simp
  | cons name names ih =>
    rw [List.forall_mem_cons] at h
    rw [List.foldl_cons, ih h.2, step, if_neg h.1, List.append_assoc, List.singleton_append]

theorem foldl_step_of_follow {disk : Disk} {place target : Place} {names : List Bytes}
    (h : disk.follow place names = .ok target) : names.foldl step place = target := by
  induction names generalizing place with
  | nil => exact Except.ok.inj h
  | cons name names ih =>
    rw [follow] at h
    split at h
    · cases h
    · cases h
    · exact ih h

/-- A path leads to the place that it resolves to, if it leads anywhere. -/
theorem resolve_of_locate {disk : Disk} {path : Path} {place : Place}
    (h : disk.locate path = .ok place) : disk.resolve path = place :=
  foldl_step_of_follow h

theorem find?_of_locate {disk : Disk} {path : Path} {place : Place}
    (h : disk.locate path = .ok place) : disk.find? path = disk.item? place := by
  rw [find?, h]
  rfl

theorem resolve_pathTo (disk : Disk) {place : Place} (h : ∀ name ∈ place, name ≠ above) :
    disk.resolve (pathTo place) = place :=
  foldl_step_of_forall_ne h []

/-! ## Writing files -/

theorem lookup_filter_ne {place other : Place} (h : other ≠ place) (items : List (Place × Item)) :
    (items.filter (·.1 != place)).lookup other = items.lookup other := by
  induction items with
  | nil => rfl
  | cons entry items ih =>
    obtain ⟨here, item⟩ := entry
    by_cases hhere : here = place
    · subst hhere
      rw [List.filter_cons_of_neg (by simp), ih, List.lookup_cons, beq_eq_false_iff_ne.2 h]
    · rw [List.filter_cons_of_pos (by simp [hhere]), List.lookup_cons, List.lookup_cons, ih]

theorem item?_put (disk : Disk) {place : Place} (hplace : place ≠ []) (item : Item) (other : Place) :
    (disk.put place item).item? other = if other = place then some item else disk.item? other := by
  by_cases hother : other = place
  · subst hother
    simp [item?, put, hplace]
  · simp only [item?, put, List.lookup_cons, beq_eq_false_iff_ne.2 hother, lookup_filter_ne hother,
      if_neg hother]

theorem follow_put {disk : Disk} {place target : Place} {names : List Bytes}
    (h : disk.follow place names = .ok target) (htarget : disk.item? target ≠ some .directory)
    (hne : target ≠ []) (item : Item) : (disk.put target item).follow place names = .ok target := by
  induction names generalizing place with
  | nil => exact h
  | cons name names ih =>
    rw [follow] at h ⊢
    -- A place on the way is a directory, so it is not the one that changes.
    split at h
    · cases h
    · cases h
    next hdirectory =>
      have hother : place ≠ target := by
        rintro rfl
        exact htarget hdirectory
      rw [item?_put _ hne, if_neg hother, hdirectory]
      exact ih h

/-- What was written to a file is read from it. -/
theorem read_of_write {disk written : Disk} {path : Path} {content : Bytes}
    (h : disk.write path content = .ok written) : written.read path = .ok content := by
  rw [write] at h
  split at h
  · cases h
  next place hlocate =>
    split at h
    · cases h
    next hfree =>
      obtain rfl := Except.ok.inj h
      have hne : place ≠ [] := by
        rintro rfl
        exact hfree rfl
      have hagain : (disk.put place (.file content)).locate path = .ok place :=
        follow_put hlocate hfree hne _
      rw [read, hagain]
      simp only [item?_put _ hne, if_true]

end Disk

end Prologue
