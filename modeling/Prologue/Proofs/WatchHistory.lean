import Mathlib
import Prologue.Proofs.Coverage
import Prologue.Proofs.ReadBack
import Prologue.Proofs.Sharing
import Prologue.Watch

/-!
# What a watch has done

A watch takes a turn for every batch. A turn sees the disk as it is after the batch's edit and the
relevant paths among the changes, and it calls for an extraction if there are any. The events, the
notices and the disk of a watch follow from its turns: each call leads to one extraction, whose
failure to write the index is one more notice, and every later turn is taken all the same. Behind a
call that succeeds, the output holds the document of what an extraction finds on the disk of that
turn.
-/

namespace Prologue

/-! ## Notices of an extraction -/

/-- Whether a notice reports that the sources have been gone through. -/
def Notice.isExtracted : Notice → Bool
  | extracted _ _ => true
  | _ => false

theorem isExtracted_of_mem_extend {disk : Disk} {base : Path} {files : List Path}
    {patterns : List (List Char)} {notice : Notice}
    (h : notice ∈ (Selection.extend disk base files patterns).2) : notice.isExtracted = false := by
  induction patterns generalizing files with
  | nil => cases h
  | cons pattern rest ih =>
    rw [Selection.extend] at h
    split at h
    next => exact ih h
    next =>
      split at h
      next =>
        rcases List.mem_cons.1 h with rfl | h
        · rfl
        · exact ih h
      next => cases h

theorem isExtracted_of_mem_indexFile {disk : Disk} {path : Path} {notice : Notice}
    (h : notice ∈ (indexFile disk path).2) : notice.isExtracted = false := by
  unfold indexFile at h
  split at h
  next =>
    obtain rfl := List.mem_singleton.1 h
    rfl
  next =>
    unfold indexText at h
    split at h
    next =>
      dsimp only at h
      split at h
      next =>
        obtain rfl := List.mem_singleton.1 h
        rfl
      next => cases h
    next => cases h

theorem isExtracted_of_mem_indexFilesWith {disk : Disk} {workers : Nat} {paths : List Path}
    {notice : Notice} (h : notice ∈ (indexFilesWith disk workers paths).2) :
    notice.isExtracted = false := by
  rw [(indexFilesWith_agrees disk workers paths).2.mem_iff, indexFiles, List.mem_flatMap] at h
  obtain ⟨result, hresult, hnotice⟩ := h
  obtain ⟨path, -, rfl⟩ := List.mem_map.1 hresult
  exact isExtracted_of_mem_indexFile hnotice

/-! ## One extraction -/

/-- What an extraction does unless a pattern ends it: it goes through the selected files, says so
once, and either writes the document of what it has found or leaves that to be reported. -/
theorem extract_cases (settings : Settings) (disk : Disk)
    (h : ∀ cause, (extract settings disk).outcome ≠ .error (.pattern cause)) :
    (extract settings disk).notices.countP Notice.isExtracted = 1 ∧
      ((∃ cause, (extract settings disk).outcome = .error (.write cause)) ∨
        ∃ paths document,
          (selectFiles disk (splitPatterns settings.patterns) settings.base).1 = .ok paths ∧
          (extract settings disk).outcome = .ok ⟨(indexFiles disk paths).1, settings.outputPath⟩ ∧
          indexDocument (indexFiles disk paths).1 = .ok document ∧
          (extract settings disk).disk.read settings.outputPath = .ok document) := by
  unfold extract at h ⊢
  split
  next cause _ hselect =>
    rw [hselect] at h
    exact absurd rfl (h cause)
  next paths selecting hselect =>
    have hselecting : selecting.countP Notice.isExtracted = 0 := by
      rw [List.countP_eq_zero]
      intro notice hnotice
      have hfalse : notice.isExtracted = false := by
        apply isExtracted_of_mem_extend
        rw [← selectFiles, hselect]
        exact hnotice
      simp [hfalse]
    have hindexing :
        (indexFilesWith disk settings.workers paths).2.countP Notice.isExtracted = 0 := by
      rw [List.countP_eq_zero]
      intro notice hnotice
      simp [isExtracted_of_mem_indexFilesWith hnotice]
    have hcount : (selecting ++ (indexFilesWith disk settings.workers paths).2 ++
        [Notice.extracted (indexFilesWith disk settings.workers paths).1.length paths.length]).countP
          Notice.isExtracted = 1 := by
      rw [List.countP_append, List.countP_append, hselecting, hindexing]
      rfl
    have hmetadata := (indexFilesWith_agrees disk settings.workers paths).1
    dsimp only
    split
    next cause _ _ => exact ⟨hcount, .inl ⟨cause, rfl⟩⟩
    next hwrite =>
      obtain ⟨document, hdocument, hread⟩ := writeIndex_cases hwrite
      rw [hmetadata] at hdocument
      refine ⟨hcount,
        .inr ⟨paths, document, by rw [hselect], ?_, hdocument, hread⟩⟩
      rw [hmetadata]

namespace Watch

/-! ## Turns -/

/-- What a batch leads to: the disk after its edit, and the relevant paths among its changes. -/
structure Turn where
  disk : Disk
  changed : List Path

namespace Turn

def ofBatch (root : Place) (disk : Disk) (batch : Batch) : Turn :=
  ⟨batch.edit disk, relevantChanges (batch.edit disk) root batch.changes⟩

/-- Whether the turn calls for an extraction. -/
def isCall (turn : Turn) : Bool := !turn.changed.isEmpty

variable (settings : Settings) (turn : Turn)

/-- The disk behind the turn. -/
def after : Disk := if turn.isCall then (extract settings turn.disk).disk else turn.disk

/-- The event of a call, if its extraction succeeds. -/
def event? : Option Event :=
  match (extract settings turn.disk).outcome with
  | .ok extraction => some ⟨turn.changed, extraction⟩
  | .error _ => none

/-- The notices of a call: those of its extraction, and whether that has succeeded. -/
def notices : List Notice :=
  (extract settings turn.disk).notices ++
    match (extract settings turn.disk).outcome with
    | .ok extraction => [.extractedAgain extraction.metadata.length extraction.output.written]
    | .error cause => [.extractionFailed turn.changed.length cause.message]

end Turn

/-- The turns of a watch in their order, each on the disk that the turn before it has left. -/
def turns (settings : Settings) (root : Place) : Disk → List Batch → List Turn
  | _, [] => []
  | disk, batch :: rest =>
    let turn := Turn.ofBatch root disk batch
    turn :: turns settings root (turn.after settings) rest

/-- The turns that call for an extraction. -/
def calls (settings : Settings) (root : Place) (disk : Disk) (batches : List Batch) : List Turn :=
  (turns settings root disk batches).filter Turn.isCall

section

variable {settings : Settings} {root : Place} {disk : Disk} {batch : Batch}

theorem respond_of_not_isCall (h : (Turn.ofBatch root disk batch).isCall = false) :
    respond settings root disk batch =
      ⟨.ok none, [], (Turn.ofBatch root disk batch).after settings⟩ := by
  rw [Turn.after, h]
  simp only [Turn.isCall, Turn.ofBatch, Bool.not_eq_false'] at h
  simp [respond, h, Turn.ofBatch]

theorem respond_of_isCall (h : (Turn.ofBatch root disk batch).isCall = true)
    (hsearch : ∀ cause, (extract settings (Turn.ofBatch root disk batch).disk).outcome ≠
      .error (.pattern cause)) :
    respond settings root disk batch =
      ⟨.ok ((Turn.ofBatch root disk batch).event? settings),
        (Turn.ofBatch root disk batch).notices settings,
        (Turn.ofBatch root disk batch).after settings⟩ := by
  rw [Turn.after, if_pos h]
  simp only [Turn.isCall, Turn.ofBatch, Bool.not_eq_true'] at h hsearch
  simp only [respond, h, Turn.ofBatch, Turn.event?, Turn.notices, Bool.false_eq_true, if_false]
  cases houtcome : (extract settings (batch.edit disk)).outcome with
  | ok extraction => rfl
  | error cause =>
    cases cause with
    | write cause => rfl
    | pattern cause => exact absurd houtcome (hsearch cause)

end

variable (settings : Settings) (root : Place)

/-- A watch that no pattern ends does what its turns say. -/
theorem respondAll_eq (disk : Disk) (batches : List Batch)
    (hsearch : ∀ call ∈ calls settings root disk batches, ∀ cause,
      (extract settings call.disk).outcome ≠ .error (.pattern cause)) :
    respondAll settings root disk batches =
      ⟨(calls settings root disk batches).filterMap (Turn.event? settings), .ok (),
        (calls settings root disk batches).flatMap (Turn.notices settings),
        ((turns settings root disk batches).getLast?.map (Turn.after settings)).getD disk⟩ := by
  induction batches generalizing disk with
  | nil => rfl
  | cons batch rest ih =>
    have hlast : ∀ (turn : Turn) (later : List Turn),
        ((turn :: later).getLast?.map (Turn.after settings)).getD disk =
          (later.getLast?.map (Turn.after settings)).getD (turn.after settings) := by
      intro turn later
      rw [List.getLast?_cons]
      cases later.getLast? <;> rfl
    rw [calls, turns] at hsearch ⊢
    cases hcall : (Turn.ofBatch root disk batch).isCall with
    | false =>
      rw [List.filter_cons_of_neg (by simp [hcall])] at hsearch ⊢
      rw [respondAll, respond_of_not_isCall hcall, hlast]
      dsimp only
      rw [ih _ hsearch]
      rfl
    | true =>
      rw [List.filter_cons_of_pos hcall, List.forall_mem_cons] at hsearch
      rw [List.filter_cons_of_pos hcall, respondAll, respond_of_isCall hcall hsearch.1, hlast]
      dsimp only
      rw [ih _ hsearch.2, List.filterMap_cons, List.flatMap_cons]
      cases (Turn.ofBatch root disk batch).event? settings <;> rfl

/-- Every batch has its turn, which knows the relevant paths among the batch's changes and no
others. -/
theorem forall₂_turns (disk : Disk) (batches : List Batch) :
    List.Forall₂ (fun turn batch => ∀ path, path ∈ turn.changed ↔
      (∃ written ∈ batch.changes, Path.ofBytes written = path) ∧
        isRelevant turn.disk root path = true)
      (turns settings root disk batches) batches := by
  induction batches generalizing disk with
  | nil => exact .nil
  | cons batch rest ih => exact .cons (fun path => mem_relevantChanges) (ih _)

theorem countP_notices {turn : Turn}
    (hsearch : ∀ cause, (extract settings turn.disk).outcome ≠ .error (.pattern cause)) :
    (turn.notices settings).countP Notice.isExtracted = 1 := by
  rw [Turn.notices, List.countP_append, (extract_cases settings turn.disk hsearch).1]
  cases (extract settings turn.disk).outcome <;> rfl

theorem countP_flatMap_notices {calls : List Turn}
    (hsearch : ∀ call ∈ calls, ∀ cause,
      (extract settings call.disk).outcome ≠ .error (.pattern cause)) :
    (calls.flatMap (Turn.notices settings)).countP Notice.isExtracted = calls.length := by
  induction calls with
  | nil => rfl
  | cons call rest ih =>
    rw [List.forall_mem_cons] at hsearch
    rw [List.flatMap_cons, List.countP_append, countP_notices settings hsearch.1, ih hsearch.2,
      List.length_cons, Nat.add_comm]

/-- A watch goes through all batches and extracts once for each batch with a relevant path. Behind
each extraction that succeeds, the output holds what is found on the disk of that turn. -/
theorem watch_follows_batches (disk : Disk) (batches : List Batch)
    (hsearch : ∀ call ∈ calls settings root disk batches, ∀ cause,
      (extract settings call.disk).outcome ≠ .error (.pattern cause)) :
    let turns := turns settings root disk batches
    let calls := calls settings root disk batches
    let record := respondAll settings root disk batches
    List.Forall₂ (fun turn batch => ∀ path, path ∈ turn.changed ↔
        (∃ written ∈ batch.changes, Path.ofBytes written = path) ∧
          isRelevant turn.disk root path = true) turns batches ∧
      record.ending = .ok () ∧
      record.disk = (turns.getLast?.map (Turn.after settings)).getD disk ∧
      record.events = calls.filterMap (Turn.event? settings) ∧
      record.notices = calls.flatMap (Turn.notices settings) ∧
      record.notices.countP Notice.isExtracted = calls.length ∧
      ∀ call ∈ calls, ∀ extraction, (extract settings call.disk).outcome = .ok extraction →
        ∃ paths document,
          (selectFiles call.disk (splitPatterns settings.patterns) settings.base).1 = .ok paths ∧
          extraction = ⟨(indexFiles call.disk paths).1, settings.outputPath⟩ ∧
          indexDocument extraction.metadata = .ok document ∧
          (call.after settings).read settings.outputPath = .ok document := by
  intro turns calls record
  have hrecord := respondAll_eq settings root disk batches hsearch
  have hnotices : record.notices = calls.flatMap (Turn.notices settings) :=
    congrArg Record.notices hrecord
  refine ⟨forall₂_turns settings root disk batches, congrArg Record.ending hrecord,
    congrArg Record.disk hrecord, congrArg Record.events hrecord, hnotices, ?_, ?_⟩
  · rw [hnotices, countP_flatMap_notices settings hsearch]
  · intro call hcall extraction houtcome
    rcases (extract_cases settings call.disk (hsearch call hcall)).2 with
      ⟨cause, hfailed⟩ | ⟨paths, document, hpaths, hfound, hdocument, hread⟩
    · rw [houtcome] at hfailed
      cases hfailed
    · rw [houtcome, Except.ok.injEq] at hfound
      subst hfound
      refine ⟨paths, document, hpaths, rfl, hdocument, ?_⟩
      rw [Turn.after, if_pos (List.mem_filter.1 hcall).2]
      exact hread

/-- Settings for the sources at the top of the disk. -/
def topSettings : Settings := { Settings.default with patterns := "*.ts".toList, output := ['i'] }

/-- A source is made, something else changes, a directory takes the place of the output while the
source changes, and the source changes once more when that directory is gone. -/
def troubledBatches : List Batch :=
  [⟨fun disk => disk.put [utf8 "a.ts"] (.file (utf8 "'use runner'")), [utf8 "/a.ts"]⟩,
    ⟨id, [utf8 "/i", utf8 "/dist/b.ts"]⟩,
    ⟨fun disk => disk.put [utf8 "i"] .directory, [utf8 "/a.ts", utf8 "/i", utf8 "/a.ts"]⟩,
    ⟨fun disk => disk.erase [utf8 "i"], [utf8 "/a.ts"]⟩]

/-- The two extractions that succeed are events, and the failure between them is a notice. -/
theorem troubledBatches_followed :
    let record := respondAll topSettings [] ⟨[], []⟩ troubledBatches
    let a := Path.ofBytes (utf8 "/a.ts")
    let output := Path.ofBytes (utf8 "i")
    let extraction : Extraction := ⟨[⟨utf8 "a.ts", [], []⟩], output⟩
    record.ending = .ok () ∧ record.events = [⟨[a], extraction⟩, ⟨[a], extraction⟩] ∧
      record.notices = [.extracted 1 1, .extractedAgain 1 output.written, .extracted 1 1,
        .extractionFailed 1 (WriteError.file ⟨.isDirectory, output⟩).message,
        .extracted 1 1, .extractedAgain 1 output.written] := by
  intro record a output extraction
  let clear : Disk := ⟨[([utf8 "a.ts"], .file (utf8 "'use runner'"))], []⟩
  let blocked : Disk := clear.put [utf8 "i"] .directory
  let written : Disk := clear.put [utf8 "i"] (.file (utf8
    "[\n  \x7b\n    \"file\": \"a.ts\",\n    \"runners\": [],\n    \"schemas\": []\n  \x7d\n]"))
  have hclear : extract topSettings clear = ⟨.ok extraction, [.extracted 1 1], written⟩ := by cbv
  have hblocked : extract topSettings blocked =
      ⟨.error (.write (.file ⟨.isDirectory, output⟩)), [.extracted 1 1], blocked⟩ := by cbv
  have hcalls : calls topSettings [] ⟨[], []⟩ troubledBatches =
      [⟨clear, [a]⟩, ⟨blocked, [a]⟩, ⟨clear, [a]⟩] := by cbv
  obtain ⟨-, hending, -, hevents, hnotices, -, -⟩ :=
    watch_follows_batches topSettings [] ⟨[], []⟩ troubledBatches (by
      rw [hcalls]
      simp [hclear, hblocked])
  have hsuccess : (Turn.mk clear [a]).event? topSettings = some ⟨[a], extraction⟩ ∧
      (Turn.mk clear [a]).notices topSettings =
        [.extracted 1 1, .extractedAgain 1 output.written] := by
    rw [Turn.event?, Turn.notices, hclear]
    exact ⟨rfl, rfl⟩
  have hfailure : (Turn.mk blocked [a]).event? topSettings = none ∧
      (Turn.mk blocked [a]).notices topSettings = [.extracted 1 1,
        .extractionFailed 1 (WriteError.file ⟨.isDirectory, output⟩).message] := by
    rw [Turn.event?, Turn.notices, hblocked]
    exact ⟨rfl, rfl⟩
  refine ⟨hending, hevents.trans ?_, hnotices.trans ?_⟩
  · rw [hcalls, List.filterMap_cons, List.filterMap_cons, List.filterMap_cons, hsuccess.1,
      hfailure.1]
    rfl
  · rw [hcalls, List.flatMap_cons, List.flatMap_cons, List.flatMap_cons, hsuccess.2, hfailure.2]
    rfl

end Watch

end Prologue
