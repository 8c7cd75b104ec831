import Mathlib.Data.List.Perm.Basic
import Prologue.Index.Run
import Prologue.Proofs.Lists

/-!
# Sharing files leaves the index as it is

Whatever moves the workers of a pool make, two things stay the same up to their order: what has been
found together with what will be found, and the notices that were made together with those still to
be made. Every move brings the pool one step closer to its end, and as long as files are left some
worker can move. So every way through the pool ends, and it ends with the results of all files, each
at its position.
-/

namespace Prologue

namespace Pool

section

variable {work : Path → Findings} {workers : Nat} {pool next : Pool} {move : Move}

/-! ## One move -/

/-- What was found and what will be. -/
def results (work : Path → Findings) (pool : Pool) : List (Nat × Option FileMetadata) :=
  pool.finished ++ (pool.pending work).map Task.result

/-- The notices that were made and those that will be. -/
def allNotices (work : Path → Findings) (pool : Pool) : List Notice :=
  pool.notices ++ (pool.pending work).flatMap Task.notices

/-- What a move can be and what it does. -/
theorem move?_cases (h : pool.move? work workers move = some next) :
    (∃ file job, move = .start file ∧ pool.waiting[file]? = some job ∧
      pool.running.length < workers ∧
      next = { pool with
        waiting := pool.waiting.eraseIdx file
        running := pool.running ++ [Task.ofJob work job] }) ∨
    (∃ worker position metadata notice notices, move = .report worker ∧
      pool.running[worker]? = some ⟨position, metadata, notice :: notices⟩ ∧
      next = { pool with
        running := pool.running.set worker ⟨position, metadata, notices⟩
        notices := pool.notices ++ [notice] }) ∨
    ∃ worker position metadata, move = .finish worker ∧
      pool.running[worker]? = some ⟨position, metadata, []⟩ ∧
      next = { pool with
        running := pool.running.eraseIdx worker
        finished := pool.finished ++ [(position, metadata)] } := by
  cases move with
  | start file =>
    simp only [move?] at h
    split at h
    · cases h
    next job hjob =>
      split at h
      next hfree => exact .inl ⟨file, job, rfl, hjob, hfree, (Option.some.inj h).symm⟩
      · cases h
  | report worker =>
    simp only [move?] at h
    split at h
    next position metadata notice notices htask =>
      exact .inr (.inl ⟨worker, position, metadata, notice, notices, rfl, htask,
        (Option.some.inj h).symm⟩)
    · cases h
  | finish worker =>
    simp only [move?] at h
    split at h
    next position metadata htask =>
      exact .inr (.inr ⟨worker, position, metadata, rfl, htask, (Option.some.inj h).symm⟩)
    · cases h

/-- A file stays among those that are left when a worker takes it up. -/
theorem pending_start (work : Path → Findings) {file : Nat} {job : Path × Nat}
    (h : pool.waiting[file]? = some job) :
    (pool.running ++ [Task.ofJob work job] ++
      (pool.waiting.eraseIdx file).map (Task.ofJob work)).Perm (pool.pending work) := by
  rw [pending, List.append_assoc, List.singleton_append]
  exact ((perm_of_getElem? h).map (Task.ofJob work)).symm.append_left _

/-- The file of a worker is one of those that are left. -/
theorem pending_running (work : Path → Findings) {worker : Nat} {task : Task}
    (h : pool.running[worker]? = some task) :
    (pool.pending work).Perm
      (task :: (pool.running.eraseIdx worker ++ pool.waiting.map (Task.ofJob work))) :=
  (perm_of_getElem? h).append_right _

theorem pending_set (work : Path → Findings) {worker : Nat} {task : Task}
    (h : pool.running[worker]? = some task) (other : Task) :
    (pool.running.set worker other ++ pool.waiting.map (Task.ofJob work)).Perm
      (other :: (pool.running.eraseIdx worker ++ pool.waiting.map (Task.ofJob work))) :=
  (List.set_perm_cons_eraseIdx (List.getElem?_eq_some_iff.1 h).1 other).append_right _

theorem results_move? (h : pool.move? work workers move = some next) :
    (next.results work).Perm (pool.results work) := by
  rcases move?_cases h with ⟨file, job, -, hjob, -, rfl⟩ |
    ⟨worker, position, metadata, notice, notices, -, htask, rfl⟩ |
    ⟨worker, position, metadata, -, htask, rfl⟩
  · exact ((pending_start work hjob).map _).append_left _
  · refine List.Perm.append_left _ ?_
    have hsame := (pending_set work htask ⟨position, metadata, notices⟩).map Task.result
    exact hsame.trans ((pending_running work htask).map Task.result).symm
  · rw [results, results, List.append_assoc, List.singleton_append]
    exact ((pending_running work htask).map Task.result).symm.append_left _

theorem allNotices_move? (h : pool.move? work workers move = some next) :
    (next.allNotices work).Perm (pool.allNotices work) := by
  rcases move?_cases h with ⟨file, job, -, hjob, -, rfl⟩ |
    ⟨worker, position, metadata, notice, notices, -, htask, rfl⟩ |
    ⟨worker, position, metadata, -, htask, rfl⟩
  · exact ((pending_start work hjob).flatMap_right _).append_left _
  · rw [allNotices, allNotices, List.append_assoc]
    refine List.Perm.append_left _ ?_
    refine ((((pending_set work htask _).flatMap_right Task.notices).append_left _).trans ?_).trans
      ((pending_running work htask).flatMap_right Task.notices).symm
    rw [List.flatMap_cons, List.flatMap_cons]
    exact .refl _
  · exact ((pending_running work htask).flatMap_right Task.notices).symm.append_left _

/-- Every move is one of those that are left. -/
theorem cost_move? (h : pool.move? work workers move = some next) :
    next.cost work + 1 = pool.cost work := by
  have hsize : ∀ {tasks others : List Task}, tasks.Perm others → tasks.length = others.length ∧
      (tasks.flatMap Task.notices).length = (others.flatMap Task.notices).length :=
    fun hperm => ⟨hperm.length_eq, (hperm.flatMap_right Task.notices).length_eq⟩
  rw [cost, cost]
  rcases move?_cases h with ⟨file, job, -, hjob, -, rfl⟩ |
    ⟨worker, position, metadata, notice, notices, -, htask, rfl⟩ |
    ⟨worker, position, metadata, -, htask, rfl⟩
  · have hlength := (perm_of_getElem? hjob).length_eq
    have hstart := hsize (pending_start work hjob)
    simp only [pending, List.length_cons] at hlength hstart ⊢
    omega
  · have hbefore := hsize (pending_running work htask)
    have hafter := hsize (pending_set work htask ⟨position, metadata, notices⟩)
    simp only [pending, List.flatMap_cons, List.length_cons, List.length_append] at hbefore hafter ⊢
    omega
  · have hbefore := hsize (pending_running work htask)
    simp only [pending, List.flatMap_cons, List.length_cons, List.nil_append] at hbefore ⊢
    omega

/-! ## All moves -/

theorem kept_follow? {moves : List Move} (h : pool.follow? work workers moves = some next) :
    (next.results work).Perm (pool.results work) ∧
      (next.allNotices work).Perm (pool.allNotices work) ∧
      next.cost work + moves.length = pool.cost work := by
  induction moves generalizing pool with
  | nil =>
    obtain rfl := Option.some.inj h
    exact ⟨.refl _, .refl _, rfl⟩
  | cons move moves ih =>
    obtain ⟨middle, hmove, hrest⟩ := Option.bind_eq_some_iff.1 h
    obtain ⟨hresults, hnotices, hcost⟩ := ih hrest
    refine ⟨hresults.trans (results_move? hmove), hnotices.trans (allNotices_move? hmove), ?_⟩
    rw [List.length_cons, ← Nat.add_assoc, hcost, cost_move? hmove]

theorem isDone_iff (work : Path → Findings) : pool.isDone = true ↔ pool.cost work = 0 := by
  rw [cost, pending, isDone, Bool.and_eq_true, List.isEmpty_iff, List.isEmpty_iff]
  constructor
  · rintro ⟨hwaiting, hrunning⟩
    simp [hwaiting, hrunning]
  · intro hcost
    rw [List.length_append] at hcost
    constructor
    · exact List.eq_nil_of_length_eq_zero (by omega)
    · exact List.eq_nil_of_length_eq_zero (by omega)

/-- As long as files are left, a worker can move. -/
theorem isSome_move? (work : Path → Findings) (hworkers : 1 ≤ workers) (h : pool.isDone = false) :
    (pool.move? work workers (pool.nextMove workers)).isSome = true := by
  rw [nextMove]
  split
  next hstart =>
    rw [Bool.and_eq_true, decide_eq_true_eq] at hstart
    obtain ⟨job, rest, hwaiting⟩ : ∃ job rest, pool.waiting = job :: rest :=
      List.exists_cons_of_ne_nil (by simpa using hstart.2)
    simp [move?, hwaiting, hstart.1]
  next hstart =>
    rcases hrunning : pool.running with _ | ⟨⟨position, metadata, _ | ⟨notice, notices⟩⟩, rest⟩
    · -- Nobody works, so somebody is free, and a file would have been taken up.
      exfalso
      simp only [isDone, hrunning, List.isEmpty_nil, Bool.and_true] at h
      simp [hrunning, h] at hstart
      omega
    · simp [move?, hrunning]
    · simp [move?, hrunning]

/-- Files are taken up and done with until none is left. -/
theorem exists_follow?_complete (hworkers : 1 ≤ workers) (pool : Pool) :
    ∃ moves, pool.follow? work workers moves = some (pool.complete work workers) ∧
      (pool.complete work workers).isDone = true := by
  rw [complete]
  generalize hcost : pool.cost work = count
  induction count generalizing pool with
  | zero => exact ⟨[], rfl, (isDone_iff work).2 hcost⟩
  | succ count ih =>
    have hleft : pool.isDone = false := by
      rw [← Bool.not_eq_true, isDone_iff work, hcost]
      exact Nat.succ_ne_zero count
    obtain ⟨next, hnext⟩ := Option.isSome_iff_exists.1 (isSome_move? work hworkers hleft)
    obtain ⟨moves, hmoves, hdone⟩ := ih next (by have := cost_move? hnext; omega)
    rw [advance, hnext, Option.getD_some]
    refine ⟨pool.nextMove workers :: moves, ?_, hdone⟩
    rw [follow?, hnext, Option.bind_some, hmoves]

/-! ## From the first file to the last -/

theorem results_ofPaths (paths : List Path) :
    (ofPaths paths).results work = paths.zipIdx.map fun job => (job.2, (work job.1).1) := by
  simp [results, pending, ofPaths, Task.result, Task.ofJob]

theorem allNotices_ofPaths (paths : List Path) :
    (ofPaths paths).allNotices work = paths.flatMap fun path => (work path).2 := by
  have hfirst : paths.flatMap (fun path => (work path).2) =
      (paths.zipIdx.map Prod.fst).flatMap fun path => (work path).2 := by rw [List.zipIdx_map_fst]
  rw [hfirst, List.flatMap_map]
  simp [allNotices, pending, ofPaths, Task.ofJob, List.flatMap_map]

theorem cost_ofPaths (paths : List Path) :
    (ofPaths paths).cost work =
      2 * paths.length + (paths.flatMap fun path => (work path).2).length := by
  have hnotices : ((ofPaths paths).pending work).flatMap Task.notices =
      paths.flatMap fun path => (work path).2 := allNotices_ofPaths paths
  have hpending : ((ofPaths paths).pending work).length = paths.length := by simp [pending, ofPaths]
  have hwaiting : (ofPaths paths).waiting.length = paths.length := List.length_zipIdx
  rw [cost, hnotices, hpending, hwaiting, Nat.two_mul]

/-- What was found at a position, if all that was found comes from the files. -/
theorem lookup_of_perm {paths : List Path} {found : List (Nat × Option FileMetadata)}
    (h : found.Perm (paths.zipIdx.map fun job => (job.2, (work job.1).1))) (position : Nat) :
    found.lookup position = paths[position]?.map fun path => (work path).1 := by
  have hmem : ∀ result, (position, result) ∈ found ↔
      ∃ path, paths[position]? = some path ∧ (work path).1 = result := by
    intro result
    rw [h.mem_iff, List.mem_map]
    simp only [List.mem_zipIdx_iff_getElem?, Prod.mk.injEq, Prod.exists]
    constructor
    · rintro ⟨path, index, hpath, rfl, hresult⟩
      exact ⟨path, hpath, hresult⟩
    · rintro ⟨path, hpath, hresult⟩
      exact ⟨path, position, hpath, rfl, hresult⟩
  cases hlookup : found.lookup position with
  | none =>
    rw [List.lookup_eq_none_iff] at hlookup
    cases hpath : paths[position]? with
    | none => rfl
    | some path =>
      have := hlookup _ ((hmem _).2 ⟨path, hpath, rfl⟩)
      simp at this
  | some result =>
    obtain ⟨before, after, hfound, -⟩ := List.lookup_eq_some_iff.1 hlookup
    obtain ⟨path, hpath, rfl⟩ := (hmem result).1 (by simp [hfound])
    rw [hpath, Option.map_some]

/-- Every way through the pool gives the metadata of all files in their order, and all notices. -/
theorem metadata_of_follow? {paths : List Path} {moves : List Move}
    (h : (ofPaths paths).follow? work workers moves = some pool) (hdone : pool.isDone = true) :
    pool.metadata paths.length = paths.filterMap (fun path => (work path).1) ∧
      pool.notices.Perm (paths.flatMap fun path => (work path).2) := by
  obtain ⟨hresults, hnotices, -⟩ := kept_follow? h
  rw [isDone, Bool.and_eq_true, List.isEmpty_iff, List.isEmpty_iff] at hdone
  have hpending : pool.pending work = [] := by rw [pending, hdone.1, hdone.2]; rfl
  rw [results_ofPaths, results, hpending, List.map_nil, List.append_nil] at hresults
  rw [allNotices_ofPaths, allNotices, hpending, List.flatMap_nil, List.append_nil] at hnotices
  refine ⟨?_, hnotices⟩
  rw [metadata, ← filterMap_range paths fun path => (work path).1]
  simp only [lookup_of_perm hresults]

end

end Pool

/-! ## The index -/

theorem indexFiles_eq (disk : Disk) (paths : List Path) :
    indexFiles disk paths =
      (paths.filterMap fun path => (indexFile disk path).1,
        paths.flatMap fun path => (indexFile disk path).2) := by
  simp [indexFiles, List.filterMap_map, List.flatMap_map]

/-- Several workers find what one finds. -/
theorem indexFilesWith_agrees (disk : Disk) (workers : Nat) (paths : List Path) :
    (indexFilesWith disk workers paths).1 = (indexFiles disk paths).1 ∧
      (indexFilesWith disk workers paths).2.Perm (indexFiles disk paths).2 := by
  rw [indexFilesWith]
  split
  next hseveral =>
    rw [Bool.and_eq_true, decide_eq_true_eq, decide_eq_true_eq] at hseveral
    obtain ⟨moves, hmoves, hdone⟩ := Pool.exists_follow?_complete (Nat.le_of_lt hseveral.1)
      (Pool.ofPaths paths)
    rw [indexFiles_eq]
    exact Pool.metadata_of_follow? hmoves hdone
  next => exact ⟨rfl, .refl _⟩

theorem indexFile_of_error {disk : Disk} {path : Path} {cause : ReadError}
    (h : readSource disk path = .error cause) :
    indexFile disk path = (none, [.unreadable path.written cause.message]) := by
  rw [indexFile, h]

/-- Every way through the pool ends with the metadata of all files in the order of their paths, and
with the notices that one worker makes, in some order. -/
theorem shared_indexing_agrees (disk : Disk) {workers : Nat} (hworkers : 1 ≤ workers)
    (paths : List Path) :
    (∀ moves pool, (Pool.ofPaths paths).follow? (indexFile disk) workers moves = some pool →
      moves.length ≤
        2 * paths.length + (paths.flatMap fun path => (indexFile disk path).2).length ∧
      (pool.isDone = false → ∃ move next, pool.move? (indexFile disk) workers move = some next) ∧
      (pool.isDone = true →
        pool.metadata paths.length = (indexFilesWith disk workers paths).1 ∧
          pool.notices.Perm (indexFilesWith disk workers paths).2)) ∧
    (indexFilesWith disk workers paths).1 = paths.filterMap (fun path => (indexFile disk path).1) ∧
    (indexFilesWith disk workers paths).2.Perm (paths.flatMap fun path => (indexFile disk path).2) ∧
    ∀ front path back cause, paths = front ++ path :: back → readSource disk path = .error cause →
      (indexFilesWith disk workers paths).1 = (indexFilesWith disk workers (front ++ back)).1 ∧
        (indexFilesWith disk workers paths).2.Perm
          (.unreadable path.written cause.message ::
            (indexFilesWith disk workers (front ++ back)).2) := by
  have hagrees : ∀ paths,
      (indexFilesWith disk workers paths).1 = paths.filterMap (fun path => (indexFile disk path).1) ∧
      (indexFilesWith disk workers paths).2.Perm
        (paths.flatMap fun path => (indexFile disk path).2) := by
    intro paths
    have h := indexFilesWith_agrees disk workers paths
    rwa [indexFiles_eq] at h
  refine ⟨fun moves pool hmoves => ⟨?_, fun hleft => ?_, fun hdone => ?_⟩, (hagrees paths).1,
    (hagrees paths).2, ?_⟩
  · have hcost := (Pool.kept_follow? hmoves).2.2
    rw [Pool.cost_ofPaths] at hcost
    omega
  · exact ⟨_, Option.isSome_iff_exists.1 (Pool.isSome_move? _ hworkers hleft)⟩
  · obtain ⟨hmetadata, hnotices⟩ := Pool.metadata_of_follow? hmoves hdone
    exact ⟨hmetadata.trans (hagrees paths).1.symm, hnotices.trans (hagrees paths).2.symm⟩
  · rintro front path back cause rfl herror
    have hfile := indexFile_of_error herror
    obtain ⟨hall, hallNotices⟩ := hagrees (front ++ path :: back)
    obtain ⟨hothers, hotherNotices⟩ := hagrees (front ++ back)
    constructor
    · rw [hall, hothers, List.filterMap_append, List.filterMap_cons, hfile, List.filterMap_append]
    · rw [List.flatMap_append, List.flatMap_cons, hfile, List.singleton_append] at hallNotices
      rw [List.flatMap_append] at hotherNotices
      exact (hallNotices.trans List.perm_middle).trans (hotherNotices.symm.cons _)

/-- A disk with one source. -/
def oneSource : Disk where
  items := [([utf8 "a.ts"], .file (utf8 "'use runner'"))]
  here := []

/-- Two workers, a path that leads nowhere and another one twice, taken up and finished out of
order. -/
theorem oneSource_shared :
    let a := Path.ofBytes (utf8 "a.ts")
    let b := Path.ofBytes (utf8 "b.ts")
    let moves : List Move :=
      [.start 1, .start 0, .finish 0, .start 0, .finish 1, .report 0, .finish 0]
    let missing := Notice.unreadable (utf8 "b.ts") "[Errno 2] No such file or directory: 'b.ts'"
    ∃ pool, (Pool.ofPaths [b, a, a]).follow? (indexFile oneSource) 2 moves = some pool ∧
      pool.metadata 3 = [⟨utf8 "a.ts", [], []⟩, ⟨utf8 "a.ts", [], []⟩] ∧
      pool.notices.Perm [missing] := by
  intro a b moves missing
  have hmoves : (Pool.ofPaths [b, a, a]).follow? (indexFile oneSource) 2 moves =
      some ⟨[], [], [(1, some ⟨utf8 "a.ts", [], []⟩), (2, some ⟨utf8 "a.ts", [], []⟩), (0, none)],
        [missing]⟩ := by decide +kernel
  have hshared := ((shared_indexing_agrees oneSource (by decide) [b, a, a]).1 moves _ hmoves).2.2 rfl
  refine ⟨_, hmoves, hshared.1.trans ?_, hshared.2.trans ?_⟩
  · decide +kernel
  · decide +kernel

end Prologue
