import Prologue.Index.Metadata
import Prologue.Notice
import Prologue.Path

/-!
# Sharing files among workers

All files are handed in at once, each with its position. A worker takes up a file, makes the notices
about it one after the other and is then done with it. Which of the workers moves next is left open,
so there are many ways through; what was found is put back into the order of the positions at the
end.
-/

namespace Prologue

/-- What is found in one file. -/
abbrev Findings := Option FileMetadata × List Notice

/-- A file in the hands of a worker, with the notices that are still to be made. -/
structure Task where
  position : Nat
  metadata : Option FileMetadata
  notices : List Notice
  deriving DecidableEq, Repr

namespace Task

/-- The task that a file at a position is. -/
def ofJob (work : Path → Findings) (job : Path × Nat) : Task :=
  ⟨job.2, (work job.1).1, (work job.1).2⟩

def result (task : Task) : Nat × Option FileMetadata := (task.position, task.metadata)

end Task

structure Pool where
  /-- Files that no worker has taken up, with their positions. -/
  waiting : List (Path × Nat)
  running : List Task
  /-- What was found, with the positions, in the order in which workers were done. -/
  finished : List (Nat × Option FileMetadata)
  notices : List Notice
  deriving DecidableEq, Repr

inductive Move where
  /-- A free worker takes up a waiting file. -/
  | start (file : Nat)
  /-- A worker makes its next notice. -/
  | report (worker : Nat)
  /-- A worker that has made all of its notices is done. -/
  | finish (worker : Nat)
  deriving DecidableEq, Repr

namespace Pool

def ofPaths (paths : List Path) : Pool := ⟨paths.zipIdx, [], [], []⟩

/-- The pool after a move, unless the move cannot be made. -/
def move? (work : Path → Findings) (workers : Nat) (pool : Pool) : Move → Option Pool
  | .start file =>
    match pool.waiting[file]? with
    | none => none
    | some job =>
      if pool.running.length < workers then
        some { pool with
          waiting := pool.waiting.eraseIdx file
          running := pool.running ++ [Task.ofJob work job] }
      else none
  | .report worker =>
    match pool.running[worker]? with
    | some ⟨position, metadata, notice :: notices⟩ =>
      some { pool with
        running := pool.running.set worker ⟨position, metadata, notices⟩
        notices := pool.notices ++ [notice] }
    | _ => none
  | .finish worker =>
    match pool.running[worker]? with
    | some ⟨position, metadata, []⟩ =>
      some { pool with
        running := pool.running.eraseIdx worker
        finished := pool.finished ++ [(position, metadata)] }
    | _ => none

/-- The pool after some moves, unless one of them cannot be made. -/
def follow? (work : Path → Findings) (workers : Nat) : Pool → List Move → Option Pool
  | pool, [] => some pool
  | pool, move :: rest =>
    (pool.move? work workers move).bind fun next => next.follow? work workers rest

/-- No file is left. -/
def isDone (pool : Pool) : Bool := pool.waiting.isEmpty && pool.running.isEmpty

/-- The metadata that was found, in the order of the positions below a number. -/
def metadata (pool : Pool) (count : Nat) : List FileMetadata :=
  (List.range count).filterMap fun position => (pool.finished.lookup position).join

/-- The tasks of all files that are left. -/
def pending (work : Path → Findings) (pool : Pool) : List Task :=
  pool.running ++ pool.waiting.map (Task.ofJob work)

/-- How many moves are left: each waiting file is taken up, each file is done with, and all notices
about them are made. -/
def cost (work : Path → Findings) (pool : Pool) : Nat :=
  pool.waiting.length + (pool.pending work).length +
    ((pool.pending work).flatMap Task.notices).length

/-- The next move if files are taken up as soon as a worker is free and otherwise the worker that
has been at its file for longest goes on. -/
def nextMove (workers : Nat) (pool : Pool) : Move :=
  if pool.running.length < workers && !pool.waiting.isEmpty then .start 0
  else match pool.running with
    | ⟨_, _, _ :: _⟩ :: _ => .report 0
    | _ => .finish 0

/-- The pool after a number of these moves. -/
def advance (work : Path → Findings) (workers : Nat) : Nat → Pool → Pool
  | 0, pool => pool
  | moves + 1, pool =>
    advance work workers moves ((pool.move? work workers (pool.nextMove workers)).getD pool)

/-- The pool when no file is left. -/
def complete (work : Path → Findings) (workers : Nat) (pool : Pool) : Pool :=
  advance work workers (pool.cost work) pool

end Pool

end Prologue
