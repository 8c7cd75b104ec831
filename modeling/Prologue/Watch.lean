import Prologue.Index.Run

/-!
# Watching a directory

A watch extracts again whenever a source below the watched directory has changed. Changes come in
batches. A batch that touches no source leads to nothing, and a failure to write the index is
reported and does not end the watch.
-/

namespace Prologue

/-- Paths that changed together, and what happened to the disk before they were reported. -/
structure Batch where
  edit : Disk → Disk
  changes : List Bytes

namespace Watch

/-- Whether a changed path is a source below the watched directory. Only what lies between the two
is asked for excluded names. -/
def isRelevant (disk : Disk) (root : Place) (path : Path) : Bool :=
  let place := disk.resolve path
  Dialect.supports path && root.isPrefixOf place &&
    !isExcluded ⟨.here, place.drop root.length⟩

/-- Paths as they are written, in text order. -/
def writtenBefore (a b : Path) : Bool := Path.nameBefore a.written b.written

/-- The relevant paths among the changes, each once, in text order. -/
def relevantChanges (disk : Disk) (root : Place) (changes : List Bytes) : List Path :=
  (((changes.map Path.ofBytes).filter (isRelevant disk root)).foldl Selection.insert []).mergeSort
    writtenBefore

/-- One more extraction, and the changes that led to it. -/
structure Event where
  changed : List Path
  extraction : Extraction
  deriving Repr

/-- What has come of a batch: an event if an extraction was made and its index written, the notices,
and the disk. A pattern that ends the search ends the watch with it. -/
structure Response where
  event : Except Glob.PatternError (Option Event)
  notices : List Notice
  disk : Disk

/-- The watched directory. -/
def root (settings : Settings) (disk : Disk) : Place := disk.resolve settings.base

/-- Answers a batch of changes. -/
def respond (settings : Settings) (root : Place) (disk : Disk) (batch : Batch) : Response :=
  let disk := batch.edit disk
  let changed := relevantChanges disk root batch.changes
  if changed.isEmpty then ⟨.ok none, [], disk⟩
  else
    let run := extract settings disk
    match run.outcome with
    | .ok extraction =>
      ⟨.ok (some ⟨changed, extraction⟩),
        run.notices ++ [.extractedAgain extraction.metadata.length extraction.output.written],
        run.disk⟩
    | .error (.write cause) =>
      ⟨.ok none, run.notices ++ [.extractionFailed changed.length cause.message], run.disk⟩
    | .error (.pattern cause) => ⟨.error cause, run.notices, run.disk⟩

/-- A watch over some batches: the events in their order, or what ended it, the notices, and the
disk. -/
structure Record where
  events : List Event
  ending : Except Glob.PatternError Unit
  notices : List Notice
  disk : Disk

/-- Answers batches in turn. -/
def respondAll (settings : Settings) (root : Place) : Disk → List Batch → Record
  | disk, [] => ⟨[], .ok (), [], disk⟩
  | disk, batch :: rest =>
    let response := respond settings root disk batch
    match response.event with
    | .error cause => ⟨[], .error cause, response.notices, response.disk⟩
    | .ok event =>
      let record := respondAll settings root response.disk rest
      { record with
        events := event.toList ++ record.events
        notices := response.notices ++ record.notices }

/-- A whole watch, from its start to its end. -/
def run (settings : Settings) (disk : Disk) (batches : List Batch) : Record :=
  let root := root settings disk
  let shown := (Disk.pathTo root).written
  let record := respondAll settings root disk batches
  { record with
    notices := .watching shown :: record.notices ++
      match record.ending with
      | .ok () => [.stoppedWatching shown]
      | .error _ => [] }

end Watch

end Prologue
