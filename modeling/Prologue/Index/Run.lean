import Prologue.Index.Document
import Prologue.Index.Extraction
import Prologue.Index.Pool
import Prologue.Index.Selection
import Prologue.Settings

/-!
# Extraction from a disk

Files are read as text, whatever ends their lines, and indexed one by one. A file that cannot be
read is reported and left out. The index is written at the end; if that fails, no file has changed,
though directories may have been made.
-/

namespace Prologue

/-- Line feeds in place of carriage returns, with or without a line feed behind them. -/
def normalizeLines : Bytes → Bytes
  | [] => []
  | 13 :: 10 :: rest => lineFeed :: normalizeLines rest
  | byte :: rest => (if byte = 13 then lineFeed else byte) :: normalizeLines rest

/-- Why a file could not be read as a source. -/
inductive ReadError where
  | language (cause : LanguageError)
  | disk (cause : DiskError)
  | encoding (fault : Utf8.Fault)
  deriving DecidableEq, Repr

def ReadError.message : ReadError → String
  | language cause => cause.message
  | disk cause => cause.message
  | encoding fault => fault.message

/-- The dialect and the text of a file. -/
def readSource (disk : Disk) (path : Path) : Except ReadError (Dialect × Bytes) :=
  match Dialect.ofPath path with
  | .error cause => .error (.language cause)
  | .ok dialect =>
    match disk.read path with
    | .error cause => .error (.disk cause)
    | .ok content =>
      match Utf8.decode content with
      | .error fault => .error (.encoding fault)
      | .ok _ => .ok (dialect, normalizeLines content)

/-- Metadata of a file, with the notices made on the way. -/
def indexFile (disk : Disk) (path : Path) : Option FileMetadata × List Notice :=
  match readSource disk path with
  | .error cause => (none, [.unreadable path.written cause.message])
  | .ok (dialect, content) => indexText dialect content path.written

/-- Metadata of files in their order, with the notices made on the way. -/
def indexFiles (disk : Disk) (paths : List Path) : List FileMetadata × List Notice :=
  let results := paths.map (indexFile disk)
  (results.filterMap (·.1), results.flatMap (·.2))

/-- Metadata of files in their order, found by several workers if there are several files. -/
def indexFilesWith (disk : Disk) (workers : Nat) (paths : List Path) :
    List FileMetadata × List Notice :=
  if 1 < workers && 1 < paths.length then
    let pool := (Pool.ofPaths paths).complete (indexFile disk) workers
    (pool.metadata paths.length, pool.notices)
  else indexFiles disk paths

/-- Why the index could not be written. -/
inductive WriteError where
  | directory (cause : DiskError)
  | document (cause : StrayBytes)
  | file (cause : DiskError)
  deriving DecidableEq, Repr

def WriteError.message : WriteError → String
  | directory cause => "Failed to create output directory: " ++ cause.message
  | document cause => "Failed to serialize metadata: " ++ cause.message
  | file cause => "Failed to write output file: " ++ cause.message

/-- Writes the index to a file, after the directories that lead to it. -/
def writeIndex (disk : Disk) (metadata : List FileMetadata) (output : Path) :
    Except WriteError Unit × Disk :=
  match disk.prepareFor output with
  | (.error cause, disk) => (.error (.directory cause), disk)
  | (.ok (), disk) =>
    match indexDocument metadata with
    | .error cause => (.error (.document cause), disk)
    | .ok document =>
      match disk.write output document with
      | .error cause => (.error (.file cause), disk)
      | .ok disk => (.ok (), disk)

/-- Why an extraction failed. -/
inductive ExtractionError where
  /-- A pattern that ends the search. -/
  | pattern (cause : Glob.PatternError)
  | write (cause : WriteError)
  deriving DecidableEq, Repr

def ExtractionError.message : ExtractionError → String
  | pattern cause => cause.message
  | write cause => cause.message

/-- What an extraction has written, and where. -/
structure Extraction where
  metadata : List FileMetadata
  output : Path
  deriving Repr

/-- The outcome of an extraction, the notices made on the way, and the disk after it. -/
structure ExtractionRun where
  outcome : Except ExtractionError Extraction
  notices : List Notice
  disk : Disk

namespace Settings

/-- The directory that patterns start from. -/
def base (settings : Settings) : Path := Path.ofBytes (Utf8.encode settings.directory)

/-- The file that the index goes to. -/
def outputPath (settings : Settings) : Path := Path.ofBytes (Utf8.encode settings.output)

end Settings

/-- Selects files, indexes them and writes the index. -/
def extract (settings : Settings) (disk : Disk) : ExtractionRun :=
  match selectFiles disk (splitPatterns settings.patterns) settings.base with
  | (.error cause, notices) => ⟨.error (.pattern cause), notices, disk⟩
  | (.ok paths, selecting) =>
    let (metadata, indexing) := indexFilesWith disk settings.workers paths
    let notices := selecting ++ indexing ++ [.extracted metadata.length paths.length]
    match writeIndex disk metadata settings.outputPath with
    | (.error cause, disk) => ⟨.error (.write cause), notices, disk⟩
    | (.ok (), disk) => ⟨.ok ⟨metadata, settings.outputPath⟩, notices, disk⟩

end Prologue
