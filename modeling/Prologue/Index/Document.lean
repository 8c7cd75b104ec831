import Prologue.Index.Metadata
import Prologue.Json.Shape
import Prologue.Text.Quoted

/-!
# The index as a document

The index is a JSON list with an object for every file. A file name that is not UTF-8 has no text in
JSON, so an index that holds one cannot be written.
-/

namespace Prologue

/-- Where a file name is not UTF-8: the character at which its first stray bytes stand, and those
bytes. -/
structure StrayBytes where
  position : Nat
  bytes : List UInt8
  deriving DecidableEq, Repr

/-- The surrogate that stands for a stray byte. -/
def surrogateOf (byte : UInt8) : Nat := 0xDC00 + byte.toNat

def StrayBytes.message (stray : StrayBytes) : String :=
  let place := match stray.bytes with
    | [byte] =>
      "character '" ++ String.ofList (Text.escapeCode (surrogateOf byte)) ++
        s!"' in position {stray.position}"
    | bytes => s!"characters in position {stray.position}-{stray.position + bytes.length - 1}"
  "Error serializing to JSON: UnicodeEncodeError: 'utf-8' codec can't encode " ++ place ++
    ": surrogates not allowed"

/-- The first stray bytes of a name. -/
def firstStrayBytes (name : Bytes) : StrayBytes :=
  let codes := Utf8.scalars name
  let isStray (code : Nat) : Bool := 0xDC80 ≤ code && code < 0xDD00
  let clean := codes.takeWhile (!isStray ·)
  ⟨clean.length, ((codes.drop clean.length).takeWhile isStray).map fun code =>
    UInt8.ofNat (code - 0xDC00)⟩

def Runner.toJson (runner : Runner) : Json :=
  .object [("name".toList, .text runner.name), ("line".toList, .int runner.line)]

def Schema.toJson (schema : Schema) : Json :=
  .object [("name".toList, .text schema.name),
    ("runner_name".toList, (schema.runnerName.map Json.text).getD .null),
    ("line".toList, .int schema.line)]

def FileMetadata.toJson (metadata : FileMetadata) : Except StrayBytes Json :=
  match Utf8.decode metadata.file with
  | .error _ => .error (firstStrayBytes metadata.file)
  | .ok file => .ok (.object [("file".toList, .text file),
      ("runners".toList, .list (metadata.runners.map Runner.toJson)),
      ("schemas".toList, .list (metadata.schemas.map Schema.toJson))])

/-- The bytes of the index. -/
def indexDocument (metadata : List FileMetadata) : Except StrayBytes Bytes :=
  (metadata.mapM FileMetadata.toJson).map fun files => Utf8.encode (Json.list files).render

open Json Checked

def Runner.ofJson : Json → Checked Runner :=
  asObject fun members =>
    both Runner.mk (member members "name" asText) (member members "line" asInteger)

def Schema.ofJson : Json → Checked Schema :=
  asObject fun members =>
    both (fun (name, runnerName) line => ⟨name, runnerName, line⟩)
      (both Prod.mk (member members "name" asText)
        (memberOr none members "runner_name" asOptionalText))
      (member members "line" asInteger)

def FileMetadata.ofJson : Json → Checked FileMetadata :=
  asObject fun members =>
    both (fun (file, runners) schemas => ⟨Utf8.encode file, runners, schemas⟩)
      (both Prod.mk (member members "file" asText)
        (member members "runners" (asList Runner.ofJson)))
      (member members "schemas" (asList Schema.ofJson))

/-- The index that a JSON value describes. -/
def indexOfJson : Json → Checked (List FileMetadata) := asList FileMetadata.ofJson

end Prologue
