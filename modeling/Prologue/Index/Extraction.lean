import Prologue.Index.Discovery
import Prologue.Language
import Prologue.Notice

/-!
# Metadata of one source

A text without the directive is passed over. A text with faults gives what could be read of it.
-/

namespace Prologue

/-- Whether the directive stands in quotes anywhere in a text. -/
def mentionsDirective (content : Bytes) : Bool :=
  content.includes (utf8 "\"use runner\"") || content.includes (utf8 "'use runner'")

/-- Metadata of a text in a dialect, with the notices made on the way. -/
def indexText (dialect : Dialect) (content file : Bytes) : Option FileMetadata × List Notice :=
  if mentionsDirective content then
    let source := Source.read dialect content
    let runners := source.runners.toOption.getD []
    let schemas := (source.schemas (runners.map (·.name))).toOption.getD []
    (some ⟨file, runners, schemas⟩, if source.hasError then [.faultySource file] else [])
  else (none, [])

/-- Metadata of a text in a named language. The name matters only if the text has the directive. -/
def indexTextIn (language : List Char) (content file : Bytes) :
    Except LanguageError (Option FileMetadata × List Notice) :=
  if mentionsDirective content then
    (Dialect.ofLanguage language).map fun dialect => indexText dialect content file
  else .ok (none, [])

end Prologue
