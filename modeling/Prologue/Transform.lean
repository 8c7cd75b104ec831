import Prologue.Directive.Removal
import Prologue.Language

/-!
# Transformation of one source

A source is checked and stripped of its directives. The diagnostics speak of the source as it was.
-/

namespace Prologue

/-- Why a source could not be transformed. -/
inductive TransformError where
  | language (cause : LanguageError)
  /-- The source has faults; the file's name stands in front of the message if it has one. -/
  | faulty (file : List Char)
  | encoding (fault : Utf8.Fault)
  deriving DecidableEq, Repr

/-- The wording for a source with faults. -/
def faultyMessage (file : List Char) : String :=
  if file.isEmpty then "source contains syntax errors"
  else String.ofList file ++ ": source contains syntax errors"

def TransformError.message : TransformError → String
  | language cause => cause.message
  | faulty file => faultyMessage file
  | encoding fault => fault.message

structure TransformResult where
  file : Bytes
  code : List Char
  diagnostics : List Diagnostic
  hasModuleDirective : Bool
  directiveFunctions : List (List Char)

/-- The dialect of a source: the named language, else that of the file's ending if it has one, else
the default. -/
def dialectFor (file : Bytes) (language : Option (List Char)) : Except LanguageError Dialect :=
  match language with
  | some [] => .ok .typescript
  | some language => Dialect.ofLanguage language
  | none =>
    if (Path.ofBytes file).suffix.isEmpty then .ok .typescript
    else Dialect.ofPath (Path.ofBytes file)

/-- Checks a source and takes its directives out. -/
def transform (bytes file : Bytes) (directory : Option Bytes) (language : Option (List Char)) :
    Except TransformError TransformResult :=
  match dialectFor file language with
  | .error cause => .error (.language cause)
  | .ok dialect =>
    let source := Source.read dialect bytes
    if source.hasError then .error (.faulty (Utf8.lossy file))
    else match source.analyze with
      | .error fault => .error (.encoding fault)
      | .ok analysis =>
        match Utf8.decode (source.strip analysis).bytes with
        | .error fault => .error (.encoding fault)
        | .ok code => .ok
          { file := relativeFilename file directory
            code := code
            diagnostics := analysis.diagnostics
            hasModuleDirective := analysis.hasModuleDirective
            directiveFunctions := analysis.directiveFunctions }

end Prologue
