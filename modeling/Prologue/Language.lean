import Prologue.Grammar.Dialect
import Prologue.Path
import Prologue.Text.Blank
import Prologue.Text.Lower

/-!
# Languages

Which dialect a language name or a file name asks for.
-/

namespace Prologue

/-- Why no dialect could be chosen. -/
inductive LanguageError where
  | unsupported (name : List Char)
  | extension (suffix : List Char)
  | unspecified
  deriving DecidableEq, Repr

def LanguageError.message : LanguageError → String
  | unsupported name =>
    "Unsupported language '" ++ String.ofList name ++
      "'. Supported: ['javascript', 'tsx', 'typescript']"
  | extension suffix => "Unsupported file extension: " ++ String.ofList suffix
  | unspecified => "Language must be provided when no file path is available."

namespace Dialect

/-- Names of the dialects. -/
def ofName? (name : List Char) : Option Dialect :=
  let names : List (String × Dialect) :=
    [("javascript", javascript), ("js", javascript), ("jsx", javascript), ("node", javascript),
      ("ts", typescript), ("tsx", tsx), ("typescript", typescript)]
  names.lookup (String.ofList name)

/-- File name endings of the dialects. -/
def ofSuffix? (suffix : List Char) : Option Dialect :=
  let suffixes : List (String × Dialect) :=
    [(".cjs", javascript), (".cts", typescript), (".js", javascript), (".jsx", javascript),
      (".mjs", javascript), (".mts", typescript), (".ts", typescript), (".tsx", tsx)]
  suffixes.lookup (String.ofList suffix)

/-- The dialect of a language name, blanks around it and its case left aside. -/
def ofLanguage (language : List Char) : Except LanguageError Dialect :=
  match ofName? (Text.lower (Text.trim language)) with
  | some dialect => .ok dialect
  | none => .error (.unsupported language)

/-- The ending of a file name in lower case. -/
def suffixOf (path : Path) : List Char := Text.lower (Utf8.lossy path.suffix)

/-- The dialect of a file. -/
def ofPath (path : Path) : Except LanguageError Dialect :=
  match ofSuffix? (suffixOf path) with
  | some dialect => .ok dialect
  | none => .error (.extension (suffixOf path))

/-- The dialect of a language name or, for lack of one, of a file. -/
def resolve (language : Option (List Char)) (path : Option Path) : Except LanguageError Dialect :=
  match language, path with
  | some (c :: cs), _ => ofLanguage (c :: cs)
  | _, some path => ofPath path
  | _, none => .error .unspecified

/-- Whether a file name has the ending of a dialect. -/
def supports (path : Path) : Bool := (ofSuffix? (suffixOf path)).isSome

end Dialect

end Prologue
