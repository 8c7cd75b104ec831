import Prologue.Bytes

/-!
# Diagnostics

What can be wrong with a directive, where it stands, and how that is worded.
-/

namespace Prologue

/-- The text of the directive. -/
def useRunner : List Char := ['u', 's', 'e', ' ', 'r', 'u', 'n', 'n', 'e', 'r']

/-- A place in a source: byte offsets, a line from one on and a column in bytes from zero on. -/
structure Span where
  startByte : Int
  endByte : Int
  startLine : Int
  startColumn : Int
  deriving DecidableEq, Repr

/-- The span of the bytes from `start` to `stop`. -/
def Span.of (source : Bytes) (start stop : Nat) : Span :=
  ⟨start, stop, source.line start, source.column start⟩

/-- Where a directive can stand. -/
inductive Location where
  | module
  | functionBody
  deriving DecidableEq, Repr

def Location.name : Location → String
  | module => "Module"
  | functionBody => "FunctionBody"

/-- The location with the given name. -/
def Location.ofName? (name : String) : Option Location :=
  [module, functionBody].find? (·.name == name)

/-- What is wrong with a directive. -/
inductive Flaw where
  /-- It marks a function that is not asynchronous. -/
  | nonAsyncFunction
  /-- It does not come first. -/
  | misplaced (location : Location)
  /-- It is one edit away from the directive. -/
  | misspelled (directive : List Char)
  deriving DecidableEq, Repr

namespace Flaw

def kind : Flaw → String
  | nonAsyncFunction => "NonAsyncFunction"
  | misplaced _ => "MisplacedDirective"
  | misspelled _ => "MisspelledDirective"

def location? : Flaw → Option Location
  | misplaced location => some location
  | _ => none

def directive? : Flaw → Option (List Char)
  | misspelled directive => some directive
  | _ => none

def message : Flaw → String
  | nonAsyncFunction => "Functions marked with \"use runner\" must be async functions"
  | misplaced .module => "The \"use runner\" directive must be at the top of the file"
  | misplaced .functionBody =>
    "The \"use runner\" directive must be at the top of the function body"
  | misspelled directive =>
    "\"" ++ String.ofList directive ++ "\" looks like a typo. Did you mean \"use runner\"?"

end Flaw

structure Diagnostic where
  flaw : Flaw
  span : Span
  deriving DecidableEq, Repr

end Prologue
