import Prologue.Bytes

/-!
# Notices

What the tool reports on its way, with the weight and the wording of each report. Wordings are byte
strings, since file names in them need not be UTF-8.
-/

namespace Prologue

/-- The weight of a notice. -/
inductive Level where
  | info
  | warning
  | error
  deriving DecidableEq, Repr

def Level.name : Level → String
  | info => "INFO"
  | warning => "WARNING"
  | error => "ERROR"

inductive Notice where
  | faultySource (file : Bytes)
  | unreadable (file : Bytes) (cause : String)
  | invalidPattern (pattern : Bytes) (cause : String)
  | extracted (found total : Nat)
  | extractedAgain (found : Nat) (output : Bytes)
  | extractionFailed (changed : Nat) (cause : String)
  | watching (root : Bytes)
  | stoppedWatching (root : Bytes)
  deriving DecidableEq, Repr

namespace Notice

def level : Notice → Level
  | faultySource _ | unreadable _ _ | invalidPattern _ _ => .warning
  | extractionFailed _ _ => .error
  | extracted _ _ | extractedAgain _ _ | watching _ | stoppedWatching _ => .info

def wording : Notice → Bytes
  | faultySource file =>
    utf8 "Syntax errors in " ++ file ++ utf8 "; extracting what could be parsed"
  | unreadable file cause => utf8 "Could not read file " ++ file ++ utf8 (": " ++ cause)
  | invalidPattern pattern cause =>
    utf8 "Invalid glob pattern " ++ pattern ++ utf8 (": " ++ cause)
  | extracted found total => utf8 s!"Extracted metadata from {found} of {total} file(s)"
  | extractedAgain found output =>
    utf8 s!"Re-extracted metadata from {found} file(s) into " ++ output
  | extractionFailed changed cause =>
    utf8 (s!"Re-extraction after {changed} changed file(s) failed: " ++ cause)
  | watching root => utf8 "Watching " ++ root
  | stoppedWatching root => utf8 "Stopped watching " ++ root

end Notice

end Prologue
