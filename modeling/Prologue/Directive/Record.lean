import Prologue.Directive.Diagnostic
import Prologue.Json.Shape
import Prologue.Text.Quoted

/-!
# Diagnostics from records

A diagnostic can be made from outside data: a span given as a JSON object and the name of a
location.
-/

namespace Prologue

open Json Checked

def Span.ofJson : Json → Checked Span :=
  asObject fun members =>
    both (fun (startByte, endByte) (startLine, startColumn) =>
        ⟨startByte, endByte, startLine, startColumn⟩)
      (both Prod.mk (member members "start_byte" asInteger) (member members "end_byte" asInteger))
      (both Prod.mk (member members "start_line" asInteger)
        (member members "start_column" asInteger))

/-- A name that no location has. -/
structure LocationError where
  given : List Char
  deriving DecidableEq, Repr

def LocationError.message (error : LocationError) : String :=
  Text.quoted error.given ++ " is not a valid DirectiveLocation"

/-- The location with the given name. -/
def Location.read (name : List Char) : Except LocationError Location :=
  match Location.ofName? (String.ofList name) with
  | some location => .ok location
  | none => .error ⟨name⟩

end Prologue
