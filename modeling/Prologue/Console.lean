import Prologue.Console.Table

/-!
# Consoles

A console shows messages, which are written in markup, and tables. It may refuse to. How wide it is and
how it lays out what it shows is its own affair; `standard` is the console that the commands are run
with unless they are given another one.
-/

namespace Prologue

/-- What a console shows of a message, and of a table with a title, or why it does not. -/
structure Console where
  message : List Char → Except Console.Fault (List (List Char))
  table : List Char → List Console.Row → Except Console.Fault (List (List Char))

/-- The console with a number of columns. -/
def Console.standard (columns : Nat) : Console where
  message text := do
    let reading ← Console.Markup.read text
    return (← reading.lines true columns).map (Console.crop columns)
  table := Console.Table.lines columns

end Prologue
