import Prologue.Console.Markup
import Prologue.Console.Wrap
import Prologue.Directive.Diagnostic
import Prologue.Json

/-!
# Tables

Rows of texts are shown in columns under a header and a title. A column is as wide as its widest cell,
with a blank on either side. If that is too wide for the console, the widest columns give way first,
down to the width of the next one, until all fit.
-/

namespace Prologue.Console

/-- The cells of a row. -/
abbrev Row := List (List Char)

namespace Markup

/-- The lines of what was read at a width. The styles of all that is shown have to be read for this,
and those of empty spans as well if the text stays as it is. -/
def Reading.lines (folds : Bool) (width : Nat) (reading : Reading) :
    Except Fault (List (List Char)) :=
  let lines := wrap folds width reading.shown
  let isCut := 1 < lines.length || reading.shown.any fun c => c = '\n' || c = '\t'
  let isSeen (span : Span) : Bool :=
    !isCut || ((reading.shown.take span.stop).drop span.start).any (· != '\n')
  if reading.allSpans.any fun span => isSeen span && (Style.normalize span.style).isNone then
    .error .number
  else .ok lines

end Markup

namespace Table

def header : Row := ["line".toList, "column".toList, "kind".toList, "message".toList]

/-- The row of a diagnostic. Columns are counted from one here. -/
def rowOf (diagnostic : Diagnostic) : Row :=
  [Json.decimal diagnostic.span.startLine, Json.decimal (diagnostic.span.startColumn + 1),
    diagnostic.flaw.kind.toList, diagnostic.flaw.message.toList]

/-- Widths of the columns, with the blanks at their sides. -/
def naturalWidths (rows : List Row) : List Nat :=
  (List.range header.length).map fun column =>
    rows.foldl (fun width row => max width (measure (row.getD column []))) 0 + 2

/-- The sum of widths. -/
def needed (widths : List Nat) : Nat := widths.foldl (· + ·) 0

/-- The nearest integer to a quotient, the even one of two. -/
def roundDiv (a b : Nat) : Nat :=
  let quotient := a / b
  let rest := 2 * (a % b)
  if rest < b || (rest = b && quotient % 2 = 0) then quotient else quotient + 1

/-- Takes a total away from values, in equal shares from those that give and at most so much from each
of them. -/
def reduce (total givers : Nat) : List (Nat × Bool × Nat) → List Nat
  | [] => []
  | (value, gives, most) :: rest =>
    if gives && 0 < givers then
      let share := min most (roundDiv total givers)
      (value - share) :: reduce (total - share) (givers - 1) rest
    else value :: reduce total givers rest

/-- Makes the widest columns narrower until all fit a limit or are equally wide. Every round takes
something away, so the sum of the widths bounds their number. -/
def collapse (limit : Nat) : Nat → List Nat → List Nat
  | 0, widths => widths
  | rounds + 1, widths =>
    let excess := needed widths - limit
    let widest := widths.foldl max 0
    let second := (widths.filter (· != widest)).foldl max 0
    if excess = 0 || widest = second then widths
    else
      let most := min excess (widest - second)
      let entries := widths.map fun width => (width, width == widest, most)
      collapse limit rounds (reduce excess (widths.count widest) entries)

/-- Widths of the columns on a console, with the blanks at their sides. -/
def widths (columns : Nat) (rows : List Row) : List Nat :=
  let limit := columns - (header.length + 1)
  let natural := (naturalWidths rows).map fun width => max 1 (min limit width)
  if needed natural ≤ limit then natural
  else
    let collapsed := collapse limit (needed natural) natural
    let entries := collapsed.map fun width => (width, width != 0, width)
    reduce (needed collapsed - limit) (collapsed.countP (· != 0)) entries

/-- A line of a table: a part for every column, with marks around and between them. -/
def ruled (left between right : Char) : List (List Char) → List Char
  | [] => [left, right]
  | [part] => left :: part ++ [right]
  | part :: rest => left :: part ++ ruledRest rest
where
  ruledRest : List (List Char) → List Char
    | [] => [right]
    | part :: rest => between :: part ++ ruledRest rest

/-- A horizontal line. -/
def rule (left fill between right : Char) (widths : List Nat) : List Char :=
  ruled left between right (widths.map fun width => List.replicate width fill)

/-- The lines of a row, as many as its highest cell has. -/
def rowLines (mark : Char) (widths : List Nat) (row : List (List (List Char))) : List (List Char) :=
  let cells := widths.zip row
  let height := cells.foldl (fun height (_, lines) => max height lines.length) 1
  (List.range height).map fun index =>
    ruled mark mark mark (cells.map fun (width, lines) =>
      crop width (' ' :: padEnd (width - 2) (lines.getD index []) ++ [' ']))

/-- Columns of a whole table. -/
def totalWidth (widths : List Nat) : Nat := needed widths + widths.length + 1

/-- The lines of a cell between its blanks, none if they leave no room. -/
def cellLines (width : Nat) (cell : Markup.Reading) : Except Fault (List (List Char)) :=
  if width ≤ 2 then .ok [] else (cell.lines false (width - 2)).map (·.map (clip (width - 2)))

/-- The lines of the cells of a row, each at the width of its column. -/
def layOut (widths : List Nat) (row : List Markup.Reading) :
    Except Fault (List (List (List Char))) :=
  (widths.zip row).mapM fun (width, cell) => cellLines width cell

/-- The lines of a title in the middle of a width, none for an empty one. -/
def titleLines (width : Nat) (title : List Char) :
    Except Fault (List (List Char)) :=
  if title.isEmpty then .ok []
  else do
    let reading ← Markup.read title
    return (← reading.lines true width).map (center width)

/-- The lines of a table with a title, with markup taken out of all texts. -/
def lines (columns : Nat) (title : List Char) (rows : List Row) :
    Except Fault (List (List Char)) := do
  let cells ← (header :: rows).mapM fun row => row.mapM (Markup.read)
  let widths := widths columns (cells.map fun row => row.map (·.shown))
  let titleLines ← titleLines (totalWidth widths) title
  let laid ← cells.mapM (layOut widths)
  let lines := titleLines ++
    [rule '┏' '━' '┳' '┓' widths] ++ (laid.take 1).flatMap (rowLines '┃' widths) ++
    [rule '┡' '━' '╇' '┩' widths] ++ (laid.drop 1).flatMap (rowLines '│' widths) ++
    [rule '└' '─' '┴' '┘' widths]
  return lines.map (crop columns)

end Table

end Prologue.Console
