import Prologue.Text.Blank
import Prologue.Text.Width

/-!
# Lines of a given width

Text is broken between words where the next word would not fit. A word that fits on no line is broken
as well if it may be folded, and clipped otherwise. Tabs lead to the next multiple of eight columns.
-/

namespace Prologue.Console

/-- Blanks in place of tabs; the text begins at a column. -/
def expandTabs (column : Nat) : List Char → List Char
  | [] => []
  | c :: rest =>
    if c = '\t' then
      let blanks := 8 - column % 8
      List.replicate blanks ' ' ++ expandTabs (column + blanks) rest
    else c :: expandTabs (column + Text.charWidth c) rest

/-- Words with the blanks behind them, and those before the first; `inBlanks` if the last character
of the current word was a blank. -/
def wordsFrom (current : List Char) (inBlanks : Bool) : List Char → List (List Char)
  | [] => if current.all Text.isBlank then [] else [current.reverse]
  | c :: rest =>
    if Text.isBlank c then wordsFrom (c :: current) true rest
    else if inBlanks && !current.all Text.isBlank then
      current.reverse :: wordsFrom [c] false rest
    else wordsFrom (c :: current) false rest

def words (text : List Char) : List (List Char) := wordsFrom [] false text

def trimEnd (text : List Char) : List Char := (text.reverse.dropWhile Text.isBlank).reverse

/-- Lengths of the pieces of a word that each fit a width; `used` columns and `length` characters
are in the current piece. -/
def foldLengths (width used length : Nat) : List Char → List Nat
  | [] => [length]
  | c :: rest =>
    if used + Text.charWidth c > width then length :: foldLengths width (Text.charWidth c) 1 rest
    else foldLengths width (used + Text.charWidth c) (length + 1) rest

/-- Offsets of pieces from their lengths. -/
def offsetsFrom (start : Nat) : List Nat → List Nat
  | [] => []
  | length :: rest => start :: offsetsFrom (start + length) rest

/-- Where a line is broken, given its words; the next word begins at `start`, with `column` columns
of the current line used. -/
def breaks (folds : Bool) (width start column : Nat) : List (List Char) → List Nat
  | [] => []
  | word :: rest =>
    let size := Text.width (trimEnd word)
    let next := start + word.length
    if column + size ≤ width then breaks folds width next (column + Text.width word) rest
    else if width < size then
      let lengths := if folds then foldLengths width 0 0 word else [word.length]
      let last := word.drop (word.length - lengths.getLastD 0)
      (offsetsFrom start lengths).filter (· != 0) ++ breaks folds width next (Text.width last) rest
    else if column != 0 && start != 0 then start :: breaks folds width next (Text.width word) rest
    else breaks folds width next column rest

/-- Pieces of a text that begin at given offsets, the first at `start`. -/
def piecesAt (start : Nat) (text : List Char) : List Nat → List (List Char)
  | [] => [text]
  | offset :: rest =>
    text.take (offset - start) :: piecesAt offset (text.drop (offset - start)) rest

/-- A line without the blanks at its end that go beyond a width. -/
def dropExcess (width : Nat) (line : List Char) : List Char :=
  let blanks := line.length - (trimEnd line).length
  line.take (line.length - min blanks (line.length - width))

/-- Pieces of a text between line feeds. -/
def linesOf : List Char → List (List Char)
  | [] => [[]]
  | c :: rest =>
    if c = '\n' then [] :: linesOf rest
    else match linesOf rest with
      | [] => [[c]]
      | line :: lines => (c :: line) :: lines

/-- The lines of a text at a width. -/
def wrap (folds : Bool) (width : Nat) (text : List Char) : List (List Char) :=
  (linesOf text).flatMap fun line =>
    let line := expandTabs 0 line
    (piecesAt 0 line (breaks folds width 0 0 (words line))).map (dropExcess width)

/-- Characters that fit a width; a wide one that would go beyond it becomes a blank. -/
def crop (width : Nat) : List Char → List Char
  | [] => []
  | c :: rest =>
    if Text.charWidth c ≤ width then c :: crop (width - Text.charWidth c) rest
    else if width = 0 then [] else [' ']

/-- A line that ends with an ellipsis where it goes beyond a width. -/
def clip (width : Nat) (line : List Char) : List Char :=
  if width < Text.width line then crop (width - 1) line ++ ['…'] else line

def blanks (count : Nat) : List Char := List.replicate count ' '

/-- A line with blanks behind it up to a width. -/
def padEnd (width : Nat) (line : List Char) : List Char :=
  let line := crop width line
  line ++ blanks (width - Text.width line)

/-- A line in the middle of a width. -/
def center (width : Nat) (line : List Char) : List Char :=
  let line := crop width (trimEnd line)
  padEnd width (blanks ((width - Text.width line) / 2) ++ line)

/-- Whether a character ends a line when a text is measured. -/
def endsLine (c : Char) : Bool :=
  [0xA, 0xB, 0xC, 0xD, 0x1C, 0x1D, 0x1E, 0x85, 0x2028, 0x2029].contains c.toNat

/-- Columns of the widest line, where lines end at `endsLine`; `used` are those of the line so
far. -/
def measureFrom (used : Nat) : List Char → Nat
  | [] => used
  | c :: rest =>
    if endsLine c then max used (measureFrom 0 rest)
    else measureFrom (used + Text.charWidth c) rest

/-- Columns that the widest line of a text takes, tabs left aside. -/
def measure (text : List Char) : Nat := measureFrom 0 text

end Prologue.Console
