/-!
# Wildcards

How one name is matched: a star stands for any characters, a question mark for one, and characters
in brackets for one of them, or for any other one if they begin with an exclamation mark. A bracket
that is never closed stands for itself. Names and patterns are lists of code points.
-/

namespace Prologue.Glob

/-- A part of a bracket expression: a character, or the mark that makes its neighbours the ends of
a range. -/
inductive Mark where
  | char (code : Nat)
  | dash
  deriving DecidableEq, Repr

/-- One part of a pattern for a name. -/
inductive Piece where
  | star
  | one
  | char (code : Nat)
  /-- One character whose membership in the ranges differs from `negated`. -/
  | oneOf (negated : Bool) (ranges : List (Nat × Nat))
  deriving DecidableEq, Repr

namespace Piece

def starCode : Nat := 42

def questionCode : Nat := 63

def openCode : Nat := 91

def closeCode : Nat := 93

def bangCode : Nat := 33

def hyphenCode : Nat := 45

/-- Splits what stands in brackets at the hyphens that make ranges. No hyphen counts among the first
`skip` characters, nor among the two after one that counts. -/
def chunks : Nat → List Nat → List (List Nat)
  | _, [] => [[]]
  | skip, code :: rest =>
    if skip = 0 && code = hyphenCode then [] :: chunks 2 rest
    else match chunks (skip - 1) rest with
      | [] => [[code]]
      | chunk :: more => (code :: chunk) :: more

/-- A hyphen at the very end makes no range. -/
def settleEnd : List (List Nat) → List (List Nat)
  | [chunk, []] => [chunk ++ [hyphenCode]]
  | chunk :: rest => chunk :: settleEnd rest
  | [] => []

/-- Takes out the ranges whose ends are the wrong way round, ends included. -/
def dropReversed : List (List Nat) → List (List Nat)
  | [] => []
  | chunk :: rest =>
    match dropReversed rest with
    | [] => [chunk]
    | next :: more =>
      match chunk.getLast?, next.head? with
      | some low, some high =>
        if high < low then (chunk.dropLast ++ next.tail) :: more else chunk :: next :: more
      | _, _ => chunk :: next :: more

/-- Chunks with the marks of their ranges between them. -/
def marks : List (List Nat) → List Mark
  | [] => []
  | [chunk] => chunk.map .char
  | chunk :: rest => chunk.map .char ++ .dash :: marks rest

/-- The ranges that marks denote, single characters included. -/
def ranges : List Mark → List (Nat × Nat)
  | .char low :: .dash :: .char high :: rest => (low, high) :: ranges rest
  | .char code :: rest => (code, code) :: ranges rest
  | .dash :: rest => (hyphenCode, hyphenCode) :: ranges rest
  | [] => []

/-- The piece for what stands in brackets. -/
def bracket (inner : List Nat) : Piece :=
  let skip := if inner.head? = some bangCode then 2 else 1
  match marks (dropReversed (settleEnd (chunks skip inner))) with
  | .char 33 :: rest => .oneOf true (ranges rest)
  | rest => .oneOf false (ranges rest)

/-- The length of what stands in brackets, up to the closing one. The first character, or the first
after an exclamation mark, never closes them. -/
def bracketLength? (rest : List Nat) : Option Nat :=
  let bang := if rest.head? = some bangCode then 1 else 0
  let first := if (rest.drop bang).head? = some closeCode then bang + 1 else bang
  let inner := (rest.drop first).takeWhile (· != closeCode)
  if first + inner.length < rest.length then some (first + inner.length) else none

/-- Reads the pieces of a pattern; `skip` characters belong to the last piece and are passed
over. -/
def readFrom : Nat → List Nat → List Piece
  | _, [] => []
  | skip + 1, _ :: rest => readFrom skip rest
  | 0, code :: rest =>
    if code = starCode then .star :: readFrom 0 rest
    else if code = questionCode then .one :: readFrom 0 rest
    else if code = openCode then
      match bracketLength? rest with
      | none => .char code :: readFrom 0 rest
      | some length => bracket (rest.take length) :: readFrom (length + 1) rest
    else .char code :: readFrom 0 rest

/-- The pieces of a pattern for one name. -/
def read (pattern : List Nat) : List Piece := readFrom 0 pattern

/-- Whether a pattern has wildcards at all. -/
def isWild (pattern : List Nat) : Bool :=
  pattern.any fun code => code = starCode || code = questionCode || code = openCode

/-- Whether a piece stands for a character. -/
def accepts (code : Nat) : Piece → Bool
  | star => false
  | one => true
  | char other => code = other
  | oneOf negated ranges => ranges.any (fun (low, high) => low ≤ code && code ≤ high) != negated

/-- All ends of a list, the whole and the empty one included. -/
def suffixes {α : Type} : List α → List (List α)
  | [] => [[]]
  | a :: rest => (a :: rest) :: suffixes rest

/-- Whether a name matches the pieces of a pattern. -/
def allow : List Piece → List Nat → Bool
  | [], name => name.isEmpty
  | .star :: rest, name => (suffixes name).any (allow rest)
  | piece :: rest, name =>
    match name with
    | [] => false
    | code :: name => piece.accepts code && allow rest name

end Piece

end Prologue.Glob
