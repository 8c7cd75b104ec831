import Prologue.Grammar.Character
import Prologue.Grammar.Dialect
import Prologue.Text.Alphabetic

/-!
# Automatic semicolons

A statement may end without a semicolon at the end of the text, before a closing brace, or at a line
break, unless what follows the break can only continue it. The rule looks at characters, not at
tokens: it is asked before the next token is read.

The dialects differ in two points. With types, a comment on the same line hides what follows it, so
that the question is asked again behind the comment; without types the rule looks behind comments
by itself. And only with types can an opening parenthesis or bracket start a new statement, namely
where no binary operator could stand.
-/

namespace Prologue.Grammar

/-- What was read last, as far as the end of a statement depends on it. -/
inductive Context where
  /-- An expression: a binary operator could follow. -/
  | operand
  /-- The head of a function: a body could follow. -/
  | signature
  /-- Anything else. -/
  | other
  deriving DecidableEq, Repr

/-- Where a scan over blanks and comments stands. -/
inductive Place where
  | between
  | inBlock
  deriving DecidableEq

/-- Outcome of a scan over blanks and comments. -/
inductive Passage where
  /-- A slash that starts no comment. -/
  | blocked
  /-- That many bytes were passed; `fresh` unless the scan stopped behind a comment that stays on
  its line. -/
  | passed (width : Nat) (fresh : Bool)

/-- Whether a line ends at the front. -/
def startsLineEnd (ends : Nat → Bool) (bytes : Bytes) : Bool :=
  (frontPoint bytes).any fun (code, _) => ends code

/-- Passes over blanks and comments. With `whole` it goes on to the next token; otherwise it stops
behind the first block comment that no slash follows. -/
def passNotes (whole : Bool) (ends : Nat → Bool) (seenBreak : Bool) (place : Place)
    (width skip : Nat) : Bytes → Passage
  | [] => .passed width true
  | byte :: rest =>
    match skip with
    | skip + 1 => passNotes whole ends seenBreak place (width + 1) skip rest
    | 0 =>
      match place with
      | .between =>
        if byte = 47 then
          match rest with
          | 47 :: _ =>
            passNotes whole ends seenBreak .between (width + 1) (lineLength ends rest) rest
          | 42 :: _ => passNotes whole ends seenBreak .inBlock (width + 1) 1 rest
          | _ => .blocked
        else
          match frontPoint (byte :: rest) with
          | some (code, n + 1) =>
            if isBreakable code then passNotes whole ends seenBreak .between (width + 1) n rest
            else .passed width true
          | _ => .passed width true
      | .inBlock =>
        if byte = 42 && rest.head? == some 47 then
          if !whole && rest.tail.head? != some 47 then .passed (width + 2) seenBreak
          else passNotes whole ends seenBreak .between (width + 1) 1 rest
        else
          let seenBreak := seenBreak || startsLineEnd ends (byte :: rest)
          passNotes whole ends seenBreak .inBlock (width + 1) 0 rest

/-- Whether a letter of any script stands at the front. -/
def startsAlphabetic (bytes : Bytes) : Bool :=
  (frontPoint bytes).any fun (code, _) => Text.isAlphabetic code

/-- Whether the letters that follow spell `in` or `instanceof` as a word of its own. -/
def startsOperatorWord (bytes : Bytes) : Bool :=
  if (utf8 "in").isPrefixOf bytes then
    if !startsAlphabetic (bytes.drop 2) then true
    else (utf8 "instanceof").isPrefixOf bytes && !startsAlphabetic (bytes.drop 10)
  else false

/-- Whether the bytes behind a line break start a new statement. -/
def startsStatement (dialect : Dialect) (context : Context) (bytes : Bytes) : Bool :=
  match bytes with
  | [] => true
  | byte :: rest =>
    if (utf8 "`,;*%><=?^|&/:").contains byte then false
    else if byte = 46 then
      !dialect.typed && (match rest with
        | next :: _ => isDigit next
        | [] => false)
    else if byte = 40 || byte = 91 then dialect.typed && context != .operand
    else if byte = 123 then !(dialect.typed && context == .signature)
    else if byte = 43 then rest.head? == some 43
    else if byte = 45 then rest.head? == some 45
    else if byte = 33 then rest.head? != some 61
    else !startsOperatorWord bytes

/-- With types, only a line feed ends a comment that stands behind a line break. -/
def endsNote (dialect : Dialect) (code : Nat) : Bool :=
  if dialect.typed then code = 10 else isLineEnd code

/-- Behind a line break: whether a new statement starts after the blanks and comments. -/
def breaksAfterLine (dialect : Dialect) (context : Context) (bytes : Bytes) : Bool :=
  match passNotes true (endsNote dialect) false .between 0 0 bytes with
  | .blocked => false
  | .passed width _ => startsStatement dialect context (bytes.drop width)

/-- The rule of the typed dialects. -/
def typedBreak (dialect : Dialect) (context : Context) (skip : Nat) : Bytes → Bool
  | [] => true
  | byte :: rest =>
    match skip with
    | skip + 1 => typedBreak dialect context skip rest
    | 0 =>
      if byte = 125 then
        -- A brace before a colon closes a pattern, not a block.
        match rest.dropWhile (fun b => isBreakable b.toNat) with
        | 58 :: _ => context == .operand
        | _ => true
      else if byte = lineFeed then breaksAfterLine dialect context rest
      else match frontPoint (byte :: rest) with
        | some (code, n + 1) =>
          if isBreakable code then typedBreak dialect context n rest else false
        | _ => false

/-- The rule of the untyped dialect. -/
def untypedBreak (dialect : Dialect) (context : Context) (skip : Nat) : Bytes → Bool
  | [] => true
  | byte :: rest =>
    match skip with
    | skip + 1 => untypedBreak dialect context skip rest
    | 0 =>
      if byte = 47 then
        match passNotes false isLineEnd false .between 0 0 (byte :: rest) with
        | .blocked => false
        | .passed width fresh =>
          let next := ((byte :: rest).drop width).head?
          if fresh && context != .operand && next != some 44 && next != some 61 then true
          else if next.isNone then false
          else untypedBreak dialect context (width - 1) rest
      else if byte = 125 then true
      else match frontPoint (byte :: rest) with
        | some (code, n + 1) =>
          if isLineEnd code then breaksAfterLine dialect context (rest.drop n)
          else if isBreakable code then untypedBreak dialect context n rest
          else false
        | _ => false

/-- Whether a semicolon is implied right in front of the bytes. -/
def impliesSemicolon (dialect : Dialect) (context : Context) (bytes : Bytes) : Bool :=
  if dialect.typed then typedBreak dialect context 0 bytes else untypedBreak dialect context 0 bytes

end Prologue.Grammar
