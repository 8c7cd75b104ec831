import Prologue.Grammar.Semicolon
import Prologue.Tree.Node

/-!
# Cursors

A cursor stands behind the last token that was read. It keeps the bytes that follow, their offset,
and the comments passed so far, which are woven into the tree at the end.
-/

namespace Prologue.Grammar

structure Cursor where
  /-- The bytes that follow. -/
  rest : Bytes
  /-- Number of bytes that went before. -/
  offset : Nat
  /-- Number of bytes that follow. -/
  left : Nat
  /-- Comments passed so far, latest first. -/
  notes : List Node

/-- A line comment ends at a carriage return too. -/
def endsComment (code : Nat) : Bool := code = 13 || isLineEnd code

/-- Length of the comment at the front, if one stands there. -/
def commentLength : Bytes → Option Nat
  | 47 :: 47 :: rest => some (lineLength endsComment rest + 2)
  | 47 :: 42 :: rest => (blockComment rest).map (· + 2)
  | _ => none
where
  /-- Up to and with the closing mark; none when the comment is never closed. -/
  blockComment : Bytes → Option Nat
    | [] => none
    | byte :: rest =>
      if byte = 42 && rest.head? == some 47 then some 2
      else (blockComment rest).map (· + 1)

/-- A note covers `width` bytes from `offset` on. -/
def note (kind : Kind) (offset width : Nat) : Node := .mk kind .plain offset (offset + width) []

namespace Cursor

def advance (cursor : Cursor) (width : Nat) : Cursor :=
  { cursor with
    rest := cursor.rest.drop width
    offset := cursor.offset + width
    left := cursor.left - width }

/-- Passes over blanks and comments. -/
def skipFrom (offset left : Nat) (notes : List Node) (skip : Nat) : Bytes → Cursor
  | [] => ⟨[], offset, left, notes⟩
  | byte :: rest =>
    match skip with
    | skip + 1 => skipFrom (offset + 1) (left - 1) notes skip rest
    | 0 =>
      if byte = 32 || byte = 10 then skipFrom (offset + 1) (left - 1) notes 0 rest
      else if byte = 47 then
        match commentLength (byte :: rest) with
        | some (n + 1) =>
          skipFrom (offset + 1) (left - 1) (note .comment offset (n + 1) :: notes) n rest
        | _ => ⟨byte :: rest, offset, left, notes⟩
      else match frontPoint (byte :: rest) with
        | some (code, n + 1) =>
          if isBlank code then skipFrom (offset + 1) (left - 1) notes n rest
          else ⟨byte :: rest, offset, left, notes⟩
        | _ => ⟨byte :: rest, offset, left, notes⟩

/-- The cursor in front of the next token. -/
def skip (cursor : Cursor) : Cursor :=
  skipFrom cursor.offset cursor.left cursor.notes 0 cursor.rest

/-- Looks for an implied semicolon right here and behind each comment that follows; `asking` where
the question is due. -/
def impliedFrom (dialect : Dialect) (context : Context) (offset left : Nat) (notes : List Node)
    (skip : Nat) (asking : Bool) : Bytes → Option Cursor
  | [] => if asking then some ⟨[], offset, left, notes⟩ else none
  | byte :: rest =>
    match skip with
    | skip + 1 => impliedFrom dialect context (offset + 1) (left - 1) notes skip asking rest
    | 0 =>
      if asking && impliesSemicolon dialect context (byte :: rest) then
        some ⟨byte :: rest, offset, left, notes⟩
      else match commentLength (byte :: rest) with
        | some (n + 1) =>
          impliedFrom dialect context (offset + 1) (left - 1)
            (note .comment offset (n + 1) :: notes) n true rest
        | _ => match frontPoint (byte :: rest) with
          | some (code, n + 1) =>
            if isBlank code then
              impliedFrom dialect context (offset + 1) (left - 1) notes n false rest
            else none
          | _ => none

/-- Where a semicolon is implied before the next token, behind the comments that come first. -/
def implied? (cursor : Cursor) (dialect : Dialect) (context : Context) : Option Cursor :=
  impliedFrom dialect context cursor.offset cursor.left cursor.notes 0 true cursor.rest

/-- Passes over an HTML comment, which runs to the end of its line. -/
def htmlComment? (cursor : Cursor) : Option Cursor :=
  let front := cursor.skip
  if (utf8 "<!--").isPrefixOf front.rest || (utf8 "-->").isPrefixOf front.rest then
    let width := lineLength isLineEnd front.rest
    some { front.advance width with notes := note .htmlComment front.offset width :: front.notes }
  else none

end Cursor

end Prologue.Grammar
