import Prologue.Console.Literal
import Prologue.Console.Pictures
import Prologue.Console.Style
import Prologue.Text.Quoted

/-!
# Markup

Messages are written with style tags in brackets. A tag begins with a lower-case letter, a slash, a
hash or an at sign and ends at the next closing bracket; a bracket that is followed by anything else
is text, and so is a tag behind an odd number of backslashes. Between tags, a code between colons may
stand for a picture. Since messages quote what the user gave, a name in brackets disappears from them,
and a name that looks like a closing tag cannot be shown.
-/

namespace Prologue.Console

/-- A closing tag that closes nothing, with its place in the message, or one of a tag with parameters
that cannot be read. -/
inductive MarkupError where
  | unmatched (tag : List Char) (position : Nat)
  | nothingOpen (position : Nat)
  | parameters (given : List Char)
  deriving DecidableEq, Repr

def MarkupError.message : MarkupError → String
  | unmatched tag position =>
    "closing tag '[" ++ String.ofList tag ++ s!"]' at position {position} " ++
      "doesn't match any open tag"
  | nothingOpen position => s!"closing tag '[/]' at position {position} has nothing to close"
  | parameters given => "error parsing " ++ Text.quoted given

/-- Why a message cannot be shown. -/
inductive Fault where
  | markup (cause : MarkupError)
  /-- A colour with a number that cannot be read. -/
  | number
  deriving DecidableEq, Repr

def Fault.message : Fault → String
  | markup cause => cause.message
  | number => "invalid literal for int() with base 10: ''"

inductive Token where
  | char (c : Char)
  /-- The end of a stretch of text. -/
  | cut
  | tag (body : List Char) (position : Nat)
  deriving DecidableEq, Repr

/-- An open tag: its name in normal form and what stands behind an equals sign. -/
structure Tag where
  name : List Char
  parameters : Option (List Char)
  deriving DecidableEq, Repr

/-- The style that a tag asks for. -/
def Tag.style (tag : Tag) : List Char :=
  match tag.parameters with
  | none => tag.name
  | some parameters => tag.name ++ ' ' :: parameters

/-- The literals among the parameters of an action: behind a name those in parentheses, which may
be left out, and all of them if there is no name. -/
def literalsOf (parameters : List Char) : List Char :=
  let parameters := Text.trim parameters
  let name := parameters.takeWhile fun c => c.isAlphanum || c = '_' || c = '.' || 0x80 ≤ c.toNat
  let call := parameters.drop name.length
  if call.isEmpty then ['(', ')']
  else if call.head? = some '(' && call.getLast? = some ')' && !call.contains '\n' then call
  else parameters

/-- The parameters of a tag for an action, if they cannot be read. -/
def Tag.badParameters? (tag : Tag) : Option (List Char) :=
  if tag.name.head? = some '@' then
    tag.parameters.filter fun given => !given.isEmpty && !Literal.reads (literalsOf given)
  else none

/-- A part of the text that is shown in a style. -/
structure Span where
  start : Nat
  stop : Nat
  style : List Char
  deriving DecidableEq, Repr

namespace Markup

/-- Whether a tag can begin with a character. -/
def beginsTag (c : Char) : Bool := ('a' ≤ c && c ≤ 'z') || c = '#' || c = '/' || c = '@'

/-- The body of a tag, if what follows an opening bracket makes one. -/
def tagBody? (rest : List Char) : Option (List Char) :=
  let body := rest.takeWhile fun c => c != ']' && c != '['
  if body.head?.any beginsTag && (rest.drop body.length).head? = some ']' then some body else none

/-- Characters as tokens. -/
def plain (text : List Char) : List Token := text.map .char

def backslashes (count : Nat) : List Token := List.replicate count (.char '\\')

/-- Reads tokens. `slashes` backslashes stand right before the rest, and `skip` characters of it
belong to a tag that was read. -/
def tokensFrom (position slashes skip : Nat) : List Char → List Token
  | [] => backslashes slashes
  | c :: rest =>
    match skip with
    | skip + 1 => tokensFrom (position + 1) 0 skip rest
    | 0 =>
      if c = '\\' then tokensFrom (position + 1) (slashes + 1) 0 rest
      else if c = '[' then
        match tagBody? rest with
        | some body =>
          let token :=
            if slashes % 2 = 0 then [.tag body position]
            else .cut :: plain ('[' :: body ++ [']']) ++ [.cut]
          .cut :: backslashes (slashes / 2) ++ token ++
            tokensFrom (position + 1) 0 (body.length + 1) rest
        | none => backslashes (slashes - 1) ++ .char c :: tokensFrom (position + 1) 0 0 rest
      else backslashes slashes ++ .char c :: tokensFrom (position + 1) 0 0 rest

def tokens (message : List Char) : List Token := tokensFrom 0 0 0 message

/-- The code between two colons, the second of which stands in the rest. -/
def code? (rest : List Char) : Option (List Char) :=
  let code := rest.takeWhile fun c => c != ':' && !Text.isBlank c
  if (rest.drop code.length).head? = some ':' then some code else none

/-- The name in a code, and the mark for the way in which its picture is drawn. -/
def splitCode (code : List Char) : List Char × List Char :=
  let forms := [("-text".toList, [Char.ofNat 0xFE0E]), ("-emoji".toList, [Char.ofNat 0xFE0F])]
  match forms.find? fun (ending, _) => ending.isSuffixOf code with
  | some (ending, mark) => (code.take (code.length - ending.length), mark)
  | none => (code, [])

/-- Pictures in place of their codes; `skip` characters belong to a code that was read. -/
def picturesFrom (find? : List Char → Option (List Char)) (skip : Nat) : List Char → List Char
  | [] => []
  | c :: rest =>
    match skip with
    | skip + 1 => picturesFrom find? skip rest
    | 0 =>
      if c = ':' then
        match code? rest with
        | some code =>
          let (name, mark) := splitCode code
          let shown := match find? (Text.lower name) with
            | some picture => picture ++ mark
            | none => ':' :: code ++ [':']
          shown ++ picturesFrom find? (code.length + 1) rest
        | none => c :: picturesFrom find? 0 rest
      else c :: picturesFrom find? 0 rest

/-- Controls that are never shown: bell, backspace, vertical tab, form feed, carriage return. -/
def isHidden (c : Char) : Bool := [7, 8, 11, 12, 13].contains c.toNat

/-- What has been read of a message. -/
structure Reading where
  shown : List Char
  /-- Text since the last tag or cut. -/
  pending : List Char
  /-- Open tags with the offsets where they begin, innermost first. -/
  opened : List (Nat × Tag)
  spans : List Span

namespace Reading

def start : Reading := ⟨[], [], [], []⟩

/-- Shows the text since the last tag. -/
def flush (reading : Reading) : Reading :=
  { reading with
    shown := reading.shown ++ (picturesFrom picture? 0 reading.pending).filter (!isHidden ·)
    pending := [] }

/-- Closes a tag that begins at an offset. -/
def close (reading : Reading) (opened : List (Nat × Tag)) (entry : Nat × Tag) :
    Except Fault Reading :=
  let (offset, tag) := entry
  match tag.badParameters? with
  | some given => .error (.markup (.parameters given))
  | none =>
    let span : Span := ⟨offset, reading.shown.length, tag.style⟩
    .ok { reading with opened := opened, spans := span :: reading.spans }

/-- Follows a tag, once all text before it is shown. -/
def follow (reading : Reading) (body : List Char) (position : Nat) : Except Fault Reading :=
  let name := body.takeWhile (· != '=')
  let parameters := (body.drop name.length).tail?
  match name with
  | '/' :: name =>
    if (Text.trim name).isEmpty then
      match reading.opened with
      | [] => .error (.markup (.nothingOpen position))
      | entry :: rest => reading.close rest entry
    else match Style.normalize (Text.trim name) with
      | none => .error .number
      | some style =>
        match reading.opened.find? (·.2.name = style) with
        | none => .error (.markup (.unmatched body position))
        | some entry => reading.close (reading.opened.eraseP (·.2.name = style)) entry
  | name =>
    match Style.normalize name with
    | none => .error .number
    | some style =>
      .ok { reading with
        opened := (reading.shown.length, ⟨style, parameters⟩) :: reading.opened }

/-- Follows tokens. -/
def run (reading : Reading) : List Token → Except Fault Reading
  | [] => .ok reading
  | .char c :: rest => run { reading with pending := reading.pending ++ [c] } rest
  | .cut :: rest => run reading.flush rest
  | .tag body position :: rest =>
    match reading.flush.follow body position with
    | .error fault => .error fault
    | .ok next => run next rest

/-- All spans, those of tags that are still open included. -/
def allSpans (reading : Reading) : List Span :=
  reading.spans ++ reading.opened.map fun (offset, tag) =>
    ⟨offset, reading.shown.length, tag.style⟩

end Reading

/-- Reads a message to its end. -/
def read (message : List Char) : Except Fault Reading :=
  (Reading.start.run (tokens message)).map (·.flush)

end Markup

end Prologue.Console
