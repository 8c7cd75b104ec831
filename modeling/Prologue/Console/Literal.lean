/-!
# Literals

The parameters of an action are a call with literals or literals alone: numbers, texts, constants,
and tuples, sets and dictionaries of literals. Square brackets never occur, since they end a tag.
-/

namespace Prologue.Console.Literal

inductive Token where
  | number (imaginary : Bool)
  | text (isBytes : Bool)
  | constant
  | sign
  | comma
  | colon
  | opening (brace : Bool)
  | closing (brace : Bool)
  deriving DecidableEq, Repr

/-- Digits with single underscores between them; `ready` where one may stand. -/
def isGrouped (isDigit : Char → Bool) (ready : Bool) : List Char → Bool
  | [] => ready
  | c :: rest =>
    if c = '_' then ready && isGrouped isDigit false rest
    else isDigit c && isGrouped isDigit true rest

def isDigits (text : List Char) : Bool := isGrouped Char.isDigit false text

/-- Digits behind the mark of another base. -/
def isRadix (word : List Char) : Bool :=
  let digits := word.drop 2
  let isDigit : Option (Char → Bool) := match String.ofList (word.take 2) with
    | "0x" => some fun c => c.isDigit || ('a' ≤ c && c ≤ 'f')
    | "0o" => some fun c => '0' ≤ c && c ≤ '7'
    | "0b" => some fun c => c = '0' || c = '1'
    | _ => none
  isDigit.any fun isDigit => !digits.isEmpty && isGrouped isDigit true digits

/-- A decimal number with a point or an exponent, or with neither. -/
def isDecimal (word : List Char) : Bool :=
  let mantissa := word.takeWhile (· != 'e')
  let whole := mantissa.takeWhile (· != '.')
  match word.drop mantissa.length, mantissa.drop whole.length with
  | [], [] => isDigits whole && (whole.head? != some '0' || whole.all fun c => c = '0' || c = '_')
  | exponent, fraction =>
    let power := match exponent.drop 1 with
      | '+' :: rest | '-' :: rest => rest
      | rest => rest
    let isPart (part : List Char) : Bool := part.isEmpty || isDigits part
    isPart whole && isPart (fraction.drop 1) && (exponent.isEmpty || isDigits power) &&
      (!whole.isEmpty || 1 < fraction.length)

/-- The characters of a number; a sign may stand behind the mark of an exponent. -/
def numberRun (inExponent : Bool) : List Char → List Char
  | [] => []
  | c :: rest =>
    if c.isAlphanum || c = '_' || c = '.' then c :: numberRun (c = 'e' || c = 'E') rest
    else if inExponent && (c = '+' || c = '-') then c :: numberRun false rest
    else []

def number? (text : List Char) : Option (Token × Nat) :=
  let run := numberRun false text
  let word := run.map Char.toLower
  if isRadix word || isDecimal word then some (.number false, run.length)
  else if word.getLast? = some 'j' && isDecimal word.dropLast then some (.number true, run.length)
  else none

/-- Characters up to the closing quote and with it; none if there is no such quote on the line. -/
def quotedLength? (quote : Char) (escaped : Bool) : List Char → Option Nat
  | [] => none
  | c :: rest =>
    if escaped then (quotedLength? quote false rest).map (· + 1)
    else if c = quote then some 1
    else if c = '\n' then none
    else (quotedLength? quote (c = '\\') rest).map (· + 1)

def text? (text : List Char) : Option (Token × Nat) :=
  let mark := text.takeWhile Char.isAlpha
  let lower := mark.map Char.toLower
  if !(["", "b", "r", "u", "br", "rb"].contains (String.ofList lower)) then none
  else match text.drop mark.length with
    | quote :: rest =>
      if quote = '\'' || quote = '"' then
        (quotedLength? quote false rest).map fun length =>
          (.text (lower.contains 'b'), mark.length + 1 + length)
      else none
    | [] => none

def constant? (text : List Char) : Option (Token × Nat) :=
  let word := text.takeWhile fun c => c.isAlphanum || c = '_'
  if ["None", "True", "False"].contains (String.ofList word) then some (.constant, word.length)
  else none

/-- The token at the front of a text, with its length. -/
def token? (text : List Char) : Option (Token × Nat) :=
  match text.head? with
  | some '(' => some (.opening false, 1)
  | some ')' => some (.closing false, 1)
  | some '\x7b' => some (.opening true, 1)
  | some '\x7d' => some (.closing true, 1)
  | some ',' => some (.comma, 1)
  | some ':' => some (.colon, 1)
  | some '+' | some '-' => some (.sign, 1)
  | _ => number? text <|> text? text <|> constant? text

/-- The tokens of a text; `skip` characters belong to one that was read. -/
def tokensFrom (skip : Nat) : List Char → Option (List Token)
  | [] => some []
  | c :: rest =>
    match skip with
    | skip + 1 => tokensFrom skip rest
    | 0 =>
      if c = ' ' || c = '\t' then tokensFrom 0 rest
      else (token? (c :: rest)).bind fun (token, length) =>
        (tokensFrom (length - 1) rest).map (token :: ·)

/-- What an open bracket belongs to. A brace is a set or a dictionary once a colon may tell. -/
inductive Frame where
  | tuple
  | brace
  | set
  | key
  | value
  deriving DecidableEq, Repr

/-- What has just been read. -/
inductive Phase where
  /-- A value has to follow. -/
  | due
  /-- A value or a closing bracket has to follow. -/
  | open
  | sign
  | real
  /-- A real number and a sign. -/
  | sum
  | text (isBytes : Bool)
  | value
  deriving DecidableEq, Repr

def Phase.isBefore (phase : Phase) : Bool := phase = .due || phase = .open

def Phase.isBehind : Phase → Bool
  | real | text _ | value => true
  | _ => false

structure State where
  phase : Phase
  /-- Open brackets, innermost first. -/
  frames : List Frame
  deriving DecidableEq, Repr

/-- The state after a comma behind a value. -/
def State.separate? (frames : List Frame) : Option State :=
  match frames with
  | .brace :: outer => some ⟨.open, .set :: outer⟩
  | .value :: outer => some ⟨.open, .key :: outer⟩
  | .key :: _ => none
  | frames => some ⟨.open, frames⟩

/-- Whether a bracket can be closed in a phase. -/
def State.closes (state : State) (brace : Bool) : Bool :=
  match state.frames.head? with
  | some .tuple => !brace && (state.phase = .open || state.phase.isBehind)
  | some .brace => brace && (state.phase = .open || state.phase.isBehind)
  | some .set => brace && (state.phase = .open || state.phase.isBehind)
  | some .key => brace && state.phase = .open
  | some .value => brace && state.phase.isBehind
  | none => false

def State.step? (state : State) (token : Token) : Option State :=
  let { phase, frames } := state
  match token with
  | .number false =>
    if phase.isBefore || phase = .sign then some ⟨.real, frames⟩ else none
  | .number true =>
    if phase.isBefore || phase = .sign || phase = .sum then some ⟨.value, frames⟩ else none
  -- Texts in a row are one text, unless some are bytes and some are not.
  | .text isBytes =>
    if phase.isBefore || phase = .text isBytes then some ⟨.text isBytes, frames⟩ else none
  | .constant => if phase.isBefore then some ⟨.value, frames⟩ else none
  | .sign =>
    if phase.isBefore then some ⟨.sign, frames⟩
    else if phase = .real then some ⟨.sum, frames⟩ else none
  | .comma => if phase.isBehind then State.separate? frames else none
  | .colon =>
    match frames with
    | .brace :: outer | .key :: outer =>
      if phase.isBehind then some ⟨.due, .value :: outer⟩ else none
    | _ => none
  | .opening brace =>
    if phase.isBefore then some ⟨.open, (if brace then .brace else .tuple) :: frames⟩ else none
  | .closing brace => if state.closes brace then some ⟨.value, frames.tail⟩ else none

/-- Whether a text is a literal, or several with commas between them. -/
def reads (text : List Char) : Bool :=
  let final := (tokensFrom 0 text).bind fun tokens =>
    tokens.foldlM State.step? ⟨.due, []⟩
  final.any fun state => state.frames.isEmpty && (state.phase = .open || state.phase.isBehind)

end Prologue.Console.Literal
