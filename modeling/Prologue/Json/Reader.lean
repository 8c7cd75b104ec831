import Prologue.Json

/-!
# Reading JSON

A text is cut into tokens, and the tokens are put together on a stack of the lists and objects that
are still open. Blanks may stand between tokens, escapes of all kinds in strings, and characters
beyond the first plane may be escaped as pairs of surrogates. If an object names a member twice, the
later one counts. A number with a fraction or an exponent has no value here.
-/

namespace Prologue.Json

/-! ## Strings -/

/-- The value of a hexadecimal digit. -/
def hexValue? (c : Char) : Option Nat :=
  if c.isDigit then some (c.toNat - 48)
  else if 'a' ≤ c ∧ c ≤ 'f' then some (c.toNat - 87)
  else if 'A' ≤ c ∧ c ≤ 'F' then some (c.toNat - 55)
  else none

/-- The number that hexadecimal digits denote. -/
def hexNumber? (digits : List Char) : Option Nat :=
  (digits.mapM hexValue?).map fun values => values.foldl (fun number value => 16 * number + value) 0

/-- The code of a character that is escaped by a letter or a mark of its own. -/
def shortEscape? (c : Char) : Option Nat :=
  ([(quote, 0x22), ('\\', 0x5C), ('/', 0x2F), ('b', 0x08), ('f', 0x0C), ('n', 0x0A), ('r', 0x0D),
    ('t', 0x09)] : List (Char × Nat)).lookup c

/-- The codes that the inside of a string stands for. -/
def codes? : List Char → Option (List Nat)
  | [] => some []
  | '\\' :: 'u' :: a :: b :: c :: d :: rest =>
    (hexNumber? [a, b, c, d]).bind fun code => (codes? rest).map (code :: ·)
  | '\\' :: c :: rest => (shortEscape? c).bind fun code => (codes? rest).map (code :: ·)
  | c :: rest =>
    if c = '\\' ∨ c = quote ∨ c.toNat < 0x20 then none else (codes? rest).map (c.toNat :: ·)

def isHighSurrogate (code : Nat) : Bool := 0xD800 ≤ code && code < 0xDC00

def isLowSurrogate (code : Nat) : Bool := 0xDC00 ≤ code && code < 0xE000

/-- The characters with the given codes, surrogates joined in pairs. One that stands alone is no
character. -/
def characters? : List Nat → Option (List Char)
  | [] => some []
  | code :: rest =>
    if isHighSurrogate code then
      match rest with
      | low :: rest =>
        if isLowSurrogate low then
          (characters? rest).map
            (Char.ofNat (0x10000 + (code - 0xD800) * 0x400 + (low - 0xDC00)) :: ·)
        else none
      | [] => none
    else if isLowSurrogate code then none
    else (characters? rest).map (Char.ofNat code :: ·)

/-- The text that the inside of a string stands for. -/
def unescape (inside : List Char) : Option (List Char) := (codes? inside).bind characters?

/-! ## Words -/

/-- The number that decimal digits denote; none but zero itself begins with a zero. -/
def natural? (digits : List Char) : Option Nat :=
  if digits.isEmpty || !digits.all Char.isDigit ||
      (digits.head? = some '0' && 1 < digits.length) then none
  else some (Nat.ofDigitChars 10 digits 0)

def integer? : List Char → Option Int
  | '-' :: digits => (natural? digits).map fun n => -Int.ofNat n
  | digits => (natural? digits).map Int.ofNat

/-- The value that a word denotes. -/
def word? (word : List Char) : Option Json :=
  if word = ['n', 'u', 'l', 'l'] then some null
  else if word = ['t', 'r', 'u', 'e'] then some (bool true)
  else if word = ['f', 'a', 'l', 's', 'e'] then some (bool false)
  else (integer? word).map int

/-! ## Tokens -/

inductive Token where
  | openList
  | closeList
  | openObject
  | closeObject
  | comma
  | colon
  /-- A value that is neither a list nor an object. -/
  | value (value : Json)

/-- The token that a mark is. -/
def mark? (c : Char) : Option Token :=
  if c = '[' then some .openList
  else if c = ']' then some .closeList
  else if c = openBrace then some .openObject
  else if c = closeBrace then some .closeObject
  else if c = ',' then some .comma
  else if c = ':' then some .colon
  else none

def isBlank (c : Char) : Bool := c = ' ' || c = '\n' || c = '\r' || c = '\t'

/-- Where in a token a text is read. What is held was read last to first. -/
inductive Scan where
  | between
  | word (held : List Char)
  | string (held : List Char)
  /-- Behind a backslash in a string. -/
  | escape (held : List Char)

/-- The tokens of a text. -/
def tokens? : Scan → List Char → Option (List Token)
  | .between, [] => some []
  | .word held, [] => (word? held.reverse).map fun value => [.value value]
  | .string _, [] => none
  | .escape _, [] => none
  | .between, c :: rest =>
    if isBlank c then tokens? .between rest
    else if c = quote then tokens? (.string []) rest
    else match mark? c with
      | some token => (tokens? .between rest).map (token :: ·)
      | none => tokens? (.word [c]) rest
  | .word held, c :: rest =>
    if isBlank c then
      (word? held.reverse).bind fun value => (tokens? .between rest).map (.value value :: ·)
    else match mark? c with
      | some token =>
        (word? held.reverse).bind fun value =>
          (tokens? .between rest).map (.value value :: token :: ·)
      | none => tokens? (.word (c :: held)) rest
  | .string held, c :: rest =>
    if c = quote then
      (unescape held.reverse).bind fun inside =>
        (tokens? .between rest).map (.value (text inside) :: ·)
    else if c = '\\' then tokens? (.escape held) rest
    else tokens? (.string (c :: held)) rest
  | .escape held, c :: rest => tokens? (.string (c :: '\\' :: held)) rest

theorem tokens?_plain {c : Char} (hquote : c ≠ quote) (hslash : c ≠ '\\') (held rest : List Char) :
    tokens? (.string held) (c :: rest) = tokens? (.string (c :: held)) rest := by
  rw [tokens?, if_neg hquote, if_neg hslash]

/-! ## Values -/

/-- A list or an object that is still open. -/
inductive Frame where
  | list (items : List Json)
  /-- The members so far and the name of the one that is being read. -/
  | object (members : List (List Char × Json)) (name : List Char)

/-- What has been read and what has to come. -/
inductive Stage where
  /-- A value has to come, or the end of a list that was just opened. -/
  | value (stack : List Frame)
  /-- A name has to come, or the end of an object that was just opened. -/
  | name (members : List (List Char × Json)) (stack : List Frame)
  | colon (members : List (List Char × Json)) (name : List Char) (stack : List Frame)
  /-- A value has been read. -/
  | after (value : Json) (stack : List Frame)

/-- The members with one more, which replaces an earlier one of its name. -/
def withMember (members : List (List Char × Json)) (name : List Char) (value : Json) :
    List (List Char × Json) :=
  members.filter (·.1 != name) ++ [(name, value)]

/-- The stage behind a token, unless it cannot stand there. -/
def Stage.next? : Stage → Token → Option Stage
  | .value stack, .value found => some (.after found stack)
  | .value stack, .openList => some (.value (.list [] :: stack))
  | .value stack, .openObject => some (.name [] stack)
  | .value (.list [] :: stack), .closeList => some (.after (Json.list []) stack)
  | .name members stack, .value (text key) => some (.colon members key stack)
  | .name [] stack, .closeObject => some (.after (object []) stack)
  | .colon members key stack, .colon => some (.value (.object members key :: stack))
  | .after found (.list items :: stack), .comma => some (.value (.list (items ++ [found]) :: stack))
  | .after found (.list items :: stack), .closeList =>
    some (.after (Json.list (items ++ [found])) stack)
  | .after found (.object members key :: stack), .comma =>
    some (.name (withMember members key found) stack)
  | .after found (.object members key :: stack), .closeObject =>
    some (.after (object (withMember members key found)) stack)
  | _, _ => none

/-- The value that tokens lead to. -/
def Stage.finish? : Stage → List Token → Option Json
  | .after found [], [] => some found
  | _, [] => none
  | stage, token :: rest => (stage.next? token).bind fun next => next.finish? rest

/-- The value that a text leads to. -/
def Stage.read? (stage : Stage) (text : List Char) : Option Json :=
  (tokens? .between text).bind stage.finish?

/-- The value of a text, unless it is no JSON. -/
def read? (text : List Char) : Option Json := (Stage.value []).read? text

end Prologue.Json
