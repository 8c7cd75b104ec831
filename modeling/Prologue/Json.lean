/-!
# JSON

JSON values without fractions, and their text: one member or item to a line, two blanks for every
level, nothing between the brackets of an empty list. Control characters, quotes and backslashes are
escaped and everything else stands for itself.
-/

namespace Prologue

inductive Json where
  | null
  | bool (value : Bool)
  | int (value : Int)
  | text (value : List Char)
  | list (items : List Json)
  | object (members : List (List Char × Json))
  deriving Inhabited

namespace Json

/-- A digit below sixteen. -/
def hexDigit (n : Nat) : Char := if n < 10 then Char.ofNat (48 + n) else Char.ofNat (87 + n)

/-- A character inside a JSON string. -/
def escape (c : Char) : List Char :=
  match c.toNat with
  | 0x22 => ['\\', c]
  | 0x5C => ['\\', c]
  | 0x08 => ['\\', 'b']
  | 0x09 => ['\\', 't']
  | 0x0A => ['\\', 'n']
  | 0x0C => ['\\', 'f']
  | 0x0D => ['\\', 'r']
  | code =>
    if code < 0x20 then ['\\', 'u', '0', '0', hexDigit (code / 16), hexDigit (code % 16)] else [c]

def quote : Char := Char.ofNat 34

/-- A text as a JSON string. -/
def quoted (text : List Char) : List Char := quote :: text.flatMap escape ++ [quote]

/-- An integer in decimal. -/
def decimal : Int → List Char
  | .ofNat n => Nat.toDigits 10 n
  | .negSucc n => '-' :: Nat.toDigits 10 (n + 1)

/-- A new line at a level. -/
def newLine (level : Nat) : List Char := '\n' :: List.replicate (2 * level) ' '

def openBrace : Char := Char.ofNat 123

def closeBrace : Char := Char.ofNat 125

mutual

/-- The text of a value at a level. -/
def renderAt (level : Nat) : Json → List Char
  | null => ['n', 'u', 'l', 'l']
  | bool true => ['t', 'r', 'u', 'e']
  | bool false => ['f', 'a', 'l', 's', 'e']
  | int value => decimal value
  | text value => quoted value
  | list [] => ['[', ']']
  | list (item :: items) =>
    '[' :: newLine (level + 1) ++ renderAt (level + 1) item ++ renderItems (level + 1) items ++
      newLine level ++ [']']
  | object [] => [openBrace, closeBrace]
  | object (member :: members) =>
    openBrace :: newLine (level + 1) ++ renderMember (level + 1) member ++
      renderMembers (level + 1) members ++ newLine level ++ [closeBrace]

/-- The items after the first. -/
def renderItems (level : Nat) : List Json → List Char
  | [] => []
  | item :: items => ',' :: newLine level ++ renderAt level item ++ renderItems level items

def renderMember (level : Nat) : List Char × Json → List Char
  | (name, value) => quoted name ++ ':' :: ' ' :: renderAt level value

/-- The members after the first. -/
def renderMembers (level : Nat) : List (List Char × Json) → List Char
  | [] => []
  | member :: members =>
    ',' :: newLine level ++ renderMember level member ++ renderMembers level members

end

/-- The text of a value. -/
def render (value : Json) : List Char := renderAt 0 value

end Json

end Prologue
