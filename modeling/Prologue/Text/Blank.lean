import Prologue.Text.Ranges

/-!
# Blanks

Three sets of characters count as blank. `blanks` is what may stand around a word in a setting or an
argument. `numericBlanks` is what may stand around a number: the four separators of ASCII are not
among them. Around bytes, only the six blanks of ASCII count.
-/

namespace Prologue.Text

/-- Characters that may stand around a word. -/
def blanks : Ranges :=
  [(0x9, 0xD), (0x1C, 0x20), (0x85, 0x85), (0xA0, 0xA0), (0x1680, 0x1680), (0x2000, 0x200A),
   (0x2028, 0x2029), (0x202F, 0x202F), (0x205F, 0x205F), (0x3000, 0x3000)]

/-- Characters that may stand around a number. -/
def numericBlanks : Ranges :=
  [(0x9, 0xD), (0x20, 0x20), (0x85, 0x85), (0xA0, 0xA0), (0x1680, 0x1680), (0x2000, 0x200A),
   (0x2028, 0x2029), (0x202F, 0x202F), (0x205F, 0x205F), (0x3000, 0x3000)]

def isBlank (c : Char) : Bool := blanks.holds c.toNat

def isNumericBlank (c : Char) : Bool := numericBlanks.holds c.toNat

/-- The blanks of ASCII. -/
def isBlankByte (byte : UInt8) : Bool := (9 ≤ byte && byte ≤ 13) || byte = 32

/-- A list without the members of a class at its two ends. -/
def trimBy {α : Type} (isMember : α → Bool) (items : List α) : List α :=
  ((items.dropWhile isMember).reverse.dropWhile isMember).reverse

/-- A text without blanks around it. -/
def trim (text : List Char) : List Char := trimBy isBlank text

end Prologue.Text
