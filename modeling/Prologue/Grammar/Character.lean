import Prologue.Text.Utf8

/-!
# Characters of the source language

Which characters are skipped between tokens, which make up names, and which the rule for automatic
semicolons skips. The last set is smaller: a no-break space separates tokens, but a statement does
not end at a line break that follows one.
-/

namespace Prologue.Grammar

/-- Code and width of the character at the front; a byte that starts no character counts as a
character of its own, above all code points. -/
def frontPoint : Bytes → Option (Nat × Nat)
  | [] => none
  | byte :: rest =>
    if byte < 0x80 then some (byte.toNat, 1)
    else match Utf8.front byte rest with
      | .point code width => some (code, width)
      | .broken _ _ => some (0x110000, 1)

/-- Space characters of Unicode: those of the general category for spaces. -/
def isSpaceSeparator (code : Nat) : Bool :=
  code = 0x20 || code = 0xA0 || code = 0x1680 || (0x2000 ≤ code && code ≤ 0x200A) ||
    code = 0x202F || code = 0x205F || code = 0x3000

/-- Characters skipped between tokens. -/
def isBlank (code : Nat) : Bool :=
  (9 ≤ code && code ≤ 13) || isSpaceSeparator code || code = 0xFEFF || code = 0x2028 ||
    code = 0x2029 || code = 0x2060 || code = 0x200B

/-- Characters that the rule for automatic semicolons passes over. -/
def isBreakable (code : Nat) : Bool :=
  (9 ≤ code && code ≤ 13) || code = 0x20 || code = 0x1680 || (0x2000 ≤ code && code ≤ 0x2006) ||
    (0x2008 ≤ code && code ≤ 0x200A) || code = 0x2028 || code = 0x2029 || code = 0x205F ||
    code = 0x3000

def isDigit (byte : UInt8) : Bool := 48 ≤ byte && byte ≤ 57

def isLetter (byte : UInt8) : Bool :=
  (65 ≤ byte && byte ≤ 90) || (97 ≤ byte && byte ≤ 122)

def isHexDigit (byte : UInt8) : Bool :=
  isDigit byte || (65 ≤ byte && byte ≤ 70) || (97 ≤ byte && byte ≤ 102)

/-- Whether a character below U+0080 can stand in a name: a letter, a digit, `$`, `_` or U+007F. -/
def isPlainNameByte (byte : UInt8) : Bool :=
  isLetter byte || isDigit byte || byte = 36 || byte = 95 || byte = 127

/-- Length of the escape of a code point that stands at the front, with four hexadecimal digits or
with any number of them in braces; zero when none does. -/
def escapedPoint : Bytes → Nat
  | 92 :: 117 :: 123 :: rest =>
    let digits := rest.takeWhile isHexDigit
    if digits.isEmpty then 0
    else match rest.drop digits.length with
      | 125 :: _ => digits.length + 4
      | _ => 0
  | 92 :: 117 :: rest =>
    if (rest.take 4).length = 4 && (rest.take 4).all isHexDigit then 6 else 0
  | _ => 0

/-- Width of the name character at the front; zero when none stands there. Every character is one
that is neither a control, a blank nor punctuation. -/
def nameCharacter : Bytes → Nat
  | [] => 0
  | byte :: rest =>
    if byte < 0x80 then
      if isPlainNameByte byte then 1 else escapedPoint (byte :: rest)
    else match Utf8.front byte rest with
      | .point code width => if isBlank code then 0 else width
      | .broken _ _ => 0

/-- Length of the run of characters at the front that have a width; `skip` bytes belong to the last
one. -/
def characterRun (widthOf : Bytes → Nat) (skip : Nat) : Bytes → Nat
  | [] => 0
  | byte :: rest =>
    match skip with
    | skip + 1 => characterRun widthOf skip rest + 1
    | 0 =>
      match widthOf (byte :: rest) with
      | 0 => 0
      | width + 1 => characterRun widthOf width rest + 1

/-- A line ends at a line feed or at a separator of Unicode. -/
def isLineEnd (code : Nat) : Bool := code = 10 || code = 0x2028 || code = 0x2029

/-- Width of the character at the front that does not end the line; zero where the line ends. -/
def lineCharacter (ends : Nat → Bool) (bytes : Bytes) : Nat :=
  match frontPoint bytes with
  | some (code, width) => if ends code then 0 else width
  | none => 0

/-- Number of bytes up to the end of the line. -/
def lineLength (ends : Nat → Bool) (bytes : Bytes) : Nat := characterRun (lineCharacter ends) 0 bytes

/-- Length of the name at the front; zero when none stands there. A name starts with no digit. -/
def nameLength (bytes : Bytes) : Nat :=
  match bytes with
  | byte :: _ => if isDigit byte then 0 else characterRun nameCharacter 0 bytes
  | [] => 0

end Prologue.Grammar
