import Prologue.Text.Blank

/-!
# Decimal numbers

An integer is written with an optional sign and decimal digits of any script, between which single
underscores may stand. Blanks may stand around it.
-/

namespace Prologue.Text

/-- The zeros of all scripts. The nine code points after each are the other digits. -/
def zeros : List Nat :=
  [0x30, 0x660, 0x6F0, 0x7C0, 0x966, 0x9E6, 0xA66, 0xAE6, 0xB66, 0xBE6, 0xC66, 0xCE6, 0xD66, 0xDE6,
   0xE50, 0xED0, 0xF20, 0x1040, 0x1090, 0x17E0, 0x1810, 0x1946, 0x19D0, 0x1A80, 0x1A90, 0x1B50,
   0x1BB0, 0x1C40, 0x1C50, 0xA620, 0xA8D0, 0xA900, 0xA9D0, 0xA9F0, 0xAA50, 0xABF0, 0xFF10, 0x104A0,
   0x10D30, 0x11066, 0x110F0, 0x11136, 0x111D0, 0x112F0, 0x11450, 0x114D0, 0x11650, 0x116C0,
   0x11730, 0x118E0, 0x11950, 0x11C50, 0x11D50, 0x11DA0, 0x16A60, 0x16AC0, 0x16B50, 0x1D7CE,
   0x1D7D8, 0x1D7E2, 0x1D7EC, 0x1D7F6, 0x1E140, 0x1E2F0, 0x1E950, 0x1FBF0]

/-- The value of a decimal digit. -/
def digit? (c : Char) : Option Nat :=
  (zeros.find? fun first => first ≤ c.toNat && c.toNat < first + 10).map (c.toNat - ·)

/-- Digits with single underscores between them; `ready` where an underscore may stand. -/
def digitsFrom (ready : Bool) : List Char → Option (List Nat)
  | [] => if ready then some [] else none
  | c :: rest =>
    if c = '_' then
      if ready then digitsFrom false rest else none
    else match digit? c with
      | none => none
      | some d => (digitsFrom true rest).map (d :: ·)

/-- The natural number with the given decimal digits. -/
def ofDigits (digits : List Nat) : Nat := digits.foldl (fun n d => 10 * n + d) 0

/-- No more digits than this are read as a number. -/
def digitLimit : Nat := 4300

/-- The integer that a text denotes. -/
def integer? (text : List Char) : Option Int :=
  let read (digits : List Char) : Option Nat :=
    (digitsFrom false digits).bind fun ds =>
      if ds.length ≤ digitLimit then some (ofDigits ds) else none
  match trimBy isNumericBlank text with
  | '+' :: rest => (read rest).map Int.ofNat
  | '-' :: rest => (read rest).map fun n => -Int.ofNat n
  | digits => (read digits).map Int.ofNat

end Prologue.Text
