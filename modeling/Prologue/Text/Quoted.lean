import Prologue.Text.Printable
import Prologue.Text.Utf8

/-!
# Quoted text

Text quoted for a message: in single quotes, or in double quotes if it holds single quotes and no
double ones. Backslashes and the quote are escaped, and so is everything that is not printable, with
two, four or eight hexadecimal digits.
-/

namespace Prologue.Text

/-- Lower-case hexadecimal digits, at least `count` of them. -/
def hexDigits (count n : Nat) : List Char :=
  let digits := Nat.toDigits 16 n
  List.replicate (count - digits.length) '0' ++ digits

/-- A code point with the escape that its size needs. -/
def escapeCode (code : Nat) : List Char :=
  if code < 0x100 then '\\' :: 'x' :: hexDigits 2 code
  else if code < 0x10000 then '\\' :: 'u' :: hexDigits 4 code
  else '\\' :: 'U' :: hexDigits 8 code

/-- A code point between quotes of the given kind. Surrogates stand for stray bytes. -/
def quoteCode (quote : Char) (code : Nat) : List Char :=
  if 0xD800 ≤ code && code < 0xE000 then escapeCode code
  else
    let c := Char.ofNat code
    if c = quote || c = '\\' then ['\\', c]
    else if c = '\n' then ['\\', 'n']
    else if c = '\r' then ['\\', 'r']
    else if c = '\t' then ['\\', 't']
    else if isPrintable c then [c]
    else escapeCode code

/-- Code points in quotes. -/
def quoteCodes (codes : List Nat) : String :=
  let quote : Char :=
    if codes.contains 39 && !codes.contains 34 then Char.ofNat 34 else Char.ofNat 39
  String.ofList (quote :: codes.flatMap (quoteCode quote) ++ [quote])

/-- A text in quotes. -/
def quoted (text : List Char) : String := quoteCodes (text.map Char.toNat)

/-- A byte string in quotes, stray bytes escaped as surrogates. -/
def quotedBytes (bytes : Bytes) : String := quoteCodes (Utf8.scalars bytes)

end Prologue.Text
