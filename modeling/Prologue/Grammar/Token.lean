import Prologue.Grammar.Character

/-!
# Tokens

A token is described by what may stand at the front of the bytes, and `Token.length` says how many
bytes it takes. Blanks and comments in front of a token are not its business.
-/

namespace Prologue.Grammar

inductive Token where
  /-- Fixed punctuation, unless one of the longer punctuations stands there. -/
  | text (spelling : String) (longer : List String)
  /-- A keyword: a whole name with this spelling. -/
  | word (spelling : String)
  /-- Any name except the given ones. -/
  | name (reserved : List String)
  /-- A name after a number sign. -/
  | privateName
  | number
  | string
  | regex
  /-- Characters of a template up to its end or to a substitution. -/
  | templateText
  /-- Text between markup tags. -/
  | markupText
  /-- A character reference between markup tags. -/
  | reference
  /-- A tag or attribute name, in which hyphens may stand. -/
  | markupName
  /-- A quoted attribute, which may go over several lines. -/
  | markupString
  /-- A line that starts with a number sign and an exclamation mark. -/
  | hashBang

/-- Whether `spelling` stands at the front. -/
def startsWith (spelling : String) (bytes : Bytes) : Bool := (utf8 spelling).isPrefixOf bytes

/-- Length of the name at the front if it is spelled so. -/
def wordLength (spelling : String) (bytes : Bytes) : Option Nat :=
  let n := nameLength bytes
  if n != 0 && bytes.take n == utf8 spelling then some n else none

/-- Digits of a class, with single underscores between them. -/
def digitRun (isMember : UInt8 → Bool) : Bytes → Nat
  | [] => 0
  | byte :: rest =>
    if isMember byte then digitRun isMember rest + 1
    else if byte = 95 then
      match rest with
      | next :: _ => if isMember next then digitRun isMember rest + 1 else 0
      | [] => 0
    else 0

/-- Like `digitRun`, but the run has to start with a digit. -/
def digits (isMember : UInt8 → Bool) : Bytes → Nat
  | [] => 0
  | byte :: rest => if isMember byte then digitRun isMember rest + 1 else 0

/-- Length of the exponent at the front; zero when none stands there. -/
def exponentLength : Bytes → Nat
  | mark :: rest =>
    if mark = 101 || mark = 69 then
      let sign := match rest with
        | s :: _ => if s = 43 || s = 45 then 1 else 0
        | [] => 0
      match digits isDigit (rest.drop sign) with
      | 0 => 0
      | n + 1 => n + 2 + sign
    else 0
  | [] => 0

/-- One more for the mark of a big integer right behind `n` bytes. -/
def bigMark (bytes : Bytes) (n : Nat) : Nat :=
  match bytes.drop n with
  | 110 :: _ => n + 1
  | _ => n

/-- Length of a number in base two, eight or sixteen; zero when none stands at the front. -/
def radixLength : Bytes → Nat
  | 48 :: mark :: rest =>
    let run :=
      if mark = 120 || mark = 88 then digits isHexDigit rest
      else if mark = 98 || mark = 66 then digits (fun b => b = 48 || b = 49) rest
      else if mark = 111 || mark = 79 then digits (fun b => 48 ≤ b && b ≤ 55) rest
      else 0
    if run = 0 then 0 else run + 2
  | _ => 0

/-- Length of a decimal number; zero when none stands at the front. -/
def decimalLength (bytes : Bytes) : Nat :=
  let whole := digits isDigit bytes
  let afterWhole := bytes.drop whole
  let fraction := match afterWhole with
    | 46 :: rest => digits isDigit rest + 1
    | _ => 0
  if whole = 0 && fraction ≤ 1 then 0
  else
    let mantissa := whole + fraction
    let exponent := exponentLength (bytes.drop mantissa)
    if fraction = 0 && exponent = 0 then bigMark bytes whole else mantissa + exponent

def numberLength (bytes : Bytes) : Option Nat :=
  match radixLength bytes with
  | 0 => match decimalLength bytes with
    | 0 => none
    | n => some n
  | n => some (bigMark bytes n)

/-- Length of the escape at the front, its backslash included; zero when none is well formed. -/
def escapeLength : Bytes → Nat
  | 92 :: byte :: rest =>
    if byte = 120 then
      if (rest.take 2).length = 2 && (rest.take 2).all isHexDigit then 4 else 0
    else if byte = 117 then escapedPoint (92 :: byte :: rest)
    else if 48 ≤ byte && byte ≤ 55 then
      2 + ((rest.take 2).takeWhile (fun b => 48 ≤ b && b ≤ 55)).length
    else if byte = 13 then
      match rest with
      | 10 :: _ => 3
      | _ => 2
    else 2
  | _ => 0

/-- Length up to and with the closing quote, on one line; `skip` bytes belong to an escape. -/
def quotedLength (quote : UInt8) (skip : Nat) : Bytes → Option Nat
  | [] => none
  | byte :: rest =>
    match skip with
    | skip + 1 => (quotedLength quote skip rest).map (· + 1)
    | 0 =>
      if byte = quote then some 1
      else if byte = 10 || byte = 13 then none
      else if byte = 92 then
        match escapeLength (byte :: rest) with
        | 0 => none
        | width + 1 => (quotedLength quote width rest).map (· + 1)
      else (quotedLength quote 0 rest).map (· + 1)

def stringLength : Bytes → Option Nat
  | quote :: rest =>
    if quote = 34 || quote = 39 then (quotedLength quote 0 rest).map (· + 1) else none
  | [] => none

/-- Where the scan of a regular expression stands. -/
inductive RegexPlace where
  | outside
  | inClass
  deriving DecidableEq

/-- Length of the body of a regular expression and of its closing slash. -/
def regexBody (place : RegexPlace) (escaped : Bool) : Bytes → Option Nat
  | [] => none
  | byte :: rest =>
    if byte = 10 then none
    else if escaped then (regexBody place false rest).map (· + 1)
    else if byte = 92 then (regexBody place true rest).map (· + 1)
    else match place with
      | .inClass => (regexBody (if byte = 93 then .outside else .inClass) false rest).map (· + 1)
      | .outside =>
        if byte = 47 then some 1
        else (regexBody (if byte = 91 then .inClass else .outside) false rest).map (· + 1)

def regexLength : Bytes → Option Nat
  | 47 :: first :: rest =>
    if first = 47 || first = 42 then none
    else match regexBody .outside false (first :: rest) with
      | none => none
      | some n =>
        let flags := ((first :: rest).drop n).takeWhile (fun b => 97 ≤ b && b ≤ 122)
        some (n + 1 + flags.length)
  | _ => none

/-- Characters of a template up to a backquote or to a dollar sign with a brace. Escapes have to be
well formed; `skip` bytes belong to one. -/
def templateRun (skip : Nat) : Bytes → Option Nat
  | [] => none
  | byte :: rest =>
    match skip with
    | skip + 1 => (templateRun skip rest).map (· + 1)
    | 0 =>
      if byte = 96 then some 0
      else if byte = 36 && rest.head? == some 123 then some 0
      else if byte = 92 then
        match escapeLength (byte :: rest) with
        | 0 => none
        | width + 1 => (templateRun width rest).map (· + 1)
      else (templateRun 0 rest).map (· + 1)

/-- Text between tags: it stops at `<`, `>`, a brace or an ampersand. -/
def markupTextLength (bytes : Bytes) : Nat :=
  (bytes.takeWhile fun b => !(b = 60 || b = 62 || b = 123 || b = 125 || b = 38)).length

/-- A character reference such as `&amp;` or `&#x41;`. -/
def referenceLength : Bytes → Option Nat
  | 38 :: rest =>
    let hash := match rest with
      | 35 :: 120 :: _ => 2
      | 35 :: 88 :: _ => 2
      | 35 :: _ => 1
      | _ => 0
    let isMember := if hash = 0 then isLetter else if hash = 1 then isDigit else isHexDigit
    let run := ((rest.drop hash).takeWhile isMember).length
    match rest.drop (hash + run) with
    | 59 :: _ => if run = 0 then none else some (hash + run + 2)
    | _ => none
  | _ => none

/-- Width of the character at the front in the name of a tag or an attribute, which may be a hyphen. -/
def markupNameCharacter : Bytes → Nat
  | [] => 0
  | byte :: rest => if byte = 45 then 1 else nameCharacter (byte :: rest)

/-- Names of tags and attributes: a name, in which hyphens may follow the first character. -/
def markupNameRun (bytes : Bytes) : Nat := characterRun markupNameCharacter 0 bytes

def markupStringLength : Bytes → Option Nat
  | quote :: rest =>
    if quote = 34 || quote = 39 then
      let run := rest.takeWhile (· != quote)
      if run.length < rest.length then some (run.length + 2) else none
    else none
  | [] => none

/-- Number of bytes that the token takes at the front, if it stands there. -/
def Token.length : Token → Bytes → Option Nat
  | text spelling longer, bytes =>
    if startsWith spelling bytes && !longer.any (startsWith · bytes) then
      some (utf8 spelling).length
    else none
  | word spelling, bytes => wordLength spelling bytes
  | name reserved, bytes =>
    match nameLength bytes with
    | 0 => none
    | n => if reserved.any (fun r => utf8 r == bytes.take n) then none else some n
  | privateName, bytes =>
    match bytes with
    | 35 :: rest => match nameLength rest with
      | 0 => none
      | n => some (n + 1)
    | _ => none
  | number, bytes => numberLength bytes
  | string, bytes => stringLength bytes
  | regex, bytes => regexLength bytes
  | templateText, bytes =>
    match templateRun 0 bytes with
    | some (n + 1) => some (n + 1)
    | _ => none
  | markupText, bytes =>
    match markupTextLength bytes with
    | 0 => none
    | n => some n
  | reference, bytes => referenceLength bytes
  | markupName, bytes =>
    match nameLength bytes with
    | 0 => none
    | _ => some (markupNameRun bytes)
  | markupString, bytes => markupStringLength bytes
  | hashBang, bytes =>
    if startsWith "#!" bytes then some (bytes.takeWhile (· != lineFeed)).length else none

end Prologue.Grammar
