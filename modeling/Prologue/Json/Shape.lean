import Prologue.Json
import Prologue.Text.Digit

/-!
# Shapes of JSON values

Reading a JSON value as something with a known shape. All mismatches are reported, each with the way
to it from the outside. Members that the shape does not name are passed over. An integer may also be
given as a truth value or as a text.
-/

namespace Prologue.Json

/-- How a value fails its shape. -/
inductive MismatchKind where
  | missing
  | notList
  | notObject
  | notText
  | notInteger
  /-- A text that denotes no integer. -/
  | notNumeral
  deriving DecidableEq, Repr

/-- One step into a value. -/
inductive Step where
  | member (name : String)
  | item (index : Nat)
  deriving DecidableEq, Repr

structure Mismatch where
  kind : MismatchKind
  location : List Step
  deriving DecidableEq, Repr

/-- A value of the shape, or everything that keeps the JSON value from it. -/
abbrev Checked (α : Type) := Except (List Mismatch) α

namespace Checked

/-- One mismatch right here. -/
def mismatch {α : Type} (kind : MismatchKind) : Checked α := .error [⟨kind, []⟩]

/-- Mismatches as seen from one step further out. -/
def within {α : Type} (step : Step) : Checked α → Checked α
  | .ok a => .ok a
  | .error mismatches =>
    .error (mismatches.map fun mismatch => { mismatch with location := step :: mismatch.location })

/-- Joins two checks; if both fail, the mismatches of the first come first. -/
def both {α β γ : Type} (f : α → β → γ) : Checked α → Checked β → Checked γ
  | .ok a, .ok b => .ok (f a b)
  | .ok _, .error second => .error second
  | .error first, .ok _ => .error first
  | .error first, .error second => .error (first ++ second)

/-- Checks items in turn, the first with the given index. -/
def items {α : Type} (check : Json → Checked α) : Nat → List Json → Checked (List α)
  | _, [] => .ok []
  | index, item :: rest =>
    both List.cons (within (.item index) (check item)) (items check (index + 1) rest)

end Checked

open Checked

def asText : Json → Checked (List Char)
  | text value => .ok value
  | _ => mismatch .notText

/-- A text, or nothing for null. -/
def asOptionalText : Json → Checked (Option (List Char))
  | null => .ok none
  | value => (asText value).map some

/-- Drops the zeros in front of a numeral, and the underscores among them, but the last zero. -/
def dropZeros : List Char → Option (List Char)
  | [] => none
  | c :: rest =>
    if c = '0' then
      let zeros := rest.takeWhile fun c => c = '0' || c = '_'
      match rest.drop zeros.length with
      | [] => some [(c :: zeros).getLastD c]
      | next :: more =>
        if next = '.' then some ((c :: zeros).getLastD c :: next :: more)
        else if next.isDigit then some (next :: more)
        else none
    else if c.isDigit || c = '-' then some (c :: rest)
    else none

/-- Drops a point with nothing but zeros behind it. -/
def dropFraction (numeral : List Char) : List Char :=
  let whole := numeral.takeWhile (· != '.')
  if (numeral.drop (whole.length + 1)).all (· = '0') then whole else numeral

/-- Drops underscores that stand alone and not at an end. -/
def dropUnderscores (numeral : List Char) : List Char :=
  let pairs := numeral.zip numeral.tail
  if numeral.head? = some '_' || numeral.getLast? = some '_' || pairs.contains ('_', '_') then
    numeral
  else numeral.filter (· != '_')

/-- A plain numeral: digits, perhaps with a sign. -/
def plainInteger? (numeral : List Char) : Option Int :=
  let natural? (digits : List Char) : Option Nat :=
    if digits.isEmpty || !digits.all Char.isDigit then none
    else some (Text.ofDigits (digits.map fun c => c.toNat - 48))
  match numeral with
  | '-' :: digits => (natural? digits).map fun n => -Int.ofNat n
  | '+' :: digits => (natural? digits).map Int.ofNat
  | digits => (natural? digits).map Int.ofNat

/-- The integer that a text denotes: blanks may stand around it, underscores between its digits and
a point with zeros after it. -/
def numeral? (text : List Char) : Option Int :=
  let trimmed := Text.trimBy Text.isNumericBlank text
  match plainInteger? trimmed with
  | some value => some value
  | none =>
    let unsigned := match trimmed with
      | '+' :: '-' :: _ => none
      | '+' :: rest => some rest
      | rest => some rest
    (unsigned.bind dropZeros).bind fun numeral =>
      plainInteger? (dropUnderscores (dropFraction numeral))

def asInteger : Json → Checked Int
  | int value => .ok value
  | bool value => .ok (if value then 1 else 0)
  | text value =>
    match numeral? value with
    | some value => .ok value
    | none => mismatch .notNumeral
  | _ => mismatch .notInteger

def asList {α : Type} (check : Json → Checked α) : Json → Checked (List α)
  | list values => items check 0 values
  | _ => mismatch .notList

/-- The members of an object. -/
abbrev Members := List (List Char × Json)

def asObject {α : Type} (check : Members → Checked α) : Json → Checked α
  | object members => check members
  | _ => mismatch .notObject

/-- A member that has to be there. -/
def member {α : Type} (members : Members) (name : String) (check : Json → Checked α) : Checked α :=
  within (.member name) <|
    match members.lookup name.toList with
    | some value => check value
    | none => mismatch .missing

/-- A member with a value to take for lack of it. -/
def memberOr {α : Type} (fallback : α) (members : Members) (name : String)
    (check : Json → Checked α) : Checked α :=
  match members.lookup name.toList with
  | some value => within (.member name) (check value)
  | none => .ok fallback

end Prologue.Json
