/-!
# Near matches

Two texts that are one edit apart: one character replaced, inserted or removed. Equal texts are not.
The texts are passed once, side by side. At the first difference the longer one moves on alone, or
both do if they are equally long; a second difference ends the pass.
-/

namespace Prologue

section

variable {α : Type} [DecidableEq α]

/-- Passes along two texts with the number of differences met on the way. The first text is as long as
the second or, if they are `uneven`, longer. What is left of one when the other ends counts too. -/
def nearScan (uneven : Bool) : Nat → List α → List α → Bool
  | differences, a :: longer, b :: shorter =>
    if a = b then nearScan uneven differences longer shorter
    else if differences = 0 then
      nearScan uneven (differences + 1) longer (if uneven then b :: shorter else shorter)
    else false
  | differences, longer, shorter => differences + longer.length + shorter.length == 1

/-- Whether exactly one edit leads from a text to one that is no longer than it. -/
def nearShorter (longer shorter : List α) : Bool :=
  longer.length ≤ shorter.length + 1 &&
    nearScan (shorter.length < longer.length) 0 longer shorter

/-- Whether exactly one edit leads from one text to the other. -/
def nearMatch (first second : List α) : Bool :=
  if first.length < second.length then nearShorter second first else nearShorter first second

end

end Prologue
