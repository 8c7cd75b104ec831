import Mathlib.Order.Bounds.Defs
import Mathlib.Order.MinMax
import Prologue.Directive.NearMatch

/-!
# Edit distance

`editDistance` is the number of characters that have to be inserted, removed or replaced to turn one
text into another, by its recurrence on the two fronts. No sequence of single edits is shorter, and
one is as short. `nearMatch` passes along the two texts once, and where they first differ it goes on
with the one candidate that their lengths leave. The two agree on distance one.
-/

namespace Prologue

variable {α : Type} [DecidableEq α]

/-- Number of insertions, removals and replacements between two texts, each at cost one. -/
def editDistance : List α → List α → Nat
  | [], bs => bs.length
  | a :: as, [] => as.length + 1
  | a :: as, b :: bs =>
    min (editDistance as bs + if a = b then 0 else 1)
      (min (editDistance as (b :: bs) + 1) (editDistance (a :: as) bs + 1))
termination_by as bs => as.length + bs.length

theorem editDistance_nil (bs : List α) : editDistance [] bs = bs.length := by
  rw [editDistance]

theorem editDistance_to_nil (as : List α) : editDistance as [] = as.length := by
  cases as <;> simp [editDistance]

theorem editDistance_cons (a b : α) (as bs : List α) :
    editDistance (a :: as) (b :: bs) =
      min (editDistance as bs + if a = b then 0 else 1)
        (min (editDistance as (b :: bs) + 1) (editDistance (a :: as) bs + 1)) := by
  rw [editDistance]

/-- Dropping the front of either text changes the distance by at most one. The two bounds need each
other, so they are proved together, by induction on the lengths. -/
theorem editDistance_front (as bs : List α) :
    (∀ a, editDistance as bs ≤ editDistance (a :: as) bs + 1) ∧
      ∀ b, editDistance as bs ≤ editDistance as (b :: bs) + 1 := by
  match as, bs with
  | [], bs =>
    refine ⟨fun a => ?_, fun b => ?_⟩
    · cases bs with
      | nil => simp [editDistance_nil]
      | cons b bs =>
        have h := (editDistance_front [] bs).1 a
        rw [editDistance_cons, editDistance_nil, editDistance_nil] at *
        simp only [List.length_cons] at *
        split <;> omega
    · rw [editDistance_nil, editDistance_nil, List.length_cons]
      omega
  | a' :: as, [] =>
    refine ⟨fun a => ?_, fun b => ?_⟩
    · rw [editDistance_to_nil, editDistance_to_nil]
      simp only [List.length_cons]
      omega
    · have h := (editDistance_front as []).2 b
      rw [editDistance_cons, editDistance_to_nil, editDistance_to_nil] at *
      simp only [List.length_cons] at *
      split <;> omega
  | a' :: as, b' :: bs =>
    have hd := editDistance_front as bs
    have hl := editDistance_front as (b' :: bs)
    have hr := editDistance_front (a' :: as) bs
    refine ⟨fun a => ?_, fun b => ?_⟩
    · have h := hr.1 a
      have hb := hr.2 b'
      have ha := hl.1 a'
      rw [editDistance_cons a b']
      have hc := editDistance_cons a' b' as bs
      have hsub : editDistance (a' :: as) (b' :: bs) ≤ editDistance (a' :: as) bs + 1 := by omega
      split <;> omega
    · have h := hl.2 b
      have ha := hl.1 a'
      rw [editDistance_cons a' b]
      have hc := editDistance_cons a' b' as bs
      have hsub : editDistance (a' :: as) (b' :: bs) ≤ editDistance as (b' :: bs) + 1 := by omega
      split <;> omega
termination_by as.length + bs.length

/-- A common front costs nothing. -/
theorem editDistance_cons_same (a : α) (as bs : List α) :
    editDistance (a :: as) (a :: bs) = editDistance as bs := by
  have hl := (editDistance_front as bs).2 a
  have hr := (editDistance_front as bs).1 a
  rw [editDistance_cons, if_pos rfl]
  omega

theorem editDistance_eq_zero_iff (as bs : List α) : editDistance as bs = 0 ↔ as = bs := by
  induction as generalizing bs with
  | nil => cases bs <;> simp [editDistance_nil]
  | cons a as ih =>
    cases bs with
    | nil => simp [editDistance_to_nil]
    | cons b bs =>
      by_cases h : a = b
      · subst h
        rw [editDistance_cons_same, ih]
        simp
      · rw [editDistance_cons, if_neg h]
        simp only [List.cons.injEq, h, false_and, iff_false]
        omega

/-! ## Sequences of edits -/

/-- One edit: a character is inserted, removed or replaced somewhere in the text. -/
inductive Edit : List α → List α → Prop where
  | insert (front back : List α) (a : α) : Edit (front ++ back) (front ++ a :: back)
  | remove (front back : List α) (a : α) : Edit (front ++ a :: back) (front ++ back)
  | replace (front back : List α) (a b : α) : Edit (front ++ a :: back) (front ++ b :: back)

/-- So many edits, one after the other, lead from one text to another. -/
inductive Edits : Nat → List α → List α → Prop where
  | none (text : List α) : Edits 0 text text
  | more {n : Nat} {first second third : List α} (edit : Edit first second)
      (edits : Edits n second third) : Edits (n + 1) first third

omit [DecidableEq α] in
theorem Edit.cons {first second : List α} (h : Edit first second) (c : α) :
    Edit (c :: first) (c :: second) := by
  cases h with
  | insert front back a => exact .insert (c :: front) back a
  | remove front back a => exact .remove (c :: front) back a
  | replace front back a b => exact .replace (c :: front) back a b

omit [DecidableEq α] in
theorem Edits.cons {n : Nat} {first second : List α} (h : Edits n first second) (c : α) :
    Edits n (c :: first) (c :: second) := by
  induction h with
  | none text => exact .none (c :: text)
  | more edit _ ih => exact .more (edit.cons c) ih

/-- A bound on how far two texts lie apart, seen from any third one, holds behind a common front too.
-/
theorem editDistance_cons_le {first second : List α}
    (h : ∀ target, editDistance first target ≤ editDistance second target + 1) (c : α)
    (target : List α) :
    editDistance (c :: first) target ≤ editDistance (c :: second) target + 1 := by
  induction target with
  | nil =>
    have hlength := h []
    simp only [editDistance_to_nil, List.length_cons] at hlength ⊢
    omega
  | cons t target ih =>
    have hboth := h target
    have hfirst := h (t :: target)
    rw [editDistance_cons, editDistance_cons]
    omega

theorem editDistance_append_le {first second : List α}
    (h : ∀ target, editDistance first target ≤ editDistance second target + 1)
    (front target : List α) :
    editDistance (front ++ first) target ≤ editDistance (front ++ second) target + 1 := by
  induction front generalizing target with
  | nil => exact h target
  | cons c front ih => exact editDistance_cons_le ih c target

theorem editDistance_remove (a : α) (back target : List α) :
    editDistance (a :: back) target ≤ editDistance back target + 1 := by
  cases target with
  | nil => simp [editDistance_to_nil]
  | cons t target =>
    rw [editDistance_cons]
    omega

theorem editDistance_replace (a b : α) (back target : List α) :
    editDistance (a :: back) target ≤ editDistance (b :: back) target + 1 := by
  induction target with
  | nil => simp [editDistance_to_nil]
  | cons t target ih =>
    rw [editDistance_cons, editDistance_cons]
    split <;> omega

/-- One edit brings a text closer to any other one by one step at most. -/
theorem Edit.editDistance_le {first second : List α} (h : Edit first second) (target : List α) :
    editDistance first target ≤ editDistance second target + 1 := by
  cases h with
  | insert front back a =>
    exact editDistance_append_le (fun target => (editDistance_front back target).1 a) front target
  | remove front back a => exact editDistance_append_le (editDistance_remove a back) front target
  | replace front back a b =>
    exact editDistance_append_le (editDistance_replace a b back) front target

/-- No sequence of edits is shorter than the distance. -/
theorem Edits.editDistance_le {n : Nat} {first second : List α} (h : Edits n first second) :
    editDistance first second ≤ n := by
  induction h with
  | none text => exact Nat.le_of_eq ((editDistance_eq_zero_iff text text).2 rfl)
  | more edit _ ih => exact Nat.le_trans (edit.editDistance_le _) (Nat.succ_le_succ ih)

/-- The distance is reached by a sequence of edits, built along the recurrence: replace or keep the
front, remove it, or insert the other text's front before it. -/
theorem edits_editDistance (first second : List α) :
    Edits (editDistance first second) first second := by
  fun_induction editDistance first second with
  | case1 bs =>
    induction bs with
    | nil => exact .none []
    | cons b bs ih => exact .more (.insert [] [] b) (ih.cons b)
  | case2 a as =>
    induction as generalizing a with
    | nil => exact .more (.remove [] [] a) (.none [])
    | cons c as ih => exact .more (.remove [] (c :: as) a) (ih c)
  | case3 a as b bs hboth hfirst hsecond =>
    rcases min_choice (editDistance as bs + if a = b then 0 else 1)
      (min (editDistance as (b :: bs) + 1) (editDistance (a :: as) bs + 1)) with hmin | hmin
    · rw [hmin]
      by_cases h : a = b
      · subst h
        rw [if_pos rfl]
        exact hboth.cons a
      · rw [if_neg h]
        exact .more (.replace [] as a b) (hboth.cons b)
    · rw [hmin]
      rcases min_choice (editDistance as (b :: bs) + 1) (editDistance (a :: as) bs + 1)
        with hmin | hmin
      · rw [hmin]
        exact .more (.remove [] as a) hfirst
      · rw [hmin]
        exact .more (.insert [] (a :: as) b) (hsecond.cons b)

theorem isLeast_edits (first second : List α) :
    IsLeast {n | Edits n first second} (editDistance first second) :=
  ⟨edits_editDistance first second, fun _ h => h.editDistance_le⟩

/-! ## The pass along two texts -/

theorem editDistance_comm (as bs : List α) : editDistance as bs = editDistance bs as := by
  fun_induction editDistance as bs with
  | case1 bs => rw [editDistance_to_nil]
  | case2 a as => rw [editDistance_nil, List.length_cons]
  | case3 a as b bs hboth hfirst hsecond =>
    rw [editDistance_cons, hboth, hfirst, hsecond]
    simp only [eq_comm (a := a)]
    omega

/-- The lengths differ by no more than the distance. -/
theorem length_le_editDistance (as bs : List α) : as.length ≤ bs.length + editDistance as bs := by
  fun_induction editDistance as bs with
  | case1 bs => exact Nat.zero_le _
  | case2 a as => simp
  | case3 a as b bs hboth hfirst hsecond =>
    simp only [List.length_cons] at hfirst hsecond ⊢
    omega

/-- Behind the first difference the pass compares. -/
theorem nearScan_one (uneven : Bool) (as bs : List α) :
    nearScan uneven 1 as bs = true ↔ as = bs := by
  induction as generalizing bs with
  | nil => cases bs <;> simp [nearScan]
  | cons a as ih =>
    cases bs with
    | nil => simp [nearScan]
    | cons b bs =>
      rw [nearScan]
      split
      next h => rw [ih, h, List.cons.injEq, and_iff_right rfl]
      next h => simp [h]

/-- Up to the first difference the distance does not change. There the lengths leave one candidate. -/
theorem nearScan_zero {uneven : Bool} {as bs : List α}
    (hlength : as.length = bs.length + if uneven then 1 else 0) :
    nearScan uneven 0 as bs = true ↔ editDistance as bs = 1 := by
  induction as generalizing bs with
  | nil =>
    have hbs : bs = [] := List.length_eq_zero_iff.1 (by rw [List.length_nil] at hlength; omega)
    simp [hbs, nearScan, editDistance_nil]
  | cons a as ih =>
    cases bs with
    | nil => simp [nearScan, editDistance_to_nil]
    | cons b bs =>
      simp only [List.length_cons] at hlength
      rw [nearScan]
      by_cases h : a = b
      · subst h
        rw [if_pos rfl, editDistance_cons_same, ih (by omega)]
      · -- One of the three remaining distances has to be zero, and only one can be.
        have hd := editDistance_eq_zero_iff as bs
        have hl := editDistance_eq_zero_iff as (b :: bs)
        have hr := editDistance_eq_zero_iff (a :: as) bs
        have hone : editDistance (a :: as) (b :: bs) = 1 ↔
            as = bs ∨ as = b :: bs ∨ a :: as = bs := by
          rw [editDistance_cons, if_neg h, ← hd, ← hl, ← hr]
          omega
        have hlonger : a :: as ≠ bs := by
          rintro rfl
          rw [List.length_cons] at hlength
          omega
        rw [if_neg h, if_pos rfl, nearScan_one, hone]
        cases uneven with
        | true =>
          have heven : as ≠ bs := by
            rintro rfl
            simp at hlength
          simp [heven, hlonger]
        | false =>
          have hodd : as ≠ b :: bs := by
            rintro rfl
            simp at hlength
          simp [hodd, hlonger]

theorem nearShorter_eq_true_iff {as bs : List α} (hle : bs.length ≤ as.length) :
    nearShorter as bs = true ↔ editDistance as bs = 1 := by
  have hgap := length_le_editDistance as bs
  have hlength : as.length ≤ bs.length + 1 →
      as.length = bs.length + if decide (bs.length < as.length) then 1 else 0 := by
    intro hnear
    simp only [decide_eq_true_eq]
    split <;> omega
  rw [nearShorter, Bool.and_eq_true, decide_eq_true_eq]
  constructor
  · rintro ⟨hnear, hscan⟩
    exact (nearScan_zero (hlength hnear)).1 hscan
  · intro hone
    have hnear : as.length ≤ bs.length + 1 := by omega
    exact ⟨hnear, (nearScan_zero (hlength hnear)).2 hone⟩

/-- The pass along the two texts finds out whether they are one edit apart. -/
theorem nearMatch_eq_true_iff (as bs : List α) :
    nearMatch as bs = true ↔ editDistance as bs = 1 := by
  rw [nearMatch]
  split
  next hlt => rw [nearShorter_eq_true_iff (Nat.le_of_lt hlt), editDistance_comm]
  next hge => exact nearShorter_eq_true_iff (Nat.le_of_not_lt hge)

/-- A near match decides distance one, and the distance is the least number of single edits that lead
from one text to the other. -/
theorem nearMatch_decides_one_edit (first second : List α) :
    (nearMatch first second = true ↔ editDistance first second = 1) ∧
      IsLeast {n | Edits n first second} (editDistance first second) :=
  ⟨nearMatch_eq_true_iff first second, isLeast_edits first second⟩

end Prologue
