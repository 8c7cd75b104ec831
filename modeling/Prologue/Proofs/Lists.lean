import Mathlib.Data.List.Basic
import Mathlib.Data.List.Forall2
import Mathlib.Data.List.Perm.Basic

/-!
# Lists

Facts about lists of any items, and about functions that are run on all items of a list and may fail
on one of them.
-/

namespace Prologue

/-! ## Items and places -/

/-- The first element that ends a `takeWhile` fails the test, and all before it pass. -/
theorem getElem?_takeWhile_length {α : Type} (p : α → Bool) (items : List α) :
    (∀ i item, i < (items.takeWhile p).length → items[i]? = some item → p item = true) ∧
      ∀ item, items[(items.takeWhile p).length]? = some item → p item = false := by
  induction items with
  | nil => simp
  | cons item rest ih =>
    rw [List.takeWhile_cons]
    cases h : p item with
    | false => simp [h]
    | true =>
      refine ⟨fun i found hi hfound => ?_, fun found hfound => ?_⟩
      · cases i with
        | zero => simp at hfound; rw [← hfound]; exact h
        | succ i => exact ih.1 i found (by simpa using hi) (by simpa using hfound)
      · exact ih.2 found (by simpa using hfound)

theorem perm_of_getElem? {α : Type} {items : List α} {index : Nat} {item : α}
    (h : items[index]? = some item) : items.Perm (item :: items.eraseIdx index) := by
  obtain ⟨hlt, rfl⟩ := List.getElem?_eq_some_iff.1 h
  exact (List.getElem_cons_eraseIdx_perm hlt).symm

/-- In a list that is ordered by an asymmetric relation, the relation says which item comes first. -/
theorem idxOf_lt_idxOf_iff {α : Type} [DecidableEq α] {R : α → α → Prop} {items : List α}
    (hpairwise : items.Pairwise R) (hasymm : ∀ {a b}, R a b → ¬ R b a) {a b : α} (ha : a ∈ items)
    (hb : b ∈ items) : items.idxOf a < items.idxOf b ↔ R a b := by
  have hrelated : ∀ {x y}, x ∈ items → y ∈ items → items.idxOf x < items.idxOf y → R x y := by
    intro x y hx hy hlt
    have h := List.pairwise_iff_getElem.1 hpairwise _ _ (List.idxOf_lt_length_of_mem hx)
      (List.idxOf_lt_length_of_mem hy) hlt
    rwa [List.getElem_idxOf, List.getElem_idxOf] at h
  constructor
  · exact hrelated ha hb
  · intro h
    rcases Nat.lt_trichotomy (items.idxOf a) (items.idxOf b) with hlt | heq | hgt
    · exact hlt
    · obtain rfl := (List.idxOf_inj ha).1 heq
      exact absurd h (hasymm h)
    · exact absurd (hrelated hb ha hgt) (hasymm h)

theorem findSome?_flatMap_of {α β γ : Type} {images : α → List β} {p : β → Option γ}
    {q : α → Option γ} (h : ∀ a, (images a).findSome? p = q a) (items : List α) :
    (items.flatMap images).findSome? p = items.findSome? q := by
  induction items with
  | nil => rfl
  | cons a rest ih =>
    rw [List.flatMap_cons, List.findSome?_append, h, ih, List.findSome?_cons]
    cases q a <;> rfl

/-- Going through the places of a list is going through its items. -/
theorem filterMap_range {α β : Type} (items : List α) (f : α → Option β) :
    ((List.range items.length).filterMap fun i => (items[i]?.map f).join) = items.filterMap f := by
  have hitems : (List.range items.length).map (fun i => items[i]?) = items.map some := by
    apply List.ext_getElem
    · simp
    · intro i hi hi'
      simp at hi
      simp [hi]
  calc ((List.range items.length).filterMap fun i => (items[i]?.map f).join)
      = ((List.range items.length).map fun i => items[i]?).filterMap
          fun item => (item.map f).join := by
        rw [List.filterMap_map]
        rfl
    _ = items.filterMap f := by
        rw [hitems, List.filterMap_map]
        rfl

/-! ## Results -/

theorem eq_ok_of_toOption {ε α : Type} {result : Except ε α} {value : α}
    (h : result.toOption = some value) : result = .ok value := by
  cases result with
  | error fault => cases h
  | ok other => exact congrArg Except.ok (Option.some.inj h)

theorem of_bind_eq_ok {ε α β : Type} {first : Except ε α} {next : α → Except ε β} {result : β}
    (h : first >>= next = .ok result) : ∃ value, first = .ok value ∧ next value = .ok result := by
  cases first with
  | error fault => cases h
  | ok value => exact ⟨value, rfl, h⟩

theorem forall₂_of_mapM {ε α β : Type} {f : α → Except ε β} {items : List α} {values : List β}
    (h : items.mapM f = .ok values) :
    List.Forall₂ (fun item value => f item = .ok value) items values := by
  induction items generalizing values with
  | nil =>
    obtain rfl := Except.ok.inj h
    exact .nil
  | cons item rest ih =>
    rw [List.mapM_cons] at h
    obtain ⟨value, hvalue, h⟩ := of_bind_eq_ok h
    obtain ⟨more, hmore, h⟩ := of_bind_eq_ok h
    obtain rfl := Except.ok.inj h
    exact .cons hvalue (ih hmore)

theorem exists_mapM_eq_ok {ε α β : Type} {f : α → Except ε β} {items : List α}
    (h : ∀ item ∈ items, ∃ value, f item = .ok value) :
    ∃ values, items.mapM f = .ok values ∧
      ∀ item ∈ items, ∀ value, f item = .ok value → value ∈ values := by
  induction items with
  | nil => exact ⟨[], rfl, nofun⟩
  | cons item rest ih =>
    rw [List.forall_mem_cons] at h
    obtain ⟨value, hvalue⟩ := h.1
    obtain ⟨values, hvalues, hall⟩ := ih h.2
    refine ⟨value :: values, ?_, ?_⟩
    · rw [List.mapM_cons, hvalue, hvalues]
      rfl
    · rw [List.forall_mem_cons]
      refine ⟨fun other hother => ?_, fun next hnext other hother =>
        List.mem_cons_of_mem _ (hall next hnext other hother)⟩
      rw [hvalue] at hother
      exact Except.ok.inj hother ▸ List.mem_cons_self

theorem exists_mapM_of {ε α β : Type} {f : α → Except ε β} {P : β → Prop} {items : List α}
    (h : ∀ item ∈ items, ∃ value, f item = .ok value ∧ P value) :
    ∃ values, items.mapM f = .ok values ∧ ∀ value ∈ values, P value := by
  induction items with
  | nil => exact ⟨[], rfl, by simp⟩
  | cons item rest ih =>
    rw [List.forall_mem_cons] at h
    obtain ⟨value, hvalue, hP⟩ := h.1
    obtain ⟨values, hvalues, hall⟩ := ih h.2
    refine ⟨value :: values, ?_, List.forall_mem_cons.2 ⟨hP, hall⟩⟩
    rw [List.mapM_cons, hvalue, hvalues]
    rfl

theorem map_mapM {ε α β γ : Type} (f : α → Except ε β) (g : β → γ) (items : List α) :
    (items.mapM f).map (·.map g) = items.mapM fun item => (f item).map g := by
  induction items with
  | nil => rfl
  | cons item rest ih =>
    rw [List.mapM_cons, List.mapM_cons, ← ih]
    cases f item with
    | error fault => rfl
    | ok value => cases rest.mapM f <;> rfl

theorem mapM_congr {ε α β : Type} {f g : α → Except ε β} {items : List α}
    (h : ∀ item ∈ items, f item = g item) : items.mapM f = items.mapM g := by
  induction items with
  | nil => rfl
  | cons item rest ih =>
    rw [List.forall_mem_cons] at h
    rw [List.mapM_cons, List.mapM_cons, h.1, ih h.2]

end Prologue
