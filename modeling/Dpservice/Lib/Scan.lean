import Mathlib.Data.List.Basic

/-!
# Going through a list once

- A list of tests is worked off along a list: the first test waits for an element that passes it, then the next one for
  a later element, and so on. `awaited_eq_nil`: all tests are passed exactly if the list contains, in this order,
  elements that pass them; taking the first element that passes is never a mistake.
- Each element may set a value: `foldl_getD` says that the last one that does decides.
-/

namespace Dpservice

variable {α : Type*}

/-! ## Waiting for elements in order -/

/-- The tests that are still to be passed after one more element. -/
def await (ps : List (α → Bool)) (a : α) : List (α → Bool) :=
  match ps with
  | [] => []
  | p :: ps => if p a then ps else p :: ps

/-- The tests that are still to be passed after a list. -/
def awaited (ps : List (α → Bool)) (l : List α) : List (α → Bool) := l.foldl await ps

@[simp] theorem awaited_nil (ps : List (α → Bool)) : awaited ps [] = ps := rfl

theorem awaited_concat (ps : List (α → Bool)) (l : List α) (a : α) : awaited ps (l ++ [a]) = await (awaited ps l) a :=
  List.foldl_concat ..

/-- Nothing is awaited any more exactly if the tests were passed in order. -/
theorem awaited_eq_nil {ps : List (α → Bool)} {l : List α} :
    awaited ps l = [] ↔ ∃ l', l'.Sublist l ∧ List.Forall₂ (fun p a => p a = true) ps l' := by
  induction l generalizing ps with
  | nil =>
    constructor
    · intro h
      obtain rfl : ps = [] := h
      exact ⟨[], .slnil, .nil⟩
    · rintro ⟨l', hl, hps⟩
      obtain rfl := List.eq_nil_of_sublist_nil hl
      cases hps
      rfl
  | cons a l ih =>
    change awaited (await ps a) l = [] ↔ _
    rw [ih]
    cases ps with
    | nil =>
      constructor
      · rintro ⟨l', hl, hps⟩
        exact ⟨l', hl.cons a, hps⟩
      · rintro ⟨l', -, hps⟩
        cases hps
        exact ⟨[], List.nil_sublist l, .nil⟩
    | cons p ps =>
      by_cases hp : p a = true
      · rw [show await (p :: ps) a = ps from if_pos hp]
        constructor
        · rintro ⟨l', hl, hps⟩
          exact ⟨a :: l', hl.cons_cons a, .cons hp hps⟩
        · rintro ⟨l', hl, hps⟩
          cases hps with
          | cons _ hps =>
            refine ⟨_, ?_, hps⟩
            cases hl with
            | cons _ hl => exact List.sublist_of_cons_sublist hl
            | cons_cons _ hl => exact hl
      · rw [show await (p :: ps) a = p :: ps from if_neg hp]
        constructor
        · rintro ⟨l', hl, hps⟩
          exact ⟨l', hl.cons a, hps⟩
        · rintro ⟨l', hl, hps⟩
          refine ⟨l', ?_, hps⟩
          cases hl with
          | cons _ hl => exact hl
          | cons_cons _ hl =>
            cases hps with
            | cons hpa _ => exact absurd hpa hp

/-! ## The last element that sets a value -/

/-- The last value that an element sets stays. -/
theorem foldl_getD {β : Type*} (f : α → Option β) (l : List α) (b : β) :
    l.foldl (fun b a => (f a).getD b) b = (l.filterMap f).getLast?.getD b := by
  induction l generalizing b with
  | nil => rfl
  | cons a l ih =>
    rw [List.foldl_cons, ih]
    cases ha : f a with
    | none => rw [List.filterMap_cons_none ha, Option.getD_none]
    | some x => rw [List.filterMap_cons_some ha, List.getLast?_cons, Option.getD_some, Option.getD_some]

end Dpservice
