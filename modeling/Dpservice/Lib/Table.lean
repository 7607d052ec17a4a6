import Mathlib.Logic.Function.Basic
import Mathlib.Data.List.Count
import Mathlib.Tactic.Common

/-!
# Exact finite maps and heaps of numbered objects

- `Table K V` maps keys to values; adding a key that is present replaces its value (`Table.add`), deleting a key that
  is absent changes nothing (`Table.del`);
- a `Table ℕ V` is also used as a heap: an object is live when its number is mapped. `Table.count t n p` is the number
  of live objects below `n` that satisfy `p`, with one lemma for each way a heap changes (`count_new`, `count_set`,
  `count_del`);
- `Table.Rel R t t'`: the same keys with related values.
-/

namespace Dpservice

/-- A map from keys to values, `none` where a key is absent. -/
abbrev Table (K V : Type*) := K → Option V

namespace Table

/-- The table without entries. -/
def empty {K V : Type*} : Table K V := fun _ => none

@[simp] theorem empty_apply {K V : Type*} (k : K) : (empty : Table K V) k = none := rfl

variable {K V : Type*} [DecidableEq K]


/-- `t` with `v` under `k`, whatever was there before. -/
def add (t : Table K V) (k : K) (v : V) : Table K V := Function.update t k (some v)

def del (t : Table K V) (k : K) : Table K V := Function.update t k none

/-- An added entry is found. -/
@[simp] theorem add_self (t : Table K V) (k : K) (v : V) : t.add k v k = some v := Function.update_self ..

/-- Other entries stay. -/
theorem add_of_ne {k k' : K} (h : k' ≠ k) (t : Table K V) (v : V) : t.add k v k' = t k' := Function.update_of_ne h ..

@[simp] theorem del_self (t : Table K V) (k : K) : t.del k k = none := Function.update_self ..

theorem del_of_ne {k k' : K} (h : k' ≠ k) (t : Table K V) : t.del k k' = t k' := Function.update_of_ne h ..

theorem add_apply (t : Table K V) (k k' : K) (v : V) : t.add k v k' = if k' = k then some v else t k' :=
  Function.update_apply ..

theorem del_apply (t : Table K V) (k k' : K) : t.del k k' = if k' = k then none else t k' := Function.update_apply ..

theorem add_same {t : Table K V} {k : K} {v : V} (h : t k = some v) : t.add k v = t :=
  Function.update_eq_self_iff.mpr h.symm

theorem eq_of_add_eq {t : Table K V} {k : K} {v : V} (h : t.add k v = t) : t k = some v :=
  (Function.update_eq_self_iff.mp h).symm

/-- Deleting what was just added leaves the table without the key. -/
theorem del_add (t : Table K V) (k : K) (v : V) : (t.add k v).del k = t.del k := Function.update_idem ..

/-- Deleting what is not there changes nothing. -/
theorem del_of_none {t : Table K V} {k : K} (h : t k = none) : t.del k = t := Function.update_eq_self_iff.mpr h.symm

theorem add_eq_self_iff {t : Table K V} {k : K} {v : V} : t.add k v = t ↔ t k = some v := ⟨eq_of_add_eq, add_same⟩

theorem del_eq_self_iff {t : Table K V} {k : K} : t.del k = t ↔ t k = none :=
  Function.update_eq_self_iff.trans eq_comm

/-- The second of two additions under one key is what stays. -/
theorem add_add (t : Table K V) (k : K) (v v' : V) : (t.add k v).add k v' = t.add k v' := Function.update_idem ..

/-- An entry after an addition is the added one or an old one under another key. -/
theorem add_eq_some {t : Table K V} {k k' : K} {v v' : V} :
    t.add k v k' = some v' ↔ (k' = k ∧ v' = v) ∨ (k' ≠ k ∧ t k' = some v') := by
  rw [add_apply]
  by_cases h : k' = k
  · simp [h, eq_comm]
  · simp [h]

/-- An entry after a deletion is an old one under another key. -/
theorem del_eq_some {t : Table K V} {k k' : K} {v : V} : t.del k k' = some v ↔ k' ≠ k ∧ t k' = some v := by
  rw [del_apply]
  by_cases h : k' = k
  · simp [h]
  · simp [h]

/-! ## Related tables -/

section Rel

variable {R : V → V → Prop} {t t' t₁ t₂ t₃ : Table K V} {k : K} {v v' : V}

/-- The same keys, with related values. -/
def Rel (R : V → V → Prop) (t t' : Table K V) : Prop := ∀ k, Option.Rel R (t k) (t' k)

omit [DecidableEq K] in
theorem Rel.refl (hR : ∀ v, R v v) (t : Table K V) : Rel R t t := by
  intro k
  cases t k with
  | none => exact .none
  | some v => exact .some (hR v)

omit [DecidableEq K] in
theorem Rel.trans (hR : ∀ {a b c}, R a b → R b c → R a c) (h : Rel R t₁ t₂) (h' : Rel R t₂ t₃) : Rel R t₁ t₃ := by
  have hrel : ∀ {o₁ o₂ o₃ : Option V}, Option.Rel R o₁ o₂ → Option.Rel R o₂ o₃ → Option.Rel R o₁ o₃ := by
    intro o₁ o₂ o₃ h h'
    cases h with
    | none => exact h'
    | some r =>
      cases h' with
      | some r' => exact .some (hR r r')
  exact fun k => hrel (h k) (h' k)

/-- A value that is present is replaced by a related one. -/
theorem Rel.add (hR : ∀ v, R v v) (hk : t k = some v) (hv : R v v') : Rel R t (t.add k v') := by
  intro j
  by_cases hj : j = k
  · rw [hj, hk, add_self]
    exact .some hv
  · rw [add_of_ne hj]
    exact Rel.refl hR t j

omit [DecidableEq K] in
/-- An entry has its counterpart. -/
theorem Rel.live (h : Rel R t t') (hk : t k = some v) : ∃ v', t' k = some v' ∧ R v v' := by
  have hr := h k
  rw [hk] at hr
  cases hk' : t' k with
  | none => rw [hk'] at hr; cases hr
  | some v' =>
    rw [hk'] at hr
    cases hr with
    | some hv => exact ⟨v', rfl, hv⟩

omit [DecidableEq K] in
theorem Rel.was_live (h : Rel R t t') (hk : t' k = some v') : ∃ v, t k = some v ∧ R v v' := by
  have hr := h k
  rw [hk] at hr
  cases hk' : t k with
  | none => rw [hk'] at hr; cases hr
  | some v =>
    rw [hk'] at hr
    cases hr with
    | some hv => exact ⟨v, rfl, hv⟩

end Rel

/-! ## Counting live objects -/

section Count

variable {V : Type*} {t : Table ℕ V} {n i : ℕ} {p : V → Bool} {v w : V}

/-- The number of live objects below `n` that satisfy `p`. -/
def count (t : Table ℕ V) (n : ℕ) (p : V → Bool) : ℕ := (List.range n).countP fun i => (t i).any p

theorem count_succ (t : Table ℕ V) (n : ℕ) (p : V → Bool) :
    t.count (n + 1) p = t.count n p + if (t n).any p then 1 else 0 := by
  simp [count, List.range_succ, List.countP_append, List.countP_singleton]

/-- Only what `p` says about the objects below the bound counts. -/
theorem count_congr {t' : Table ℕ V} (h : ∀ j < n, (t j).any p = (t' j).any p) : t.count n p = t'.count n p := by
  unfold count
  apply List.countP_congr
  intro j hj
  rw [h j (List.mem_range.mp hj)]

/-- A new object, numbered by the bound. -/
theorem count_new (t : Table ℕ V) (n : ℕ) (p : V → Bool) (v : V) :
    (t.add n v).count (n + 1) p = t.count n p + if p v then 1 else 0 := by
  rw [count_succ, add_self, count_congr (fun j hj => congrArg _ (add_of_ne (by omega) t v))]
  simp

/-- Any change of the object numbered `i`. -/
theorem count_update (hi : i < n) (o : Option V) :
    Table.count (Function.update t i o) n p + (if (t i).any p then 1 else 0) =
      t.count n p + if o.any p then 1 else 0 := by
  induction n with
  | zero => omega
  | succ n ih =>
    rw [count_succ, count_succ]
    by_cases h : i = n
    · subst h
      have hbelow : Table.count (Function.update t i o) i p = t.count i p :=
        count_congr fun j hj => congrArg _ (Function.update_of_ne (by omega) ..)
      rw [Function.update_self, hbelow]
      omega
    · rw [Function.update_of_ne (Ne.symm h)]
      have := ih (by omega)
      omega

/-- A live object is written. -/
theorem count_set (hi : i < n) (hv : t i = some v) :
    (t.add i w).count n p + (if p v then 1 else 0) = t.count n p + if p w then 1 else 0 := by
  simpa [hv, add] using count_update (t := t) (p := p) hi (some w)

/-- A live object is freed. -/
theorem count_del (hi : i < n) (hv : t i = some v) :
    (t.del i).count n p + (if p v then 1 else 0) = t.count n p := by
  simpa [hv, del] using count_update (t := t) (p := p) hi none

/-- Some object satisfies `p` exactly if the count is positive. -/
theorem count_pos : 0 < t.count n p ↔ ∃ j < n, ∃ v, t j = some v ∧ p v = true := by
  simp [count, List.countP_pos_iff, Option.any_eq_true]

end Count

end Table

end Dpservice
