import Dpservice.Lib.Table

/-!
# Counters of shared names

Several objects may use one name, and a 16-bit counter says how many do; `n k` is the true number for the name `k`.

- `Tallies cnt t n`: the table `t` has an entry for exactly the names in use, and its counter is right. The first user
  makes the entry (`Tallies.first`), the last one removes it (`Tallies.release`);
- `Counts c n`: one counter for each name, whether or not it is in use.

Both stay right under one more user only while the counter does not wrap.
-/

namespace Dpservice

theorem toNat_succ {x : UInt16} (h : x ≠ 65535) : (x + 1).toNat = x.toNat + 1 := by
  have hlt : x.toNat < 65536 := x.toNat_lt
  have hne : x.toNat ≠ 65535 := fun he => h (UInt16.toNat_inj.mp he)
  rw [UInt16.toNat_add]
  exact Nat.mod_eq_of_lt (by simp only [UInt16.reduceToNat]; omega)

theorem toNat_pred {x : UInt16} (h : 0 < x.toNat) : (x - 1).toNat + 1 = x.toNat := by
  have hle : (1 : UInt16) ≤ x := UInt16.le_iff_toNat_le.mpr h
  rw [UInt16.toNat_sub_of_le _ _ hle]
  exact Nat.sub_add_cancel h

section

variable {K V : Type*} {cnt : V → UInt16} {t : Table K V} {c : K → UInt16} {n n' : K → ℕ} {k : K} {x y : V}

/-- The table has an entry for each name in use, with the number of its users. -/
structure Tallies (cnt : V → UInt16) (t : Table K V) (n : K → ℕ) : Prop where
  isSome : ∀ k, (t k).isSome = true ↔ 0 < n k
  cnt : ∀ {k x}, t k = some x → (cnt x).toNat = n k

/-- Every counter has the number of users of its name. -/
def Counts (c : K → UInt16) (n : K → ℕ) : Prop := ∀ k, (c k).toNat = n k

/-- Nothing is counted at first. -/
theorem Tallies.empty : Tallies cnt (Table.empty : Table K V) fun _ => 0 where
  isSome _ := by simp
  cnt h := by cases h

variable [DecidableEq K]

/-- A name gets a user, and its counter the new number. -/
theorem Tallies.gain (h : Tallies cnt t n) (hy : (cnt y).toNat = n k + 1)
    (hn : ∀ j, n' j = n j + if j = k then 1 else 0) : Tallies cnt (t.add k y) n' := by
  refine ⟨fun j => ?_, fun {j v} hj => ?_⟩
  · rw [hn]
    by_cases hjk : j = k
    · simp [hjk]
    · simpa [Table.add_of_ne hjk, hjk] using h.isSome j
  · rw [hn]
    obtain ⟨rfl, rfl⟩ | ⟨hjk, hj⟩ := Table.add_eq_some.mp hj
    · rw [hy, if_pos rfl]
    · simp [h.cnt hj, hjk]

/-- The first one counted under a key. -/
theorem Tallies.first (h : Tallies cnt t n) (hk : t k = none) (hy : cnt y = 1)
    (hn : ∀ j, n' j = n j + if j = k then 1 else 0) : Tallies cnt (t.add k y) n' := by
  have hzero : n k = 0 := by simpa [hk] using (h.isSome k).not
  exact h.gain (by rw [hy, hzero]; rfl) hn

/-- One more under a key. -/
theorem Tallies.more (h : Tallies cnt t n) (hk : t k = some x) (hy : cnt y = cnt x + 1) (hmax : cnt x ≠ 65535)
    (hn : ∀ j, n' j = n j + if j = k then 1 else 0) : Tallies cnt (t.add k y) n' :=
  h.gain (by rw [hy, toNat_succ hmax, h.cnt hk]) hn

/-- A name loses a user. -/
theorem Tallies.release (h : Tallies cnt t n) (hk : t k = some x) (hy : cnt y = cnt x - 1)
    (hn : ∀ j, (n' j + if j = k then 1 else 0) = n j) :
    Tallies cnt (if cnt x - 1 = 0 then t.del k else t.add k y) n' := by
  have hpos : 0 < (cnt x).toNat := by
    rw [h.cnt hk]
    exact (h.isSome k).mp (by simp [hk])
  have hpred : (cnt x - 1).toNat = n' k := by
    have := toNat_pred hpos
    have := hn k
    rw [if_pos rfl, ← h.cnt hk] at this
    omega
  have hother : ∀ {j}, j ≠ k → n' j = n j := fun {j} hj => by simpa [hj] using hn j
  split
  next hlast =>
    have hzero : n' k = 0 := by rw [← hpred, hlast]; rfl
    refine ⟨fun j => ?_, fun {j v} hj => ?_⟩
    · by_cases hjk : j = k
      · simp [hjk, hzero]
      · rw [Table.del_of_ne hjk, hother hjk]
        exact h.isSome j
    · obtain ⟨hjk, hj⟩ := Table.del_eq_some.mp hj
      rw [hother hjk]
      exact h.cnt hj
  next hmore =>
    have hleft : n' k ≠ 0 := fun hz => hmore (UInt16.toNat_inj.mp (by rw [hpred, hz]; rfl))
    refine ⟨fun j => ?_, fun {j v} hj => ?_⟩
    · by_cases hjk : j = k
      · simpa [hjk] using Nat.pos_of_ne_zero hleft
      · rw [Table.add_of_ne hjk, hother hjk]
        exact h.isSome j
    · obtain ⟨rfl, rfl⟩ | ⟨hjk, hj⟩ := Table.add_eq_some.mp hj
      · rw [hy, hpred]
      · rw [hother hjk]
        exact h.cnt hj

theorem Counts.more (h : Counts c n) (hmax : c k ≠ 65535) (hn : ∀ j, n' j = n j + if j = k then 1 else 0) :
    Counts (Function.update c k (c k + 1)) n' := by
  intro j
  rw [hn]
  by_cases hj : j = k
  · rw [hj, Function.update_self, toNat_succ hmax, h k, if_pos rfl]
  · rw [Function.update_of_ne hj, h j, if_neg hj, Nat.add_zero]

/-- One less. -/
theorem Counts.release (h : Counts c n) (hn : ∀ j, (n' j + if j = k then 1 else 0) = n j) :
    Counts (Function.update c k (c k - 1)) n' := by
  intro j
  by_cases hj : j = k
  · have hk := hn k
    rw [if_pos rfl, ← h k] at hk
    have := toNat_pred (x := c k) (by omega)
    rw [hj, Function.update_self]
    omega
  · rw [Function.update_of_ne hj, h j, ← hn j, if_neg hj, Nat.add_zero]

end

end Dpservice
