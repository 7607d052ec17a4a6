import Dpservice.Lib.Table

/-!
# Tables that are inverse to each other

`Inverse t t'` says that `t` maps `k` to `v` exactly if `t'` maps `v` back to `k`: the two tables are a bijection
between their keys. Entering a pair that neither table knows and deleting a pair from both keep this.
-/

namespace Dpservice

/-- The tables are inverse to each other. -/
structure Inverse {K V : Type*} (t : Table K V) (t' : Table V K) : Prop where
  iff : ∀ k v, t k = some v ↔ t' v = some k

namespace Inverse

variable {K V : Type*} {t : Table K V} {t' : Table V K} {k k' : K} {v : V}

theorem empty : Inverse (Table.empty : Table K V) Table.empty := ⟨fun k v => by simp⟩

/-- A value has one key only. -/
theorem inj (h : Inverse t t') (hk : t k = some v) (hk' : t k' = some v) : k = k' := by
  have hv := (h.iff k v).mp hk
  rw [(h.iff k' v).mp hk', Option.some.injEq] at hv
  exact hv.symm

variable [DecidableEq K] [DecidableEq V]

/-- A pair of a new key and a new value is entered. -/
theorem add (h : Inverse t t') (hk : t k = none) (hv : t' v = none) : Inverse (t.add k v) (t'.add v k) := by
  refine ⟨fun j w => ?_⟩
  rw [Table.add_eq_some, Table.add_eq_some, h.iff j w]
  constructor
  · rintro (⟨rfl, rfl⟩ | ⟨-, hw⟩)
    · exact .inl ⟨rfl, rfl⟩
    · refine .inr ⟨?_, hw⟩
      rintro rfl
      rw [hv] at hw
      cases hw
  · rintro (⟨rfl, rfl⟩ | ⟨-, hw⟩)
    · exact .inl ⟨rfl, rfl⟩
    · refine .inr ⟨?_, hw⟩
      rintro rfl
      rw [(h.iff j w).mpr hw] at hk
      cases hk

/-- A pair is deleted. -/
theorem del (h : Inverse t t') (hk : t k = some v) : Inverse (t.del k) (t'.del v) := by
  refine ⟨fun j w => ?_⟩
  rw [Table.del_eq_some, Table.del_eq_some, h.iff j w]
  have hv := (h.iff k v).mp hk
  constructor
  · rintro ⟨hj, hw⟩
    refine ⟨?_, hw⟩
    rintro rfl
    rw [hv, Option.some.injEq] at hw
    exact hj hw.symm
  · rintro ⟨hne, hw⟩
    refine ⟨?_, hw⟩
    rintro rfl
    rw [(h.iff j w).mpr hw, Option.some.injEq] at hk
    exact hne hk

end Inverse

end Dpservice
