import Dpservice.Lib.Table

/-!
# Names held by objects

Objects hold names that are registered in a table: `o i` is the name that object `i` holds, if any, and the table has
the names in use. `Holds o t` says that every held name is registered and that no two objects hold the same one;
`Exact o t` says in addition that every registered name is held. Taking a free name and releasing a held one keep both;
registering a name that nobody holds keeps the first.

`HoldsAs P o t` is the first notion for tables that also tell what a name stands for: `P i v` says that `v` is right for
object `i`.
-/

namespace Dpservice

/-- Held names are registered, and held by one object only. -/
structure Holds {ι K : Type*} (o : ι → Option K) (t : Table K Unit) : Prop where
  held : ∀ {i k}, o i = some k → t k = some ()
  inj : ∀ {i j k}, o i = some k → o j = some k → i = j

/-- Registered names are exactly the held ones. -/
structure Exact {ι K : Type*} (o : ι → Option K) (t : Table K Unit) : Prop extends Holds o t where
  only : ∀ {k}, t k = some () → ∃ i, o i = some k

section

variable {ι K : Type*} [DecidableEq ι] [DecidableEq K] {o : ι → Option K} {t : Table K Unit} {i : ι} {k : K}

omit [DecidableEq ι] [DecidableEq K] in
theorem Exact.empty : Exact (fun _ : ι => (none : Option K)) Table.empty where
  held h := by cases h
  inj h := by cases h
  only h := by cases h

/-- An object takes a name that is free. -/
theorem Holds.take (h : Holds o t) (hk : t k = none) : Holds (Function.update o i (some k)) (t.add k ()) where
  held {j k'} hj := by
    rw [Table.add_apply]
    split
    · rfl
    next hne =>
      by_cases hji : j = i
      · rw [hji, Function.update_self, Option.some.injEq] at hj
        exact absurd hj.symm hne
      · rw [Function.update_of_ne hji] at hj
        exact h.held hj
  inj {j j' k'} hj hj' := by
    have hne : ∀ {l}, l ≠ i → Function.update o i (some k) l = some k → False := by
      intro l hl he
      rw [Function.update_of_ne hl] at he
      rw [h.held he] at hk
      cases hk
    by_cases hji : j = i
    · by_cases hji' : j' = i
      · rw [hji, hji']
      · rw [hji, Function.update_self, Option.some.injEq] at hj
        exact (hne hji' (hj ▸ hj')).elim
    · by_cases hji' : j' = i
      · rw [hji', Function.update_self, Option.some.injEq] at hj'
        exact (hne hji (hj' ▸ hj)).elim
      · rw [Function.update_of_ne hji] at hj
        rw [Function.update_of_ne hji'] at hj'
        exact h.inj hj hj'

omit [DecidableEq ι] in
/-- A name is registered that nobody holds. -/
theorem Holds.more (h : Holds o t) (k : K) : Holds o (t.add k ()) where
  held hj := by
    rw [Table.add_apply]
    split
    · rfl
    · exact h.held hj
  inj := h.inj

/-- An object gives up the name it holds. -/
theorem Holds.release (h : Holds o t) (hi : o i = some k) : Holds (Function.update o i none) (t.del k) where
  held {j k'} hj := by
    by_cases hji : j = i
    · rw [hji, Function.update_self] at hj
      cases hj
    · rw [Function.update_of_ne hji] at hj
      rw [Table.del_of_ne, h.held hj]
      rintro rfl
      exact hji (h.inj hj hi)
  inj {j j' k'} hj hj' := by
    have hne : ∀ {l}, Function.update o i none l = some k' → o l = some k' := by
      intro l hl
      by_cases hli : l = i
      · rw [hli, Function.update_self] at hl
        cases hl
      · rwa [Function.update_of_ne hli] at hl
    exact h.inj (hne hj) (hne hj')

theorem Exact.take (h : Exact o t) (hi : o i = none) (hk : t k = none) :
    Exact (Function.update o i (some k)) (t.add k ()) where
  toHolds := h.toHolds.take hk
  only {k'} hk' := by
    rw [Table.add_eq_some] at hk'
    obtain ⟨rfl, -⟩ | ⟨-, hk'⟩ := hk'
    · exact ⟨i, Function.update_self ..⟩
    · obtain ⟨j, hj⟩ := h.only hk'
      refine ⟨j, ?_⟩
      rw [Function.update_of_ne, hj]
      rintro rfl
      rw [hi] at hj
      cases hj

theorem Exact.release (h : Exact o t) (hi : o i = some k) : Exact (Function.update o i none) (t.del k) where
  toHolds := h.toHolds.release hi
  only {k'} hk' := by
    rw [Table.del_eq_some] at hk'
    obtain ⟨j, hj⟩ := h.only hk'.2
    refine ⟨j, ?_⟩
    rw [Function.update_of_ne, hj]
    rintro rfl
    rw [hi, Option.some.injEq] at hj
    exact hk'.1 hj.symm

end

/-! ## Names with a meaning -/

/-- Held names are registered with a value that suits their holder, and held by one object only. -/
structure HoldsAs {ι K V : Type*} (P : ι → V → Prop) (o : ι → Option K) (t : Table K V) : Prop where
  held : ∀ {i k}, o i = some k → ∃ v, t k = some v ∧ P i v
  inj : ∀ {i j k}, o i = some k → o j = some k → i = j

namespace HoldsAs

variable {ι K V : Type*} {P Q : ι → V → Prop} {o : ι → Option K} {t : Table K V} {i : ι} {k : K} {v : V}

theorem empty : HoldsAs P (fun _ : ι => (none : Option K)) t := ⟨fun h => (by cases h), fun h => (by cases h)⟩

/-- The values need only suit the holders of names. -/
theorem mono (h : HoldsAs P o t) (hPQ : ∀ i k v, o i = some k → P i v → Q i v) : HoldsAs Q o t where
  held hi := by
    obtain ⟨v, hv, hp⟩ := h.held hi
    exact ⟨v, hv, hPQ _ _ v hi hp⟩
  inj := h.inj

variable [DecidableEq K]

/-- A new name is registered that nobody holds. -/
theorem more (h : HoldsAs P o t) (hk : t k = none) : HoldsAs P o (t.add k v) where
  held {j k'} hj := by
    obtain ⟨w, hw, hp⟩ := h.held hj
    refine ⟨w, ?_, hp⟩
    rwa [Table.add_of_ne]
    rintro rfl
    rw [hk] at hw
    cases hw
  inj := h.inj

/-- A name is forgotten that nobody holds. -/
theorem drop (h : HoldsAs P o t) (hk : ∀ i, o i ≠ some k) : HoldsAs P o (t.del k) where
  held {j k'} hj := by
    obtain ⟨w, hw, hp⟩ := h.held hj
    refine ⟨w, ?_, hp⟩
    rwa [Table.del_of_ne]
    rintro rfl
    exact hk j hj
  inj := h.inj

variable [DecidableEq ι]

/-- An object takes a new name. -/
theorem take (h : HoldsAs P o t) (hk : t k = none) (hP : P i v) :
    HoldsAs P (Function.update o i (some k)) (t.add k v) where
  held {j k'} hj := by
    by_cases hji : j = i
    · subst hji
      rw [Function.update_self, Option.some.injEq] at hj
      subst hj
      exact ⟨v, Table.add_self .., hP⟩
    · rw [Function.update_of_ne hji] at hj
      exact (h.more hk).held hj
  inj {j j' k'} hj hj' := by
    have hne : ∀ {l}, o l = some k → False := by
      intro l hl
      obtain ⟨w, hw, -⟩ := h.held hl
      rw [hk] at hw
      cases hw
    rw [Function.update_apply] at hj hj'
    split at hj <;> split at hj'
    next h1 h2 => rw [h1, h2]
    next => cases hj; exact (hne hj').elim
    next => cases hj'; exact (hne hj).elim
    next => exact h.inj hj hj'

/-- An object gives up the name it holds. -/
theorem release (h : HoldsAs P o t) (hi : o i = some k) : HoldsAs P (Function.update o i none) (t.del k) where
  held {j k'} hj := by
    rw [Function.update_apply] at hj
    split at hj
    · cases hj
    next hji =>
      obtain ⟨w, hw, hp⟩ := h.held hj
      refine ⟨w, ?_, hp⟩
      rwa [Table.del_of_ne]
      rintro rfl
      exact hji (h.inj hj hi)
  inj {j j' k'} hj hj' := by
    rw [Function.update_apply] at hj hj'
    split at hj
    · cases hj
    · split at hj'
      · cases hj'
      · exact h.inj hj hj'

end HoldsAs

end Dpservice
