import Mathlib

/-!
# Serving in turn

- `answers call s is`: the answers of a sequence of calls, those that fail left out. Where every answer is the head of a
  queue that then goes to its end, as many calls as the queue is long give each of its members once (`answers_eq_take`).
- `inTurn used p`: the positions of a ring that are used, in the order in which they come after `p`. Moving to the first
  of them puts it at the end (`inTurn_move`).
-/

namespace Dpservice

/-! ## Queues -/

section Queue

variable {σ ι α : Type*}

/-- The answers of a sequence of calls and the last state; a call gives no answer, or is not defined. -/
def answers (call : σ → ι → Option (Option α × σ)) : σ → List ι → Option (List α × σ)
  | s, [] => some ([], s)
  | s, i :: is => (call s i).bind fun r => (answers call r.2 is).map fun q => (r.1.toList ++ q.1, q.2)

/-- A call gives no answer and keeps the queue, or it answers with the head and moves it to the end. -/
def TakesTurn (queue : σ → List α) (s : σ) (o : Option α) (s' : σ) : Prop :=
  (o = none ∧ queue s' = queue s) ∨ ∃ a l, o = some a ∧ queue s = a :: l ∧ queue s' = l ++ [a]

variable {call : σ → ι → Option (Option α × σ)} {queue : σ → List α} {I : σ → Prop} {s s' : σ}
  {is : List ι} {as : List α}

/-- Calls that are all defined and keep an invariant. -/
theorem answers_total (hcall : ∀ {s i}, I s → ∃ o s', call s i = some (o, s') ∧ I s') (hI : I s) (is : List ι) :
    ∃ as s', answers call s is = some (as, s') ∧ I s' := by
  induction is generalizing s with
  | nil => exact ⟨[], s, rfl, hI⟩
  | cons i is ih =>
    obtain ⟨o, s₁, ho, hI₁⟩ := hcall (i := i) hI
    obtain ⟨as, s₂, has, hI₂⟩ := ih hI₁
    refine ⟨o.toList ++ as, s₂, ?_, hI₂⟩
    rw [answers, ho, Option.bind_some, has]
    rfl

/-- What holds of the answer of every call holds of all answers. -/
theorem answers_forall {Q : α → Prop} (hcall : ∀ {s i o s'}, I s → call s i = some (o, s') → I s' ∧ ∀ a ∈ o, Q a)
    (hI : I s) (h : answers call s is = some (as, s')) : ∀ a ∈ as, Q a := by
  induction is generalizing s as with
  | nil =>
    cases h
    simp
  | cons i is ih =>
    obtain ⟨⟨o, s₁⟩, ho, hrest⟩ := Option.bind_eq_some_iff.mp h
    obtain ⟨⟨as', s₂⟩, hq, heq⟩ := Option.map_eq_some_iff.mp hrest
    cases heq
    obtain ⟨hI₁, hQ⟩ := hcall hI ho
    intro a ha
    rcases List.mem_append.mp ha with ha | ha
    · exact hQ a (Option.mem_toList.mp ha)
    · exact ih hI₁ hq a ha

/-- **Everyone is served once**: up to one round, the answers are the queue in its order. -/
theorem answers_eq_take (hcall : ∀ {s i o s'}, I s → call s i = some (o, s') → I s' ∧ TakesTurn queue s o s')
    (hI : I s) (h : answers call s is = some (as, s')) (hle : as.length ≤ (queue s).length) :
    as = (queue s).take as.length := by
  induction is generalizing s as with
  | nil =>
    cases h
    rfl
  | cons i is ih =>
    obtain ⟨⟨o, s₁⟩, hr, hrest⟩ := Option.bind_eq_some_iff.mp h
    obtain ⟨⟨as', s₂⟩, hq, heq⟩ := Option.map_eq_some_iff.mp hrest
    cases heq
    obtain ⟨hI₁, ⟨rfl, hsame⟩ | ⟨a, l, rfl, hhead, hmove⟩⟩ := hcall hI hr
    · have htake := ih hI₁ hq (by rw [hsame]; exact hle)
      rw [hsame] at htake
      exact htake
    · -- the head is answered, the others come before it in the queue that is left
      have hle' : as'.length ≤ l.length := by
        rw [hhead] at hle
        exact Nat.le_of_succ_le_succ hle
      have htake := ih hI₁ hq (by rw [hmove, List.length_append]; omega)
      rw [hmove, List.take_append_of_le_length hle'] at htake
      rw [hhead]
      exact congrArg (a :: ·) htake

end Queue

/-! ## Rings -/

section Ring

variable {n : ℕ} [NeZero n] {used : Fin n → Bool} {p a k : Fin n} {l : List (Fin n)}

/-- The positions of the ring from the one after `p` on, `p` itself last. -/
def around (p : Fin n) : List (Fin n) := (List.finRange n).map fun i => p + 1 + i

/-- The used positions, in the order in which they come after `p`. -/
def inTurn (used : Fin n → Bool) (p : Fin n) : List (Fin n) := (around p).filter used

@[simp] theorem length_around (p : Fin n) : (around p).length = n := by simp [around]

theorem nodup_around (p : Fin n) : (around p).Nodup :=
  (List.nodup_finRange n).map fun _ _ h => add_left_cancel h

theorem mem_around (p k : Fin n) : k ∈ around p :=
  List.mem_map.mpr ⟨k - (p + 1), List.mem_finRange _, add_sub_cancel ..⟩

theorem nodup_inTurn (used : Fin n → Bool) (p : Fin n) : (inTurn used p).Nodup := (nodup_around p).filter _

theorem mem_inTurn : k ∈ inTurn used p ↔ used k = true := by simp [inTurn, mem_around]

/-- Seen from the `m`-th position after `p`, the ring is turned. -/
theorem around_getElem {m : ℕ} (hm : m < (around p).length) :
    around (around p)[m] = (around p).rotate (m + 1) := by
  rw [length_around] at hm
  refine List.ext_getElem (by simp) fun i hi _ => ?_
  rw [length_around] at hi
  rw [List.getElem_rotate]
  simp only [around, List.getElem_map, List.getElem_finRange, List.length_map, List.length_finRange, Fin.cast_mk]
  have hsum : (⟨(i + (m + 1)) % n, Nat.mod_lt _ (Nat.pos_of_ne_zero (NeZero.ne n))⟩ : Fin n) =
      ⟨m, hm⟩ + 1 + ⟨i, hi⟩ := by
    apply Fin.ext
    simp only [Fin.val_add, Fin.val_one', Nat.add_mod_mod, Nat.mod_add_mod]
    congr 1
    omega
  rw [hsum]
  simp only [add_assoc]

/-- **Moving to the first used position puts it at the end.** -/
theorem inTurn_move (h : inTurn used p = a :: l) : inTurn used a = l ++ [a] := by
  obtain ⟨pre, post, hsplit, hpre, ha, rfl⟩ := List.filter_eq_cons_iff.mp h
  have hlen : pre.length < (around p).length := by simp [hsplit]
  have hget : (around p)[pre.length] = a := by simp [hsplit]
  have haround : around a = post ++ (pre ++ [a]) := by
    have hrot := around_getElem hlen
    rw [hget] at hrot
    rw [hrot, hsplit, ← List.singleton_append, ← List.append_assoc]
    have hl : pre.length + 1 = (pre ++ [a]).length := by simp
    rw [hl, List.rotate_append_length_eq]
  have hnone : pre.filter used = [] := List.filter_eq_nil_iff.mpr hpre
  simp [inTurn, haround, hnone, ha]

/-- Each used position has its turn. -/
theorem length_inTurn (used : Fin n → Bool) (p : Fin n) :
    (inTurn used p).length = (Finset.univ.filter fun k => used k = true).card := by
  rw [← List.toFinset_card_of_nodup (nodup_inTurn used p)]
  congr 1
  ext k
  simp [mem_inTurn]

end Ring

end Dpservice
