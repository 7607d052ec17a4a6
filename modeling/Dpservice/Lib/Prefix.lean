import Mathlib.Tactic.Common
import Mathlib.Data.BitVec

/-!
# Address prefixes and masks

Two addresses lie in one prefix of `n` bits when their first `n` bits are the same (`AgreeOn`). Masking both addresses
and comparing the results decides that, for every mask whose bits are the first `n` (`and_eq_and_iff_agreeOn`).
`bswap` exchanges the byte order of a 32-bit word: it distributes over masking and is its own inverse.
-/

namespace Dpservice

variable {w : ℕ}

/-- The first `n` bits of `x` and `y` are the same. -/
def AgreeOn (n : ℕ) (x y : BitVec w) : Prop := ∀ i < n, x.getMsbD i = y.getMsbD i

instance (n : ℕ) (x y : BitVec w) : Decidable (AgreeOn n x y) :=
  inferInstanceAs (Decidable (∀ i < n, x.getMsbD i = y.getMsbD i))

/-- The bits of `m` are the first `n`. -/
def IsMask (n : ℕ) (m : BitVec w) : Prop := ∀ i < w, m.getMsbD i = decide (i < n)

theorem eq_of_getMsbD {x y : BitVec w} (h : ∀ i < w, x.getMsbD i = y.getMsbD i) : x = y := by
  apply BitVec.eq_of_getMsbD_eq
  intro i hi
  exact h i hi

/-- Masked addresses are equal exactly if the addresses agree where the mask has a bit. -/
theorem and_eq_and_iff {m x y : BitVec w} :
    x &&& m = y &&& m ↔ ∀ i < w, m.getMsbD i = true → x.getMsbD i = y.getMsbD i := by
  constructor
  · intro h i _ hm
    have hi := congrArg (fun v => v.getMsbD i) h
    simpa [BitVec.getMsbD_and, hm] using hi
  · intro h
    apply eq_of_getMsbD
    intro i hi
    rw [BitVec.getMsbD_and, BitVec.getMsbD_and]
    cases hm : m.getMsbD i with
    | false => simp
    | true => rw [h i hi hm]

theorem getMsbD_of_ge {x : BitVec w} {i : ℕ} (h : w ≤ i) : x.getMsbD i = false := by
  simp [BitVec.getMsbD, Nat.not_lt.mpr h]

/-- Masking with the first `n` bits compares these bits. -/
theorem and_eq_and_iff_agreeOn {n : ℕ} {m x y : BitVec w} (hm : IsMask n m) : x &&& m = y &&& m ↔ AgreeOn n x y := by
  rw [and_eq_and_iff]
  constructor
  · intro h i hi
    rcases Nat.lt_or_ge i w with hw | hw
    · exact h i hw (by rw [hm i hw]; exact decide_eq_true hi)
    · rw [getMsbD_of_ge hw, getMsbD_of_ge hw]
  · intro h i hw hi
    rw [hm i hw, decide_eq_true_eq] at hi
    exact h i hi

/-! ## Byte order -/

/-- The word with its four bytes in the opposite order. -/
def bswap (x : BitVec 32) : BitVec 32 :=
  x.extractLsb' 0 8 ++ x.extractLsb' 8 8 ++ x.extractLsb' 16 8 ++ x.extractLsb' 24 8

/-- Bit `i` of the result is bit `i` of the opposite byte. -/
theorem getLsbD_bswap (x : BitVec 32) {i : ℕ} (hi : i < 32) :
    (bswap x).getLsbD i = x.getLsbD (8 * (3 - i / 8) + i % 8) := by
  have hq : i < 8 ∨ 8 ≤ i ∧ i < 16 ∨ 16 ≤ i ∧ i < 24 ∨ 24 ≤ i := by omega
  unfold bswap
  rcases hq with h | h | h | h <;>
    simp (disch := omega) only [BitVec.getLsbD_append, BitVec.getLsbD_extractLsb', if_pos, if_neg, decide_eq_true,
      Bool.true_and] <;>
    exact congrArg _ (by omega)

theorem bswap_bswap (x : BitVec 32) : bswap (bswap x) = x := by
  apply BitVec.eq_of_getLsbD_eq
  intro i hi
  rw [getLsbD_bswap _ hi, getLsbD_bswap _ (by omega)]
  congr 1
  omega

theorem bswap_and (x y : BitVec 32) : bswap (x &&& y) = bswap x &&& bswap y := by
  apply BitVec.eq_of_getLsbD_eq
  intro i hi
  rw [BitVec.getLsbD_and, getLsbD_bswap _ hi, getLsbD_bswap _ hi, getLsbD_bswap _ hi, BitVec.getLsbD_and]

/-- Swapping the bytes loses nothing. -/
theorem bswap_inj {x y : BitVec 32} : bswap x = bswap y ↔ x = y := by
  constructor
  · intro h
    rw [← bswap_bswap x, h, bswap_bswap]
  · rintro rfl
    rfl

end Dpservice
