import Dpservice.Lib.Memory

/-!
# The Internet checksum

A byte string is added up as 16-bit words in network order (`sum16`), carries out of the 16 bits are added back in
(`foldCarries`), and a string that includes its checksum is valid if this gives `0xffff` (`CksumOk`).

- `foldCarries_eq_max_iff`, `cksumOk_slice_iff`: a string with a byte that is not zero is valid exactly if its sum is a
  multiple of `0xffff`;
- `sum16_append`: the sum after an even number of bytes;
- `sum16_put`: the sum of a string in memory after words of it were stored.
-/

namespace Dpservice

/-- The 16-bit words of a byte string, added up; a last odd byte is followed by zero. -/
def sum16 : List UInt8 → ℕ
  | [] => 0
  | [a] => a.toNat * 256
  | a :: b :: bs => a.toNat * 256 + b.toNat + sum16 bs

/-- Add the carries back in, at most `n` times. -/
def foldCarries : ℕ → ℕ → ℕ
  | 0, s => s
  | n + 1, s => if s / 65536 = 0 then s else foldCarries n (s % 65536 + s / 65536)

/-- The string holds its checksum. -/
def CksumOk (bs : List UInt8) : Prop := foldCarries 3 (sum16 bs) = 65535

instance (bs : List UInt8) : Decidable (CksumOk bs) := inferInstanceAs (Decidable (_ = _))

/-! ## Folding -/

theorem foldCarries_mod (n : ℕ) : ∀ s, foldCarries n s % 65535 = s % 65535 := by
  induction n with
  | zero => exact fun _ => rfl
  | succ n ih =>
    intro s
    unfold foldCarries
    split
    · rfl
    · rw [ih]
      omega

theorem foldCarries_pos (n : ℕ) : ∀ {s}, 0 < s → 0 < foldCarries n s := by
  induction n with
  | zero => exact fun h => h
  | succ n ih =>
    intro s h
    unfold foldCarries
    split
    · exact h
    · exact ih (by omega)

/-- Three times are enough for a 32-bit sum. -/
theorem foldCarries_lt {s : ℕ} (h : s < 4294967296) : foldCarries 3 s < 65536 := by
  simp only [foldCarries]
  split
  · omega
  · split
    · omega
    · split <;> omega

theorem foldCarries_eq_max_iff {s : ℕ} (hpos : 0 < s) (h : s < 4294967296) : foldCarries 3 s = 65535 ↔
    s % 65535 = 0 := by
  have hmod := foldCarries_mod 3 s
  have hlt := foldCarries_lt h
  have hgt := foldCarries_pos 3 hpos
  omega

/-! ## Sums -/

/-- After an even number of bytes the words start anew. -/
theorem sum16_append : ∀ {bs cs : List UInt8}, bs.length % 2 = 0 → sum16 (bs ++ cs) = sum16 bs + sum16 cs
  | [], cs, _ => by simp [sum16]
  | [a], _, h => by simp at h
  | a :: b :: bs, cs, h => by
    have heven : bs.length % 2 = 0 := by
      simp only [List.length_cons] at h
      omega
    simp only [List.cons_append, sum16, sum16_append heven]
    omega

theorem sum16_le : ∀ bs : List UInt8, sum16 bs * 2 ≤ 65535 * (bs.length + 1)
  | [] => by simp [sum16]
  | [a] => by
    have ha := a.toNat_lt
    simp only [sum16, List.length_cons, List.length_nil]
    omega
  | a :: b :: bs => by
    have ha := a.toNat_lt
    have hb := b.toNat_lt
    have ih := sum16_le bs
    simp only [sum16, List.length_cons]
    omega

/-- Words of a string in memory are replaced: the new ones come in, the old ones go out. -/
theorem sum16_put (m : Buffer) (a : ℕ) (bs : List UInt8) {i n : ℕ} (hi : i % 2 = 0) (hbs : bs.length % 2 = 0)
    (hn : i + bs.length ≤ n) :
    sum16 ((m.put (a + i) bs).slice a n) + sum16 (m.slice (a + i) bs.length) = sum16 (m.slice a n) + sum16 bs := by
  have hold : m.slice a n = m.slice a i ++ m.slice (a + i) bs.length ++
      m.slice (a + i + bs.length) (n - i - bs.length) := by
    rw [← Buffer.slice_add, Nat.add_assoc, ← Buffer.slice_add]
    congr 1
    omega
  have hpre : (m.slice a i).length % 2 = 0 := by rw [Buffer.length_slice, hi]
  have hpre' : (m.slice a i ++ bs).length % 2 = 0 := by
    rw [List.length_append, Buffer.length_slice]
    omega
  have hpre'' : (m.slice a i ++ m.slice (a + i) bs.length).length % 2 = 0 := by
    rw [List.length_append, Buffer.length_slice, Buffer.length_slice]
    omega
  rw [Buffer.slice_put_inside hn, hold, sum16_append hpre', sum16_append hpre'', sum16_append hpre, sum16_append hpre]
  omega

/-- A string that does not start with zero has a sum. -/
theorem sum16_pos {a : UInt8} (ha : a ≠ 0) (bs : List UInt8) : 0 < sum16 (a :: bs) := by
  have hnat : 0 < a.toNat := by
    rw [Nat.pos_iff_ne_zero]
    exact fun h => ha (UInt8.toNat_inj.mp h)
  cases bs with
  | nil =>
    simp only [sum16]
    omega
  | cons b bs =>
    simp only [sum16]
    omega

/-- A string that does not start with zero is valid if its sum is a multiple of `0xffff`. -/
theorem cksumOk_slice_iff {m : Buffer} {a n : ℕ} (hpos : 0 < n) (ha : m a ≠ 0) (hn : n ≤ 65535) :
    CksumOk (m.slice a n) ↔ sum16 (m.slice a n) % 65535 = 0 := by
  have hle := sum16_le (m.slice a n)
  rw [Buffer.length_slice] at hle
  refine foldCarries_eq_max_iff ?_ (by omega)
  obtain ⟨k, rfl⟩ : ∃ k, n = k + 1 := ⟨n - 1, by omega⟩
  rw [Buffer.slice_succ]
  exact sum16_pos ha _

theorem sum16_slice_two (m : Buffer) (a : ℕ) : sum16 (m.slice a 2) = be16 m a := by
  simp [Buffer.slice_succ, sum16, be16]

theorem sum16_be16Bytes {n : ℕ} (h : n < 65536) : sum16 (be16Bytes n) = n := by
  simp only [be16Bytes, sum16, UInt8.toNat_ofNat']
  omega

end Dpservice
