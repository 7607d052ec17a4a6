import Dpservice.Lib.Checksum

/-!
# One's complement sums

The Internet checksum for strings of any length, and its incremental update.

- `onesSum` adds the words with the carry brought around (`addOnes`); a string verifies (`Verifies`) exactly if its sum
  is a multiple of `0xffff` and not zero (`verifies_iff`);
- the other byte order multiplies a word by 256 modulo `0xffff` (`le16_mod`);
- `updateCksum` replaces a word in a checksum, `updateWord` does so in memory;
- `verifies_updateWord_iff`: the updated checksum verifies, unless it has to stand for the sum of zeros.
-/

namespace Dpservice

/-! ## Sums with the carry brought around -/

/-- One's complement addition of 16-bit numbers. -/
def addOnes (a b : ℕ) : ℕ := (a + b) % 65536 + (a + b) / 65536

/-- The one's complement sum of the words of a string; a last odd byte is followed by zero. -/
def onesSum : List UInt8 → ℕ
  | [] => 0
  | [a] => a.toNat * 256
  | a :: b :: bs => addOnes (a.toNat * 256 + b.toNat) (onesSum bs)

/-- The one's complement sum of the string with its checksum is `0xffff`. -/
def Verifies (bs : List UInt8) : Prop := onesSum bs = 65535

instance (bs : List UInt8) : Decidable (Verifies bs) := inferInstanceAs (Decidable (_ = _))

theorem onesSum_le (bs : List UInt8) : onesSum bs ≤ 65535 := by
  induction bs using onesSum.induct with
  | case1 => simp [onesSum]
  | case2 a =>
    have ha := a.toNat_lt
    simp only [onesSum]
    omega
  | case3 a b bs ih =>
    have ha := a.toNat_lt
    have hb := b.toNat_lt
    simp only [onesSum, addOnes]
    omega

/-- The sum modulo 0xffff. -/
theorem onesSum_mod (bs : List UInt8) : onesSum bs % 65535 = sum16 bs % 65535 := by
  induction bs using onesSum.induct with
  | case1 => rfl
  | case2 a => rfl
  | case3 a b bs ih =>
    simp only [onesSum, sum16, addOnes]
    omega

theorem onesSum_eq_zero_iff (bs : List UInt8) : onesSum bs = 0 ↔ sum16 bs = 0 := by
  induction bs using onesSum.induct with
  | case1 => simp [onesSum, sum16]
  | case2 a => simp [onesSum, sum16]
  | case3 a b bs ih =>
    simp only [onesSum, sum16, addOnes]
    omega

/-- Numbers of 16 bits are equal if they are congruent modulo `0xffff` and both or none of them are zero. -/
theorem eq_of_mod_eq {x y : ℕ} (hx : x ≤ 65535) (hy : y ≤ 65535) (hmod : x % 65535 = y % 65535)
    (hzero : x = 0 ↔ y = 0) : x = y := by
  omega

/-- Strings whose sums differ by less than `0xffff` have different one's complement sums. -/
theorem onesSum_eq_iff {bs cs : List UInt8} {s b c : ℕ} (hbs : sum16 bs = s + b) (hcs : sum16 cs = s + c)
    (hb : b < 65535) (hc : c < 65535) : onesSum bs = onesSum cs ↔ b = c := by
  have hmod := onesSum_mod bs
  have hmod' := onesSum_mod cs
  constructor
  · intro heq
    omega
  · rintro rfl
    refine eq_of_mod_eq (onesSum_le bs) (onesSum_le cs) (by omega) ?_
    rw [onesSum_eq_zero_iff, onesSum_eq_zero_iff, hbs, hcs]

/-- A string verifies if its sum is a positive multiple of `0xffff`. -/
theorem verifies_iff (bs : List UInt8) : Verifies bs ↔ sum16 bs ≠ 0 ∧ sum16 bs % 65535 = 0 := by
  have hle := onesSum_le bs
  have hmod := onesSum_mod bs
  have hzero := onesSum_eq_zero_iff bs
  unfold Verifies
  omega

theorem sum16_eq_zero_iff (bs : List UInt8) : sum16 bs = 0 ↔ ∀ b ∈ bs, b = 0 := by
  have hnat : ∀ b : UInt8, b.toNat = 0 ↔ b = 0 := fun b => UInt8.toNat_inj (b := 0)
  induction bs using sum16.induct with
  | case1 => simp [sum16]
  | case2 a => simp [sum16, hnat]
  | case3 a b bs ih =>
    simp only [sum16, Nat.add_eq_zero_iff, Nat.mul_eq_zero, hnat, ih, List.forall_mem_cons, and_assoc]
    simp

/-- The sum of a string in memory is zero exactly if all its bytes are. -/
theorem sum16_slice_eq_zero_iff (m : Buffer) (a n : ℕ) : sum16 (m.slice a n) = 0 ↔ ∀ j < n, m (a + j) = 0 := by
  rw [sum16_eq_zero_iff]
  simp [Buffer.slice]

/-- A byte behind an odd number of bytes is the second byte of a word. -/
theorem sum16_concat_odd : ∀ {bs : List UInt8} (b : UInt8), bs.length % 2 = 1 → sum16 (bs ++ [b]) = sum16 bs + b.toNat
  | [], _, h => by simp at h
  | [a], b, _ => by simp [sum16]
  | a :: a' :: bs, b, h => by
    have hodd : bs.length % 2 = 1 := by
      simp only [List.length_cons] at h
      omega
    simp only [List.cons_append, sum16, sum16_concat_odd b hodd]
    omega

/-! ## The other byte order -/

section ByteOrder

variable {m m' : Buffer} {a i n v : ℕ} {w : List UInt8}

/-- Exchanging the bytes of a word multiplies it by 256. -/
theorem le16_mod (m : Buffer) (a : ℕ) : le16 m a % 65535 = 256 * be16 m a % 65535 := by
  unfold le16 be16
  omega

theorem le16_eq_zero_iff (m : Buffer) (a : ℕ) : le16 m a = 0 ↔ be16 m a = 0 := by
  unfold le16 be16
  omega

theorem le16_eq_max_iff (m : Buffer) (a : ℕ) : le16 m a = 65535 ↔ be16 m a = 65535 := by
  have h₁ := (m a).toNat_lt
  have h₂ := (m (a + 1)).toNat_lt
  unfold le16 be16
  omega

/-! ## Incremental update -/

/-- The checksum after a word was replaced, computed with two carries at most. -/
def updateCksum (cksum old new : ℕ) : ℕ :=
  let sum := (65535 - cksum) + (65535 - old) + new
  let sum := sum % 65536 + sum / 65536
  let sum := sum % 65536 + sum / 65536
  65535 - sum

/-- The word at `i` replaced, and the checksum at 2 updated for it. -/
def updateWord (m : Buffer) (a i : ℕ) (w : List UInt8) : Buffer :=
  let m' := m.put (a + i) w
  m'.put (a + 2) (le16Bytes (updateCksum (le16 m (a + 2)) (le16 m (a + i)) (le16 m' (a + i))))

theorem updateCksum_le (cksum old new : ℕ) : updateCksum cksum old new ≤ 65535 := Nat.sub_le _ _

/-- The update makes up for the changed word. -/
theorem updateCksum_mod {cksum old new : ℕ} (hc : cksum ≤ 65535) (ho : old ≤ 65535) (hn : new ≤ 65535) :
    (updateCksum cksum old new + new) % 65535 = (cksum + old) % 65535 := by
  unfold updateCksum
  dsimp only
  omega

/-- Words that add up to zero are replaced by zero: the new checksum is the other zero only if both words were. -/
theorem updateCksum_eq_zero_iff {cksum old : ℕ} (hc : cksum ≤ 65535) (ho : old ≤ 65535)
    (hmod : (cksum + old) % 65535 = 0) :
    updateCksum cksum old 0 = 0 ↔ ¬(cksum = 65535 ∧ old = 65535) := by
  unfold updateCksum
  dsimp only
  omega

/-- The words at 2 and `i` of a string blanked out. -/
def blankWords (m : Buffer) (a i : ℕ) : Buffer := (m.put (a + i) [0, 0]).put (a + 2) [0, 0]

theorem put_zeros (m : Buffer) (a b : ℕ) : m.put a [0, 0] b = if b = a ∨ b = a + 1 then 0 else m b := by
  by_cases h₀ : b = a
  · rw [h₀, Buffer.put_head, if_pos (.inl rfl)]
  · by_cases h₁ : b = a + 1
    · rw [h₁, if_pos (.inr rfl)]
      exact Buffer.put_inside (i := 1) (by simp)
    · rw [if_neg (by omega), Buffer.put_outside (by simp only [List.length_cons, List.length_nil]; omega)]

theorem blankWords_apply (m : Buffer) (a i j : ℕ) :
    blankWords m a i (a + j) = if j = 2 ∨ j = 3 ∨ j = i ∨ j = i + 1 then 0 else m (a + j) := by
  rw [blankWords, put_zeros, put_zeros]
  split_ifs <;> first | rfl | omega

/-- A string is what is left without the two words, and these. -/
theorem sum16_blankWords (m : Buffer) (ha : i % 2 = 0) (hi : i = 0 ∨ 4 ≤ i) (hn : i + 2 ≤ n) (hn' : 4 ≤ n) :
    sum16 (m.slice a n) = sum16 ((blankWords m a i).slice a n) + be16 m (a + 2) + be16 m (a + i) := by
  have h₁ : sum16 ((m.put (a + i) [0, 0]).slice a n) + sum16 (m.slice (a + i) 2) = sum16 (m.slice a n) + 0 :=
    sum16_put m a [0, 0] ha rfl hn
  have h₂ : sum16 ((blankWords m a i).slice a n) + sum16 ((m.put (a + i) [0, 0]).slice (a + 2) 2) =
      sum16 ((m.put (a + i) [0, 0]).slice a n) + 0 :=
    sum16_put (m.put (a + i) [0, 0]) a [0, 0] (i := 2) rfl rfl hn'
  have hkeep : (m.put (a + i) [0, 0]).slice (a + 2) 2 = m.slice (a + 2) 2 :=
    Buffer.slice_put_outside (by simp only [List.length_cons, List.length_nil]; omega)
  rw [hkeep, sum16_slice_two] at h₂
  rw [sum16_slice_two] at h₁
  omega

theorem sum16_blankWords_ne_zero_iff (m : Buffer) (a i n : ℕ) : sum16 ((blankWords m a i).slice a n) ≠ 0 ↔
    ∃ j < n, ¬(j = 2 ∨ j = 3 ∨ j = i ∨ j = i + 1) ∧ m (a + j) ≠ 0 := by
  rw [Ne, sum16_slice_eq_zero_iff, not_forall]
  refine exists_congr fun j => ?_
  rw [blankWords_apply, Classical.not_imp]
  refine and_congr_right fun _ => ?_
  split_ifs with h
  · exact iff_of_false (fun hne => hne rfl) fun hj => hj.1 h
  · exact (and_iff_right h).symm

theorem blankWords_updateWord (hw : w.length = 2) : blankWords (updateWord m a i w) a i = blankWords m a i := by
  funext b
  unfold blankWords updateWord
  simp only [put_zeros]
  split_ifs with h₁ h₂
  · rfl
  · rfl
  · rw [Buffer.put_outside (by rw [length_le16Bytes]; omega),
      Buffer.put_outside (by omega)]

/-- **Incremental update**: the checksum of a string that verified verifies again, unless what has become zero has to
have the sum `0xffff`. -/
theorem verifies_updateWord_iff (hw : w.length = 2) (ha : i % 2 = 0) (hi : i = 0 ∨ 4 ≤ i) (hn : i + 2 ≤ n) (hn' : 4 ≤ n)
    (hok : Verifies (m.slice a n)) :
    Verifies ((updateWord m a i w).slice a n) ↔
      (∃ j < n, ¬(j = 2 ∨ j = 3 ∨ j = i ∨ j = i + 1) ∧ m (a + j) ≠ 0) ∨ sum16 w ≠ 0 ∨
        (be16 m (a + 2) = 65535 ∧ be16 m (a + i) = 65535) := by
  obtain ⟨hpos, hmod⟩ := (verifies_iff _).mp hok
  set m' := m.put (a + i) w with hm'
  set c := updateCksum (le16 m (a + 2)) (le16 m (a + i)) (le16 m' (a + i)) with hc
  have hupd : updateWord m a i w = m'.put (a + 2) (le16Bytes c) := rfl
  have hold := sum16_blankWords m ha hi hn hn' (a := a)
  have hnew := sum16_blankWords (updateWord m a i w) ha hi hn hn' (a := a)
  rw [blankWords_updateWord hw] at hnew
  set rest := sum16 ((blankWords m a i).slice a n) with hrest
  have hword : be16 (updateWord m a i w) (a + i) = be16 m' (a + i) := by
    rw [hupd, be16_put_outside (by rw [length_le16Bytes]; omega)]
  have hsum : be16 m' (a + i) = sum16 w := by rw [← sum16_slice_two, hm', Buffer.slice_put hw]
  have hcksum : le16 (updateWord m a i w) (a + 2) = c := by rw [hupd, le16_put (updateCksum_le _ _ _)]
  rw [verifies_iff, ← sum16_blankWords_ne_zero_iff, ← hrest, ← hsum]
  rw [hword] at hnew
  -- modulo 0xffff the words balance
  have hbal := updateCksum_mod (le16_le m (a + 2)) (le16_le m (a + i)) (le16_le m' (a + i))
  rw [← hc, ← hcksum] at hbal
  have hmod' : sum16 ((updateWord m a i w).slice a n) % 65535 = 0 := by
    have h₁ := le16_mod m (a + 2)
    have h₂ := le16_mod m (a + i)
    have h₃ := le16_mod m' (a + i)
    have h₄ := le16_mod (updateWord m a i w) (a + 2)
    omega
  refine (and_iff_left hmod').trans ?_
  by_cases hr : rest = 0
  · by_cases hw0 : be16 m' (a + i) = 0
    · have hz : le16 m' (a + i) = 0 := (le16_eq_zero_iff m' (a + i)).mpr hw0
      rw [hz] at hc
      have hiff := updateCksum_eq_zero_iff (le16_le m (a + 2)) (le16_le m (a + i)) (by
        have h₁ := le16_mod m (a + 2)
        have h₂ := le16_mod m (a + i)
        omega)
      rw [← hc, ← hcksum, le16_eq_zero_iff, le16_eq_max_iff, le16_eq_max_iff] at hiff
      omega
    · omega
  · omega

end ByteOrder

end Dpservice
