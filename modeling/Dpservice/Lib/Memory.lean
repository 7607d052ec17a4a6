import Dpservice.Lib.Buffer
import Mathlib.Algebra.Group.Nat.Defs
import Mathlib.Tactic.Ring

/-!
# Fields in memory

Byte strings and big-endian numbers at offsets of a buffer.

- `Buffer.put m a bs` stores bytes, `Buffer.slice m a n` reads them back; a store does not touch what it does not cover
  (`put_outside`, `slice_put_outside`), and a string read back around a store is cut in three (`slice_put_inside`);
- `store`, `storeAll` are the writes of strings one after the other, which can then be read as one (`slice_storeAll`);
- `be16`, `be32` read numbers in network order, `be16Bytes`, `be32Bytes` are what has to be stored for them; `le16`,
  `le16Bytes` are the same in the other order;
- `Reader.be16`, `Reader.le16` are programs that read numbers.
-/

namespace Dpservice

namespace Buffer

variable {m m' : Buffer} {a b i k n : ℕ} {bs : List UInt8}

/-- The buffer with bytes stored at an offset. -/
def put (m : Buffer) (a : ℕ) (bs : List UInt8) : Buffer := (Write.mk a bs).apply m

/-- The bytes at an offset. -/
def slice (m : Buffer) (a n : ℕ) : List UInt8 := (List.range n).map fun i => m (a + i)

/-- A store changes nothing elsewhere. -/
theorem put_outside (h : b < a ∨ a + bs.length ≤ b) : m.put a bs b = m b :=
  Write.apply_of_not_covers fun ⟨hl, hr⟩ => by simp only at hl hr; omega

/-- A stored byte is read back. -/
theorem put_inside (hi : i < bs.length) : m.put a bs (a + i) = bs[i] :=
  Write.apply_at (List.getElem?_eq_getElem hi)

/-- A byte after a store, by cases. -/
theorem put_apply (m : Buffer) (a : ℕ) (bs : List UInt8) (b : ℕ) :
    m.put a bs b = if a ≤ b ∧ b < a + bs.length then (bs[b - a]?).getD 0 else m b := by
  split
  next h =>
    obtain ⟨i, rfl⟩ : ∃ i, b = a + i := ⟨b - a, by omega⟩
    have hi : i < bs.length := by omega
    rw [put_inside hi, Nat.add_sub_cancel_left, List.getElem?_eq_getElem hi, Option.getD_some]
  next h => exact put_outside (by omega)

@[simp] theorem put_head (m : Buffer) (a : ℕ) (x : UInt8) (bs : List UInt8) : m.put a (x :: bs) a = x :=
  Write.apply_at (w := ⟨a, x :: bs⟩) (i := 0) rfl

@[simp] theorem length_slice (m : Buffer) (a n : ℕ) : (m.slice a n).length = n := by simp [slice]

@[simp] theorem getElem_slice (m : Buffer) (a n i : ℕ) (h : i < (m.slice a n).length) :
    (m.slice a n)[i] = m (a + i) := by
  simp [slice]

@[simp] theorem slice_zero (m : Buffer) (a : ℕ) : m.slice a 0 = [] := rfl

/-- A slice and its first byte. -/
theorem slice_succ (m : Buffer) (a n : ℕ) : m.slice a (n + 1) = m a :: m.slice (a + 1) n := by
  refine List.ext_getElem (by simp) fun i h₁ h₂ => ?_
  cases i with
  | zero => simp
  | succ i => simp [Nat.add_assoc, Nat.add_comm 1]

/-- Slices of the same bytes. -/
theorem slice_congr (h : ∀ i < n, m (a + i) = m' (b + i)) : m.slice a n = m'.slice b n :=
  List.map_congr_left fun i hi => h i (List.mem_range.mp hi)

/-- A string is its first part and the rest. -/
theorem slice_add (m : Buffer) (a k n : ℕ) : m.slice a (k + n) = m.slice a k ++ m.slice (a + k) n := by
  refine List.ext_getElem (by simp) fun i h₁ h₂ => ?_
  rw [getElem_slice]
  by_cases hi : i < k
  · rw [List.getElem_append_left (by simpa using hi), getElem_slice]
  · rw [List.getElem_append_right (by simpa using hi), getElem_slice, length_slice]
    congr 1
    omega

/-- The beginning of a slice. -/
theorem take_slice (h : k ≤ n) : (m.slice a n).take k = m.slice a k := by
  obtain ⟨j, rfl⟩ : ∃ j, n = k + j := ⟨n - k, by omega⟩
  rw [slice_add, List.take_left' (length_slice m a k)]

/-- The rest of a slice. -/
theorem drop_slice (m : Buffer) (a n k : ℕ) : (m.slice a n).drop k = m.slice (a + k) (n - k) := by
  refine List.ext_getElem (by simp) fun i h₁ h₂ => ?_
  rw [List.getElem_drop, getElem_slice, getElem_slice, Nat.add_assoc]

/-- A store elsewhere leaves a slice alone. -/
theorem slice_put_outside (h : a + n ≤ b ∨ b + bs.length ≤ a) : (m.put b bs).slice a n = m.slice a n :=
  slice_congr fun i hi => put_outside (by omega)

/-- What was stored is read back. -/
theorem slice_put (h : bs.length = n) : (m.put a bs).slice a n = bs := by
  refine List.ext_getElem (by simp [h]) fun i h₁ h₂ => ?_
  rw [getElem_slice, put_inside h₂]

/-- A string around a store. -/
theorem slice_put_inside (h : i + bs.length ≤ n) :
    (m.put (a + i) bs).slice a n = m.slice a i ++ bs ++ m.slice (a + i + bs.length) (n - i - bs.length) := by
  obtain ⟨k, rfl⟩ : ∃ k, n = i + bs.length + k := ⟨n - i - bs.length, by omega⟩
  rw [slice_add, slice_add, slice_put_outside (by omega), slice_put rfl, slice_put_outside (by omega)]
  congr 2
  · omega
  · omega

end Buffer

/-! ## Strings one after the other -/

section Store

variable {m : Buffer} {a p : ℕ}

/-- A string copied to an offset; nothing happens for no bytes. -/
def store (p : ℕ) (bs : List UInt8) : List Write := if bs = [] then [] else [⟨p, bs⟩]

/-- Strings copied one behind the other. -/
def storeAll (p : ℕ) : List (List UInt8) → List Write
  | [] => []
  | bs :: bss => store p bs ++ storeAll (p + bs.length) bss

/-- A list of writes that stores a string. -/
theorem writeAll_store (m : Buffer) (p : ℕ) (bs : List UInt8) : writeAll (store p bs) m = m.put p bs := by
  unfold store
  split
  next h =>
    subst h
    funext b
    exact (Buffer.put_outside (by rw [List.length_nil]; omega)).symm
  next => rfl

theorem written_store {bs : List UInt8} : Written (store p bs) a ↔ p ≤ a ∧ a < p + bs.length := by
  unfold store
  split
  next h =>
    subst h
    exact iff_of_false not_written_nil fun h => by simp only [List.length_nil] at h; omega
  next =>
    rw [written_cons]
    exact or_iff_left not_written_nil

/-- Strings that are stored one behind the other. -/
theorem written_storeAll (bss : List (List UInt8)) : ∀ {p : ℕ},
    Written (storeAll p bss) a ↔ p ≤ a ∧ a < p + bss.flatten.length := by
  induction bss with
  | nil =>
    intro p
    exact iff_of_false not_written_nil fun h => by simp only [List.flatten_nil, List.length_nil] at h; omega
  | cons bs bss ih =>
    intro p
    rw [storeAll, written_append, written_store, ih, List.flatten_cons, List.length_append]
    omega

/-- The strings are read back as one. -/
theorem slice_storeAll (bss : List (List UInt8)) : ∀ (m : Buffer) (p : ℕ),
    (writeAll (storeAll p bss) m).slice p bss.flatten.length = bss.flatten := by
  induction bss with
  | nil => exact fun _ _ => rfl
  | cons bs bss ih =>
    intro m p
    rw [storeAll, writeAll_append, writeAll_store, List.flatten_cons, List.length_append, Buffer.slice_add, ih]
    congr 1
    calc (writeAll (storeAll (p + bs.length) bss) (m.put p bs)).slice p bs.length
        = (m.put p bs).slice p bs.length := Buffer.slice_congr fun i hi =>
          writeAll_of_not_written (fun h => by have := (written_storeAll bss).mp h; omega) _
      _ = bs := Buffer.slice_put rfl

end Store

/-! ## Numbers in network order -/

section BigEndian

variable {m : Buffer} {a b n : ℕ} {bs : List UInt8}

/-- The two-byte number at an offset. -/
def be16 (m : Buffer) (a : ℕ) : ℕ := (m a).toNat * 256 + (m (a + 1)).toNat

/-- The four-byte number at an offset. -/
def be32 (m : Buffer) (a : ℕ) : ℕ := be16 m a * 65536 + be16 m (a + 2)

/-- A two-byte number in network order. -/
def be16Bytes (n : ℕ) : List UInt8 := [UInt8.ofNat (n / 256), UInt8.ofNat n]

/-- A four-byte number in network order. -/
def be32Bytes (n : ℕ) : List UInt8 := be16Bytes (n / 65536) ++ be16Bytes n

@[simp] theorem length_be16Bytes (n : ℕ) : (be16Bytes n).length = 2 := rfl

@[simp] theorem length_be32Bytes (n : ℕ) : (be32Bytes n).length = 4 := rfl

theorem be16_lt (m : Buffer) (a : ℕ) : be16 m a < 65536 := by
  have h₁ := (m a).toNat_lt
  have h₂ := (m (a + 1)).toNat_lt
  unfold be16
  omega

theorem be16_congr {m' : Buffer} (h₁ : m a = m' b) (h₂ : m (a + 1) = m' (b + 1)) : be16 m a = be16 m' b := by
  unfold be16
  rw [h₁, h₂]

/-- A number elsewhere stays. -/
theorem be16_put_outside (h : a + 2 ≤ b ∨ b + bs.length ≤ a) : be16 (m.put b bs) a = be16 m a :=
  be16_congr (Buffer.put_outside (by omega)) (Buffer.put_outside (by omega))

/-- A number that was stored is read back. -/
theorem be16_put (h : n < 65536) : be16 (m.put a (be16Bytes n)) a = n := by
  have h₁ : m.put a (be16Bytes n) a = UInt8.ofNat (n / 256) := Buffer.put_head ..
  have h₂ : m.put a (be16Bytes n) (a + 1) = UInt8.ofNat n := Write.apply_at (w := ⟨a, be16Bytes n⟩) (i := 1) rfl
  unfold be16
  rw [h₁, h₂, UInt8.toNat_ofNat', UInt8.toNat_ofNat']
  omega

end BigEndian

/-! ## Numbers with the low byte first -/

section LittleEndian

variable {m : Buffer} {a v : ℕ}

/-- The two-byte number at an offset, with its low byte first. -/
def le16 (m : Buffer) (a : ℕ) : ℕ := (m a).toNat + 256 * (m (a + 1)).toNat

/-- A two-byte number with its low byte first. -/
def le16Bytes (n : ℕ) : List UInt8 := [UInt8.ofNat n, UInt8.ofNat (n / 256)]

@[simp] theorem length_le16Bytes (n : ℕ) : (le16Bytes n).length = 2 := rfl

theorem le16_le (m : Buffer) (a : ℕ) : le16 m a ≤ 65535 := by
  have h₁ := (m a).toNat_lt
  have h₂ := (m (a + 1)).toNat_lt
  unfold le16
  omega

/-- A stored number is read back. -/
theorem le16_put (h : v ≤ 65535) : le16 (m.put a (le16Bytes v)) a = v := by
  have h₁ : m.put a (le16Bytes v) a = UInt8.ofNat v := Buffer.put_head ..
  have h₂ : m.put a (le16Bytes v) (a + 1) = UInt8.ofNat (v / 256) := Write.apply_at (w := ⟨a, le16Bytes v⟩) (i := 1) rfl
  unfold le16
  rw [h₁, h₂, UInt8.toNat_ofNat', UInt8.toNat_ofNat']
  omega

end LittleEndian

/-! ## Programs that read numbers -/

namespace Reader

variable {S : ℕ → Prop} {m : Buffer} {a : ℕ}

/-- Read a two-byte number in network order. -/
def be16 (a : ℕ) : Reader ℕ := do
  let high ← byte a
  let low ← byte (a + 1)
  pure (high.toNat * 256 + low.toNat)

/-- Read a two-byte number with its low byte first. -/
def le16 (a : ℕ) : Reader ℕ := do
  let low ← byte a
  let high ← byte (a + 1)
  pure (low.toNat + 256 * high.toNat)

@[simp] theorem run_be16 : (be16 a).run m = Dpservice.be16 m a := rfl

@[simp] theorem run_le16 : (le16 a).run m = Dpservice.le16 m a := rfl

@[simp] theorem within_be16 : (be16 a).Within S m ↔ S a ∧ S (a + 1) := by
  unfold be16
  rw [within_bind, within_bind, within_byte, within_byte, within_pure, and_true]

@[simp] theorem within_le16 : (le16 a).Within S m ↔ S a ∧ S (a + 1) := by
  unfold le16
  rw [within_bind, within_bind, within_byte, within_byte, within_pure, and_true]

end Reader

end Dpservice
