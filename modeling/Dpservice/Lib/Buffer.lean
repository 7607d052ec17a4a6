import Mathlib.Tactic.Common

/-!
# Buffers that hold old data

A buffer is a map from offsets to bytes, of whose first contents nothing is known. A `Write` puts bytes at an offset. A
`Reader` is a program that reads one byte after the other; where it reads next may depend on what it has read.

- `Reader.Within S m r`: on the buffer `m`, the program `r` reads at offsets in `S` only. There is a rule for each way
  to put readers together (`within_bind`, `within_readBytes`, `within_readStr`, `within_readMany`).
- `Written ws`: the offsets that some write of `ws` has put a byte at.
-/

namespace Dpservice

abbrev Buffer := ℕ → UInt8

/-! ## Writing -/

/-- Bytes put at an offset. -/
structure Write where
  off : ℕ
  bytes : List UInt8
  deriving DecidableEq, Repr

namespace Write

/-- The write puts a byte at this offset. -/
def Covers (w : Write) (a : ℕ) : Prop := w.off ≤ a ∧ a < w.off + w.bytes.length

def apply (w : Write) (m : Buffer) : Buffer :=
  fun a => if w.off ≤ a then (w.bytes[a - w.off]?).getD (m a) else m a

variable {w : Write} {m : Buffer} {a : ℕ}

/-- A write changes nothing elsewhere. -/
theorem apply_of_not_covers (h : ¬ w.Covers a) : w.apply m a = m a := by
  unfold apply Covers at *
  split
  · rw [List.getElem?_eq_none (by omega), Option.getD_none]
  · rfl

/-- A written byte is read back. -/
theorem apply_at {i : ℕ} {b : UInt8} (h : w.bytes[i]? = some b) : w.apply m (w.off + i) = b := by
  unfold apply
  rw [if_pos (Nat.le_add_right ..), Nat.add_sub_cancel_left, h, Option.getD_some]

end Write

/-- The buffer after several writes, the first one first. -/
def writeAll (ws : List Write) (m : Buffer) : Buffer := ws.foldl (fun m w => w.apply m) m

/-- Some write has put a byte at this offset. -/
def Written (ws : List Write) (a : ℕ) : Prop := ∃ w ∈ ws, w.Covers a

section Writes

variable {ws ws' : List Write} {w : Write} {m : Buffer} {a i : ℕ} {b : UInt8}

/-- Writes one after the other. -/
theorem writeAll_append (ws ws' : List Write) (m : Buffer) : writeAll (ws ++ ws') m = writeAll ws' (writeAll ws m) :=
  List.foldl_append

theorem Written.of_mem (hw : w ∈ ws) (hl : w.off ≤ a) (hr : a < w.off + w.bytes.length) : Written ws a :=
  ⟨w, hw, hl, hr⟩

theorem Written.mono (h : Written ws a) (hsub : ∀ w ∈ ws, w ∈ ws') : Written ws' a :=
  let ⟨w, hw, hc⟩ := h
  ⟨w, hsub w hw, hc⟩

theorem written_append : Written (ws ++ ws') a ↔ Written ws a ∨ Written ws' a := by
  simp only [Written, List.mem_append, or_and_right, exists_or]

theorem written_cons : Written (w :: ws) a ↔ w.Covers a ∨ Written ws a := by
  simp only [Written, List.mem_cons, exists_eq_or_imp]

theorem not_written_nil : ¬ Written [] a := fun ⟨_, hw, _⟩ => absurd hw List.not_mem_nil

/-- What no write covers stays. -/
theorem writeAll_of_not_written (h : ¬ Written ws a) (m : Buffer) : writeAll ws m a = m a := by
  induction ws generalizing m with
  | nil => rfl
  | cons w ws ih =>
    have hw : ¬ w.Covers a := fun hc => h ⟨w, List.mem_cons_self, hc⟩
    have hws : ¬ Written ws a := fun ⟨v, hv, hc⟩ => h ⟨v, List.mem_cons_of_mem _ hv, hc⟩
    exact (ih hws (w.apply m)).trans (Write.apply_of_not_covers hw)

/-- A byte that no later write touches. -/
theorem writeAll_at (ws ws' : List Write) (hb : w.bytes[i]? = some b) (hlater : ¬ Written ws' (w.off + i))
    (m : Buffer) : writeAll (ws ++ w :: ws') m (w.off + i) = b := by
  rw [writeAll_append]
  exact (writeAll_of_not_written hlater _).trans (Write.apply_at hb)

end Writes

/-! ## Reading -/

/-- A program that reads bytes. -/
inductive Reader (α : Type) where
  | done (x : α)
  | read (a : ℕ) (next : UInt8 → Reader α)

namespace Reader

variable {α β : Type} {S : ℕ → Prop} {m m' : Buffer}

/-- The result on a buffer. -/
def run (m : Buffer) : Reader α → α
  | done x => x
  | read a next => (next (m a)).run m

def Within (S : ℕ → Prop) (m : Buffer) : Reader α → Prop
  | done _ => True
  | read a next => S a ∧ (next (m a)).Within S m

/-- One program after the other. -/
def bind : Reader α → (α → Reader β) → Reader β
  | done x, f => f x
  | read a next, f => read a fun b => (next b).bind f

instance : Monad Reader where
  pure := done
  bind := bind

@[simp] theorem within_pure (x : α) : (pure x : Reader α).Within S m ↔ True := Iff.rfl

/-- The rule for one reader after the other. -/
theorem within_bind {f : α → Reader β} : ∀ {r : Reader α},
    (r >>= f).Within S m ↔ r.Within S m ∧ (f (r.run m)).Within S m
  | done x => ⟨fun h => ⟨trivial, h⟩, And.right⟩
  | read a next => by
    change S a ∧ (next (m a) >>= f).Within S m ↔ (S a ∧ (next (m a)).Within S m) ∧ _
    rw [within_bind, and_assoc]
    rfl

def byte (a : ℕ) : Reader UInt8 := read a done

@[simp] theorem within_byte (a : ℕ) : (byte a).Within S m ↔ S a := ⟨And.left, fun h => ⟨h, trivial⟩⟩

@[simp] theorem run_byte (a : ℕ) : (byte a).run m = m a := rfl

def readBytes (a : ℕ) : ℕ → Reader (List UInt8)
  | 0 => done []
  | n + 1 => do
    let b ← byte a
    let bs ← readBytes (a + 1) n
    pure (b :: bs)

/-- All bytes that are read are in `S`. -/
theorem within_readBytes_iff (n : ℕ) : ∀ {a : ℕ}, (readBytes a n).Within S m ↔ ∀ i < n, S (a + i) := by
  induction n with
  | zero => exact fun {_} => iff_of_true trivial nofun
  | succ n ih =>
    intro a
    rw [readBytes, within_bind, within_byte, within_bind, ih, within_pure, and_true, Nat.forall_lt_succ_left]
    simp only [Nat.add_assoc, Nat.add_comm 1, Nat.add_zero]

theorem within_readBytes (n : ℕ) {a : ℕ} (h : ∀ i < n, S (a + i)) : (readBytes a n).Within S m :=
  (within_readBytes_iff n).mpr h

/-- The result of one reader after the other. -/
theorem run_bind {f : α → Reader β} : ∀ {r : Reader α}, (r >>= f).run m = (f (r.run m)).run m
  | done _ => rfl
  | read a next => by
    change (next (m a) >>= f).run m = _
    rw [run_bind]
    rfl

theorem run_readBytes (n : ℕ) : ∀ a : ℕ, (readBytes a n).run m = (List.range n).map fun i => m (a + i) := by
  induction n with
  | zero => exact fun _ => rfl
  | succ n ih =>
    intro a
    rw [readBytes, run_bind, run_byte, run_bind, ih, List.range_succ_eq_map, List.map_cons, List.map_map]
    refine congrArg (m a :: ·) (List.map_congr_left fun i _ => ?_)
    rw [Function.comp_apply, Nat.add_assoc, Nat.add_comm 1]

/-- Read a string that ends with a zero byte, or `n` bytes. -/
def readStr (a : ℕ) : ℕ → Reader (List UInt8)
  | 0 => done []
  | n + 1 => do
    let b ← byte a
    if b = 0 then pure [] else
      let bs ← readStr (a + 1) n
      pure (b :: bs)

/-- A string is read up to the first zero byte. -/
theorem within_readStr (j : ℕ) : ∀ {a n : ℕ}, m (a + j) = 0 → (∀ i ≤ j, S (a + i)) → (readStr a n).Within S m := by
  induction j with
  | zero =>
    intro a n hz h
    cases n with
    | zero => trivial
    | succ n =>
      refine within_bind.mpr ⟨(within_byte a).mpr (h 0 (Nat.le_refl 0)), ?_⟩
      rw [run_byte, if_pos (show m a = 0 from hz)]
      trivial
  | succ j ih =>
    intro a n hz h
    cases n with
    | zero => trivial
    | succ n =>
      refine within_bind.mpr ⟨(within_byte a).mpr (h 0 (Nat.zero_le _)), ?_⟩
      split
      · trivial
      · refine within_bind.mpr ⟨ih ?_ fun i hi => ?_, trivial⟩
        · rwa [Nat.add_assoc, Nat.add_comm 1]
        · rw [Nat.add_assoc, Nat.add_comm 1]
          exact h (i + 1) (Nat.succ_le_succ hi)

def readMany (f : ℕ → Reader α) : ℕ → Reader (List α)
  | 0 => done []
  | n + 1 => do
    let xs ← readMany f n
    let x ← f n
    pure (xs ++ [x])

/-- The rule for a loop of readers. -/
theorem within_readMany {f : ℕ → Reader α} (n : ℕ) (h : ∀ i < n, (f i).Within S m) : (readMany f n).Within S m := by
  induction n with
  | zero => trivial
  | succ n ih =>
    exact within_bind.mpr
      ⟨ih fun i hi => h i (Nat.lt_succ_of_lt hi), within_bind.mpr ⟨h n (Nat.lt_succ_self n), trivial⟩⟩

end Reader

end Dpservice
