import Dpservice.Lib.Table

/-!
# Longest-prefix-match tables

A routing table over `w`-bit addresses maps a masked address and a depth to a value. `Rib.lookup` returns the entry of
the greatest depth that covers an address; what it returns is an entry of the table (`lookup_entry`), and no deeper
entry covers the address (`lookupFrom_entry`).
-/

namespace Dpservice

/-- `ip` with all but its first `depth` bits cleared. -/
def ribMask {w : ℕ} (depth : ℕ) (ip : BitVec w) : BitVec w := ip &&& (BitVec.allOnes w <<< (w - depth))

/-- A routing table: masked address and depth to value. -/
abbrev Rib (w : ℕ) (R : Type*) := Table (BitVec w × ℕ) R

namespace Rib

variable {w : ℕ} {R : Type*}

/-- The entry of exactly this prefix and depth. -/
def lookupExact (rib : Rib w R) (ip : BitVec w) (depth : ℕ) : Option R :=
  if depth ≤ w then rib (ribMask depth ip, depth) else none

/-- The table with an entry for this prefix and depth. -/
def insert (rib : Rib w R) (ip : BitVec w) (depth : ℕ) (r : R) : Rib w R := Table.add rib (ribMask depth ip, depth) r

/-- The table without an entry for this prefix and depth. -/
def remove (rib : Rib w R) (ip : BitVec w) (depth : ℕ) : Rib w R := Table.del rib (ribMask depth ip, depth)

/-- The deepest entry that covers `ip`, searched from depth `d` downwards; the prefix is returned with the value. -/
def lookupFrom (rib : Rib w R) (ip : BitVec w) : ℕ → Option (BitVec w × R)
  | 0 => (rib (ribMask 0 ip, 0)).map fun r => (ribMask 0 ip, r)
  | d + 1 => match rib (ribMask (d + 1) ip, d + 1) with
    | some r => some (ribMask (d + 1) ip, r)
    | none => lookupFrom rib ip d

/-- The longest match for `ip`. -/
def lookup (rib : Rib w R) (ip : BitVec w) : Option (BitVec w × R) := rib.lookupFrom ip w

theorem lookupExact_of_le {depth : ℕ} (h : depth ≤ w) (rib : Rib w R) (ip : BitVec w) :
    rib.lookupExact ip depth = rib (ribMask depth ip, depth) := if_pos h

theorem le_of_lookupExact {rib : Rib w R} {ip : BitVec w} {depth : ℕ} {r : R}
    (h : rib.lookupExact ip depth = some r) : depth ≤ w := by
  unfold lookupExact at h
  split at h
  · assumption
  · cases h

/-- The longest match is an entry, and no longer one matches. -/
theorem lookupFrom_entry {rib : Rib w R} {ip p : BitVec w} {r : R} :
    ∀ {d : ℕ}, rib.lookupFrom ip d = some (p, r) →
      ∃ k ≤ d, p = ribMask k ip ∧ rib (p, k) = some r ∧ ∀ j ≤ d, k < j → rib (ribMask j ip, j) = none
  | 0, h => by
    simp only [lookupFrom, Option.map_eq_some_iff, Prod.mk.injEq] at h
    obtain ⟨r', hr, rfl, rfl⟩ := h
    exact ⟨0, Nat.le_refl _, rfl, hr, fun j hj hk => by omega⟩
  | d + 1, h => by
    unfold lookupFrom at h
    cases hd : rib (ribMask (d + 1) ip, d + 1) with
    | some r' =>
      simp only [hd, Option.some.injEq, Prod.mk.injEq] at h
      obtain ⟨rfl, rfl⟩ := h
      exact ⟨d + 1, Nat.le_refl _, rfl, hd, fun j hj hk => by omega⟩
    | none =>
      simp only [hd] at h
      obtain ⟨k, hk, hp, hr, hmax⟩ := lookupFrom_entry h
      refine ⟨k, by omega, hp, hr, fun j hj hkj => ?_⟩
      rcases Nat.lt_or_ge j (d + 1) with hlt | hge
      · exact hmax j (by omega) hkj
      · obtain rfl : j = d + 1 := by omega
        exact hd

/-- A match is an entry of the table. -/
theorem lookup_entry {rib : Rib w R} {ip p : BitVec w} {r : R} (h : rib.lookup ip = some (p, r)) :
    ∃ k ≤ w, p = ribMask k ip ∧ rib (p, k) = some r := by
  obtain ⟨k, hk, hp, hr, -⟩ := lookupFrom_entry h
  exact ⟨k, hk, hp, hr⟩

end Rib

end Dpservice
