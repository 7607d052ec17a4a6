import Mathlib.Data.Nat.Notation

/-!
# Bytes

- `forall_byte`: a statement about every byte, checked by going through them.
-/

namespace Dpservice

/-- A statement about every byte is checked by going through them. -/
theorem forall_byte {P : UInt8 → Prop} (h : ∀ n < 256, P (UInt8.ofNat n)) (c : UInt8) : P c := by
  have hc := h c.toNat c.toNat_lt
  rwa [UInt8.ofNat_toNat] at hc

end Dpservice
