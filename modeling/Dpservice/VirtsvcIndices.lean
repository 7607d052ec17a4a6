import Dpservice.VirtsvcLookup
import Mathlib.Data.Nat.Log

/-!
# Virtual services: counters and indices

Two functions of the virtual services once more, with the integers that the program computes with.

- `dpVirtsvcGetFreePort16`: the search for a slot with 16-bit counters, over an array that has an end. It comes to what
  `dpVirtsvcGetFreePort` says (`dpVirtsvcGetFreePort16_eq`); `virtsvc_free_port` says what that is.
- `dpVirtsvcArrayToTreeInt`: the recursion on signed indices. It makes the tree that `dpVirtsvcArrayToTree` is
  (`dpVirtsvcArrayToTreeInt_eq`), which is as low as it can be (`height_arrayToTree`); `balanced_tree` puts them
  together.
-/

namespace Dpservice

/-! ## The search for a slot -/

/-- What a search comes to; `outside` is an access behind the array. -/
inductive PortScan where
  | running | outside | exhausted
  | found (port : UInt16)
  deriving DecidableEq, Repr

/-- One of the loops of `dp_virtsvc_get_free_port`, for at most `fuel` turns. -/
def scanPorts (cf : Conf) (conns : Slot → VirtsvcConn) (tsc : UInt64) (goesOn : UInt16 → Bool) : ℕ → UInt16 → PortScan
  | 0, _ => .running
  | fuel + 1, port =>
    if !goesOn port then .exhausted
    else if h : port.toNat < virtsvcPortcount then
      if dpVirtsvcIsConnectionOld cf (conns ⟨port.toNat, h⟩) tsc then .found port
      else scanPorts cf conns tsc goesOn fuel (port + 1)
    else .outside

/-- `dp_virtsvc_get_free_port`: what it returns, and `last_assigned_port` afterwards. -/
def dpVirtsvcGetFreePort16 (cf : Conf) (conns : Slot → VirtsvcConn) (tsc : UInt64) (fuel : ℕ)
    (lastAssignedPort : UInt16) : PortScan × UInt16 :=
  match scanPorts cf conns tsc (fun port => port.toNat < virtsvcPortcount) fuel (lastAssignedPort + 1) with
  | .found port => (.found port, port)
  | .exhausted =>
    match scanPorts cf conns tsc (fun port => port ≤ lastAssignedPort) fuel 0 with
    | .found port => (.found port, port)
    | r => (r, lastAssignedPort)
  | r => (r, lastAssignedPort)

def SlotOld (cf : Conf) (conns : Slot → VirtsvcConn) (tsc : UInt64) (k : ℕ) : Prop :=
  ∃ h : k < virtsvcPortcount, dpVirtsvcIsConnectionOld cf (conns ⟨k, h⟩) tsc = true

section FreePort

variable {cf : Conf} {conns : Slot → VirtsvcConn} {tsc : UInt64} {goesOn : UInt16 → Bool} {count start stop fuel : ℕ}
  {port last : UInt16} {i : Slot}

theorem firstOld_some (h : firstOld cf conns tsc count start = some i) :
    start ≤ i.val ∧ i.val < start + count ∧ SlotOld cf conns tsc i ∧
      ∀ j, start ≤ j → j < i.val → ¬SlotOld cf conns tsc j := by
  induction count generalizing start with
  | zero => cases h
  | succ count ih =>
    unfold firstOld at h
    split at h
    next hlt =>
      split at h
      next hold =>
        cases h
        exact ⟨le_rfl, by simp, ⟨hlt, hold⟩, fun j hj hi => absurd hi (by simpa using hj)⟩
      next hold =>
        obtain ⟨hle, hend, hi, hno⟩ := ih h
        refine ⟨by omega, by omega, hi, fun j hj hji => ?_⟩
        rcases Nat.eq_or_lt_of_le hj with rfl | hj
        · exact fun hj => hold hj.2
        · exact hno j hj hji
    · cases h

theorem firstOld_none (h : firstOld cf conns tsc count start = none) {j : ℕ} (hj : start ≤ j)
    (hj' : j < start + count) : ¬SlotOld cf conns tsc j := by
  induction count generalizing start with
  | zero => omega
  | succ count ih =>
    unfold firstOld at h
    split at h
    next hlt =>
      split at h
      · cases h
      next hold =>
        rcases Nat.eq_or_lt_of_le hj with rfl | hj
        · exact fun hj => hold hj.2
        · exact ih h hj (by omega)
    next hlt => exact fun hold => hlt (by have := hold.1; omega)

/-- A loop up to `stop` does not leave the array, does not wrap, and comes to an end. -/
theorem scanPorts_eq (hgo : ∀ port, goesOn port = decide (port.toNat < stop)) (hstop : stop ≤ virtsvcPortcount)
    (hcount : port.toNat + count = stop) (hfuel : count < fuel) :
    scanPorts cf conns tsc goesOn fuel port =
      match firstOld cf conns tsc count port.toNat with
      | some i => .found (UInt16.ofNat i)
      | none => .exhausted := by
  induction count generalizing port fuel with
  | zero =>
    obtain ⟨fuel, rfl⟩ : ∃ n, fuel = n + 1 := ⟨fuel - 1, by omega⟩
    have hend : goesOn port = false := by
      rw [hgo]
      exact decide_eq_false (by omega)
    rw [scanPorts, hend]
    rfl
  | succ count ih =>
    obtain ⟨fuel, rfl⟩ : ∃ n, fuel = n + 1 := ⟨fuel - 1, by omega⟩
    have hgoes : goesOn port = true := by
      rw [hgo]
      exact decide_eq_true (by omega)
    have hlt : port.toNat < virtsvcPortcount := by omega
    have hnext : (port + 1).toNat = port.toNat + 1 := by
      rw [UInt16.toNat_add, UInt16.toNat_one, Nat.mod_eq_of_lt (by simp only [virtsvcPortcount] at hlt; omega)]
    rw [scanPorts, firstOld, hgoes, dif_pos hlt, dif_pos hlt]
    simp only [Bool.not_true, Bool.false_eq_true, if_false]
    by_cases hold : dpVirtsvcIsConnectionOld cf (conns ⟨port.toNat, hlt⟩) tsc = true
    · rw [if_pos hold, if_pos hold]
      simp
    · rw [if_neg hold, if_neg hold, ih (by omega) (by omega), hnext]

/-- **The search with 16-bit counters is the search over slots.** -/
theorem dpVirtsvcGetFreePort16_eq (cf : Conf) (tsc : UInt64) (s : Virtsvc) (hlast : last.toNat = s.lastAssignedPort.val)
    (hfuel : virtsvcPortcount < fuel) :
    dpVirtsvcGetFreePort16 cf s.connections tsc fuel last =
      match dpVirtsvcGetFreePort cf s tsc with
      | some i => (.found (UInt16.ofNat i), UInt16.ofNat i)
      | none => (.exhausted, last) := by
  have hlt := s.lastAssignedPort.isLt
  have hnext : (last + 1).toNat = s.lastAssignedPort.val + 1 := by
    rw [UInt16.toNat_add, UInt16.toNat_one, hlast, Nat.mod_eq_of_lt (by simp only [virtsvcPortcount] at hlt; omega)]
  have hfirst : scanPorts cf s.connections tsc (fun port => port.toNat < virtsvcPortcount) fuel (last + 1) =
      match firstOld cf s.connections tsc (virtsvcPortcount - (s.lastAssignedPort.val + 1)) (last + 1).toNat with
      | some i => .found (UInt16.ofNat i)
      | none => .exhausted :=
    scanPorts_eq (fun _ => rfl) le_rfl (by omega) (by omega)
  have hsecond : scanPorts cf s.connections tsc (fun port => port ≤ last) fuel 0 =
      match firstOld cf s.connections tsc (s.lastAssignedPort.val + 1) (0 : UInt16).toNat with
      | some i => .found (UInt16.ofNat i)
      | none => .exhausted := by
    refine scanPorts_eq (fun port => ?_) hlt (Nat.zero_add _) (by omega)
    exact decide_eq_decide.mpr (by rw [← hlast, UInt16.le_iff_toNat_le, Nat.lt_succ_iff])
  rw [hnext] at hfirst
  rw [UInt16.toNat_zero] at hsecond
  unfold dpVirtsvcGetFreePort16 dpVirtsvcGetFreePort
  rw [hfirst, hsecond]
  dsimp only
  cases firstOld cf s.connections tsc (virtsvcPortcount - (s.lastAssignedPort.val + 1))
    (s.lastAssignedPort.val + 1) with
  | some i => rfl
  | none => cases firstOld cf s.connections tsc (s.lastAssignedPort.val + 1) 0 <;> rfl

/-- What the search finds, in the cyclic order of the slots. -/
theorem dpVirtsvcGetFreePort_some {s : Virtsvc} (h : dpVirtsvcGetFreePort cf s tsc = some i) :
    SlotOld cf s.connections tsc i ∧ ∃ k < virtsvcPortcount,
      i.val = (s.lastAssignedPort.val + 1 + k) % virtsvcPortcount ∧
      ∀ j < k, ¬SlotOld cf s.connections tsc ((s.lastAssignedPort.val + 1 + j) % virtsvcPortcount) := by
  have hlt := s.lastAssignedPort.isLt
  have hi := i.isLt
  unfold dpVirtsvcGetFreePort at h
  dsimp only at h
  split at h
  next i' hfirst =>
    cases h
    obtain ⟨hle, -, hold, hno⟩ := firstOld_some hfirst
    refine ⟨hold, i.val - (s.lastAssignedPort.val + 1), by omega, ?_, fun j hj => ?_⟩
    · rw [Nat.add_sub_cancel' hle, Nat.mod_eq_of_lt hi]
    · rw [Nat.mod_eq_of_lt (by omega)]
      exact hno _ (by omega) (by omega)
  next hfirst =>
    obtain ⟨-, hle, hold, hno⟩ := firstOld_some h
    have hrest := fun {j} => firstOld_none (j := j) hfirst
    refine ⟨hold, virtsvcPortcount - (s.lastAssignedPort.val + 1) + i.val, by omega, ?_, fun j hj => ?_⟩
    · rw [← Nat.add_assoc, Nat.add_sub_cancel' hlt, Nat.add_mod_left, Nat.mod_eq_of_lt hi]
    · by_cases hj' : s.lastAssignedPort.val + 1 + j < virtsvcPortcount
      · rw [Nat.mod_eq_of_lt hj']
        exact hrest (by omega) (by omega)
      · have hwrap : (s.lastAssignedPort.val + 1 + j) % virtsvcPortcount =
            s.lastAssignedPort.val + 1 + j - virtsvcPortcount := by
          rw [Nat.mod_eq_sub_mod (by omega), Nat.mod_eq_of_lt (by omega)]
        rw [hwrap]
        exact hno _ (Nat.zero_le _) (by omega)

theorem dpVirtsvcGetFreePort_none {s : Virtsvc} (h : dpVirtsvcGetFreePort cf s tsc = none) (k : ℕ) :
    ¬SlotOld cf s.connections tsc k := by
  have hlt := s.lastAssignedPort.isLt
  unfold dpVirtsvcGetFreePort at h
  dsimp only at h
  split at h
  · cases h
  next hfirst =>
    rintro ⟨hk, hold⟩
    by_cases hle : k ≤ s.lastAssignedPort.val
    · exact firstOld_none h (Nat.zero_le k) (by omega) ⟨hk, hold⟩
    · exact firstOld_none hfirst (by omega) (by omega) ⟨hk, hold⟩

end FreePort

/-- **The search for a slot**: it comes to an end within the array. Where some connection is old, it returns the first
such slot in cyclic order behind the last assigned one, and remembers it; otherwise it fails and changes nothing. -/
theorem virtsvc_free_port (cf : Conf) (conns : Slot → VirtsvcConn) (tsc : UInt64) (last : UInt16)
    (hlast : last.toNat < virtsvcPortcount) (fuel : ℕ) (hfuel : virtsvcPortcount < fuel) :
    (∃ port, dpVirtsvcGetFreePort16 cf conns tsc fuel last = (.found port, port) ∧ port.toNat < virtsvcPortcount ∧
      SlotOld cf conns tsc port.toNat ∧ ∃ k < virtsvcPortcount, port.toNat = (last.toNat + 1 + k) % virtsvcPortcount ∧
        ∀ j < k, ¬SlotOld cf conns tsc ((last.toNat + 1 + j) % virtsvcPortcount)) ∨
    ((∀ k, ¬SlotOld cf conns tsc k) ∧ dpVirtsvcGetFreePort16 cf conns tsc fuel last = (.exhausted, last)) := by
  let s : Virtsvc := ⟨⟨0, 0, 0, 0, 0⟩, ⟨last.toNat, hlast⟩, Table.empty, conns⟩
  have heq := dpVirtsvcGetFreePort16_eq cf tsc s rfl hfuel
  cases hs : dpVirtsvcGetFreePort cf s tsc with
  | some i =>
    rw [hs] at heq
    obtain ⟨hold, hfirst⟩ := dpVirtsvcGetFreePort_some hs
    have hi : (UInt16.ofNat i.val).toNat = i.val := by
      have := i.isLt
      rw [UInt16.toNat_ofNat', Nat.mod_eq_of_lt (by simp only [virtsvcPortcount] at this; omega)]
    refine .inl ⟨_, heq, ?_⟩
    rw [hi]
    exact ⟨i.isLt, hold, hfirst⟩
  | none =>
    rw [hs] at heq
    exact .inr ⟨dpVirtsvcGetFreePort_none hs, heq⟩

/-- After the last slot of the array comes the first one. -/
theorem virtsvc_free_port_wrap : dpVirtsvcGetFreePort16 smallConf (fun _ => {}) 100 64513 64511 = (.found 0, 0) ∧
    SlotOld smallConf (fun _ => {}) 100 0 := by
  have hrun : dpVirtsvcGetFreePort16 smallConf (fun _ => {}) 100 64513 64511 = (.found 0, 0) := by decide
  refine ⟨hrun, ?_⟩
  rcases virtsvc_free_port smallConf (fun _ => {}) 100 64511 (by decide) 64513 (by decide) with
    ⟨port, h, -, hold, -⟩ | ⟨-, h⟩
  · rw [hrun] at h
    obtain rfl : port = 0 := (congrArg Prod.snd h).symm
    exact hold
  · rw [hrun] at h
    cases h

/-! ## The recursion on index ranges -/

/-- `array[i]`; `none` outside of the array. -/
def readAt {α : Type*} (array : List α) (i : ℤ) : Option α := if 0 ≤ i then array[i.toNat]? else none

/-- The middle of a range is in the range, also where it is rounded towards zero. -/
theorem middle_between {start last : ℤ} (h : start ≤ last) :
    start ≤ (start + last).tdiv 2 ∧ (start + last).tdiv 2 ≤ last := by
  rcases le_total 0 (start + last) with hpos | hneg
  · rw [Int.tdiv_eq_ediv_of_nonneg hpos]
    omega
  · have hflip : (start + last).tdiv 2 = -(-(start + last) / 2) := by
      rw [← Int.tdiv_eq_ediv_of_nonneg (by omega), Int.neg_tdiv, neg_neg]
    rw [hflip]
    omega

/-- `dp_virtsvc_array_to_tree`, where `malloc` succeeds: `none` if a number that is computed is not an `int`, or an
index is outside of the array. -/
def dpVirtsvcArrayToTreeInt {α : Type*} (int : ℤ → Bool) (array : List α) (start last : ℤ) : Option (BinaryTree α) :=
  if hlt : start > last then some .nil
  else
    let mid := (start + last).tdiv 2
    if !int (start + last) || !int (mid - 1) || !int (mid + 1) then none
    else do
      let virtsvc ← readAt array mid
      let left ← dpVirtsvcArrayToTreeInt int array start (mid - 1)
      let right ← dpVirtsvcArrayToTreeInt int array (mid + 1) last
      return .node virtsvc left right
termination_by (last + 1 - start).toNat
decreasing_by
  all_goals
    obtain ⟨hl, hr⟩ := middle_between (not_lt.mp hlt)
    omega

/-- The numbers of the type `int`. -/
def isInt (v : ℤ) : Bool := -2147483648 ≤ v && v ≤ 2147483647

section Tree

variable {α : Type*} {int : ℤ → Bool}

/-- **The recursion on signed indices makes the tree**, as long as the numbers that it computes are in range. -/
theorem dpVirtsvcArrayToTreeInt_eq (array : List α) (start stop : ℕ) (h : stop ≤ array.length)
    (hint : ∀ v : ℤ, -1 ≤ v → v ≤ 2 * array.length → int v = true) :
    dpVirtsvcArrayToTreeInt int array start (stop - 1) = some (dpVirtsvcArrayToTree array start stop h) := by
  fun_induction dpVirtsvcArrayToTree array start stop h with
  | case1 start stop h hlt mid ihl ihr =>
    have hmid : ((start : ℤ) + (stop - 1)).tdiv 2 = (mid : ℤ) := by
      rw [Int.tdiv_eq_ediv_of_nonneg (by omega)]
      omega
    have hread : readAt array (mid : ℤ) = some (array.get ⟨mid, by omega⟩) := by
      rw [readAt, if_pos (by omega), Int.toNat_natCast]
      exact List.getElem?_eq_getElem _
    have hright : (mid : ℤ) + 1 = ((mid + 1 : ℕ) : ℤ) := by omega
    rw [dpVirtsvcArrayToTreeInt, dif_neg (by omega)]
    simp only [hmid]
    rw [hint _ (by omega) (by omega), hint _ (by omega) (by omega), hint _ (by omega) (by omega), hread,
      ihl, hright, ihr]
    rfl
  | case2 start stop h hle =>
    rw [dpVirtsvcArrayToTreeInt, dif_pos (by omega)]

/-- Less than `2 ^ p` elements make a tree of at most `p` levels: either half has less than `2 ^ (p - 1)`. -/
theorem height_arrayToTree (array : List α) (start stop : ℕ) (h : stop ≤ array.length) {p : ℕ}
    (hp : stop - start < 2 ^ p) : (dpVirtsvcArrayToTree array start stop h).height ≤ p := by
  induction p generalizing start stop with
  | zero =>
    rw [dpVirtsvcArrayToTree, dif_neg (by omega)]
    rfl
  | succ p ih =>
    rw [dpVirtsvcArrayToTree]
    split
    next hlt =>
      rw [pow_succ] at hp
      rw [BinaryTree.height]
      refine Nat.succ_le_succ (max_le (ih _ _ _ ?_) (ih _ _ _ ?_)) <;> omega
    · exact Nat.zero_le _

end Tree

/-- **The tree of an array**: the recursion comes to an end without an access outside of the array. Read from left to
right, the tree is the array, and it has at most `⌈log₂ (n + 1)⌉` levels. With `int` nothing overflows for less than
`2 ^ 30` elements. -/
theorem balanced_tree {α : Type*} (array : List α) :
    ∃ t, dpVirtsvcArrayToTreeInt (fun _ => true) array 0 (array.length - 1) = some t ∧
      (array.length < 2 ^ 30 → dpVirtsvcArrayToTreeInt isInt array 0 (array.length - 1) = some t) ∧
      inorder t = array ∧ t.height ≤ Nat.clog 2 (array.length + 1) := by
  refine ⟨dpVirtsvcArrayToTree array 0 array.length le_rfl, ?_, fun hlen => ?_, inorder_arrayToTree array, ?_⟩
  · exact dpVirtsvcArrayToTreeInt_eq array 0 array.length le_rfl fun _ _ _ => rfl
  · refine dpVirtsvcArrayToTreeInt_eq array 0 array.length le_rfl fun v hlow hhigh => ?_
    rw [isInt, Bool.and_eq_true, decide_eq_true_eq, decide_eq_true_eq]
    omega
  · refine height_arrayToTree array 0 array.length le_rfl ?_
    exact Nat.lt_of_succ_le (Nat.le_pow_clog Nat.one_lt_two _)

end Dpservice
