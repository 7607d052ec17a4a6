import Mathlib.Algebra.Group.Nat.Defs
import Mathlib.Data.Nat.Find
import Dpservice.NatPort

/-!
# The search for a NAT port

Allocation keeps the port of the source, or looks through the range for one that is free, from a start that the hash
of the source gives. Its exits differ in what they leave behind.

- `findNatPort_eq_some_iff` and `findNatPort_eq_none_iff` say what the search finds, in terms of the candidates
  (`Reaches`);
- `exists_candidatePort`: the candidates are all ports of the range, unless the 32-bit sum wraps around inside the
  search and the size of the range does not divide `2 ^ 32`;
- **`nat_port_search_iff`**: the search is complete where the wrap-around and port 0 do no harm;
- `dpAllocateNetworkSnatPort_iff`: what the outcomes of an allocation are, and when;
- **`failed_allocation_unchanged_iff`**: a failed allocation changes nothing where the two insertions that come after
  a change succeed.
-/

namespace Dpservice

section Search

variable {cf : Conf} {e : Env} {n : NatPorts} {r : NatRange} {df : DpFlow} {vni : Vni} {hash : UInt32}

def NatRange.size (r : NatRange) : ℕ := r.maxPort.toNat - r.minPort.toNat

/-- A port of the NAT address is free for the destination of a packet. -/
def NatPorts.Free (n : NatPorts) (r : NatRange) (df : DpFlow) (p : UInt16) : Prop :=
  n.portoverloadTbl (overloadKeyOf df r.natIp p) = none

/-- The first free candidate is the one of step `i`. -/
def NatPorts.Reaches (n : NatPorts) (r : NatRange) (df : DpFlow) (hash : UInt32) (i : ℕ) : Prop :=
  i < r.size ∧ n.Free r df (candidatePort r hash i) ∧ ∀ j < i, ¬ n.Free r df (candidatePort r hash j)

/-! ## What the search finds -/

theorem NatPorts.Free.reaches {i : ℕ} (hi : i < r.size) (h : n.Free r df (candidatePort r hash i)) :
    ∃ j ≤ i, n.Reaches r df hash j := by
  classical
  have hex : ∃ i, n.Free r df (candidatePort r hash i) := ⟨i, h⟩
  have hle : Nat.find hex ≤ i := Nat.find_min' hex h
  exact ⟨Nat.find hex, hle, by omega, Nat.find_spec hex, fun j hj => Nat.find_min hex hj⟩

/-- The step in which the search ends with a free port. -/
theorem find?_candidate_iff {i : ℕ} :
    ((List.range r.size).find? fun i => (n.portoverloadTbl (overloadKeyOf df r.natIp (candidatePort r hash i))).isNone)
      = some i ↔ n.Reaches r df hash i := by
  rw [List.find?_range_eq_some]
  simp only [NatPorts.Reaches, NatPorts.Free, Option.isNone_iff_eq_none, List.mem_range, Bool.not_eq_eq_eq_not,
    Bool.not_true, Option.isNone_eq_false_iff, Option.isSome_iff_ne_none, ne_eq]
  constructor
  · rintro ⟨hfree, hi, hbefore⟩
    exact ⟨hi, hfree, hbefore⟩
  · rintro ⟨hi, hfree, hbefore⟩
    exact ⟨hfree, hi, hbefore⟩

theorem findNatPort_eq : findNatPort n df r hash = (((List.range r.size).find? fun i =>
    (n.portoverloadTbl (overloadKeyOf df r.natIp (candidatePort r hash i))).isNone).map (candidatePort r hash)).filter
      (· != 0) := by
  rw [findNatPort, List.find?_map]
  rfl

/-- The search finds the first free candidate, if that is not port 0. -/
theorem findNatPort_eq_some_iff {p : UInt16} : findNatPort n df r hash = some p ↔
    ∃ i, n.Reaches r df hash i ∧ candidatePort r hash i = p ∧ p ≠ 0 := by
  rw [findNatPort_eq, Option.filter_eq_some_iff, Option.map_eq_some_iff]
  simp only [find?_candidate_iff, bne_iff_ne]
  constructor
  · rintro ⟨⟨i, hi, hp⟩, hne⟩
    exact ⟨i, hi, hp, hne⟩
  · rintro ⟨i, hi, hp, hne⟩
    exact ⟨⟨i, hi, hp⟩, hne⟩

/-- The search finds nothing where no candidate is free, and where the first free one is port 0. -/
theorem findNatPort_eq_none_iff : findNatPort n df r hash = none ↔
    ∀ i, n.Reaches r df hash i → candidatePort r hash i = 0 := by
  rw [Option.eq_none_iff_forall_not_mem]
  constructor
  · intro h i hi
    by_contra hne
    exact h _ (findNatPort_eq_some_iff.mpr ⟨i, hi, rfl, hne⟩)
  · rintro h p hp
    obtain ⟨i, hi, rfl, hne⟩ := findNatPort_eq_some_iff.mp hp
    exact hne (h i hi)

/-! ## The candidates -/

theorem candidatePort_toNat (i : ℕ) : (candidatePort r hash i).toNat =
    (r.minPort.toNat + (hash + UInt32.ofNat i).toNat % r.size) % 2 ^ 16 := by
  have hsize : r.size < 2 ^ 16 := Nat.lt_of_le_of_lt (Nat.sub_le ..) r.maxPort.toNat_lt
  rw [candidatePort, UInt16.toNat_add, UInt16.toNat_ofNat']
  change (_ + (hash + UInt32.ofNat i).toNat % r.size % 2 ^ 16) % 2 ^ 16 = _
  omega

/-- The search tries every port of the range, unless its sum wraps around at a place that the size of the range does not
divide. -/
theorem exists_candidatePort (hash : UInt32) {p : UInt16} (h : r.minPort ≤ p ∧ p < r.maxPort)
    (hwrap : hash.toNat + r.size ≤ 2 ^ 32 ∨ r.size ∣ 2 ^ 32) : ∃ i < r.size, candidatePort r hash i = p := by
  rw [UInt16.le_iff_toNat_le, UInt16.lt_iff_toNat_lt] at h
  have hp := p.toNat_lt
  have hmax := r.maxPort.toNat_lt
  have hsize : r.size = r.maxPort.toNat - r.minPort.toNat := rfl
  have hpos : 0 < r.size := by omega
  obtain ⟨i, hi, hsum⟩ : ∃ i < r.size, (hash.toNat + i) % r.size = p.toNat - r.minPort.toNat := by
    refine ⟨(p.toNat - r.minPort.toNat + (r.size - hash.toNat % r.size)) % r.size, Nat.mod_lt _ hpos, ?_⟩
    have hlt : hash.toNat % r.size < r.size := Nat.mod_lt _ hpos
    have hround : hash.toNat % r.size + (p.toNat - r.minPort.toNat + (r.size - hash.toNat % r.size)) =
        p.toNat - r.minPort.toNat + r.size := by omega
    rw [Nat.add_mod_mod, ← Nat.mod_add_mod, hround, Nat.add_mod_right, Nat.mod_eq_of_lt (by omega)]
  have hmod : (hash + UInt32.ofNat i).toNat % r.size = p.toNat - r.minPort.toNat := by
    rw [UInt32.toNat_add, UInt32.toNat_ofNat', Nat.add_mod_mod]
    rcases hwrap with hw | hw
    · rw [Nat.mod_eq_of_lt (a := hash.toNat + i) (by omega), hsum]
    · rw [Nat.mod_mod_of_dvd _ hw, hsum]
  refine ⟨i, hi, UInt16.toNat_inj.mp ?_⟩
  rw [candidatePort_toNat, hmod]
  omega

theorem candidatePort_range (hash : UInt32) {i : ℕ} (hi : i < r.size) :
    r.minPort ≤ candidatePort r hash i ∧ candidatePort r hash i < r.maxPort :=
  candidatePort_mem (by unfold NatRange.size at hi; omega)

/-! ## Completeness -/

/-- A search that fails means that the range is used up, and a new port is a free one of the range. -/
structure SearchComplete (cf : Conf) (e : Env) (n : NatPorts) (r : NatRange) (df : DpFlow) (vni : Vni) : Prop where
  full : (dpAllocateNetworkSnatPort cf e n r df vni).1 = .error .full →
    ∀ p, r.minPort ≤ p ∧ p < r.maxPort → ¬ n.Free r df p
  new : ∀ p, (dpAllocateNetworkSnatPort cf e n r df vni).1 = .ok p → n.kept r df vni = none →
    (r.minPort ≤ p ∧ p < r.maxPort) ∧ n.Free r df p

/-- The source has no port that it can keep, and no lookup fails: the search goes through the range. -/
structure NatPorts.Searches (n : NatPorts) (e : Env) (r : NatRange) (df : DpFlow) (vni : Vni) (hash : UInt32) :
    Prop where
  asks : n.Asks e df vni
  kept : n.kept r df vni = none
  scan : scanFails e n df r hash = false

theorem NatPorts.Keeps.not_searches {x : PortmapData} (h : n.Keeps r df vni x) : ¬ n.Searches e r df vni hash := by
  intro hs
  have hkept := hs.kept
  rw [NatPorts.kept_eq_some.mpr h] at hkept
  cases hkept

theorem NatPorts.kept_eq_none (h : ∀ x, ¬ n.Keeps r df vni x) : n.kept r df vni = none :=
  Option.eq_none_iff_forall_not_mem.mpr fun x hx => h x (NatPorts.kept_eq_some.mp hx)

/-- The wrap-around of the 32-bit sum does no harm: it does not happen, it does not change the remainders, or there is a
free port among the candidates or none at all. -/
def WrapHarmless (n : NatPorts) (r : NatRange) (df : DpFlow) (hash : UInt32) : Prop :=
  hash.toNat + r.size ≤ 2 ^ 32 ∨ r.size ∣ 2 ^ 32 ∨ (∃ i < r.size, n.Free r df (candidatePort r hash i)) ∨
    ∀ p, r.minPort ≤ p ∧ p < r.maxPort → ¬ n.Free r df p

/-- Port 0 does no harm: it is not in the range, it is taken, or a free port is tried before it. -/
def ZeroHarmless (n : NatPorts) (r : NatRange) (df : DpFlow) (hash : UInt32) : Prop :=
  r.minPort ≠ 0 ∨ ¬ n.Free r df 0 ∨
    ∃ i < r.size, n.Free r df (candidatePort r hash i) ∧ ∀ j ≤ i, candidatePort r hash j ≠ 0

theorem allocateNewPort_full (hs : scanFails e n df r (cf.portmapHash (portmapKeyOf df vni)) = false) :
    (allocateNewPort cf e n r df vni).1 = .error .full ↔
      findNatPort n df r (cf.portmapHash (portmapKeyOf df vni)) = none := by
  unfold allocateNewPort
  simp only [hs, Bool.false_eq_true, if_false]
  cases hfind : findNatPort n df r (cf.portmapHash (portmapKeyOf df vni)) with
  | none => simp
  | some p => cases hover : e.ok .overloadAdd <;> cases hadd : e.ok .portmapAdd <;> simp

/-- Allocation fails for want of a port exactly where a search finds nothing. -/
theorem dpAllocateNetworkSnatPort_full : (dpAllocateNetworkSnatPort cf e n r df vni).1 = .error .full ↔
    n.Searches e r df vni (cf.portmapHash (portmapKeyOf df vni)) ∧
      findNatPort n df r (cf.portmapHash (portmapKeyOf df vni)) = none := by
  rcases dpAllocateNetworkSnatPort_cases cf e n r df vni with ⟨hask, x, hne, hx⟩ | ⟨-, x, hk, hx⟩ | ⟨hask, hk, hx⟩
  · rw [hx]
    exact ⟨fun h => absurd (Except.error.inj h) hne, fun h => absurd h.1.asks hask⟩
  · rw [hx]
    refine ⟨fun h => ?_, fun h => absurd h.1 hk.not_searches⟩
    cases hover : e.ok .overloadAdd <;> simp [hover] at h
  · rw [hx]
    cases hs : scanFails e n df r (cf.portmapHash (portmapKeyOf df vni)) with
    | true =>
      refine ⟨fun h => ?_, fun h => ?_⟩
      · simp [allocateNewPort, hs] at h
      · rw [h.1.scan] at hs
        cases hs
    | false =>
      rw [allocateNewPort_full hs]
      exact ⟨fun h => ⟨⟨hask, NatPorts.kept_eq_none hk, hs⟩, h⟩, fun h => h.2⟩

/-- A new port is a free one of the range. -/
theorem dpAllocateNetworkSnatPort_new {p : UInt16} (h : (dpAllocateNetworkSnatPort cf e n r df vni).1 = .ok p)
    (hk : n.kept r df vni = none) : (r.minPort ≤ p ∧ p < r.maxPort) ∧ n.Free r df p := by
  have heq : dpAllocateNetworkSnatPort cf e n r df vni = (.ok p, (dpAllocateNetworkSnatPort cf e n r df vni).2) :=
    Prod.ext h rfl
  have halloc := dpAllocateNetworkSnatPort_alloc heq
  obtain ⟨-, hfree, -⟩ := halloc.candidate
  rcases halloc.portmap with ⟨x, hx, -⟩ | ⟨-, hrange, -⟩
  · rw [hk] at hx
    cases hx
  · exact ⟨hrange, hfree⟩

/-- **The search for a NAT port is complete** where the wrap-around and port 0 do no harm, and only there. -/
theorem nat_port_search_iff (cf : Conf) (e : Env) (n : NatPorts) (r : NatRange) (df : DpFlow) (vni : Vni)
    (hr : r.minPort < r.maxPort) : SearchComplete cf e n r df vni ↔
      (n.Searches e r df vni (cf.portmapHash (portmapKeyOf df vni)) →
        WrapHarmless n r df (cf.portmapHash (portmapKeyOf df vni)) ∧
        ZeroHarmless n r df (cf.portmapHash (portmapKeyOf df vni))) := by
  generalize hhash : cf.portmapHash (portmapKeyOf df vni) = hash
  have hfull : (dpAllocateNetworkSnatPort cf e n r df vni).1 = .error .full ↔
      n.Searches e r df vni hash ∧ findNatPort n df r hash = none := hhash ▸ dpAllocateNetworkSnatPort_full
  constructor
  · intro hc hs
    cases hfind : findNatPort n df r hash with
    | none =>
      have hnone := hc.full (hfull.mpr ⟨hs, hfind⟩)
      refine ⟨.inr (.inr (.inr hnone)), ?_⟩
      by_cases hzero : r.minPort = 0
      · exact .inr (.inl (hnone 0 ⟨by rw [hzero]; exact UInt16.le_refl 0, hzero ▸ hr⟩))
      · exact .inl hzero
    | some p =>
      obtain ⟨i, hi, rfl, hne⟩ := findNatPort_eq_some_iff.mp hfind
      refine ⟨.inr (.inr (.inl ⟨i, hi.1, hi.2.1⟩)), ?_⟩
      by_cases hbefore : ∀ j ≤ i, candidatePort r hash j ≠ 0
      · exact .inr (.inr ⟨i, hi.1, hi.2.1, hbefore⟩)
      · -- port 0 was tried before, so it is taken
        push Not at hbefore
        obtain ⟨j, hj, hzero⟩ := hbefore
        have hlt : j < i := Nat.lt_of_le_of_ne hj fun h => hne (h ▸ hzero)
        exact .inr (.inl (hzero ▸ hi.2.2 j hlt))
  · intro hc
    refine ⟨fun h p hp hfree => ?_, fun p hp hk => dpAllocateNetworkSnatPort_new hp hk⟩
    obtain ⟨hs, hfind⟩ := hfull.mp h
    obtain ⟨hwrap, hzero⟩ := hc hs
    have hfind := findNatPort_eq_none_iff.mp hfind
    obtain ⟨i, hi, hcand⟩ : ∃ i < r.size, n.Free r df (candidatePort r hash i) := by
      rcases hwrap with hw | hw | hex | hnone
      · obtain ⟨i, hi, rfl⟩ := exists_candidatePort hash hp (.inl hw)
        exact ⟨i, hi, hfree⟩
      · obtain ⟨i, hi, rfl⟩ := exists_candidatePort hash hp (.inr hw)
        exact ⟨i, hi, hfree⟩
      · exact hex
      · exact absurd hfree (hnone p hp)
    obtain ⟨k, -, hk⟩ := hcand.reaches hi
    have hk0 := hfind k hk
    rcases hzero with hmin | htaken | ⟨i, hi, hcand, hbefore⟩
    · have hlow := (candidatePort_range hash hk.1).1
      rw [hk0, UInt16.le_iff_toNat_le] at hlow
      exact hmin (UInt16.toNat_inj.mp (Nat.le_zero.mp hlow))
    · exact htaken (hk0 ▸ hk.2.1)
    · obtain ⟨j, hj, hreach⟩ := hcand.reaches hi
      exact hbefore j hj (hfind j hreach)

/-- A configuration in which all sources have the same hash. -/
def hashConf (hash : UInt32) : Conf where
  pf0 := 0
  pf1 := 1
  portList := [0, 1]
  portByName _ := none
  underlayIp := 1
  nicMellanox := false
  offloadEnabled := false
  conntrackEnabled := true
  flowTimeout := 30
  timerHz := 1
  portmapHash _ := hash

/-- The private data of a TCP packet from 10.0.0.1 to 8.8.8.8. -/
def tcpDf : DpFlow :=
  { l3Type := .ipv4, srcAddr := 0x0a000001, dstAddr := 0x08080808, l4Type := ipprotoTcp, srcPort := 1000,
    dstPort := 80 }

/-- The search through an unused range. -/
theorem nat_port_search_unused : SearchComplete (hashConf 7) {} {} ⟨0x01020304, 100, 110⟩ tcpDf 100 :=
  (nat_port_search_iff (hashConf 7) {} {} ⟨0x01020304, 100, 110⟩ tcpDf 100 (by decide)).mpr
    fun _ => ⟨.inl (by decide), .inl (by decide)⟩

/-- Only port 109 is free, and the sum wraps around after one step: the search gives up without having tried it. -/
theorem nat_port_search_skips : ¬ SearchComplete (hashConf 0xffffffff) {}
    { portoverloadTbl := fun k => if k.natPort = 109 then none else some () } ⟨0x01020304, 100, 110⟩ tcpDf 100 :=
  fun h => h.full (by decide) 109 (by decide) rfl

/-! ## Failure -/

/-- What taking a new port can do: it fails with a change only where the port is registered and the source cannot be
entered, and otherwise it succeeds (where `Q` is to be shown) or changes nothing. -/
theorem allocateNewPort_iff (Q : Prop) :
    ((∀ x, (allocateNewPort cf e n r df vni).1 = .error x → (allocateNewPort cf e n r df vni).2 = n) ∧
        ∀ p, (allocateNewPort cf e n r df vni).1 = .ok p → Q) ↔
      (scanFails e n df r (cf.portmapHash (portmapKeyOf df vni)) = false →
        ∀ i, n.Reaches r df (cf.portmapHash (portmapKeyOf df vni)) i →
          candidatePort r (cf.portmapHash (portmapKeyOf df vni)) i ≠ 0 →
          e.ok .overloadAdd = true → e.ok .portmapAdd = true ∧ Q) := by
  unfold allocateNewPort
  dsimp only
  generalize cf.portmapHash (portmapKeyOf df vni) = hash
  cases hs : scanFails e n df r hash with
  | true => exact ⟨fun _ h => (by cases h), fun _ => ⟨fun _ _ => rfl, fun _ h => (by cases h)⟩⟩
  | false =>
    simp only [Bool.false_eq_true, if_false]
    cases hfind : findNatPort n df r hash with
    | none =>
      exact ⟨fun _ _ i hi hne => absurd (findNatPort_eq_none_iff.mp hfind i hi) hne,
        fun _ => ⟨fun _ _ => rfl, fun _ h => (by cases h)⟩⟩
    | some p =>
      obtain ⟨i, hi, rfl, hne⟩ := findNatPort_eq_some_iff.mp hfind
      cases hover : e.ok .overloadAdd with
      | false => exact ⟨fun _ _ _ _ _ h => (by cases h), fun _ => ⟨fun _ _ => rfl, fun _ h => (by cases h)⟩⟩
      | true =>
        cases hadd : e.ok .portmapAdd with
        | true => exact ⟨fun h _ _ _ _ _ => ⟨rfl, h.2 _ rfl⟩, fun h => ⟨fun _ hx => (by cases hx), fun _ _ =>
            (h trivial i hi hne rfl).2⟩⟩
        | false =>
          refine ⟨fun h => ?_, fun h => absurd (h trivial i hi hne rfl).1 (by decide)⟩
          have hadded := Table.eq_of_add_eq (congrArg NatPorts.portoverloadTbl (h.1 .portmapAdd rfl))
          rw [hi.2.1] at hadded
          cases hadded

/-- The same for the whole allocation, which also fails with a change where a kept port was counted and cannot be
registered. -/
theorem dpAllocateNetworkSnatPort_iff (Q : Prop) :
    ((∀ x, (dpAllocateNetworkSnatPort cf e n r df vni).1 = .error x →
          (dpAllocateNetworkSnatPort cf e n r df vni).2 = n) ∧
        ∀ p, (dpAllocateNetworkSnatPort cf e n r df vni).1 = .ok p → Q) ↔
      (n.Asks e df vni → n.kept r df vni ≠ none → e.ok .overloadAdd = true ∧ Q) ∧
      (n.Searches e r df vni (cf.portmapHash (portmapKeyOf df vni)) →
        ∀ i, n.Reaches r df (cf.portmapHash (portmapKeyOf df vni)) i →
          candidatePort r (cf.portmapHash (portmapKeyOf df vni)) i ≠ 0 →
          e.ok .overloadAdd = true → e.ok .portmapAdd = true ∧ Q) := by
  rcases dpAllocateNetworkSnatPort_cases cf e n r df vni with ⟨hask, x, -, hx⟩ | ⟨hask, x, hk, hx⟩ | ⟨hask, hk, hx⟩
  · rw [hx]
    exact ⟨fun _ => ⟨fun h => absurd h hask, fun h => absurd h.asks hask⟩,
      fun _ => ⟨fun _ _ => rfl, fun _ h => (by cases h)⟩⟩
  · have hkept : n.kept r df vni ≠ none := by
      rw [NatPorts.kept_eq_some.mpr hk]
      nofun
    cases hover : e.ok .overloadAdd with
    | true =>
      rw [hx, hover]
      exact ⟨fun h => ⟨fun _ _ => ⟨rfl, h.2 _ rfl⟩, fun h => absurd h hk.not_searches⟩,
        fun h => ⟨fun _ hx => (by cases hx), fun _ _ => (h.1 hask hkept).2⟩⟩
    | false =>
      rw [hx, hover]
      refine ⟨fun h => ?_, fun h => absurd (h.1 hask hkept).1 (by decide)⟩
      have hraised := Table.eq_of_add_eq (congrArg NatPorts.portmapTbl (h.1 .overloadAdd rfl))
      have hcnt := congrArg PortmapData.flowCnt (Option.some.inj (hraised.symm.trans hk.1))
      simp at hcnt
  · have hkept := NatPorts.kept_eq_none hk
    rw [hx, allocateNewPort_iff]
    exact ⟨fun h => ⟨fun _ hne => absurd hkept hne, fun hs => h hs.scan⟩, fun h hs => h.2 ⟨hask, hkept, hs⟩⟩

/-- **A failed allocation changes nothing** where no insertion fails after the counter of a kept port was raised or a
new port was registered, and only there. -/
theorem failed_allocation_unchanged_iff (cf : Conf) (e : Env) (n : NatPorts) (r : NatRange) (df : DpFlow) (vni : Vni) :
    (∀ x, (dpAllocateNetworkSnatPort cf e n r df vni).1 = .error x →
        (dpAllocateNetworkSnatPort cf e n r df vni).2 = n) ↔
      (n.Asks e df vni → n.kept r df vni ≠ none → e.ok .overloadAdd = true) ∧
      (n.Searches e r df vni (cf.portmapHash (portmapKeyOf df vni)) →
        ∀ i, n.Reaches r df (cf.portmapHash (portmapKeyOf df vni)) i →
          candidatePort r (cf.portmapHash (portmapKeyOf df vni)) i ≠ 0 →
          e.ok .overloadAdd = true → e.ok .portmapAdd = true) := by
  simpa only [implies_true, and_true] using dpAllocateNetworkSnatPort_iff True

/-- The port of 10.0.0.1:1000 cannot be registered for a second destination: the source is counted twice with one
flow. -/
theorem failed_allocation_counts : ¬ ∀ x,
    (dpAllocateNetworkSnatPort (hashConf 0) { fails := [.overloadAdd] }
      { portmapTbl := Table.empty.add (portmapKeyOf tcpDf 100) ⟨0x01020304, 100, 1⟩ }
      ⟨0x01020304, 100, 110⟩ tcpDf 100).1 = .error x →
    (dpAllocateNetworkSnatPort (hashConf 0) { fails := [.overloadAdd] }
      { portmapTbl := Table.empty.add (portmapKeyOf tcpDf 100) ⟨0x01020304, 100, 1⟩ }
      ⟨0x01020304, 100, 110⟩ tcpDf 100).2
      = { portmapTbl := Table.empty.add (portmapKeyOf tcpDf 100) ⟨0x01020304, 100, 1⟩ } := by
  intro h
  have hcnt := congrArg (fun n => (n.portmapTbl (portmapKeyOf tcpDf 100)).map (·.flowCnt)) (h .overloadAdd rfl)
  exact absurd hcnt (by decide)

end Search

end Dpservice
