import Dpservice.FlowKey
import Dpservice.Lib.Run

/-!
# NAT ports

The flow value, and the tables from which network NAT takes its ports. The portmap remembers the port of a source, so
that all its flows leave from one port; the port-overload table holds the combinations of NAT address, port and
destination in use. A port may serve several destinations, but only one flow for each.

- `dpAllocateNetworkSnatPort` fills both tables from the headers of a packet; `Alloc` lists its possible results;
- `dpRemoveNetworkSnatPort` clears them from the keys stored in the flow.
-/

namespace Dpservice

/-! ## Flow values -/

structure FlowFlags where
  srcNat : Bool := false
  dstNat : Bool := false
  dstLb : Bool := false
  firewall : Bool := false
  srcNat64 : Bool := false
  dflt : Bool := false
  deriving DecidableEq, Repr

def FlowFlags.nf (f : FlowFlags) : Bool := f.srcNat64 || f.srcNat || f.dstNat || f.dstLb

/-- `struct flow_value`, with the fields of its `nf_info`. -/
structure FlowValue where
  org : FlowKey
  reply : FlowKey
  /-- The stored age contexts, by slot. -/
  rteAgeCtxs : List (Option ℕ) := [none, none, none, none, none, none]
  nfVni : Vni := 0
  natType : FlowNatType := .none
  underlayDst : Ip6 := 0
  nfL4Type : UInt8 := 0
  timestamp : UInt64 := 0
  timeoutValue : UInt32 := 0
  createdPortId : PortId := 0
  flags : FlowFlags := {}
  offloadOrig : OffloadState := .nonOffload
  offloadReply : OffloadState := .nonOffload
  pf0Offloaded : Bool := false
  pf1Offloaded : Bool := false
  refCount : Int := 1
  tcpState : TcpState := .none
  aged : Bool := false
  deriving DecidableEq, Repr

/-! ## The two tables -/

structure PortmapData where
  natIp : Ip4
  natPort : UInt16
  flowCnt : UInt16
  deriving DecidableEq, Repr

/-- `struct netnat_portoverload_tbl_key`. -/
structure OverloadKey where
  natIp : Ip4
  natPort : UInt16
  dstIp : Ip4
  dstPort : UInt16
  l4Type : UInt8
  deriving DecidableEq, Repr

/-- The port tables, with the number of ports each interface uses. -/
structure NatPorts where
  portmapTbl : Table PortmapKey PortmapData := Table.empty
  portoverloadTbl : Table OverloadKey Unit := Table.empty
  usedPortCnt : PortId → UInt16 := fun _ => 0

def NatPorts.incUsed (n : NatPorts) (p : PortId) : NatPorts :=
  { n with usedPortCnt := Function.update n.usedPortCnt p (n.usedPortCnt p + 1) }

def NatPorts.decUsed (n : NatPorts) (p : PortId) : NatPorts :=
  { n with usedPortCnt := Function.update n.usedPortCnt p (n.usedPortCnt p - 1) }

/-! ## Allocation -/

structure NatRange where
  natIp : Ip4
  minPort : UInt16
  maxPort : UInt16
  deriving DecidableEq, Repr

/-- The NAT fields of an interface record. -/
def Iface.natRange (i : Iface) : NatRange := ⟨i.natIp, i.natMinPort, i.natMaxPort⟩

def SnatData.natRange (d : SnatData) : NatRange := ⟨d.natIp, d.natMinPort, d.natMaxPort⟩

def NatRange.ports (r : NatRange) : List UInt16 :=
  (List.range (r.maxPort.toNat - r.minPort.toNat)).map fun i => r.minPort + UInt16.ofNat i

/-- The portmap key of a packet: its source, an ICMP identifier taking the place of the port. -/
def portmapKeyOf (df : DpFlow) (vni : Vni) : PortmapKey where
  vni := vni
  srcIp := if df.l3Type = .ipv4 then .v4 df.srcAddr else .v6 df.srcAddr6
  ifaceSrcPort := if isIcmp df.l4Type then df.icmpIdent else df.srcPort

def overloadKeyOf (df : DpFlow) (natIp : Ip4) (port : UInt16) : OverloadKey where
  natIp := natIp
  natPort := port
  dstIp := if df.l3Type = .ipv4 then df.dstAddr else low32 df.dstAddr6
  dstPort := if isIcmp df.l4Type then df.icmpIdent else df.dstPort
  l4Type := df.l4Type

/-- The candidate port in step `i` of the search, which starts at the hash of the source. -/
def candidatePort (r : NatRange) (hash : UInt32) (i : ℕ) : UInt16 :=
  r.minPort + UInt16.ofNat ((hash + UInt32.ofNat i).toNat % (r.maxPort.toNat - r.minPort.toNat))

/-- The search loop: the first candidate port whose key is free. Port 0 counts as not found. -/
def findNatPort (n : NatPorts) (df : DpFlow) (r : NatRange) (hash : UInt32) : Option UInt16 :=
  (((List.range (r.maxPort.toNat - r.minPort.toNat)).map (candidatePort r hash)).find? fun p =>
    (n.portoverloadTbl (overloadKeyOf df r.natIp p)).isNone).filter (· != 0)

/-- A lookup of the search loop fails, for another reason than a missing key, before a free port is found. -/
def scanFails (e : Env) (n : NatPorts) (df : DpFlow) (r : NatRange) (hash : UInt32) : Bool :=
  (List.range (r.maxPort.toNat - r.minPort.toNat)).any fun i =>
    !e.ok (.scanLookup i) &&
      (List.range i).all fun j => (n.portoverloadTbl (overloadKeyOf df r.natIp (candidatePort r hash j))).isSome

inductive SnatPortErr where
  | badIpver | lookup | full | overloadAdd | portmapAdd
  deriving DecidableEq, Repr

/-- The part of `dp_allocate_network_snat_port` that takes a new port for the source. -/
def allocateNewPort (cf : Conf) (e : Env) (n : NatPorts) (r : NatRange) (df : DpFlow) (vni : Vni) :
    Except SnatPortErr UInt16 × NatPorts :=
  let pk := portmapKeyOf df vni
  if scanFails e n df r (cf.portmapHash pk) then (.error .lookup, n)
  else
    match findNatPort n df r (cf.portmapHash pk) with
    | none => (.error .full, n)
    | some p =>
      if !e.ok .overloadAdd then (.error .overloadAdd, n)
      else
        let n := { n with portoverloadTbl := n.portoverloadTbl.add (overloadKeyOf df r.natIp p) () }
        if !e.ok .portmapAdd then (.error .portmapAdd, n)
        else (.ok p, { n with portmapTbl := n.portmapTbl.add pk { natIp := r.natIp, natPort := p, flowCnt := 1 } })

/-- `dp_allocate_network_snat_port`. The port of the source is kept if it is free for this destination. -/
def dpAllocateNetworkSnatPort (cf : Conf) (e : Env) (n : NatPorts) (r : NatRange) (df : DpFlow)
    (vni : Vni) : Except SnatPortErr UInt16 × NatPorts :=
  let pk := portmapKeyOf df vni
  if df.l3Type = .other then (.error .badIpver, n)
  else if !e.ok .portmapLookup then (.error .lookup, n)
  else
    match n.portmapTbl pk with
    | none => allocateNewPort cf e n r df vni
    | some d =>
      if !e.ok .overloadLookup then (.error .lookup, n)
      else if (n.portoverloadTbl (overloadKeyOf df r.natIp d.natPort)).isSome then allocateNewPort cf e n r df vni
      else
        let n := { n with portmapTbl := n.portmapTbl.add pk { d with flowCnt := d.flowCnt + 1 } }
        if !e.ok .overloadAdd then (.error .overloadAdd, n)
        else
          let key := overloadKeyOf df r.natIp d.natPort
          (.ok d.natPort, { n with portoverloadTbl := n.portoverloadTbl.add key () })

/-! ## What allocation does -/

section Alloc

variable {cf : Conf} {e : Env} {n n' : NatPorts} {r : NatRange} {df : DpFlow} {vni : Vni}

/-- Candidates lie in the range. -/
theorem candidatePort_mem {hash : UInt32} {i : ℕ} (h : r.minPort.toNat < r.maxPort.toNat) :
    r.minPort ≤ candidatePort r hash i ∧ candidatePort r hash i < r.maxPort := by
  have hlt : (hash + UInt32.ofNat i).toNat % (r.maxPort.toNat - r.minPort.toNat) <
      r.maxPort.toNat - r.minPort.toNat := Nat.mod_lt _ (by omega)
  have hmax : r.maxPort.toNat < 2 ^ 16 := r.maxPort.toNat_lt
  have hval : (candidatePort r hash i).toNat =
      r.minPort.toNat + (hash + UInt32.ofNat i).toNat % (r.maxPort.toNat - r.minPort.toNat) := by
    rw [candidatePort, UInt16.toNat_add, UInt16.toNat_ofNat']
    omega
  rw [UInt16.le_iff_toNat_le, UInt16.lt_iff_toNat_lt]
  omega

/-- The source has a port, and it is free for this destination. -/
def NatPorts.Keeps (n : NatPorts) (r : NatRange) (df : DpFlow) (vni : Vni) (x : PortmapData) : Prop :=
  n.portmapTbl (portmapKeyOf df vni) = some x ∧ n.portoverloadTbl (overloadKeyOf df r.natIp x.natPort) = none

/-- The source has no port that it can keep, and `p` is a port of the range that is free for this destination. -/
def NatPorts.Takes (n : NatPorts) (r : NatRange) (df : DpFlow) (vni : Vni) (p : UInt16) : Prop :=
  (∀ x, ¬ n.Keeps r df vni x) ∧ p ≠ 0 ∧ (r.minPort ≤ p ∧ p < r.maxPort) ∧
    n.portoverloadTbl (overloadKeyOf df r.natIp p) = none

/-- The portmap entry whose port the source keeps. -/
def NatPorts.kept (n : NatPorts) (r : NatRange) (df : DpFlow) (vni : Vni) : Option PortmapData :=
  (n.portmapTbl (portmapKeyOf df vni)).filter fun x => (n.portoverloadTbl (overloadKeyOf df r.natIp x.natPort)).isNone

/-- The ports that allocation may choose, whatever the hash of the source is. -/
def NatPorts.candidates (n : NatPorts) (r : NatRange) (df : DpFlow) (vni : Vni) : List UInt16 :=
  match n.kept r df vni with
  | some x => [x.natPort]
  | none => r.ports.filter fun p => p != 0 && (n.portoverloadTbl (overloadKeyOf df r.natIp p)).isNone

/-- The possible results of an allocation, with what it leaves behind where it fails. -/
inductive Alloc (e : Env) (n : NatPorts) (r : NatRange) (df : DpFlow) (vni : Vni) : Option UInt16 → NatPorts → Prop
  | fail : Alloc e n r df vni none n
  | failKept (x : PortmapData) (h : n.Keeps r df vni x) (hadd : e.ok .overloadAdd = false) :
    Alloc e n r df vni none
      { n with portmapTbl := n.portmapTbl.add (portmapKeyOf df vni) { x with flowCnt := x.flowCnt + 1 } }
  | failTaken (p : UInt16) (h : n.Takes r df vni p) (hover : e.ok .overloadAdd = true)
      (hadd : e.ok .portmapAdd = false) :
    Alloc e n r df vni none { n with portoverloadTbl := n.portoverloadTbl.add (overloadKeyOf df r.natIp p) () }
  | keep (x : PortmapData) (h : n.Keeps r df vni x) (hover : e.ok .overloadAdd = true) :
    Alloc e n r df vni (some x.natPort) { n with
      portmapTbl := n.portmapTbl.add (portmapKeyOf df vni) { x with flowCnt := x.flowCnt + 1 }
      portoverloadTbl := n.portoverloadTbl.add (overloadKeyOf df r.natIp x.natPort) () }
  | take (p : UInt16) (h : n.Takes r df vni p) (hover : e.ok .overloadAdd = true) (hadd : e.ok .portmapAdd = true) :
    Alloc e n r df vni (some p) { n with
      portoverloadTbl := n.portoverloadTbl.add (overloadKeyOf df r.natIp p) ()
      portmapTbl := n.portmapTbl.add (portmapKeyOf df vni) { natIp := r.natIp, natPort := p, flowCnt := 1 } }

theorem findNatPort_takes {hash : UInt32} {p : UInt16} (hk : ∀ x, ¬ n.Keeps r df vni x)
    (h : findNatPort n df r hash = some p) : n.Takes r df vni p := by
  rw [findNatPort, Option.filter_eq_some_iff] at h
  obtain ⟨hfind, hne⟩ := h
  have hfree := List.find?_some hfind
  obtain ⟨i, hi, rfl⟩ := List.mem_map.mp (List.mem_of_find?_eq_some hfind)
  have hlt : i < r.maxPort.toNat - r.minPort.toNat := List.mem_range.mp hi
  exact ⟨hk, by simpa using hne, candidatePort_mem (by omega), by simpa using hfree⟩

/-- How taking a new port ends. -/
theorem allocateNewPort_alloc {o : Except SnatPortErr UInt16} (hk : ∀ x, ¬ n.Keeps r df vni x)
    (h : allocateNewPort cf e n r df vni = (o, n')) : Alloc e n r df vni o.toOption n' := by
  unfold allocateNewPort at h
  dsimp only at h
  split at h
  · cases h
    exact .fail
  split at h
  · cases h
    exact .fail
  next p hp =>
    have ht := findNatPort_takes hk hp
    split at h
    · cases h
      exact .fail
    next hover =>
      split at h
      next hadd =>
        cases h
        exact .failTaken p ht (by simpa using hover) (by simpa using hadd)
      next hadd =>
        cases h
        exact .take p ht (by simpa using hover) (by simpa using hadd)

/-- The packet is an IP packet, and no lookup about its source fails: allocation gets to choose a port. -/
structure NatPorts.Asks (n : NatPorts) (e : Env) (df : DpFlow) (vni : Vni) : Prop where
  l3Type : df.l3Type ≠ .other
  portmap : e.ok .portmapLookup = true
  overload : n.portmapTbl (portmapKeyOf df vni) ≠ none → e.ok .overloadLookup = true

/-- Allocation does not get to choose, or keeps the port of the source, or takes a new one. -/
theorem dpAllocateNetworkSnatPort_cases (cf : Conf) (e : Env) (n : NatPorts) (r : NatRange) (df : DpFlow) (vni : Vni) :
    (¬ n.Asks e df vni ∧ ∃ x, x ≠ .full ∧ dpAllocateNetworkSnatPort cf e n r df vni = (.error x, n)) ∨
      (n.Asks e df vni ∧ ∃ x, n.Keeps r df vni x ∧ dpAllocateNetworkSnatPort cf e n r df vni =
        if e.ok .overloadAdd then
          (.ok x.natPort, { n with
            portmapTbl := n.portmapTbl.add (portmapKeyOf df vni) { x with flowCnt := x.flowCnt + 1 }
            portoverloadTbl := n.portoverloadTbl.add (overloadKeyOf df r.natIp x.natPort) () })
        else
          (.error .overloadAdd,
            { n with portmapTbl := n.portmapTbl.add (portmapKeyOf df vni) { x with flowCnt := x.flowCnt + 1 } })) ∨
      (n.Asks e df vni ∧ (∀ x, ¬ n.Keeps r df vni x) ∧
        dpAllocateNetworkSnatPort cf e n r df vni = allocateNewPort cf e n r df vni) := by
  unfold dpAllocateNetworkSnatPort
  by_cases hl3 : df.l3Type = .other
  · exact .inl ⟨fun h => h.l3Type hl3, .badIpver, by decide, by rw [if_pos hl3]⟩
  by_cases hpm : e.ok .portmapLookup = true
  swap
  · exact .inl ⟨fun h => hpm h.portmap, .lookup, by decide, by simp [hl3, hpm]⟩
  cases hpk : n.portmapTbl (portmapKeyOf df vni) with
  | none =>
    refine .inr (.inr ⟨⟨hl3, hpm, fun h => absurd hpk h⟩, fun x hx => ?_, by simp [hl3, hpm, hpk]⟩)
    rw [hx.1] at hpk
    cases hpk
  | some x =>
    by_cases hov : e.ok .overloadLookup = true
    swap
    · exact .inl ⟨fun h => hov (h.overload (by simp [hpk])), .lookup, by decide, by simp [hl3, hpm, hpk, hov]⟩
    have hasks : n.Asks e df vni := ⟨hl3, hpm, fun _ => hov⟩
    cases hused : n.portoverloadTbl (overloadKeyOf df r.natIp x.natPort) with
    | some u =>
      refine .inr (.inr ⟨hasks, fun y hy => ?_, by simp [hl3, hpm, hpk, hov, hused]⟩)
      obtain rfl := Option.some.inj (hpk.symm.trans hy.1)
      rw [hy.2] at hused
      cases hused
    | none =>
      refine .inr (.inl ⟨hasks, x, ⟨hpk, hused⟩, ?_⟩)
      cases hadd : e.ok .overloadAdd <;> simp [hl3, hpm, hpk, hov, hused]

/-- How an allocation ends. -/
theorem dpAllocateNetworkSnatPort_alloc {o : Except SnatPortErr UInt16}
    (h : dpAllocateNetworkSnatPort cf e n r df vni = (o, n')) : Alloc e n r df vni o.toOption n' := by
  rcases dpAllocateNetworkSnatPort_cases cf e n r df vni with ⟨-, x, -, hx⟩ | ⟨-, x, hk, hx⟩ | ⟨-, hk, hx⟩
  · rw [hx] at h
    cases h
    exact .fail
  · rw [hx] at h
    split at h
    next hover =>
      cases h
      exact .keep x hk hover
    next hover =>
      cases h
      exact .failKept x hk (by simpa using hover)
  · exact allocateNewPort_alloc hk (hx.symm.trans h)

theorem NatRange.mem_ports {p : UInt16} (h : r.minPort ≤ p ∧ p < r.maxPort) : p ∈ r.ports := by
  rw [UInt16.le_iff_toNat_le, UInt16.lt_iff_toNat_lt] at h
  refine List.mem_map.mpr ⟨p.toNat - r.minPort.toNat, List.mem_range.mpr (by omega), ?_⟩
  apply UInt16.toNat_inj.mp
  have := p.toNat_lt
  rw [UInt16.toNat_add, UInt16.toNat_ofNat']
  omega

theorem NatPorts.kept_eq_some {x : PortmapData} : n.kept r df vni = some x ↔ n.Keeps r df vni x := by
  simp [NatPorts.kept, NatPorts.Keeps, Option.filter_eq_some_iff]

theorem NatPorts.Keeps.candidate {x : PortmapData} (h : n.Keeps r df vni x) : x.natPort ∈ n.candidates r df vni := by
  rw [NatPorts.candidates, NatPorts.kept_eq_some.mpr h]
  exact List.mem_singleton.mpr rfl

theorem NatPorts.Takes.kept {p : UInt16} (h : n.Takes r df vni p) : n.kept r df vni = none :=
  Option.eq_none_iff_forall_not_mem.mpr fun x hx => h.1 x (NatPorts.kept_eq_some.mp hx)

theorem NatPorts.Takes.candidate {p : UInt16} (h : n.Takes r df vni p) : p ∈ n.candidates r df vni := by
  rw [NatPorts.candidates, h.kept]
  obtain ⟨-, hne, hr, hfree⟩ := h
  exact List.mem_filter.mpr ⟨NatRange.mem_ports hr, by simp [hne, hfree]⟩

/-- An allocated port is one of the candidates, and was free. -/
theorem Alloc.candidate {p : UInt16} (h : Alloc e n r df vni (some p) n') :
    p ∈ n.candidates r df vni ∧ n.portoverloadTbl (overloadKeyOf df r.natIp p) = none ∧ e.ok .overloadAdd = true := by
  cases h with
  | keep x h hover => exact ⟨h.candidate, h.2, hover⟩
  | take p h hover _ => exact ⟨h.candidate, h.2.2.2, hover⟩

/-- The key of an allocated port is registered. -/
theorem Alloc.overload {p : UInt16} (h : Alloc e n r df vni (some p) n') :
    n'.portoverloadTbl = n.portoverloadTbl.add (overloadKeyOf df r.natIp p) () := by
  cases h <;> rfl

/-- A failed allocation leaves a key behind only if the source could not be entered. -/
theorem Alloc.overload_none (h : Alloc e n r df vni none n')
    (hok : n.candidates r df vni ≠ [] → e.ok .overloadAdd = true → n.kept r df vni = none → e.ok .portmapAdd = true) :
    n'.portoverloadTbl = n.portoverloadTbl := by
  cases h with
  | fail => rfl
  | failKept x hk _ => rfl
  | failTaken p ht hover hadd =>
    rw [hok (List.ne_nil_of_mem ht.candidate) hover ht.kept] at hadd
    cases hadd

/-- Nothing stands in the way of a port for this packet. -/
def NatPorts.CanTake (n : NatPorts) (e : Env) (r : NatRange) (df : DpFlow) (vni : Vni) : Prop :=
  n.candidates r df vni ≠ [] ∧ e.ok .overloadAdd = true ∧ (n.kept r df vni = none → e.ok .portmapAdd = true)

instance (n : NatPorts) (e : Env) (r : NatRange) (df : DpFlow) (vni : Vni) : Decidable (n.CanTake e r df vni) :=
  inferInstanceAs (Decidable (_ ∧ _ ∧ (_ → _)))

theorem Alloc.canTake {p : UInt16} (h : Alloc e n r df vni (some p) n') : n.CanTake e r df vni := by
  obtain ⟨hcand, -, hover⟩ := h.candidate
  refine ⟨List.ne_nil_of_mem hcand, hover, fun hk => ?_⟩
  cases h with
  | keep x h _ =>
    rw [NatPorts.kept_eq_some.mpr h] at hk
    cases hk
  | take p _ _ hadd => exact hadd

theorem Alloc.usedPortCnt {o : Option UInt16} (h : Alloc e n r df vni o n') : n'.usedPortCnt = n.usedPortCnt := by
  cases h <;> rfl

/-- The source of an allocated port is counted: once more, or for the first time since its port was chosen. -/
theorem Alloc.portmap {p : UInt16} (h : Alloc e n r df vni (some p) n') :
    (∃ x, n.kept r df vni = some x ∧ x.natPort = p ∧
        n'.portmapTbl = n.portmapTbl.add (portmapKeyOf df vni) { x with flowCnt := x.flowCnt + 1 }) ∨
      (n.kept r df vni = none ∧ (r.minPort ≤ p ∧ p < r.maxPort) ∧
        n'.portmapTbl = n.portmapTbl.add (portmapKeyOf df vni) { natIp := r.natIp, natPort := p, flowCnt := 1 }) := by
  cases h with
  | keep x h _ => exact .inl ⟨x, NatPorts.kept_eq_some.mpr h, rfl, rfl⟩
  | take p h _ _ => exact .inr ⟨h.kept, h.2.2.1, rfl⟩

/-- A failed allocation counts the source only if its port could not be registered. -/
theorem Alloc.portmap_none (h : Alloc e n r df vni none n')
    (hok : n.kept r df vni ≠ none → e.ok .overloadAdd = true) : n'.portmapTbl = n.portmapTbl := by
  cases h with
  | fail => rfl
  | failTaken p ht hover hadd => rfl
  | failKept x hk hadd =>
    rw [hok (by rw [NatPorts.kept_eq_some.mpr hk]; nofun)] at hadd
    cases hadd

theorem findNatPort_empty {p : UInt16} (hfree : ∀ k, n.portoverloadTbl k = none)
    (h : r.minPort ≤ p ∧ p < r.maxPort) (hne : p ≠ 0) : ∃ hash, findNatPort n df r hash = some p := by
  rw [UInt16.le_iff_toNat_le, UInt16.lt_iff_toNat_lt] at h
  have hp := p.toNat_lt
  refine ⟨UInt32.ofNat (p.toNat - r.minPort.toNat), ?_⟩
  have hcand : candidatePort r (UInt32.ofNat (p.toNat - r.minPort.toNat)) 0 = p := by
    apply UInt16.toNat_inj.mp
    have hhash : (UInt32.ofNat (p.toNat - r.minPort.toNat) + UInt32.ofNat 0).toNat = p.toNat - r.minPort.toNat := by
      rw [UInt32.toNat_add, UInt32.toNat_ofNat', UInt32.toNat_ofNat']
      omega
    have hmod : (p.toNat - r.minPort.toNat) % (r.maxPort.toNat - r.minPort.toNat) = p.toNat - r.minPort.toNat :=
      Nat.mod_eq_of_lt (by omega)
    rw [candidatePort, hhash, hmod, UInt16.toNat_add, UInt16.toNat_ofNat']
    omega
  obtain ⟨k, hk⟩ : ∃ k, r.maxPort.toNat - r.minPort.toNat = k + 1 := ⟨_, (Nat.succ_pred (by omega)).symm⟩
  rw [findNatPort, hk, List.range_succ_eq_map, List.map_cons, List.find?_cons_of_pos (by simp [hfree]), hcand]
  simp [Option.filter, hne]

end Alloc

/-! ## Removal -/

def FlowValue.overloadKey (fv : FlowValue) (natIp : Ip4) : OverloadKey where
  natIp := natIp
  natPort := fv.reply.portDst
  dstIp := match fv.org.l3Dst with
    | .v4 ip => ip
    | .v6 ip => low32 ip
  dstPort := fv.org.portDst
  l4Type := fv.org.proto

def FlowValue.portmapKey (fv : FlowValue) : PortmapKey where
  vni := fv.nfVni
  srcIp := fv.org.l3Src
  ifaceSrcPort := if isIcmp fv.org.proto then fv.org.portDst else fv.org.src

/-- `dp_remove_network_snat_port`; the port that created a flow is always registered. -/
def dpRemoveNetworkSnatPort (n : NatPorts) (fv : FlowValue) : NatPorts :=
  match fv.reply.l3Dst with
  | .v6 _ => n
  | .v4 natIp =>
    let n := { n with portoverloadTbl := n.portoverloadTbl.del (fv.overloadKey natIp) }
    match n.portmapTbl fv.portmapKey with
    | none => n
    | some d =>
      let cnt := d.flowCnt - 1
      let t := if cnt = 0 then n.portmapTbl.del fv.portmapKey
        else n.portmapTbl.add fv.portmapKey { d with flowCnt := cnt }
      { n with portmapTbl := t }.decUsed fv.createdPortId

/-- The port-overload key that a flow holds: one for each flow translated by network NAT. -/
def FlowValue.natKey (fv : FlowValue) : Option OverloadKey :=
  if fv.natType ≠ .networkLocal then none
  else
    match fv.reply.l3Dst with
    | .v4 natIp => some (fv.overloadKey natIp)
    | .v6 _ => none

theorem dpRemoveNetworkSnatPort_overload (n : NatPorts) (fv : FlowValue) :
    (dpRemoveNetworkSnatPort n fv).portoverloadTbl = match fv.reply.l3Dst with
      | .v4 natIp => n.portoverloadTbl.del (fv.overloadKey natIp)
      | .v6 _ => n.portoverloadTbl := by
  unfold dpRemoveNetworkSnatPort
  cases fv.reply.l3Dst with
  | v6 ip => rfl
  | v4 ip =>
    dsimp only
    split <;> rfl

/-- A flow gives its source and its port back. -/
theorem dpRemoveNetworkSnatPort_counts {n : NatPorts} {fv : FlowValue} {ip : Ip4} {x : PortmapData}
    (hip : fv.reply.l3Dst = .v4 ip) (hx : n.portmapTbl fv.portmapKey = some x) :
    (dpRemoveNetworkSnatPort n fv).portmapTbl = (if x.flowCnt - 1 = 0 then n.portmapTbl.del fv.portmapKey
        else n.portmapTbl.add fv.portmapKey { x with flowCnt := x.flowCnt - 1 }) ∧
      (dpRemoveNetworkSnatPort n fv).usedPortCnt =
        Function.update n.usedPortCnt fv.createdPortId (n.usedPortCnt fv.createdPortId - 1) := by
  unfold dpRemoveNetworkSnatPort
  rw [hip]
  dsimp only
  rw [hx]
  exact ⟨rfl, rfl⟩

end Dpservice
