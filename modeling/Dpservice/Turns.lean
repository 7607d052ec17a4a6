import Dpservice.Service

/-!
# What a node is about to do

Which translation comes next, and under which keys, can be read off the state and the packet before:

- `newFlowTurn`: connection tracking makes a flow for this key;
- `relayTurn`: `lb` or `dnat` removes the reply key of this flow;
- `vipTurn`: `dnat` or `snat` gives this flow this reply key;
- `natTurn`: `snat` translates this flow to a port of this range.
-/

namespace Dpservice

/-- The key under which connection tracking makes a new flow. -/
def newFlowTurn (cf : Conf) (e : Env) (c : Config) (d : Dataplane) (n : Node) (m : Mbuf) : Option FlowKey :=
  if n ≠ .conntrack ∨ !cf.conntrackEnabled ∨ !(e.ok .flowAlloc && e.ok .flowAddOrg && e.ok .flowAddInv) then none
  else
    match (m.df.extractL3 m.frontHdr).extractL4 m.l4 with
    | none => none
    | some df =>
      let isDhcp := df.l4Type = ipprotoUdp ∧
        (df.l3Type = .ipv4 ∧ df.dstPort = bootpSrvPort ∨ df.l3Type = .ipv6 ∧ df.dstPort = dhcpv6ServerPort)
      let b := dpBuildFlowKey cf c d.cache.currBuf { m with df := df }
      if isDhcp ∨ b.1 = false ∨ (d.cache.prevValid && b.2 == d.cache.prevBuf) ∨ (d.flowTbl b.2).isSome then none
      else some b.2

/-- The live flow of a packet that no node has translated, for a packet in the direction of the flow. -/
def plainFlow (d : Dataplane) (m : Mbuf) : Option (ℕ × FlowValue) :=
  m.df.conntrack.bind fun f => (d.flows f).bind fun fv =>
    if fv.flags = {} ∧ m.df.flowDir = .org then some (f, fv) else none

/-- The load balancer sends the packet to another host. -/
def lbForwards (c : Config) (d : Dataplane) (m : Mbuf) (fv : FlowValue) : Bool :=
  dpIsLbEnabled d.lb && dpIsIpLb d.lb m.df (pktVni c m) && !(isIcmp m.df.l4Type && m.df.icmpType != icmpTypeError) &&
    match dpLbGetBackendIp d.lb fv.org.l3Dst fv.org.portDst fv.org.proto (pktVni c m) with
    | some (some target, _) => (lbRedirect c m target).df.natType != .lbRecirc
    | _ => false

/-- The packet is for a NAT address whose port belongs to another host. -/
def dnatRelays (c : Config) (m : Mbuf) : Bool :=
  m.df.l3Type == .ipv4 && dpGetDnatData c.nat m.df.dstAddr (pktVni c m) == some 0 &&
    !(m.df.l4Type == ipprotoIcmp && m.df.icmpType == icmpEchoRequest) &&
    (dpLookupNetworkNatUnderlayIp c.nat m.df.dstAddr m.df.dstVni (dnatPort m.df)).isSome

/-- The flow whose reply key is removed because its packets are relayed to another host. -/
def relayTurn (c : Config) (d : Dataplane) (n : Node) (m : Mbuf) : Option (ℕ × FlowValue) :=
  (plainFlow d m).filter fun t =>
    match n with
    | .lb => lbForwards c d m t.2
    | .dnat => dnatRelays c m
    | _ => false

/-- The packet passes the meter of the `snat` node and leaves the virtual network. -/
def leavesVni (cf : Conf) (e : Env) (c : Config) (m : Mbuf) : Bool :=
  m.df.flowType = .southNorth &&
    !(!cf.isPf m.port && (c.port m.port).iface.publicFlowRateCap != 0 && m.df.l3Type != .other && e.red)

def vipTurn (cf : Conf) (e : Env) (c : Config) (d : Dataplane) (n : Node) (m : Mbuf) :
    Option (ℕ × FlowValue × FlowKey) :=
  if m.df.l3Type ≠ .ipv4 then none
  else (plainFlow d m).bind fun t =>
    match n with
    | .dnat => ((dpGetDnatData c.nat m.df.dstAddr (pktVni c m)).filter (· != 0)).map fun ip =>
      (t.1, t.2, { t.2.reply with l3Src := .v4 ip })
    | .snat =>
      if leavesVni cf e c m then
        ((dpGetIfaceSnatData c.nat m.df.srcAddr (c.port m.port).iface.vni).filter fun sd =>
          sd.natIp == 0 && sd.vipIp != 0).map fun sd => (t.1, t.2, snatReply t.2.reply sd.vipIp none)
      else none
    | _ => none

/-- The network NAT that applies to a packet: by the SNAT table for IPv4, by the interface for IPv6. -/
def natRangeOf (c : Config) (m : Mbuf) : Option NatRange :=
  let i := (c.port m.port).iface
  match m.df.l3Type with
  | .ipv4 => ((dpGetIfaceSnatData c.nat m.df.srcAddr i.vni).filter (·.natIp != 0)).map fun sd =>
    ⟨sd.natIp, sd.natMinPort, sd.natMaxPort⟩
  | .ipv6 =>
    if i.natIp ≠ 0 ∧ dpIsIp6InNat64Range m.df.dstAddr6 then some ⟨i.natIp, i.natMinPort, i.natMaxPort⟩ else none
  | .other => none

/-- The flow that is to be translated by network NAT, and the range its port comes from. -/
def natTurn (cf : Conf) (e : Env) (c : Config) (d : Dataplane) (n : Node) (m : Mbuf) :
    Option (ℕ × FlowValue × NatRange) :=
  if n = .snat ∧ leavesVni cf e c m then
    (plainFlow d m).bind fun t => (natRangeOf c m).map fun r => (t.1, t.2, r)
  else none

/-- The VNI of the interface a packet came from. -/
def ifaceVni (c : Config) (m : Mbuf) : Vni := (c.port m.port).iface.vni

/-- NAT64 can make an IPv4 packet of this one. -/
def nat64Converts (m : Mbuf) : Bool :=
  m.l3.type == .ipv6 && m.canShrink && (m.df.l4Type == ipprotoTcp || m.df.l4Type == ipprotoUdp ||
    m.df.l4Type == ipprotoIcmpv6 && (m.l4.icmpType == icmpv6EchoRequest || m.l4.icmpType == icmpv6EchoReply))

/-- The protocol of a packet after NAT64. -/
def nat64L4Type (l4Type : UInt8) : UInt8 := if l4Type = ipprotoIcmpv6 then ipprotoIcmp else l4Type

/-- The protocol after NAT64 is ICMP exactly if it was before. -/
theorem isIcmp_nat64L4Type (t : UInt8) : isIcmp (nat64L4Type t) = isIcmp t := by
  unfold nat64L4Type
  split
  next h => simp [h, isIcmp]
  · rfl

def natOldReply (m : Mbuf) (fv : FlowValue) : FlowKey :=
  if m.df.l3Type = .ipv6 then nat64OldReply fv.reply (nat64L4Type m.df.l4Type) else fv.reply

def natReply (m : Mbuf) (fv : FlowValue) (natIp : Ip4) (p : UInt16) : FlowKey :=
  if m.df.l3Type = .ipv6 then nat64Reply fv.reply (nat64L4Type m.df.l4Type) m.dst4 natIp p
  else snatReply fv.reply natIp (some p)

/-- The protocol of a packet after network NAT. -/
def natL4Type (m : Mbuf) : UInt8 := if m.df.l3Type = .ipv6 then nat64L4Type m.df.l4Type else m.df.l4Type

section Turns

variable {cf : Conf} {e : Env} {c : Config} {d : Dataplane} {n : Node} {m : Mbuf} {f : ℕ} {fv : FlowValue}

theorem plainFlow_eq (hc : m.df.conntrack = some f) (hf : d.flows f = some fv) (hp : fv.flags = {})
    (hd : m.df.flowDir = .org) : plainFlow d m = some (f, fv) := by
  simp [plainFlow, hc, hf, hp, hd]

/-- A plain flow is live and without flags, and its packet goes in the original direction. -/
theorem plainFlow_live {t : ℕ × FlowValue} (h : plainFlow d m = some t) :
    m.df.conntrack = some t.1 ∧ d.flows t.1 = some t.2 ∧ t.2.flags = {} ∧ m.df.flowDir = .org := by
  unfold plainFlow at h
  obtain ⟨f, hc, h⟩ := Option.bind_eq_some_iff.mp h
  obtain ⟨fv, hf, h⟩ := Option.bind_eq_some_iff.mp h
  split at h
  next hp =>
    cases h
    exact ⟨hc, hf, hp⟩
  · cases h

/-- What a turn of network NAT says. -/
theorem natTurn_inv {r : NatRange} (h : natTurn cf e c d n m = some (f, fv, r)) : n = .snat ∧ m.df.conntrack = some f ∧
    d.flows f = some fv ∧ fv.flags = {} ∧ m.df.flowDir = .org ∧ natRangeOf c m = some r := by
  unfold natTurn at h
  split at h
  next hn =>
    obtain ⟨⟨f', fv'⟩, hp, h⟩ := Option.bind_eq_some_iff.mp h
    obtain ⟨r', hr, heq⟩ := Option.map_eq_some_iff.mp h
    cases heq
    obtain ⟨hc, hf, hflags, hd⟩ := plainFlow_live hp
    exact ⟨hn.1, hc, hf, hflags, hd, hr⟩
  · cases h

/-- What a turn of a VIP says. -/
theorem vipTurn_inv {k : FlowKey} (h : vipTurn cf e c d n m = some (f, fv, k)) : plainFlow d m = some (f, fv) ∧
    m.df.l3Type = .ipv4 ∧
    ((n = .dnat ∧ ∃ ip, dpGetDnatData c.nat m.df.dstAddr (pktVni c m) = some ip ∧ ip ≠ 0 ∧
        k = { fv.reply with l3Src := .v4 ip }) ∨
      (n = .snat ∧ ∃ sd, dpGetIfaceSnatData c.nat m.df.srcAddr (c.port m.port).iface.vni = some sd ∧ sd.natIp = 0 ∧
        sd.vipIp ≠ 0 ∧ k = snatReply fv.reply sd.vipIp none)) := by
  unfold vipTurn at h
  split at h
  · cases h
  next hl3 =>
    obtain ⟨⟨g, gv⟩, hp, h⟩ := Option.bind_eq_some_iff.mp h
    dsimp only at h
    split at h
    · obtain ⟨ip, hip, heq⟩ := Option.map_eq_some_iff.mp h
      obtain ⟨hip, hne⟩ := Option.filter_eq_some_iff.mp hip
      simp only [Prod.mk.injEq] at heq
      obtain ⟨rfl, rfl, rfl⟩ := heq
      exact ⟨hp, not_not.mp hl3, .inl ⟨rfl, ip, hip, by simpa using hne, rfl⟩⟩
    · split at h
      · obtain ⟨sd, hsd, heq⟩ := Option.map_eq_some_iff.mp h
        obtain ⟨hsd, hne⟩ := Option.filter_eq_some_iff.mp hsd
        simp only [Prod.mk.injEq] at heq
        obtain ⟨rfl, rfl, rfl⟩ := heq
        simp only [Bool.and_eq_true, beq_iff_eq, bne_iff_ne] at hne
        exact ⟨hp, not_not.mp hl3, .inr ⟨rfl, sd, hsd, hne.1, hne.2, rfl⟩⟩
      · cases h
    · cases h

end Turns

end Dpservice
