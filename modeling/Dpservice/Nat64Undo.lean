import Dpservice.NatAlloc
import Dpservice.Tracking

/-!
# Giving a NAT64 port back

`dp_process_ipv6_nat64` takes a port before it knows whether the packet can be translated. When the header cannot be
converted it calls the general release function, but the reply key of the flow has not been rewritten yet: it has the
IPv6 address of the VM, or comes from the header that an ICMP error quotes. Neither leads to the entries just made.

- `Alloc.portmap_changed`: a port is never taken without a trace in the portmap;
- `dpRemoveNetworkSnatPort_portmap_of_ne`: the release function changes no other source than that of the flow;
- **`nat64_failure_undone_iff`**: a failed translation leaves no trace only where no port was taken for it.
-/

namespace Dpservice

section Undo

variable {cf : Conf} {e : Env} {c : Config} {d : Dataplane} {m : Mbuf} {f : ℕ} {fv : FlowValue} {n n' : NatPorts}
  {r : NatRange} {df : DpFlow} {vni : Vni}

/-- A port that is taken changes the portmap entry of its source. -/
theorem Alloc.portmap_changed {p : UInt16} (h : Alloc e n r df vni (some p) n') :
    n'.portmapTbl (portmapKeyOf df vni) ≠ n.portmapTbl (portmapKeyOf df vni) := by
  cases h with
  | keep x hk _ =>
    intro heq
    dsimp only at heq
    rw [Table.add_self, hk.1, Option.some.injEq] at heq
    have hcnt := congrArg PortmapData.flowCnt heq
    simp at hcnt
  | take p ht _ _ =>
    intro heq
    dsimp only at heq
    rw [Table.add_self] at heq
    exact ht.1 _ ⟨heq.symm, ht.2.2.2⟩

theorem dpRemoveNetworkSnatPort_portmap_of_ne {k : PortmapKey} (h : k ≠ fv.portmapKey) :
    (dpRemoveNetworkSnatPort n fv).portmapTbl k = n.portmapTbl k := by
  unfold dpRemoveNetworkSnatPort
  cases fv.reply.l3Dst with
  | v6 ip => rfl
  | v4 ip =>
    dsimp only
    split
    · rfl
    · simp only [NatPorts.decUsed]
      split
      · exact Table.del_of_ne h _
      · exact Table.add_of_ne h _ _

/-- The release function does not reach the entry of an IPv6 source, as long as the flow has its first keys. -/
theorem dpRemoveNetworkSnatPort_nat64 (hrep : fv.reply = dpInvertFlowKey fv.org) (h6 : df.l3Type = .ipv6) :
    (dpRemoveNetworkSnatPort n fv).portmapTbl (portmapKeyOf df vni) = n.portmapTbl (portmapKeyOf df vni) := by
  cases hdst : fv.reply.l3Dst with
  | v6 ip =>
    unfold dpRemoveNetworkSnatPort
    rw [hdst]
  | v4 ip =>
    refine dpRemoveNetworkSnatPort_portmap_of_ne fun heq => ?_
    have hsrc : fv.org.l3Src = .v4 ip := by
      rw [← hdst, hrep]
      unfold dpInvertFlowKey
      dsimp only
      split_ifs <;> rfl
    have hkey := congrArg PortmapKey.srcIp heq
    simp [portmapKeyOf, FlowValue.portmapKey, h6, hsrc] at hkey

/-! ## The outcome of a translation -/

/-- The flow is marked as translated by NAT64. -/
def Nat64Marked (d : Dataplane) (f : ℕ) : Prop := ∃ fv, d.flows f = some fv ∧ fv.flags.srcNat64 = true

/-- A translation that fails before the flow is marked leaves the port tables and counters as they were. -/
def Nat64Undone (cf : Conf) (e : Env) (c : Config) (d : Dataplane) (m : Mbuf) (f : ℕ) (fv : FlowValue) : Prop :=
  (dpProcessIpv6Nat64 cf e c d m f fv).1 = false → ¬ Nat64Marked (dpProcessIpv6Nat64 cf e c d m f fv).2.1 f →
    (dpProcessIpv6Nat64 cf e c d m f fv).2.1.ports = d.ports

def ifaceNatRange (c : Config) (m : Mbuf) : NatRange :=
  ⟨(c.port m.port).iface.natIp, (c.port m.port).iface.natMinPort, (c.port m.port).iface.natMaxPort⟩

theorem natTurn_nat64 {r : NatRange} (h6 : m.df.l3Type = .ipv6) (h : natTurn cf e c d .snat m = some (f, fv, r)) :
    r = ifaceNatRange c m := by
  obtain ⟨-, -, -, -, -, hr⟩ := natTurn_inv h
  unfold natRangeOf at hr
  simp only [h6] at hr
  split at hr
  · exact (Option.some.inj hr).symm
  · cases hr

/-- Without a port the flow stays as it is, and the tables are those that allocation left. -/
theorem nat64Undone_no_port {x : SnatPortErr} {ports : NatPorts} (hf : d.flows f = some fv) (hp : fv.flags = {})
    (ha : dpAllocateNetworkSnatPort cf e d.ports (ifaceNatRange c m) m.df (ifaceVni c m) = (.error x, ports)) :
    Nat64Undone cf e c d m f fv ↔ ports = d.ports := by
  have heq : dpProcessIpv6Nat64 cf e c d m f fv = (false, { d with ports := ports }, m) := by
    unfold dpProcessIpv6Nat64
    unfold ifaceNatRange ifaceVni at ha
    dsimp only
    rw [ha]
  unfold Nat64Undone
  rw [heq]
  refine ⟨fun h => h rfl ?_, fun h _ _ => h⟩
  rintro ⟨fv', hf', hm⟩
  obtain rfl := Option.some.inj (hf.symm.trans hf')
  rw [hp] at hm
  cases hm

/-- With a port the translation is undone exactly where it does not have to be. -/
theorem nat64Undone_port {p : UInt16} {ports : NatPorts} (hf : d.flows f = some fv) (hp : fv.flags = {})
    (hrep : fv.reply = dpInvertFlowKey fv.org) (h6 : m.df.l3Type = .ipv6)
    (ha : dpAllocateNetworkSnatPort cf e d.ports (ifaceNatRange c m) m.df (ifaceVni c m) = (.ok p, ports)) :
    Nat64Undone cf e c d m f fv ↔ nat64Converts m = true := by
  have halloc := dpAllocateNetworkSnatPort_alloc ha
  unfold ifaceNatRange ifaceVni at ha
  unfold Nat64Undone dpProcessIpv6Nat64
  dsimp only
  rw [ha]
  dsimp only
  obtain ⟨hconv, -⟩ := dpNatChgIpv6ToIpv4Hdr_spec { m with
    df := { m.df with natPort := p, natType := .nat64SrcIp, natAddr := (c.port m.port).iface.natIp } }
    (c.port m.port).iface.natIp
  change _ = nat64Converts m at hconv
  rw [← hconv]
  split
  next m₁ hm =>
    rw [hm]
    refine ⟨fun h => ?_, fun h => by cases h⟩
    have hsame := h rfl ?_
    · have hentry := congrFun (congrArg NatPorts.portmapTbl hsame) (portmapKeyOf m.df (ifaceVni c m))
      refine absurd hentry ?_
      have hkeep : (dpRemoveNetworkSnatPort (ports.incUsed m.port) fv).portmapTbl (portmapKeyOf m.df (ifaceVni c m)) =
          ports.portmapTbl (portmapKeyOf m.df (ifaceVni c m)) := dpRemoveNetworkSnatPort_nat64 hrep h6
      exact fun heq => halloc.portmap_changed (hkeep.symm.trans heq)
    · rintro ⟨fv', hf', hmark⟩
      obtain rfl := Option.some.inj (hf.symm.trans hf')
      rw [hp] at hmark
      cases hmark
  next m₁ hm =>
    rw [hm]
    refine ⟨fun _ => rfl, fun _ hfail hmark => absurd ?_ hmark⟩
    rw [nat64Rekey_eq]
    exact ⟨_, rekeyed_flow, rfl⟩

/-- **A failed NAT64 translation is undone** only where no port was taken for it. -/
theorem nat64_failure_undone_iff {cf : Conf} {es : List Event} {s : Service} {e : Env} {m : Mbuf} {f : ℕ}
    {fv : FlowValue} {r : NatRange} (h : run (step cf) (Service.init cf) es = some s) (h6 : m.df.l3Type = .ipv6)
    (hturn : natTurn cf e s.cfg s.dpl .snat m = some (f, fv, r)) :
    Nat64Undone cf e s.cfg s.dpl m f fv ↔
      (s.dpl.ports.Asks e m.df (ifaceVni s.cfg m) → s.dpl.ports.kept r m.df (ifaceVni s.cfg m) ≠ none →
        e.ok .overloadAdd = true ∧ nat64Converts m = true) ∧
      (s.dpl.ports.Searches e r m.df (ifaceVni s.cfg m) (cf.portmapHash (portmapKeyOf m.df (ifaceVni s.cfg m))) →
        ∀ i, s.dpl.ports.Reaches r m.df (cf.portmapHash (portmapKeyOf m.df (ifaceVni s.cfg m))) i →
          candidatePort r (cf.portmapHash (portmapKeyOf m.df (ifaceVni s.cfg m))) i ≠ 0 →
          e.ok .overloadAdd = true → e.ok .portmapAdd = true ∧ nat64Converts m = true) := by
  obtain ⟨-, -, hf, hp, -, -⟩ := natTurn_inv hturn
  obtain rfl := natTurn_nat64 h6 hturn
  have hrep := ((tracked_run h).base.plain f fv hf hp).1
  rw [← dpAllocateNetworkSnatPort_iff]
  cases ha : dpAllocateNetworkSnatPort cf e s.dpl.ports (ifaceNatRange s.cfg m) m.df (ifaceVni s.cfg m) with
  | mk o ports =>
    cases o with
    | error x =>
      rw [nat64Undone_no_port hf hp ha]
      exact ⟨fun h => ⟨fun _ _ => h, fun _ h => (by cases h)⟩, fun h => h.1 x rfl⟩
    | ok p =>
      rw [nat64Undone_port hf hp hrep h6 ha]
      exact ⟨fun h => ⟨fun _ hx => (by cases hx), fun _ _ => h⟩, fun h => h.2 p rfl⟩

/-- An echo request can be converted. -/
theorem nat64_failure_undone_ping : ∃ s m f fv,
    run (step smallConf) (Service.init smallConf) (requests natSetup ++ passes (nat64Ping 1) 4) = some s ∧
      s.inflight[0]? = some (.snat, m) ∧ Nat64Undone smallConf {} s.cfg s.dpl m f fv := by
  obtain ⟨s, hs, ⟨n, m⟩, hm, rfl, h6, hconv, hturn⟩ : ∃ s,
      run (step smallConf) (Service.init smallConf) (requests natSetup ++ passes (nat64Ping 1) 4) = some s ∧
      ∃ p, s.inflight[0]? = some p ∧ p.1 = .snat ∧ p.2.df.l3Type = .ipv6 ∧ nat64Converts p.2 = true ∧
        (natTurn smallConf {} s.cfg s.dpl .snat p.2).isSome = true := by decide +kernel
  obtain ⟨⟨f, fv, r⟩, hturn⟩ := Option.isSome_iff_exists.mp hturn
  exact ⟨s, m, f, fv, hs, hm, (nat64_failure_undone_iff hs h6 hturn).mpr
    ⟨fun _ _ => ⟨rfl, hconv⟩, fun _ _ _ _ _ => ⟨rfl, hconv⟩⟩⟩

/-- An ICMPv6 destination-unreachable message from interface 7 to 64:ff9b::808:808. -/
def nat64Unreachable : Mbuf where
  port := 2
  l3 := .ipv6 0xfd00 0x0064ff9b000000000000000008080808 ipprotoIcmpv6
  l4 := { icmpType := 1, icmpIdent := 1 }

/-- The port taken for a packet that cannot be converted is not given back. -/
theorem nat64_failure_leaks : ∃ s m f fv,
    run (step smallConf) (Service.init smallConf) (requests natSetup ++ passes nat64Unreachable 4) = some s ∧
      s.inflight[0]? = some (.snat, m) ∧ (∃ r, natTurn smallConf {} s.cfg s.dpl .snat m = some (f, fv, r)) ∧
      m.df.l3Type = .ipv6 ∧ ¬ Nat64Undone smallConf {} s.cfg s.dpl m f fv := by
  obtain ⟨s, hs, ⟨n, m⟩, hm, rfl, h6, ⟨f, fv, r⟩, hturn, hfail, hunmarked, hchanged⟩ : ∃ s,
      run (step smallConf) (Service.init smallConf) (requests natSetup ++ passes nat64Unreachable 4) = some s ∧
      ∃ p, s.inflight[0]? = some p ∧ p.1 = .snat ∧ p.2.df.l3Type = .ipv6 ∧
      ∃ t, natTurn smallConf {} s.cfg s.dpl .snat p.2 = some t ∧
        (dpProcessIpv6Nat64 smallConf {} s.cfg s.dpl p.2 t.1 t.2.1).1 = false ∧
        (∀ fv ∈ (dpProcessIpv6Nat64 smallConf {} s.cfg s.dpl p.2 t.1 t.2.1).2.1.flows t.1, fv.flags.srcNat64 = false) ∧
        (dpProcessIpv6Nat64 smallConf {} s.cfg s.dpl p.2 t.1 t.2.1).2.1.ports.portmapTbl ⟨100, .v6 0xfd00, 1⟩ ≠
          s.dpl.ports.portmapTbl ⟨100, .v6 0xfd00, 1⟩ := by decide +kernel
  refine ⟨s, m, f, fv, hs, hm, ⟨r, hturn⟩, h6, fun hundone => hchanged ?_⟩
  rw [hundone hfail]
  rintro ⟨fv', hf', hmark⟩
  rw [hunmarked fv' hf'] at hmark
  cases hmark

end Undo

end Dpservice
