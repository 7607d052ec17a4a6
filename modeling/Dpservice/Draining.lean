import Mathlib.Algebra.BigOperators.Group.List.Basic
import Mathlib.Algebra.GroupWithZero.Nat
import Dpservice.NodeEffect

/-!
# Packets leave the graph

The graph has one cycle: a packet that the `lb` node sends to a target on this service goes from `ipip_encap` back to
`cls`. No node asks whether a packet has gone round before. But it comes back for a load-balancer prefix, the packets
for such a prefix do not pass the `lb` node, and requests wait until it has left.

- `nodesLeft` bounds the nodes that a packet still passes, `OnTrack` is what is known of a packet at its node.
- `runNode_nearer`: each node keeps `OnTrack` and lowers the bound.
- `graph_drains`: the nodes that all packets of a run pass.
-/

namespace Dpservice

/-- The underlay address of a load-balancer prefix of this service. -/
def localTarget (c : Config) (ul : Ip6) : Bool := (c.vnf.handleTbl ul).any (·.type == .lbAliasPfx)

/-- A bound for the nodes that a packet still passes; it is smaller for the packets to a load-balancer prefix, which do
not go round again. -/
def nodesLeft (cf : Conf) (c : Config) : Node × Mbuf → ℕ
  | (.cls, m) => if cf.isPf m.port && m.outer.any (fun o => localTarget c o.dst) then 9 else 14
  | (.ipipDecap, m) => if cf.isPf m.port && localTarget c m.df.ulDstAddr6 then 8 else 13
  | (.conntrack, m) => if cf.isPf m.port && m.df.vnfType == .lbAliasPfx then 7 else 12
  | (.lb, _) => 11
  | (.ipipEncap, m) => if m.df.natType == .lbRecirc then 10 else 2
  | (.dnat, _) => 6
  | (.ipv4Lookup, _) | (.ipv6Lookup, _) => 5
  | (.snat, _) => 4
  | (.packetRelay, _) | (.firewall, _) => 3
  | (.tx, _) => 1
  | (.arp, _) | (.ipv6Nd, _) | (.dhcp, _) | (.dhcpv6, _) | (.drop, _) => 0

/-- Only a packet that has just left the `lb` node goes round again: it came from a physical port, and its target is a
load-balancer prefix. -/
def OnTrack (cf : Conf) (c : Config) : Node × Mbuf → Prop
  | (.cls, _) => True
  | (.lb, m) => cf.isPf m.port = true ∧ m.df.natType ≠ .lbRecirc
  | (.ipipEncap, m) => m.df.natType = .lbRecirc → cf.isPf m.port = true ∧ localTarget c m.df.ulDstAddr6 = true
  | (_, m) => m.df.natType ≠ .lbRecirc

/-- The packet gets nearer to its end. -/
def Nearer (cf : Conf) (c : Config) (p p' : Node × Mbuf) : Prop :=
  OnTrack cf c p' ∧ nodesLeft cf c p' < nodesLeft cf c p

section Nodes

variable {cf : Conf} {e : Env} {c : Config} {d d' : Dataplane} {m m' : Mbuf} {n n' : Node}

/-! ## Entry -/

theorem clsNode_nearer (h : clsNode cf d m = some (d', m', n')) (hn : n'.leaves = false) :
    Nearer cf c (.cls, m) (n', m') := by
  have hplain : ∀ t : L3Type, (cf.isPf m.port = true → m.outer = none) →
      Nearer cf c (.cls, m) (.conntrack, { m with df := { l3Type := t } }) := by
    intro t hout
    refine ⟨show NatChg.none ≠ .lbRecirc by decide, ?_⟩
    by_cases hpf : cf.isPf m.port = true
    · simp [nodesLeft, hpf, hout hpf]
    · simp [nodesLeft, hpf]
  unfold clsNode at h
  split at h
  · cases h
    split at hn <;> cases hn
  · dsimp only at h
    split at h
    · cases h
      cases hn
    · split at h
      · split at h <;> cases h
        · cases hn
        next hpf => exact hplain .ipv4 fun hpf' => absurd hpf' hpf
      · split at h
        next hpf =>
          split at h
          · cases h
            cases hn
          · split at h <;> cases h
            next hout => exact hplain .ipv6 fun _ => hout
            next o hout =>
              refine ⟨show NatChg.none ≠ .lbRecirc by decide, ?_⟩
              simp only [nodesLeft, hpf, hout, Option.any_some, Bool.true_and]
              split <;> decide
        next hpf =>
          split at h <;> cases h
          · cases hn
          · exact hplain .ipv6 fun hpf' => absurd hpf' hpf

theorem ipipDecapNode_nearer (ht : OnTrack cf c (.ipipDecap, m)) (h : ipipDecapNode cf c d m = some (d', m', n'))
    (hn : n'.leaves = false) : Nearer cf c (.ipipDecap, m) (n', m') := by
  unfold ipipDecapNode at h
  split at h
  · cases h
    cases hn
  next v hv =>
    split at h <;> cases h
    · cases hn
    · refine ⟨ht, ?_⟩
      simp only [nodesLeft, localTarget, hv, Option.any_some]
      split <;> decide

/-! ## Connection tracking -/

/-- Connection tracking leaves these alone. -/
structure KeepsTypes (m : Mbuf) (df : DpFlow) : Prop where
  natType : df.natType = m.df.natType
  vnfType : df.vnfType = m.df.vnfType

theorem extract_types {hdr : L3Hdr} {l4 : L4Hdr} {df : DpFlow} (h : (m.df.extractL3 hdr).extractL4 l4 = some df) :
    KeepsTypes m df := by
  unfold DpFlow.extractL4 at h
  split at h
  · cases h
    cases hdr <;> exact ⟨rfl, rfl⟩
  · split at h <;> cases h
    cases hdr <;> exact ⟨rfl, rfl⟩

theorem GetCase.types {o : Option ℕ} {df : DpFlow} (h : GetCase cf e c d m o d' df) : KeepsTypes m df := by
  cases h with
  | noKey | failed | made => exact ⟨rfl, rfl⟩
  | cached | found =>
    rw [dpSetPktFlowDirection_eq]
    exact ⟨rfl, rfl⟩

theorem HandleCase.types {b : Bool} (h : HandleCase cf e c d m b d' m') : KeepsTypes m m'.df := by
  cases h with
  | fail h => exact h.types
  | track _ _ h => exact ⟨h.types.natType, h.types.vnfType⟩

/-- `conntrack` brings a packet nearer to its end. -/
theorem conntrackNode_nearer (ht : OnTrack cf c (.conntrack, m)) (h : conntrackNode cf e c d m = some (d', m', n'))
    (hn : n'.leaves = false) : Nearer cf c (.conntrack, m) (n', m') := by
  have hpos : 6 < nodesLeft cf c (.conntrack, m) := by
    simp only [nodesLeft]
    split <;> decide
  cases conntrackNode_cases h with
  | unread => cases hn
  | skip hdf hnext =>
    rcases hnext with rfl | rfl
    · exact ⟨fun hr => ht ((extract_types hdf).natType.symm.trans hr), hpos⟩
    · cases hn
  | @track df b _ _ hdf _ _ hh =>
    cases b with
    | false => cases hn
    | true =>
      have honce : m'.df.natType ≠ .lbRecirc := fun hr =>
        ht ((extract_types hdf).natType.symm.trans (hh.types.natType.symm.trans hr))
      have hvnf : m'.df.vnfType = m.df.vnfType := hh.types.vnfType.trans (extract_types hdf).vnfType
      simp only [if_true] at hn ⊢
      unfold conntrackNext at hn ⊢
      by_cases hpf : cf.isPf m'.port = true
      · simp only [hpf, Bool.not_true, Bool.false_eq_true, if_false] at hn ⊢
        cases hv : m'.df.vnfType with
        | lb =>
          refine ⟨⟨hpf, honce⟩, ?_⟩
          simp [nodesLeft, ← hvnf, hv]
        | vip | nat => exact ⟨honce, hpos⟩
        | lbAliasPfx | interfaceIp | aliasPfx => exact ⟨honce, Nat.lt_trans (show 3 < 6 by decide) hpos⟩
        | undefined =>
          rw [hv] at hn
          cases hn
      · simp only [hpf, Bool.not_false, if_true]
        exact ⟨honce, hpos⟩

/-! ## The other nodes -/

/-- A packet that is redirected to a target on this service goes round again. -/
theorem lbRedirect_onTrack (hpf : cf.isPf m.port = true) (target : Ip6) :
    OnTrack cf c (.ipipEncap, lbRedirect c m target) := by
  unfold lbRedirect
  dsimp only
  split
  next hl => exact fun _ => ⟨hpf, hl⟩
  · intro hr
    cases hr

theorem lbNode_nearer (ht : OnTrack cf c (.lb, m)) (h : lbNode c d m = some (d', m', n')) (hn : n'.leaves = false) :
    Nearer cf c (.lb, m) (n', m') := by
  have hredirect : ∀ target, Nearer cf c (.lb, m) (.ipipEncap, lbRedirect c m target) := by
    intro target
    refine ⟨lbRedirect_onTrack ht.1 target, ?_⟩
    simp only [nodesLeft]
    split <;> decide
  cases lbNode_cases h with
  | pass => exact ⟨ht.2, show 6 < 11 by decide⟩
  | drop | none => cases hn
  | relay => exact ⟨show NatChg.ulDstIp ≠ .lbRecirc by decide, show 3 < 11 by decide⟩
  | known | recirc | forward => exact hredirect _

theorem dnatNode_nearer (ht : OnTrack cf c (.dnat, m)) (h : dnatNode e c d m = some (d', m', n'))
    (hn : n'.leaves = false) : Nearer cf c (.dnat, m) (n', m') := by
  have honce : m'.df.natType ≠ .lbRecirc := (dnatNode_cases h).carried.once ht
  rcases (dnatNode_cases h).next with rfl | rfl | rfl | rfl
  · cases hn
  · exact ⟨honce, show 3 < 6 by decide⟩
  · exact ⟨honce, show 5 < 6 by decide⟩
  · exact ⟨honce, show 5 < 6 by decide⟩

/-- Where a packet that does not go round again is encapsulated. -/
theorem nearer_ipipEncap {p : Node × Mbuf} (honce : m.df.natType ≠ .lbRecirc) (hp : 2 < nodesLeft cf c p) :
    Nearer cf c p (.ipipEncap, m) := by
  refine ⟨fun hr => absurd hr honce, ?_⟩
  simpa [nodesLeft, honce] using hp

theorem packetRelayNode_nearer (ht : OnTrack cf c (.packetRelay, m)) (h : packetRelayNode d m = some (d', m', n'))
    (hn : n'.leaves = false) : Nearer cf c (.packetRelay, m) (n', m') := by
  obtain ⟨-, hm, rfl | rfl⟩ := packetRelayNode_cases h
  · cases hn
  · exact nearer_ipipEncap (hm.once ht) (show 2 < 3 by decide)

/-- So do the lookups. -/
theorem lookup_nearer (ht : m.df.natType ≠ .lbRecirc) (hl : n = .ipv4Lookup ∨ n = .ipv6Lookup)
    (h : ipv4LookupNode cf e c d m = some (d', m', n') ∨ ipv6LookupNode cf e c d m = some (d', m', n'))
    (hn : n'.leaves = false) : Nearer cf c (n, m) (n', m') := by
  obtain ⟨-, ⟨rfl | rfl, -⟩ | ⟨rfl, _, _, _, _, rfl⟩⟩ := lookup_cases h
  · cases hn
  · cases hn
  · rcases hl with rfl | rfl <;> exact ⟨ht, show 4 < 5 by decide⟩

theorem snatNode_nearer (ht : OnTrack cf c (.snat, m)) (h : snatNode cf e c d m = some (d', m', n'))
    (hn : n'.leaves = false) : Nearer cf c (.snat, m) (n', m') := by
  obtain ⟨hm, rfl | rfl⟩ := (snatNode_cases h).known_pkt
  · cases hn
  · exact ⟨hm.once ht, show 3 < 4 by decide⟩

theorem firewallNode_nearer (ht : OnTrack cf c (.firewall, m)) (h : firewallNode cf d m = some (d', m', n')) :
    Nearer cf c (.firewall, m) (n', m') := by
  obtain ⟨rfl, rfl, -⟩ := firewallNode_cases h
  split
  · exact nearer_ipipEncap ht (show 2 < 3 by decide)
  · exact ⟨ht, show 1 < 3 by decide⟩

/-- The packet that goes round again is one to a load-balancer prefix now. -/
theorem ipipEncapNode_nearer (ht : OnTrack cf c (.ipipEncap, m)) (h : ipipEncapNode cf c d m = some (d', m', n'))
    (hn : n'.leaves = false) : Nearer cf c (.ipipEncap, m) (n', m') := by
  unfold ipipEncapNode at h
  dsimp only at h
  split at h
  · cases h
    cases hn
  · split at h <;> cases h
    next hr =>
      obtain ⟨hpf, hl⟩ := ht hr
      refine ⟨trivial, ?_⟩
      simp [nodesLeft, hpf, hl, show m.df.natType = .lbRecirc from hr]
    next hr =>
      refine ⟨hr, ?_⟩
      simp [nodesLeft, show m.df.natType ≠ .lbRecirc from hr]

/-- **Each node brings a packet nearer to its end.** -/
theorem runNode_nearer (ht : OnTrack cf c (n, m)) (h : runNode cf e c d m n = some (d', m', n'))
    (hn : n'.leaves = false) : Nearer cf c (n, m) (n', m') := by
  cases n with
  | cls => exact clsNode_nearer h hn
  | ipipDecap => exact ipipDecapNode_nearer ht h hn
  | conntrack => exact conntrackNode_nearer ht h hn
  | lb => exact lbNode_nearer ht h hn
  | dnat => exact dnatNode_nearer ht h hn
  | packetRelay => exact packetRelayNode_nearer ht h hn
  | ipv4Lookup => exact lookup_nearer ht (.inl rfl) (.inl h) hn
  | ipv6Lookup => exact lookup_nearer ht (.inr rfl) (.inr h) hn
  | snat => exact snatNode_nearer ht h hn
  | firewall => exact firewallNode_nearer ht h
  | ipipEncap => exact ipipEncapNode_nearer ht h hn
  | tx =>
    obtain ⟨_, -, heq⟩ := Option.map_eq_some_iff.mp h
    cases heq
    cases hn
  | arp | ipv6Nd | dhcp | dhcpv6 | drop => cases h

theorem nodesLeft_pos (h : n.leaves = false) : 0 < nodesLeft cf c (n, m) := by
  cases n with
  | cls | ipipDecap | conntrack | ipipEncap =>
    simp only [nodesLeft]
    split <;> decide
  | lb | dnat | packetRelay | ipv4Lookup | ipv6Lookup | snat | firewall | tx => simp [nodesLeft]
  | arp | ipv6Nd | dhcp | dhcpv6 | drop => cases h

end Nodes

/-! ## Runs -/

def Event.isRx : Event → Bool
  | .rx _ => true
  | _ => false

def Event.isWalk : Event → Bool
  | .walk .. => true
  | _ => false

/-- The bound for all the packets in flight. -/
def Service.nodesLeft (cf : Conf) (s : Service) : ℕ := (s.inflight.map (Dpservice.nodesLeft cf s.cfg)).sum

/-- What is known of the packets in flight. -/
def Service.OnTrack (cf : Conf) (s : Service) : Prop :=
  ∀ p ∈ s.inflight, p.1.leaves = false ∧ Dpservice.OnTrack cf s.cfg p

section Runs

variable {cf : Conf} {s s' : Service} {ev : Event} {evs : List Event}

/-- A packet that passes a node is counted apart from the others. -/
theorem nodesLeft_split {i : ℕ} {p : Node × Mbuf} (f : Node × Mbuf → ℕ) {fl : List (Node × Mbuf)}
    (h : fl[i]? = some p) : (fl.map f).sum = f p + ((fl.eraseIdx i).map f).sum ∧
      ∀ q, ((fl.set i q).map f).sum = f q + ((fl.eraseIdx i).map f).sum := by
  obtain ⟨hi, rfl⟩ := List.getElem?_eq_some_iff.mp h
  exact ⟨((List.getElem_cons_eraseIdx_perm hi).map f).sum_eq.symm,
    fun q => ((List.set_perm_cons_eraseIdx hi q).map f).sum_eq⟩

/-- Packets stay on their track. -/
theorem step_onTrack (ht : s.OnTrack cf) (h : step cf s ev = some s') : s'.OnTrack cf := by
  cases step_cases h with
  | rx m ready =>
    intro p hp
    rcases List.mem_append.mp hp with hp | hp
    · exact ht p hp
    · rw [List.mem_singleton.mp hp]
      exact ⟨rfl, trivial⟩
  | @walk i e n n' m m' d hi hr =>
    intro p hp
    rcases mem_inflight_walk hp with hp | ⟨hleave, rfl⟩
    · exact ht p hp
    · exact ⟨hleave, (runNode_nearer (ht (n, m) (List.mem_of_getElem? hi)).2 hr hleave).1⟩
  | request idle | flowAging idle =>
    intro p hp
    rw [show _ = s.inflight from rfl, idle] at hp
    cases hp

/-- A step passes one node or receives one packet, or it does neither. -/
theorem step_nodesLeft (ht : s.OnTrack cf) (h : step cf s ev = some s') :
    ev.isWalk.toNat + s'.nodesLeft cf ≤ s.nodesLeft cf + 14 * ev.isRx.toNat := by
  cases step_cases h with
  | rx m ready =>
    have hnew : nodesLeft cf s.cfg (.cls, { m with isRecirc := false }) ≤ 14 := by
      simp only [nodesLeft]
      split <;> decide
    simp only [Service.nodesLeft, List.map_append, List.sum_append, List.map_cons, List.map_nil, List.sum_cons,
      List.sum_nil, Event.isWalk, Event.isRx, Bool.toNat_false, Bool.toNat_true]
    omega
  | @walk i e n n' m m' d hi hr =>
    obtain ⟨hsum, hset⟩ := nodesLeft_split (nodesLeft cf s.cfg) hi
    have hp := ht (n, m) (List.mem_of_getElem? hi)
    have hpos : 0 < nodesLeft cf s.cfg (n, m) := nodesLeft_pos hp.1
    simp only [Service.nodesLeft, Event.isWalk, Event.isRx, Bool.toNat_true, Bool.toNat_false]
    split
    · omega
    next hleave =>
      have hless := (runNode_nearer hp.2 hr (Bool.eq_false_iff.mpr hleave)).2
      have hnew := hset (n', m')
      omega
  | request idle | flowAging idle => simp [Service.nodesLeft, idle, Event.isWalk]

/-- The nodes passed in a run, and those still to be passed. -/
theorem run_nodesLeft (ht : s.OnTrack cf) (h : run (step cf) s evs = some s') : s'.OnTrack cf ∧
    evs.countP Event.isWalk + s'.nodesLeft cf ≤ s.nodesLeft cf + 14 * evs.countP Event.isRx := by
  induction evs generalizing s with
  | nil =>
    cases h
    exact ⟨ht, by simp⟩
  | cons ev evs ih =>
    obtain ⟨s₁, hs, hrun⟩ := Option.bind_eq_some_iff.mp h
    obtain ⟨ht', hrest⟩ := ih (step_onTrack ht hs) hrun
    have hstep := step_nodesLeft ht hs
    refine ⟨ht', ?_⟩
    rw [List.countP_cons, List.countP_cons]
    cases hw : ev.isWalk <;> cases hx : ev.isRx <;> simp [hw, hx] at hstep ⊢ <;> omega

theorem length_le_nodesLeft (ht : s.OnTrack cf) : s.inflight.length ≤ s.nodesLeft cf := by
  have hone : ∀ k ∈ s.inflight.map (nodesLeft cf s.cfg), 1 ≤ k := by
    intro k hk
    obtain ⟨⟨n, m⟩, hp, rfl⟩ := List.mem_map.mp hk
    exact nodesLeft_pos (ht (n, m) hp).1
  have hle := List.length_le_sum_of_one_le _ hone
  rwa [List.length_map] at hle

end Runs

/-- **Packets leave the graph**: in a run, however the packets, requests and timers follow each other, the packets pass
at most 14 nodes for each one that was received, those included that are still in flight. -/
theorem graph_drains {cf : Conf} {evs : List Event} {s : Service}
    (h : run (step cf) (Service.init cf) evs = some s) :
    evs.countP Event.isWalk + s.inflight.length ≤ 14 * evs.countP Event.isRx := by
  have ht : (Service.init cf).OnTrack cf := fun p hp => absurd hp List.not_mem_nil
  obtain ⟨ht', hle⟩ := run_nodesLeft ht h
  have hlen := length_le_nodesLeft ht'
  have hinit : (Service.init cf).nodesLeft cf = 0 := rfl
  omega

/-- A service whose underlay addresses can be those of targets. -/
def recircConf : Conf := { smallConf with underlayIp := 0xfd000000000000000000000000000001 }

/-- The target of load balancer 1 is a load-balancer prefix of interface 7; a packet for the load balancer comes in. -/
def recircRun : List Event :=
  requests (smallSetup ++ [.createLoadBalancerPrefix 7 (.v4 0x0a000005) 32,
    .createLb 1 100 (.v4 0x0a000005) [⟨ipprotoTcp, 80⟩], .createLbtarget 1 (.v6 0xfd000000000000000000000000000002)]) ++
  passes { tcpPacket with
    port := 0
    outer := some ⟨9, 0xfd000000000000000000000000000003⟩
    l3 := .ipv4 0x08080808 0x0a000005 ipprotoTcp
    l4 := { srcPort := 1000, dstPort := 80, tcpSyn := true } } 10

/-- The packet goes round once and leaves after ten nodes. -/
theorem graph_drains_round : ∃ s, run (step recircConf) (Service.init recircConf) recircRun = some s ∧ s.inflight = [] ∧
    recircRun.countP Event.isWalk = 10 ∧ recircRun.countP Event.isWalk + s.inflight.length ≤ 14 := by
  refine exists_some_imp (P := fun s => s.inflight = []) (by decide +kernel) ?_
  intro s hs hempty
  exact ⟨hempty, by decide, graph_drains hs⟩

end Dpservice
