import Dpservice.Turns

/-!
# What each node can do

One inversion lemma for each node: the ways it can end, with what it found and what it makes of the state and of its
packet. What is said about nodes later on is a case analysis of these.

- `Carried` is what rewriting a packet leaves alone;
- `GetCase`, `HandleCase` and `ConntrackCase` for connection tracking;
- `LbCase`, `DnatCase` and `SnatCase` for the nodes that translate; `NatCase` is network NAT, for IPv4 and for NAT64.
-/

namespace Dpservice

/-! ## Packets -/

/-- The packet still points to its flow and has its direction and port, and it does not ask for a rule unless it did
before. -/
structure SameFlow (m m' : Mbuf) : Prop where
  conntrack : m'.df.conntrack = m.df.conntrack
  dir : m'.df.flowDir = m.df.flowDir
  offload : m'.df.offloadState = .install → m.df.offloadState = .install
  port : m'.port = m.port

/-- The packet also keeps the VNI it carries, and is not made one that goes round again. -/
structure Carried (m m' : Mbuf) : Prop extends SameFlow m m' where
  dstVni : m'.df.dstVni = m.df.dstVni
  once : m.df.natType ≠ .lbRecirc → m'.df.natType ≠ .lbRecirc

/-- The IPv6 destination in the private data is that of the header. -/
def Hdr6 (m : Mbuf) : Prop := ∀ src dst proto, m.l3 = .ipv6 src dst proto → m.df.l3Type = .ipv6 → m.df.dstAddr6 = dst

section Packets

variable {m m' : Mbuf} {fv : FlowValue}

/-- Packets that agree in flow, direction, offload state and port. -/
theorem SameFlow.of_eq (h : m'.df.conntrack = m.df.conntrack) (hd : m'.df.flowDir = m.df.flowDir)
    (ho : m'.df.offloadState = m.df.offloadState) (hp : m'.port = m.port) : SameFlow m m' :=
  ⟨h, hd, fun hi => ho ▸ hi, hp⟩

theorem SameFlow.refl (m : Mbuf) : SameFlow m m := .of_eq rfl rfl rfl rfl

theorem SameFlow.trans {m₁ m₂ m₃ : Mbuf} (h : SameFlow m₁ m₂) (h' : SameFlow m₂ m₃) : SameFlow m₁ m₃ :=
  ⟨h'.conntrack.trans h.conntrack, h'.dir.trans h.dir, h.offload ∘ h'.offload, h'.port.trans h.port⟩

theorem SameFlow.lbRedirect (c : Config) (m : Mbuf) (target : Ip6) : SameFlow m (lbRedirect c m target) := by
  unfold Dpservice.lbRedirect
  dsimp only
  split <;> exact .of_eq rfl rfl rfl rfl

/-- A packet with the same private data is carried. -/
theorem Carried.of_df (h : m'.df = m.df) (hp : m'.port = m.port) : Carried m m' :=
  ⟨.of_eq (by rw [h]) (by rw [h]) (by rw [h]) hp, by rw [h], by rw [h]; exact id⟩

theorem Carried.refl (m : Mbuf) : Carried m m := .of_df rfl rfl

theorem Carried.trans {m₁ m₂ m₃ : Mbuf} (h : Carried m₁ m₂) (h' : Carried m₂ m₃) : Carried m₁ m₃ :=
  ⟨h.toSameFlow.trans h'.toSameFlow, h'.dstVni.trans h.dstVni, h'.once ∘ h.once⟩

theorem Carried.setNat (m : Mbuf) {t : NatChg} (ht : t ≠ .lbRecirc) (addr : Ip4) : Carried m (m.setNat t addr) :=
  ⟨.of_eq rfl rfl rfl rfl, rfl, fun _ => ht⟩

/-- A relayed packet is marked. -/
theorem Carried.relay (m : Mbuf) : Carried m { m with df := { m.df with natType := .ulDstIp } } :=
  ⟨.of_eq rfl rfl rfl rfl, rfl, fun _ => nofun⟩

@[simp] theorem setDst4_df (m : Mbuf) (ip : Ip4) : (m.setDst4 ip).df = m.df := by
  unfold Mbuf.setDst4
  split <;> rfl

@[simp] theorem setSrc4_df (m : Mbuf) (ip : Ip4) : (m.setSrc4 ip).df = m.df := by
  unfold Mbuf.setSrc4
  split <;> rfl

theorem Carried.setSrc4 (m : Mbuf) (ip : Ip4) : Carried m (m.setSrc4 ip) := by
  refine .of_df (setSrc4_df m ip) ?_
  unfold Mbuf.setSrc4
  split <;> rfl

theorem Carried.setDst4 (m : Mbuf) (ip : Ip4) : Carried m (m.setDst4 ip) := by
  refine .of_df (setDst4_df m ip) ?_
  unfold Mbuf.setDst4
  split <;> rfl

theorem Carried.dnatRewrite (m : Mbuf) (ip : Ip4) : Carried m (dnatRewrite m ip) :=
  (Carried.setDst4 m ip).trans ⟨.of_eq rfl rfl rfl rfl, rfl, fun _ => nofun⟩

theorem Carried.snatL4 (m : Mbuf) (port : UInt16) : Carried m (snatL4 m port) := by
  unfold Dpservice.snatL4
  dsimp only
  split <;> exact ⟨.of_eq rfl rfl rfl rfl, rfl, id⟩

theorem Carried.echoReply (m : Mbuf) : Carried m (echoReply m) := by
  unfold Dpservice.echoReply
  dsimp only
  split <;> exact ⟨.of_eq rfl rfl rfl rfl, rfl, id⟩

theorem Carried.ipv6ToIpv4 (m : Mbuf) (ip : Ip4) : Carried m (dpNatChgIpv6ToIpv4Hdr m ip).2 := by
  unfold dpNatChgIpv6ToIpv4Hdr
  dsimp only
  repeat' split
  all_goals exact ⟨.of_eq rfl rfl rfl rfl, rfl, id⟩

theorem Carried.ipv4ToIpv6 (m : Mbuf) (ip : Ip6) : Carried m (dpNatChgIpv4ToIpv6Hdr m ip).2 := by
  unfold dpNatChgIpv4ToIpv6Hdr
  dsimp only
  repeat' split
  all_goals exact ⟨.of_eq rfl rfl rfl rfl, rfl, id⟩

/-- Restoring a port or identifier touches neither the addresses nor the private data. -/
theorem dnatReplyL4_eq {vm : Ip4} (h : dnatReplyL4 m fv vm = some m') : m'.df = m.df ∧ m'.l3 = m.l3 ∧
    m'.port = m.port := by
  unfold dnatReplyL4 at h
  repeat' split at h
  all_goals cases h
  all_goals exact ⟨rfl, rfl, rfl⟩

theorem Carried.dnatReply64L4 (m : Mbuf) (fv : FlowValue) : Carried m (dnatReply64L4 m fv) := by
  unfold Dpservice.dnatReply64L4
  repeat' split
  all_goals exact .of_df rfl rfl

/-- Only the IPv6 header and the private data matter. -/
theorem Hdr6.of_eq (h : Hdr6 m) (hl3 : m'.l3 = m.l3) (ht : m'.df.l3Type = m.df.l3Type)
    (hd : m'.df.dstAddr6 = m.df.dstAddr6) : Hdr6 m' := by
  intro src dst proto h3 h6
  rw [hl3] at h3
  rw [ht] at h6
  rw [hd]
  exact h src dst proto h3 h6

theorem Hdr6.setDst4 (h : Hdr6 m) (ip : Ip4) : Hdr6 (m.setDst4 ip) := by
  unfold Mbuf.setDst4
  cases hm : m.l3 with
  | ipv4 s d p => nofun
  | ipv6 s d p => exact h

theorem Hdr6.dnatRewrite (h : Hdr6 m) (ip : Ip4) : Hdr6 (dnatRewrite m ip) := (h.setDst4 ip).of_eq rfl rfl rfl

/-- The packet that a reply to a NAT64 flow becomes. -/
theorem Hdr6.ipv4ToIpv6 {addr : Ip6} (h : dpNatChgIpv4ToIpv6Hdr m addr = (true, m')) : Hdr6 m' := by
  have hv6 : ∀ {src proto}, m'.l3 = .ipv6 src addr proto → m'.df.dstAddr6 = addr → Hdr6 m' := by
    intro src proto hl3 hdst src' dst' proto' hl3' _
    rw [hl3] at hl3'
    cases hl3'
    exact hdst
  unfold dpNatChgIpv4ToIpv6Hdr at h
  dsimp only at h
  repeat' split at h
  all_goals cases h
  all_goals exact hv6 rfl rfl

end Packets

/-! ## Entry -/

section Entry

variable {cf : Conf} {c : Config} {d d' : Dataplane} {m m' : Mbuf} {n' : Node}

/-- A packet leaves the model, or goes to connection tracking or to decapsulation without a flow. -/
theorem clsNode_cases (h : clsNode cf d m = some (d', m', n')) : d' = d ∧ m'.port = m.port ∧ (n'.leaves = true ∨
    n' = .conntrack ∧ m' = { m with df := { l3Type := m.frontHdr.type } } ∨
    n' = .ipipDecap ∧ cf.isPf m.port = true ∧ m'.df.conntrack = none) := by
  unfold clsNode at h
  split at h
  · cases h
    refine ⟨rfl, rfl, .inl ?_⟩
    split <;> rfl
  · dsimp only at h
    split at h
    · cases h
      exact ⟨rfl, rfl, .inl rfl⟩
    · split at h
      next hl3 =>
        split at h <;> cases h
        · exact ⟨rfl, rfl, .inl rfl⟩
        · exact ⟨rfl, rfl, .inr (.inl ⟨rfl, by rw [show m.frontHdr.type = _ from congrArg L3Hdr.type hl3]; rfl⟩)⟩
      next hl3 =>
        have ht : m.frontHdr.type = .ipv6 := congrArg L3Hdr.type hl3
        rw [ht]
        split at h
        next hpf =>
          split at h
          · cases h
            exact ⟨rfl, rfl, .inl rfl⟩
          · split at h <;> cases h
            · exact ⟨rfl, rfl, .inr (.inl ⟨rfl, rfl⟩)⟩
            · exact ⟨rfl, rfl, .inr (.inr ⟨rfl, hpf, rfl⟩)⟩
        · split at h <;> cases h
          · exact ⟨rfl, rfl, .inl rfl⟩
          · exact ⟨rfl, rfl, .inr (.inl ⟨rfl, rfl⟩)⟩

theorem ipipDecapNode_cases (h : ipipDecapNode cf c d m = some (d', m', n')) : d' = d ∧ SameFlow m m' ∧
    (n' = .drop ∨ n' = .conntrack) := by
  unfold ipipDecapNode at h
  repeat' split at h
  all_goals cases h
  · exact ⟨rfl, .refl m, .inl rfl⟩
  · exact ⟨rfl, .refl m, .inl rfl⟩
  · exact ⟨rfl, .of_eq rfl rfl rfl rfl, .inr rfl⟩

end Entry

/-! ## Connection tracking -/

/-- How the flow of a packet is found or made. -/
inductive GetCase (cf : Conf) (e : Env) (c : Config) (d : Dataplane) (m : Mbuf) : Option ℕ → Dataplane → DpFlow → Prop
  /-- No key could be built. -/
  | noKey (key : FlowKey) : GetCase cf e c d m none { d with cache := d.cache.setCurr key } m.df
  /-- The cached flow has this key. -/
  | cached (key : FlowKey) (f : ℕ) (fv : FlowValue) (hkey : dpBuildFlowKey cf c d.cache.currBuf m = (true, key))
      (hit : (d.cache.prevValid && key == d.cache.prevBuf) = true) (hc : d.cache.cachedFlowVal = some f)
      (hf : d.flows f = some fv) :
      GetCase cf e c d m (some f)
        ({ d with cache := d.cache.setCurr key }.setFlow f
          (dpSetFlowOffloadFlag cf m.port fv (dpSetPktFlowDirection key fv m.df)))
        (dpSetPktFlowDirection key fv m.df)
  /-- The table has a flow under this key. -/
  | found (key : FlowKey) (f : ℕ) (fv : FlowValue) (hkey : dpBuildFlowKey cf c d.cache.currBuf m = (true, key))
      (hit : (d.cache.prevValid && key == d.cache.prevBuf) = false) (ht : d.flowTbl key = some f)
      (hf : d.flows f = some fv) :
      GetCase cf e c d m (some f)
        { d.setFlow f (dpSetFlowOffloadFlag cf m.port fv (dpSetPktFlowDirection key fv m.df)) with
          cache := dpCacheFlowVal (d.cache.setCurr key) f }
        (dpSetPktFlowDirection key fv m.df)
  /-- A flow could not be made; the key may have been entered and deleted again. -/
  | failed {d' : Dataplane} (key : FlowKey) (miss : d.flowTbl key = none)
      (hd : d' = { d with cache := d.cache.setCurr key } ∨
        d' = dpDeleteFlow { d with cache := d.cache.setCurr key } key) :
      GetCase cf e c d m none d' m.df
  /-- A flow was made for this key. -/
  | made {d' : Dataplane} (key : FlowKey) (hkey : dpBuildFlowKey cf c d.cache.currBuf m = (true, key))
      (hit : (d.cache.prevValid && key == d.cache.prevBuf) = false) (miss : d.flowTbl key = none)
      (ok : (e.ok .flowAlloc && e.ok .flowAddOrg && e.ok .flowAddInv) = true)
      (hd : d' = dpAddFlow (dpAddFlow { d with
        cache := d.cache.setCurr key
        flows := d.flows.add d.nextFlow (newFlowValue cf c key m.df m.port)
        nextFlow := d.nextFlow + 1 } key d.nextFlow) (dpInvertFlowKey key) d.nextFlow) :
      GetCase cf e c d m (some d.nextFlow) { d' with cache := dpCacheFlowVal d'.cache d.nextFlow }
        { m.df with flowDir := .org }

inductive HandleCase (cf : Conf) (e : Env) (c : Config) (d : Dataplane) (m : Mbuf) : Bool → Dataplane → Mbuf → Prop
  | fail {d' : Dataplane} {df : DpFlow} (h : GetCase cf e c d m none d' df) :
      HandleCase cf e c d m false d' { m with df := df }
  | track {d' : Dataplane} {df : DpFlow} (f : ℕ) (fv : FlowValue) (h : GetCase cf e c d m (some f) d' df)
      (hf : d'.flows f = some fv) : HandleCase cf e c d m true (d'.setFlow f (trackFlow cf e m df fv)) { m with
        df := { df with
          conntrack := some f
          offloadState := if df.flowDir = .org then (trackFlow cf e m df fv).offloadOrig
            else (trackFlow cf e m df fv).offloadReply } }

def isDhcp (df : DpFlow) : Prop :=
  df.l4Type = ipprotoUdp ∧
    (df.l3Type = .ipv4 ∧ df.dstPort = bootpSrvPort ∨ df.l3Type = .ipv6 ∧ df.dstPort = dhcpv6ServerPort)

inductive ConntrackCase (cf : Conf) (e : Env) (c : Config) (d : Dataplane) (m : Mbuf) : Dataplane → Mbuf → Node → Prop
  /-- The headers cannot be read. -/
  | unread : ConntrackCase cf e c d m d m .drop
  /-- The packet is for a DHCP server, or connection tracking is disabled. -/
  | skip {df : DpFlow} {n' : Node} (hdf : (m.df.extractL3 m.frontHdr).extractL4 m.l4 = some df)
      (hn : n' = .dnat ∨ n' = .dhcpv6) : ConntrackCase cf e c d m d { m with df := df } n'
  | track {df : DpFlow} {b : Bool} {d' : Dataplane} {m' : Mbuf}
      (hdf : (m.df.extractL3 m.frontHdr).extractL4 m.l4 = some df) (hen : cf.conntrackEnabled = true)
      (hdhcp : ¬isDhcp df) (h : HandleCase cf e c d { m with df := df } b d' m') :
      ConntrackCase cf e c d m d' m' (if b then conntrackNext cf m' else .drop)

section Conntrack

variable {cf : Conf} {e : Env} {c : Config} {d d' : Dataplane} {m m' : Mbuf} {n' : Node}

theorem flowTableInsertEntry_cases {key : FlowKey} {df : DpFlow} {p : PortId} {o : Option ℕ}
    (h : flowTableInsertEntry cf e c d key df p = (o, d')) :
    o = none ∧ (d' = d ∨ d' = dpDeleteFlow d key) ∨
      o = some d.nextFlow ∧ (e.ok .flowAlloc && e.ok .flowAddOrg && e.ok .flowAddInv) = true ∧
        d' = dpAddFlow (dpAddFlow { d with
          flows := d.flows.add d.nextFlow (newFlowValue cf c key df p)
          nextFlow := d.nextFlow + 1 } key d.nextFlow) (dpInvertFlowKey key) d.nextFlow := by
  unfold flowTableInsertEntry at h
  split at h
  · cases h
    exact .inl ⟨rfl, .inl rfl⟩
  · split at h <;> cases h
    · exact .inl ⟨rfl, .inr rfl⟩
    · exact .inr ⟨rfl, by simp_all, rfl⟩

/-- How a lookup ends. -/
theorem dpGetFlowVal_cases {o : Option ℕ} {df : DpFlow} (h : dpGetFlowVal cf e c d m = some (o, d', df)) :
    GetCase cf e c d m o d' df := by
  unfold dpGetFlowVal at h
  dsimp only at h
  generalize hkey : dpBuildFlowKey cf c d.cache.currBuf m = b at h
  obtain ⟨ok, key⟩ := b
  dsimp only at h
  rw [FlowCache.setCurr_prevValid, FlowCache.setCurr_hit] at h
  split at h
  · cases h
    exact .noKey key
  next hok =>
    obtain rfl : ok = true := by simpa using hok
    split at h
    next hit =>
      split at h
      · cases h
      next f hc =>
        obtain ⟨r, hk, heq⟩ := Option.map_eq_some_iff.mp h
        cases heq
        unfold dpKnownFlow at hk
        split at hk <;> cases hk
        next fv hf => exact .cached key f fv hkey hit hc hf
    next hit =>
      have hit := Bool.eq_false_iff.mpr hit
      split at h
      next f ht =>
        obtain ⟨r, hk, heq⟩ := Option.map_eq_some_iff.mp h
        cases heq
        unfold dpKnownFlow at hk
        split at hk <;> cases hk
        next fv hf => exact .found key f fv hkey hit ht hf
      next miss =>
        split at h
        next hi =>
          cases h
          obtain ⟨-, hd⟩ | ⟨ho, -⟩ := flowTableInsertEntry_cases hi
          · exact .failed key miss hd
          · cases ho
        next hi =>
          cases h
          obtain ⟨ho, -⟩ | ⟨ho, ok, hd⟩ := flowTableInsertEntry_cases hi
          · cases ho
          · cases ho
            exact .made key hkey hit miss ok hd

/-- How connection tracking ends. -/
theorem dpCntrackHandle_cases {b : Bool} (h : dpCntrackHandle cf e c d m = some (b, d', m')) :
    HandleCase cf e c d m b d' m' := by
  unfold dpCntrackHandle at h
  split at h
  · cases h
  next hg =>
    cases h
    exact .fail (dpGetFlowVal_cases hg)
  next f d₁ df hg =>
    split at h <;> cases h
    next fv hf => exact .track f fv (dpGetFlowVal_cases hg) hf

/-- What the `conntrack` node does. -/
theorem conntrackNode_cases (h : conntrackNode cf e c d m = some (d', m', n')) : ConntrackCase cf e c d m d' m' n' := by
  unfold conntrackNode at h
  split at h
  · cases h
    exact .unread
  next df hdf =>
    dsimp only at h
    split at h
    · cases h
      exact .skip hdf (.inl rfl)
    next h4 =>
      split at h
      · cases h
        exact .skip hdf (.inr rfl)
      next h6 =>
        have hdhcp : ¬isDhcp df := by
          rintro ⟨hu, ⟨ht, hp⟩ | ⟨ht, hp⟩⟩
          · exact h4 ⟨ht, hu, hp⟩
          · exact h6 ⟨ht, hu, hp⟩
        split at h
        · cases h
          exact .skip hdf (.inl rfl)
        next hen =>
          have hen : cf.conntrackEnabled = true := by simpa using hen
          split at h <;> cases h
          next hh => exact .track hdf hen hdhcp (dpCntrackHandle_cases hh)
          next hh => exact .track hdf hen hdhcp (dpCntrackHandle_cases hh)

/-- A tracked packet is translated, balanced, filtered or dropped. -/
theorem conntrackNext_cases (cf : Conf) (m : Mbuf) : conntrackNext cf m = .dnat ∨ conntrackNext cf m = .lb ∨
    conntrackNext cf m = .firewall ∨ conntrackNext cf m = .drop := by
  unfold conntrackNext
  split
  · exact .inl rfl
  · cases m.df.vnfType <;> simp

end Conntrack

/-! ## Load balancing and relaying -/

inductive LbCase (c : Config) (d : Dataplane) (m : Mbuf) : Dataplane → Mbuf → Node → Prop
  | pass : LbCase c d m d m .dnat
  | drop : LbCase c d m d m .drop
  | relay : LbCase c d m d { m with df := { m.df with natType := .ulDstIp } } .packetRelay
  /-- The flow has a target. -/
  | known (f : ℕ) (fv : FlowValue) (hc : m.df.conntrack = some f) (hf : d.flows f = some fv)
      (hlb : fv.flags.dstLb = true) : LbCase c d m d (lbRedirect c m fv.underlayDst) .ipipEncap
  /-- There is no target for a new flow. -/
  | none (f : ℕ) (fv : FlowValue) (s : LbState)
      (hb : dpLbGetBackendIp d.lb fv.org.l3Dst fv.org.portDst fv.org.proto (pktVni c m) = some (none, s)) :
      LbCase c d m { d with lb := s } m .drop
  /-- The target of a new flow is on this service. -/
  | recirc (f : ℕ) (fv : FlowValue) (s : LbState) (target : Ip6) (hp : plainFlow d m = some (f, fv))
      (hb : dpLbGetBackendIp d.lb fv.org.l3Dst fv.org.portDst fv.org.proto (pktVni c m) = some (some target, s)) :
      LbCase c d m ({ d with lb := s }.setFlow f { fv with
        underlayDst := target, flags := { fv.flags with dstLb := true }, natType := .lbRecirc })
        (lbRedirect c m target) .ipipEncap
  /-- The target of a new flow is elsewhere. -/
  | forward (f : ℕ) (fv : FlowValue) (s : LbState) (target : Ip6) (hp : plainFlow d m = some (f, fv))
      (turn : relayTurn c d .lb m = some (f, fv))
      (hb : dpLbGetBackendIp d.lb fv.org.l3Dst fv.org.portDst fv.org.proto (pktVni c m) = some (some target, s)) :
      LbCase c d m (dpRelayFlow ({ d with lb := s }.setFlow f { fv with
        underlayDst := target, flags := { fv.flags with dstLb := true }, natType := .lbForward }) f fv.reply)
        (lbRedirect c m target) .ipipEncap

section Lb

variable {c : Config} {d d' : Dataplane} {m m' : Mbuf} {n' : Node}

/-- What the `lb` node does. -/
theorem lbNode_cases (h : lbNode c d m = some (d', m', n')) : LbCase c d m d' m' n' := by
  unfold lbNode at h
  split at h
  · cases h
    exact .pass
  next f hc =>
    split at h
    · cases h
      exact .pass
    next hen =>
      split at h
      · cases h
      next fv hf =>
        split at h
        next hnew =>
          obtain ⟨hflags, hd, hlb⟩ := hnew
          have hp := plainFlow_eq hc hf hflags hd
          unfold lbNewFlow at h
          split at h
          · cases h
            exact .relay
          · split at h
            · cases h
              exact .drop
            · split at h
              · cases h
              next hb =>
                cases h
                exact .none f fv _ hb
              next hb =>
                dsimp only at h
                split at h <;> cases h
                · exact .recirc f fv _ _ hp hb
                · refine .forward f fv _ _ hp ?_ hb
                  simp_all [relayTurn, lbForwards, Option.filter]
        · split at h
          next hlb =>
            cases h
            exact .known f fv hc hf hlb.1
          · split at h <;> cases h
            · exact .relay
            · exact .pass

/-- What the `packet_relay` node does. -/
theorem packetRelayNode_cases (h : packetRelayNode d m = some (d', m', n')) : d' = d ∧ Carried m m' ∧
    (n' = .drop ∨ n' = .ipipEncap) := by
  unfold packetRelayNode at h
  dsimp only at h
  repeat' split at h
  all_goals cases h
  · exact ⟨rfl, .refl m, .inl rfl⟩
  · exact ⟨rfl, ⟨.of_eq rfl rfl rfl rfl, rfl, id⟩, .inr rfl⟩
  · exact ⟨rfl, .echoReply m, .inr rfl⟩
  · exact ⟨rfl, .refl m, .inl rfl⟩
  · exact ⟨rfl, .echoReply m, .inr rfl⟩
  · exact ⟨rfl, .refl m, .inl rfl⟩
  · exact ⟨rfl, .refl m, .inl rfl⟩

end Lb

/-! ## Destination NAT -/

/-- The state after the flow `f` lost the key `old` and was entered under the reply key of `fv'`. -/
def rekeyed (e : Env) (d : Dataplane) (f : ℕ) (fv' : FlowValue) (old : FlowKey) : Dataplane :=
  let d := (dpDeleteFlow d old).setFlow f fv'
  if e.ok .flowAddReply then dpAddFlow d fv'.reply f else d

/-- What `dnat` does with a packet of a flow that it has seen before. -/
structure DnatKnown (fv : FlowValue) (d : Dataplane) (m : Mbuf) (d' : Dataplane) (m' : Mbuf) (n' : Node) : Prop where
  state : d' = d
  carried : Carried m m'
  next : n' = .drop ∨ n' = .packetRelay ∨ n' = .ipv4Lookup ∨ n' = .ipv6Lookup
  same : n' ≠ .drop → n' ≠ .packetRelay → fv.flags = {} → m' = m
  hdr6 : n' ≠ .drop → Hdr6 m → Hdr6 m'

inductive DnatCase (e : Env) (c : Config) (d : Dataplane) (m : Mbuf) : Dataplane → Mbuf → Node → Prop
  | out : DnatCase e c d m d m (dnatOut m)
  | known {d' : Dataplane} {m' : Mbuf} {n' : Node} (f : ℕ) (fv : FlowValue) (hc : m.df.conntrack = some f)
      (hf : d.flows f = some fv) (h : DnatKnown fv d m d' m' n') : DnatCase e c d m d' m' n'
  /-- A new flow to an address without NAT, or to a NAT port that nobody has. -/
  | pass {n' : Node} (hn : n' = .ipv4Lookup ∨ n' = .drop) : DnatCase e c d m d m n'
  /-- An echo request to a NAT address. -/
  | echo (f : ℕ) (fv : FlowValue) (hp : plainFlow d m = some (f, fv)) :
      DnatCase e c d m (d.setFlow f { fv with natType := .asTarget }) m .packetRelay
  | relay (f : ℕ) (fv : FlowValue) (ul : Ip6) (hp : plainFlow d m = some (f, fv))
      (turn : relayTurn c d .dnat m = some (f, fv)) : DnatCase e c d m
        (dpRelayFlow (d.setFlow f { fv with natType := .networkNeigh, nfL4Type := m.df.l4Type, underlayDst := ul }) f
          fv.reply)
        { m with df := { m.df with natType := .ulDstIp } } .packetRelay
  | vip (f : ℕ) (fv : FlowValue) (ip : Ip4) (hp : plainFlow d m = some (f, fv))
      (turn : ∀ cf, vipTurn cf e c d .dnat m = some (f, fv, { fv.reply with l3Src := .v4 ip })) : DnatCase e c d m
        (rekeyed e d f { fv with
          flags := { fv.flags with dstNat := true }, reply := { fv.reply with l3Src := .v4 ip } } fv.reply)
        (dnatRewrite m ip) (if e.ok .flowAddReply then .ipv4Lookup else .drop)

section Dnat

variable {e : Env} {c : Config} {d d' : Dataplane} {m m' m₁ : Mbuf} {n' : Node} {f : ℕ} {fv : FlowValue}

/-- A dropped packet. -/
theorem DnatKnown.drop (h : Carried m m') : DnatKnown fv d m d m' .drop :=
  ⟨rfl, h, .inl rfl, fun hn => absurd rfl hn, fun hn => absurd rfl hn⟩

/-- A translated flow whose packet was changed before. -/
theorem DnatKnown.of_pkt (hflags : fv.flags ≠ {}) (hm : Carried m m₁) (h6 : Hdr6 m → Hdr6 m₁)
    (h : DnatKnown fv d m₁ d' m' n') : DnatKnown fv d m d' m' n' :=
  ⟨h.state, hm.trans h.carried, h.next, fun _ _ hp => absurd hp hflags, fun hn hm => h.hdr6 hn (h6 hm)⟩

theorem dnatOut_next (m : Mbuf) : dnatOut m = .drop ∨ dnatOut m = .ipv4Lookup ∨ dnatOut m = .ipv6Lookup := by
  unfold dnatOut
  split
  · exact .inr (.inl rfl)
  · exact .inr (.inr rfl)
  · exact .inl rfl

theorem dnatReply64_known (h : dnatReply64 d m fv = some (d', m', n')) : DnatKnown fv d m d' m' n' := by
  unfold dnatReply64 at h
  split at h
  next hc =>
    have hflags : fv.flags ≠ {} := fun hp => by simp [hp] at hc
    have hl4 : Carried m (dnatReply64L4 (m.setNat .nat64DstIp m.df.dstAddr) fv) :=
      (Carried.setNat m (t := .nat64DstIp) nofun _).trans (.dnatReply64L4 _ fv)
    dsimp only at h
    split at h
    · cases h
      exact .drop hl4
    next vm _ =>
      have hconv := hl4.trans (.ipv4ToIpv6 _ vm)
      split at h
      next heq =>
        cases h
        rw [heq] at hconv
        exact .drop hconv
      next heq =>
        cases h
        rw [heq] at hconv
        exact ⟨rfl, hconv, .inr (.inr (.inr rfl)), fun _ _ hp => absurd hp hflags, fun _ _ => .ipv4ToIpv6 heq⟩
  · cases h
    exact ⟨rfl, .refl m, (dnatOut_next m).imp_right .inr, fun _ _ _ => rfl, fun _ => id⟩

theorem dnatReply_known (h : dnatReply d m fv = some (d', m', n')) : DnatKnown fv d m d' m' n' := by
  unfold dnatReply at h
  split at h
  next hc =>
    split at h
    · cases h
      exact .drop (.refl m)
    next vm _ =>
      split at h
      · cases h
        exact .drop (.refl m)
      next m₁ hs =>
        obtain ⟨hdf, hl3, hport⟩ := dnatReplyL4_eq hs
        have hm₁ : Carried m m₁ := (Carried.setDst4 m vm).trans (.of_df hdf hport)
        refine .of_pkt (fun hp => by simp [hp] at hc) (hm₁.trans (.dnatRewrite m₁ vm)) (fun hm => ?_)
          (dnatReply64_known h)
        exact ((hm.setDst4 vm).of_eq hl3 (by rw [hdf]) (by rw [hdf])).dnatRewrite vm
  · exact dnatReply64_known h

/-- A flow that `dnat` has seen before. -/
theorem dnatKnownFlow_known (h : dnatKnownFlow d m fv = some (d', m', n')) : DnatKnown fv d m d' m' n' := by
  unfold dnatKnownFlow at h
  split at h
  · cases h
    exact ⟨rfl, .relay m, .inr (.inl rfl), fun _ hn => absurd rfl hn, fun _ hm => hm⟩
  · split at h
    · cases h
      exact ⟨rfl, .refl m, .inr (.inl rfl), fun _ hn => absurd rfl hn, fun _ hm => hm⟩
    · split at h
      next hc =>
        split at h
        · cases h
          exact .drop (.refl m)
        next ip _ =>
          exact .of_pkt (fun hp => by simp [hp] at hc) (.dnatRewrite m ip) (·.dnatRewrite ip) (dnatReply_known h)
      · exact dnatReply_known h

/-- What the `dnat` node does. -/
theorem dnatNode_cases (h : dnatNode e c d m = some (d', m', n')) : DnatCase e c d m d' m' n' := by
  unfold dnatNode at h
  split at h
  · cases h
    exact .out
  next f hc =>
    split at h
    · cases h
    next fv hf =>
      split at h
      next hnew =>
        obtain ⟨hflags, hd, ht⟩ := hnew
        have hp := plainFlow_eq hc hf hflags hd
        unfold dnatNewFlow at h
        split at h
        · cases h
          exact .pass (.inl rfl)
        next ip hip =>
          split at h
          next hzero =>
            subst hzero
            split at h
            · cases h
              exact .echo f fv hp
            next hecho =>
              split at h <;> cases h
              · exact .pass (.inr rfl)
              next ul hul =>
                refine .relay f fv ul hp ?_
                simp_all [relayTurn, dnatRelays, Option.filter]
          next hne =>
            have hturn : ∀ cf, vipTurn cf e c d .dnat m = some (f, fv, { fv.reply with l3Src := .v4 ip }) := by
              intro cf
              simpa [vipTurn, ht, hp, hip, Option.filter] using hne
            have hcase := DnatCase.vip f fv ip hp hturn
            unfold rekeyed at hcase
            dsimp only at h hcase
            split at h <;> cases h
            next hok =>
              rw [if_pos hok, if_pos hok] at hcase
              exact hcase
            next hok =>
              rw [if_neg hok, if_neg hok] at hcase
              exact hcase
      · exact .known f fv hc hf (dnatKnownFlow_known h)

end Dnat

/-! ## Routing -/

section Routing

variable {cf : Conf} {e : Env} {c : Config} {d d' : Dataplane} {m m' : Mbuf} {n' : Node}

/-- Routing drops a packet, or sets where it goes and the VNI it goes to. -/
theorem routePacket_eq {r : Route} {b : Bool} {pf : PortId} (h : routePacket cf e d m r b pf = some (d', m', n')) :
    d' = d ∧ (n' = .drop ∧ m' = m ∨ n' = .snat ∧ ∃ ul vni ft nh,
      m' = { m with df := { m.df with ulDstAddr6 := ul, dstVni := vni, flowType := ft, nxtHop := nh } }) := by
  unfold routePacket at h
  split at h
  · cases h
    exact ⟨rfl, .inl ⟨rfl, rfl⟩⟩
  · cases h
    refine ⟨rfl, .inr ⟨rfl, ?_⟩⟩
    cases cf.isPf r.nh <;> cases cf.isPf m.port <;> exact ⟨_, _, _, _, rfl⟩

/-- What the two lookup nodes do. -/
theorem lookup_cases (h : ipv4LookupNode cf e c d m = some (d', m', n') ∨
    ipv6LookupNode cf e c d m = some (d', m', n')) :
    d' = d ∧ ((n' = .drop ∨ n' = .dhcp) ∧ m' = m ∨ n' = .snat ∧ ∃ ul vni ft nh,
      m' = { m with df := { m.df with ulDstAddr6 := ul, dstVni := vni, flowType := ft, nxtHop := nh } }) := by
  rcases h with h | h
  · unfold ipv4LookupNode at h
    split at h
    · cases h
      exact ⟨rfl, .inl ⟨.inr rfl, rfl⟩⟩
    · split at h
      · cases h
        exact ⟨rfl, .inl ⟨.inl rfl, rfl⟩⟩
      · exact (routePacket_eq h).imp_right (·.imp_left (·.imp_left .inl))
  · unfold ipv6LookupNode at h
    dsimp only at h
    split at h
    · cases h
      exact ⟨rfl, .inl ⟨.inl rfl, rfl⟩⟩
    · exact (routePacket_eq h).imp_right (·.imp_left (·.imp_left .inl))

end Routing

/-! ## Source NAT -/

/-- The port of a translated packet: the source port, or the identifier of an echo packet. -/
def L4Hdr.setNatPort (h : L4Hdr) (icmp : Bool) (p : UInt16) : L4Hdr :=
  if icmp then { h with icmpIdent := p } else { h with srcPort := p }

/-- What network NAT makes of the value of a flow; `icmp` for a flow whose packets are ICMP ones from then on. -/
structure NatValue (vni : Vni) (icmp : Bool) (fv fv' : FlowValue) : Prop where
  org : fv'.org = fv.org
  created : fv'.createdPortId = fv.createdPortId
  isLocal : fv'.natType = .networkLocal
  vni : fv'.nfVni = vni
  refs : fv'.refCount = fv.refCount ∧ fv'.aged = fv.aged ∧ fv'.rteAgeCtxs = fv.rteAgeCtxs
  tcp : fv'.tcp = fv.tcp
  marked : icmp = true → fv'.offloadOrig = .offloaded ∧ fv'.offloadReply = .offloaded
  unmarked : icmp = false → fv'.offloadOrig = fv.offloadOrig ∧ fv'.offloadReply = fv.offloadReply

/-- The packet that network NAT makes: the header is rewritten, then the port. -/
structure NatPacket (m : Mbuf) (natIp : Ip4) (p : UInt16) (m' : Mbuf) : Prop where
  carried : Carried m m'
  icmp : natL4Type m = ipprotoIcmp → m'.df.offloadState ≠ .install
  hdr : ∃ m₁, (m.df.l3Type = .ipv4 → m₁.l3 = (m.setSrc4 natIp).l3 ∧ m₁.l4 = m.l4 ∧ m₁.df.l4Type = m.df.l4Type) ∧
    (m.df.l3Type = .ipv6 → dpNatChgIpv6ToIpv4Hdr { m with
      df := { m.df with natPort := p, natType := .nat64SrcIp, natAddr := natIp } } natIp = (true, m₁)) ∧
    m'.l3 = m₁.l3 ∧ m'.l4 = m₁.l4.setNatPort (m₁.df.l4Type == ipprotoIcmp) p ∧ m'.df.l4Type = m₁.df.l4Type

/-- How network NAT of a new flow ends; `r` is the range of its ports. -/
inductive NatCase (cf : Conf) (e : Env) (c : Config) (d : Dataplane) (m : Mbuf) (f : ℕ) (fv : FlowValue)
    (r : NatRange) : Bool → Dataplane → Mbuf → Prop
  /-- No port was to be had; the flow may already be marked as one with a VIP. -/
  | full {d' : Dataplane} {m' : Mbuf} {ports : NatPorts} {t : FlowNatType}
      (alloc : Alloc e d.ports r m.df (ifaceVni c m) none ports) (ht : t = .vip ∨ t = fv.natType)
      (hd : d' = { d with ports := ports }.setFlow f { fv with natType := t }) (hm : Carried m m') :
      NatCase cf e c d m f fv r false d' m'
  /-- The packet cannot be converted. -/
  | unconverted {m' : Mbuf} {ports : NatPorts} {p : UInt16} (l3Type : m.df.l3Type = .ipv6)
      (alloc : Alloc e d.ports r m.df (ifaceVni c m) (some p) ports) (conv : nat64Converts m = false)
      (hm : Carried m m') :
      NatCase cf e c d m f fv r false
        { d with ports := (dpRemoveNetworkSnatPort (ports.incUsed m.port) fv).decUsed m.port } m'
  | done {m' : Mbuf} {ports : NatPorts} {p : UInt16} {fv' : FlowValue}
      (alloc : Alloc e d.ports r m.df (ifaceVni c m) (some p) ports)
      (conv : m.df.l3Type = .ipv6 → nat64Converts m = true)
      (value : NatValue (ifaceVni c m) (natL4Type m == ipprotoIcmp) fv fv')
      (reply : fv'.reply = natReply m fv r.natIp p)
      (flags : fv'.flags =
        if m.df.l3Type = .ipv6 then { fv.flags with srcNat64 := true } else { fv.flags with srcNat := true })
      (hm : NatPacket m r.natIp p m') :
      NatCase cf e c d m f fv r (e.ok .flowAddReply)
        (rekeyed e { d with ports := ports.incUsed m.port } f fv' (natOldReply m fv)) m'

/-- What `snat` does with a packet whose translation is known. -/
structure SnatKnown (d : Dataplane) (m : Mbuf) (d' : Dataplane) (m' : Mbuf) (n' : Node) : Prop where
  state : d' = d
  carried : Carried m m'
  next : n' = .drop ∨ n' = .firewall

inductive SnatCase (cf : Conf) (e : Env) (c : Config) (d : Dataplane) (m : Mbuf) : Dataplane → Mbuf → Node → Prop
  | known {d' : Dataplane} {m' : Mbuf} {n' : Node} (h : SnatKnown d m d' m' n') : SnatCase cf e c d m d' m' n'
  /-- A new flow of an interface with a VIP. -/
  | vip {m' : Mbuf} {n' : Node} (f : ℕ) (fv : FlowValue) (ip : Ip4) (hp : plainFlow d m = some (f, fv))
      (turn : vipTurn cf e c d .snat m = some (f, fv, snatReply fv.reply ip none)) (carried : Carried m m')
      (next : n' = .drop ∨ n' = .firewall) : SnatCase cf e c d m
        (rekeyed e d f { fv with
          natType := .vip, flags := { fv.flags with srcNat := true }, reply := snatReply fv.reply ip none } fv.reply) m'
            n'
  /-- A new flow of an interface with network NAT; an IPv4 packet then goes the way of known flows. -/
  | nat {d' : Dataplane} {m₁ m' : Mbuf} {n' : Node} {b : Bool} (f : ℕ) (fv : FlowValue) (r : NatRange)
      (hp : plainFlow d m = some (f, fv)) (turn : natTurn cf e c d .snat m = some (f, fv, r))
      (h : NatCase cf e c d m f fv r b d' m₁) (carried : Carried m₁ m') (next : n' = .drop ∨ n' = .firewall)
      (goes : n' = .firewall → b = true ∧ (m.df.l3Type = .ipv6 → m' = m₁) ∧ (m.df.l3Type = .ipv4 →
        ∃ fv', d'.flows f = some fv' ∧ snatKnownFlow c d' m₁ fv' = some (d', m', n'))) : SnatCase cf e c d m d' m' n'

section Snat

variable {cf : Conf} {e : Env} {c : Config} {d d' : Dataplane} {m m' : Mbuf} {n' : Node} {f : ℕ} {fv fv' : FlowValue}
  {b : Bool} {r : NatRange}

/-- The new reply key of a flow, for IPv4. -/
theorem snatRekey_eq (ip : Ip4) (port : Option UInt16) : snatRekey e d m f fv ip port =
    (e.ok .flowAddReply, rekeyed e d f { fv with
      flags := { fv.flags with srcNat := true }
      reply := snatReply fv.reply ip port } fv.reply, m.setNat .srcIp ip) := by
  unfold snatRekey rekeyed
  dsimp only
  split
  next h => rw [h]
  next h => rw [Bool.eq_false_iff.mpr h]

/-- The same for NAT64. -/
theorem nat64Rekey_eq (dst natIp : Ip4) (port : UInt16) : nat64Rekey e d m f fv dst natIp port =
    (e.ok .flowAddReply, rekeyed e d f { fv with
      flags := { fv.flags with srcNat64 := true }
      reply := nat64Reply fv.reply m.df.l4Type dst natIp port } (nat64OldReply fv.reply m.df.l4Type), m) := by
  unfold nat64Rekey rekeyed
  dsimp only
  split
  next h => rw [h]
  next h => rw [Bool.eq_false_iff.mpr h]

@[simp] theorem rekeyed_ports {old : FlowKey} : (rekeyed e d f fv' old).ports = d.ports := by
  unfold rekeyed
  split <;> rfl

@[simp] theorem rekeyed_relayed {old : FlowKey} : (rekeyed e d f fv' old).relayed = d.relayed := by
  unfold rekeyed
  split <;> rfl

theorem rekeyed_lb {old : FlowKey} : (rekeyed e d f fv' old).lb = d.lb := by
  unfold rekeyed
  split <;> rfl

/-- Only one flow gets another value. -/
theorem rekeyed_flows {old : FlowKey} : (rekeyed e d f fv' old).flows = d.flows.add f fv' := by
  unfold rekeyed
  split <;> rfl

@[simp] theorem rekeyed_flow {old : FlowKey} : (rekeyed e d f fv' old).flows f = some fv' := by
  rw [rekeyed_flows, Table.add_self]

theorem setSrc4_twice (m : Mbuf) (a b : Ip4) :
    (m.setSrc4 a).l4 = m.l4 ∧ ((m.setSrc4 a).setSrc4 b).l3 = (m.setSrc4 b).l3 := by
  cases h : m.l3 <;> simp [Mbuf.setSrc4, h]

/-- The flow is then entered under another reply key. -/
theorem NatValue.rekey {vni : Vni} (h : NatValue vni b fv fv') (flags : FlowFlags) (reply : FlowKey) :
    NatValue vni b fv { fv' with flags := flags, reply := reply } :=
  ⟨h.org, h.created, h.isLocal, h.vni, h.refs, h.tcp, h.marked, h.unmarked⟩

/-- A flow whose translation is known. -/
theorem snatKnownFlow_known (h : snatKnownFlow c d m fv = some (d', m', n')) : SnatKnown d m d' m' n' := by
  unfold snatKnownFlow at h
  dsimp only at h
  split at h
  · cases h
    exact ⟨rfl, .refl m, .inl rfl⟩
  next m₁ h₁ =>
    have hs₁ : Carried m m₁ := by
      split at h₁
      · split at h₁ <;> cases h₁
        refine .trans ?_ ((Carried.setSrc4 _ _).trans (.setNat _ (t := .srcIp) nofun _))
        split
        · exact .snatL4 m _
        · exact .refl m
      · cases h₁
        exact .refl m
    split at h
    · cases h
      exact ⟨rfl, hs₁, .inl rfl⟩
    next m₂ h₂ =>
      have hs₂ : Carried m m₂ := by
        refine hs₁.trans ?_
        split at h₂
        · split at h₂ <;> cases h₂
          refine .trans ?_ ((Carried.setSrc4 _ _).trans (.setNat _ (t := .srcIp) nofun _))
          exact ⟨.of_eq rfl rfl rfl rfl, rfl, id⟩
        · cases h₂
          exact .refl m₁
      split at h
      · have hconv := hs₂.trans (.ipv6ToIpv4 m₂ (c.port m₂.port).iface.natIp)
        split at h
        next heq =>
          cases h
          rw [heq] at hconv
          exact ⟨rfl, hconv, .inl rfl⟩
        next m₃ heq =>
          cases h
          rw [heq] at hconv
          refine ⟨rfl, hconv.trans (.trans ?_ (.setNat _ (t := .nat64SrcIp) nofun _)), .inr rfl⟩
          split
          · exact .snatL4 m₃ _
          · exact .refl m₃
      · cases h
        exact ⟨rfl, hs₂, .inr rfl⟩

theorem snatL4_hdr (m : Mbuf) (p : UInt16) : (snatL4 m p).l3 = m.l3 ∧
    (snatL4 m p).l4 = m.l4.setNatPort (m.df.l4Type == ipprotoIcmp) p ∧ (snatL4 m p).df.l4Type = m.df.l4Type := by
  unfold snatL4 L4Hdr.setNatPort
  by_cases hi : m.df.l4Type = ipprotoIcmp
  · simp [hi, Mbuf.setIcmpIdent]
  · simp [hi, Mbuf.setSrcPort]

/-- Setting the port of a packet and marking it and its flow, as IPv4 and NAT64 do it. -/
theorem snatNoOffload_nat {m₁ q : Mbuf} {v : FlowValue} {l4 : UInt8} (p : UInt16) (t : FlowNatType) (vni : Vni)
    (l4Type : UInt8) (hl : m₁.df.l4Type = l4) (h : snatNoOffload (snatL4 m₁ p) { fv with natType := t } = (q, v)) :
    NatValue vni (l4 == ipprotoIcmp) fv { v with natType := .networkLocal, nfVni := vni, nfL4Type := l4Type } ∧
      v.reply = fv.reply ∧ v.flags = fv.flags ∧ Carried m₁ q ∧ (l4 = ipprotoIcmp → q.df.offloadState ≠ .install) ∧
      q.l3 = m₁.l3 ∧ q.l4 = m₁.l4.setNatPort (m₁.df.l4Type == ipprotoIcmp) p ∧ q.df.l4Type = m₁.df.l4Type := by
  obtain ⟨h3, h4, ht⟩ := snatL4_hdr m₁ p
  have hl4 := Carried.snatL4 m₁ p
  unfold snatNoOffload at h
  rw [ht, hl] at h
  split at h
  next hi =>
    cases h
    refine ⟨⟨rfl, rfl, rfl, rfl, ⟨rfl, rfl, rfl⟩, rfl, fun _ => ⟨rfl, rfl⟩, fun hn => by simp [hi] at hn⟩, rfl, rfl,
      hl4.trans ⟨⟨rfl, rfl, nofun, rfl⟩, rfl, id⟩, fun _ => nofun, h3, h4, ht⟩
  next hi =>
    cases h
    exact ⟨⟨rfl, rfl, rfl, rfl, ⟨rfl, rfl, rfl⟩, rfl, fun hn => by simp [hi] at hn, fun _ => ⟨rfl, rfl⟩⟩, rfl, rfl, hl4,
      fun hn => absurd hn hi, h3, h4, ht⟩

/-- When a packet is converted, and the protocol it then has. -/
theorem dpNatChgIpv6ToIpv4Hdr_spec (m : Mbuf) (ip : Ip4) :
    (dpNatChgIpv6ToIpv4Hdr m ip).1 = nat64Converts m ∧
      ((dpNatChgIpv6ToIpv4Hdr m ip).1 = true →
        (dpNatChgIpv6ToIpv4Hdr m ip).2.df.l4Type = nat64L4Type m.df.l4Type) := by
  unfold dpNatChgIpv6ToIpv4Hdr nat64Converts nat64L4Type
  cases hl3 : m.l3 with
  | ipv4 src dst proto => simp [L3Hdr.type]
  | ipv6 src dst proto =>
    cases hs : m.canShrink with
    | false => simp [L3Hdr.type]
    | true =>
      by_cases htu : m.df.l4Type = ipprotoTcp ∨ m.df.l4Type = ipprotoUdp
      · rcases htu with h | h <;> simp +decide [L3Hdr.type, h]
      · obtain ⟨h1, h2⟩ := not_or.mp htu
        by_cases h6 : m.df.l4Type = ipprotoIcmpv6
        · by_cases hq : m.l4.icmpType = icmpv6EchoRequest
          · simp +decide [L3Hdr.type, h6, hq]
          · by_cases hr : m.l4.icmpType = icmpv6EchoReply <;> simp +decide [L3Hdr.type, h6, hq, hr]
        · simp [L3Hdr.type, h1, h2, h6]

/-- `dp_process_ipv4_snat` is the translation to a VIP, or network NAT. -/
theorem dpProcessIpv4Snat_cases {sd : SnatData} (ht : m.df.l3Type = .ipv4)
    (h : dpProcessIpv4Snat cf e c d m f fv sd = (b, d', m')) :
    sd.natIp = 0 ∧ Carried m m' ∧ b = e.ok .flowAddReply ∧ d' = rekeyed e d f { fv with
        natType := if sd.vipIp = 0 then fv.natType else .vip
        flags := { fv.flags with srcNat := true }, reply := snatReply fv.reply sd.vipIp none } fv.reply ∨
      sd.natIp ≠ 0 ∧ NatCase cf e c d m f fv sd.natRange b d' m' := by
  -- the VIP only changes the source address, which NAT replaces again, and the NAT type
  obtain ⟨m₂, hm₂, hcar, hdf, hport, hl4, hsrc⟩ : ∃ m₂, (if sd.vipIp ≠ 0 then m.setSrc4 sd.vipIp else m) = m₂ ∧
      Carried m m₂ ∧ m₂.df = m.df ∧ m₂.port = m.port ∧ m₂.l4 = m.l4 ∧
        (m₂.setSrc4 sd.natIp).l3 = (m.setSrc4 sd.natIp).l3 := by
    refine ⟨_, rfl, ?_⟩
    split
    · exact ⟨.setSrc4 m _, setSrc4_df m _, (Carried.setSrc4 m _).port, setSrc4_twice m _ _⟩
    · exact ⟨.refl m, rfl, rfl, rfl, rfl⟩
  have hfv : (if sd.vipIp ≠ 0 then { fv with natType := .vip } else fv) =
      { fv with natType := if sd.vipIp = 0 then fv.natType else .vip } := by
    rw [ite_not]
    split <;> rfl
  unfold dpProcessIpv4Snat at h
  dsimp only at h
  rw [hm₂, hfv, hdf, hport] at h
  split at h
  next hnat =>
    rw [snatRekey_eq] at h
    cases h
    exact .inl ⟨hnat, hcar.trans (.setNat _ (t := .srcIp) nofun _), rfl, rfl⟩
  next hnat =>
    refine .inr ⟨hnat, ?_⟩
    split at h
    next err ports ha =>
      cases h
      refine .full (dpAllocateNetworkSnatPort_alloc ha) ?_ rfl hcar
      split
      · exact .inr rfl
      · exact .inl rfl
    next p ports ha =>
      generalize hq : snatNoOffload _ _ = q at h
      obtain ⟨q, v⟩ := q
      have h6 : m.df.l3Type ≠ .ipv6 := by rw [ht]; nofun
      have hl4t : (m₂.setSrc4 sd.natIp).df.l4Type = natL4Type m := by rw [setSrc4_df, hdf, natL4Type, if_neg h6]
      obtain ⟨hval, hrep, hflags, hqc, hicmp, h3, h4, hqt⟩ :=
        snatNoOffload_nat p _ (c.port m.port).iface.vni m.df.l4Type hl4t hq
      rw [snatRekey_eq] at h
      cases h
      have hold : natOldReply m fv = v.reply := (if_neg h6).trans hrep.symm
      dsimp only
      rw [← hold]
      refine .done (dpAllocateNetworkSnatPort_alloc ha) (fun h => absurd h h6) (hval.rekey _ _) ?_ ?_
        ⟨?_, hicmp, _, fun _ => ?_, fun h => absurd h h6, h3, h4, hqt⟩
      · rw [natReply, if_neg h6, natOldReply, if_neg h6]
        rfl
      · rw [if_neg h6]
        dsimp only
        rw [hflags]
      · exact (hcar.trans ((Carried.setSrc4 _ _).trans hqc)).trans (.setNat _ (t := .srcIp) nofun _)
      · exact ⟨hsrc, (setSrc4_twice m₂ _ 0).1.trans hl4, by rw [setSrc4_df, hdf]⟩

/-- How NAT64 ends. -/
theorem dpProcessIpv6Nat64_cases (ht : m.df.l3Type = .ipv6) (hf : d.flows f = some fv)
    (h : dpProcessIpv6Nat64 cf e c d m f fv = (b, d', m')) :
    NatCase cf e c d m f fv (c.port m.port).iface.natRange b d' m' := by
  unfold dpProcessIpv6Nat64 at h
  dsimp only at h
  split at h
  next err ports ha =>
    cases h
    refine .full (t := fv.natType) (dpAllocateNetworkSnatPort_alloc ha) (.inr rfl) ?_ (.refl m)
    have hsame : d.flows = d.flows.add f fv := (Function.update_eq_self_iff.mpr hf.symm).symm
    unfold Dataplane.setFlow
    dsimp only
    rw [← hsame]
  next p ports ha =>
    have halloc := dpAllocateNetworkSnatPort_alloc ha
    obtain ⟨hconv, hl4⟩ := dpNatChgIpv6ToIpv4Hdr_spec { m with
      df := { m.df with natPort := p, natType := .nat64SrcIp, natAddr := (c.port m.port).iface.natIp } }
      (c.port m.port).iface.natIp
    change _ = nat64Converts m at hconv
    have hcar : Carried m (dpNatChgIpv6ToIpv4Hdr { m with
        df := { m.df with natPort := p, natType := .nat64SrcIp, natAddr := (c.port m.port).iface.natIp } }
        (c.port m.port).iface.natIp).2 := by
      refine .trans ?_ (.ipv6ToIpv4 _ _)
      exact ⟨.of_eq rfl rfl rfl rfl, rfl, fun _ => nofun⟩
    split at h
    next m₁ hm =>
      cases h
      rw [hm] at hconv hcar
      exact .unconverted ht halloc hconv.symm hcar
    next m₁ hm =>
      rw [hm] at hconv hcar hl4
      generalize hq : snatNoOffload _ _ = q at h
      obtain ⟨q, v⟩ := q
      have hl4t : m₁.df.l4Type = natL4Type m := (hl4 rfl).trans (if_pos ht).symm
      obtain ⟨hval, hrep, hflags, hqc, hicmp, h3, h4, hqt⟩ : NatValue _ _ fv _ ∧ _ :=
        snatNoOffload_nat p fv.natType (c.port m.port).iface.vni m₁.df.l4Type hl4t hq
      have hqt' : q.df.l4Type = nat64L4Type m.df.l4Type := hqt.trans (hl4 rfl)
      rw [nat64Rekey_eq] at h
      cases h
      have hold : natOldReply m fv = nat64OldReply v.reply q.df.l4Type := by rw [natOldReply, if_pos ht, hrep, hqt']
      dsimp only
      rw [← hold]
      refine .done halloc (fun _ => hconv.symm) (hval.rekey _ _) ?_ ?_
        ⟨hcar.trans hqc, hicmp, m₁, fun h4 => ?_, fun _ => hm, h3, h4, hqt⟩
      · rw [natReply, if_pos ht]
        dsimp only
        rw [hrep, hqt']
        rfl
      · rw [if_pos ht]
        dsimp only
        rw [hflags]
      · rw [ht] at h4
        cases h4

/-- What the `snat` node does. -/
theorem snatNode_cases (h : snatNode cf e c d m = some (d', m', n')) : SnatCase cf e c d m d' m' n' := by
  unfold snatNode at h
  dsimp only at h
  split at h
  · cases h
    exact .known ⟨rfl, .refl m, .inl rfl⟩
  next hmeter =>
    split at h
    · cases h
      exact .known ⟨rfl, .refl m, .inr rfl⟩
    next f hc =>
      split at h
      · cases h
      next fv hf =>
        split at h
        next hnew =>
          obtain ⟨hflags, hd, hsn⟩ := hnew
          have hp := plainFlow_eq hc hf hflags hd
          have hlv : leavesVni cf e c m = true := by
            by_contra hlv
            apply hmeter
            simpa [leavesVni, hsn, and_assoc] using hlv
          split at h
          next ht =>
            split at h
            · exact .known (snatKnownFlow_known h)
            next sd hsd =>
              split at h
              · exact .known (snatKnownFlow_known h)
              next hne =>
                have hafter : ∀ {b d₁ m₁}, dpProcessIpv4Snat cf e c d m f fv sd = (b, d₁, m₁) → d' = d₁ →
                    Carried m₁ m' →
                    (n' = .drop ∨ n' = .firewall) → (n' = .firewall → b = true ∧ ∃ fv', d₁.flows f = some fv' ∧
                      snatKnownFlow c d₁ m₁ fv' = some (d', m', n')) → SnatCase cf e c d m d' m' n' := by
                  intro b d₁ m₁ hs hd₁ hcar hnext hgoes
                  subst hd₁
                  obtain ⟨hnat, hcar', -, rfl⟩ | ⟨hnat, hcase⟩ := dpProcessIpv4Snat_cases ht hs
                  · have hv : sd.vipIp ≠ 0 := fun hv => hne ⟨hv, hnat⟩
                    rw [if_neg hv]
                    refine .vip f fv sd.vipIp hp ?_ (hcar'.trans hcar) hnext
                    simpa [vipTurn, ht, hp, hlv, hsd, hnat, Option.filter] using hv
                  · have hr : natRangeOf c m = some sd.natRange := by
                      simpa [natRangeOf, SnatData.natRange, ht, hsd, Option.filter] using hnat
                    refine .nat f fv _ hp (by simp [natTurn, hlv, hp, hr]) hcase hcar hnext fun hn => ?_
                    exact ⟨(hgoes hn).1, fun h6 => absurd (ht.symm.trans h6) nofun, fun _ => (hgoes hn).2⟩
                split at h
                next hs =>
                  cases h
                  exact hafter hs rfl (.refl _) (.inl rfl) nofun
                next d₁ m₁ hs =>
                  split at h
                  · cases h
                  next fv₁ hf₁ =>
                    obtain ⟨hst, hcar, hnext⟩ := snatKnownFlow_known h
                    exact hafter hs hst hcar hnext fun _ => ⟨rfl, fv₁, hf₁, h⟩
          next ht =>
            split at h
            next hnat =>
              have hr : natRangeOf c m = some (c.port m.port).iface.natRange := by
                simp only [natRangeOf, Iface.natRange, ht, hnat, ne_eq, not_false_eq_true, and_self, if_true]
              have hturn : natTurn cf e c d .snat m = some (f, fv, (c.port m.port).iface.natRange) := by
                simp [natTurn, hlv, hp, hr]
              split at h
              next hs =>
                cases h
                exact .nat f fv _ hp hturn (dpProcessIpv6Nat64_cases ht hf hs) (.refl _) (.inl rfl) nofun
              next hs =>
                cases h
                refine .nat f fv _ hp hturn (dpProcessIpv6Nat64_cases ht hf hs) (.refl _) (.inr rfl) fun _ => ?_
                exact ⟨rfl, fun _ => rfl, fun h4 => absurd (ht.symm.trans h4) nofun⟩
            · exact .known (snatKnownFlow_known h)
          · exact .known (snatKnownFlow_known h)
        · exact .known (snatKnownFlow_known h)

/-- Network NAT keeps the flow of a packet. -/
theorem NatCase.carried (h : NatCase cf e c d m f fv r b d' m') : Carried m m' := by
  cases h with
  | full _ _ _ hm => exact hm
  | unconverted _ _ _ hm => exact hm
  | done _ _ _ _ _ hm => exact hm.carried

theorem SnatCase.known_pkt (h : SnatCase cf e c d m d' m' n') : Carried m m' ∧ (n' = .drop ∨ n' = .firewall) := by
  cases h with
  | known h => exact ⟨h.carried, h.next⟩
  | vip _ _ _ _ _ hm hn => exact ⟨hm, hn⟩
  | nat _ _ _ _ _ h hm hn => exact ⟨h.carried.trans hm, hn⟩

end Snat

/-! ## Exit -/

section Exit

variable {cf : Conf} {e : Env} {c : Config} {d d' : Dataplane} {m m' : Mbuf} {n' : Node}

/-- What the `firewall` node does. -/
theorem firewallNode_cases (h : firewallNode cf d m = some (d', m', n')) :
    m' = m ∧ n' = (if cf.isPf m.df.nxtHop then .ipipEncap else .tx) ∧ (d' = d ∨ ∃ f fv, m.df.conntrack = some f ∧
      d.flows f = some fv ∧ d' = d.setFlow f { fv with flags := { fv.flags with firewall := true } }) := by
  unfold firewallNode at h
  dsimp only at h
  split at h
  · cases h
    exact ⟨rfl, rfl, .inl rfl⟩
  next f hc =>
    split at h
    · cases h
    next fv hf =>
      split at h <;> cases h
      · exact ⟨rfl, rfl, .inr ⟨f, fv, hc, hf, rfl⟩⟩
      · exact ⟨rfl, rfl, .inl rfl⟩

/-- What the `ipip_encap` node does. -/
theorem ipipEncapNode_cases (h : ipipEncapNode cf c d m = some (d', m', n')) : d' = d ∧ (n' = .drop ∧ m' = m ∨
    (n' = .cls ∧ m.df.natType = .lbRecirc ∨ n' = .tx ∧ m.df.natType ≠ .lbRecirc) ∧ ∃ proto o r,
      m' = { m with df := { m.df with tunProtoId := proto }, outer := o, isRecirc := r }) := by
  unfold ipipEncapNode at h
  dsimp only at h
  split at h
  · cases h
    exact ⟨rfl, .inl ⟨rfl, rfl⟩⟩
  · split at h <;> cases h
    next hr => exact ⟨rfl, .inr ⟨.inl ⟨rfl, hr⟩, _, _, _, rfl⟩⟩
    next hr => exact ⟨rfl, .inr ⟨.inr ⟨rfl, hr⟩, _, _, _, rfl⟩⟩

end Exit

/-! ## The packet along the nodes -/

section All

variable {cf : Conf} {e : Env} {c : Config} {d d' : Dataplane} {m m' : Mbuf} {n n' : Node}

theorem LbCase.same (h : LbCase c d m d' m' n') : SameFlow m m' := by
  cases h with
  | pass | drop | none => exact .refl m
  | relay => exact .of_eq rfl rfl rfl rfl
  | known | recirc | forward => exact .lbRedirect c m _

theorem DnatCase.carried (h : DnatCase e c d m d' m' n') : Carried m m' := by
  cases h with
  | out | pass | echo => exact .refl m
  | known _ _ _ _ h => exact h.carried
  | relay => exact .relay m
  | vip _ _ ip => exact .dnatRewrite m ip

theorem DnatCase.next (h : DnatCase e c d m d' m' n') :
    n' = .drop ∨ n' = .packetRelay ∨ n' = .ipv4Lookup ∨ n' = .ipv6Lookup := by
  cases h with
  | out => exact (dnatOut_next m).imp_right .inr
  | known _ _ _ _ h => exact h.next
  | pass hn =>
    rcases hn with rfl | rfl
    · exact .inr (.inr (.inl rfl))
    · exact .inl rfl
  | echo | relay => exact .inr (.inl rfl)
  | vip =>
    split
    · exact .inr (.inr (.inl rfl))
    · exact .inl rfl

/-- **A packet keeps its flow**, its direction and its port, except where it is classified and where it is tracked. -/
theorem runNode_same (hn : n ≠ .cls) (hcon : n ≠ .conntrack) (h : runNode cf e c d m n = some (d', m', n')) :
    SameFlow m m' := by
  have hroute : ∀ {m'}, (∃ ul vni ft nh, m' = { m with
      df := { m.df with ulDstAddr6 := ul, dstVni := vni, flowType := ft, nxtHop := nh } }) → SameFlow m m' := by
    rintro _ ⟨ul, vni, ft, nh, rfl⟩
    exact .of_eq rfl rfl rfl rfl
  cases n with
  | cls => exact absurd rfl hn
  | conntrack => exact absurd rfl hcon
  | ipipDecap => exact (ipipDecapNode_cases h).2.1
  | lb => exact (lbNode_cases h).same
  | dnat => exact (dnatNode_cases h).carried.toSameFlow
  | packetRelay => exact (packetRelayNode_cases h).2.1.toSameFlow
  | ipv4Lookup =>
    obtain ⟨-, ⟨-, rfl⟩ | ⟨-, hm⟩⟩ := lookup_cases (.inl h)
    · exact .refl _
    · exact hroute hm
  | ipv6Lookup =>
    obtain ⟨-, ⟨-, rfl⟩ | ⟨-, hm⟩⟩ := lookup_cases (.inr h)
    · exact .refl _
    · exact hroute hm
  | snat => exact (snatNode_cases h).known_pkt.1.toSameFlow
  | firewall =>
    rw [(firewallNode_cases h).1]
    exact .refl m
  | ipipEncap =>
    obtain ⟨-, ⟨-, rfl⟩ | ⟨-, proto, o, r, rfl⟩⟩ := ipipEncapNode_cases h
    · exact .refl _
    · exact .of_eq rfl rfl rfl rfl
  | tx =>
    obtain ⟨_, -, heq⟩ := Option.map_eq_some_iff.mp h
    cases heq
    exact .refl m
  | arp | ipv6Nd | dhcp | dhcpv6 | drop => cases h

theorem ConntrackCase.port (h : ConntrackCase cf e c d m d' m' n') : m'.port = m.port := by
  cases h with
  | unread | skip => rfl
  | track _ _ _ h => cases h <;> rfl

/-- No node changes the port of a packet. -/
theorem runNode_port (h : runNode cf e c d m n = some (d', m', n')) : m'.port = m.port := by
  by_cases hn : n = .cls
  · subst hn
    exact (clsNode_cases h).2.1
  · by_cases hcon : n = .conntrack
    · subst hcon
      exact (conntrackNode_cases h).port
    · exact (runNode_same hn hcon h).port

/-- A packet that goes on from classification has no flow. -/
theorem clsNode_conntrack (h : clsNode cf d m = some (d', m', n')) (hn : n'.leaves = false) :
    m'.df.conntrack = none := by
  obtain ⟨-, -, hl | ⟨-, rfl⟩ | ⟨-, -, hc⟩⟩ := clsNode_cases h
  · rw [hn] at hl
    cases hl
  · rfl
  · exact hc

end All

end Dpservice
