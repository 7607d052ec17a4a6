import Dpservice.NatForward
import Dpservice.ServiceConfig

/-!
# The reply to a packet that left through network NAT

A packet of a virtual function starts a flow and leaves through network NAT. The next packet is the reply: it comes back
with addresses and ports exchanged, through the underlay address of a NAT in the same VNI. It belongs to the flow of
the first packet, in its reply direction, and is handed to the same virtual function as a reply to the packet that the
virtual function had sent (`RoundTrip`). Two kinds of replies do not make it: datagrams to the BOOTP server port, which
the service takes for DHCP requests, and packets that cannot be told from the packet they reply to.

- `reply_conntrack`, `reply_dnat`, …: what each node does to the reply;
- `nat_round_trip_iff`: the reply arrives exactly if it is of neither kind.
-/

namespace Dpservice

/-! ## Replies -/

/-- `r` has the addresses of `m` exchanged, and its ports; an echo request is answered by an echo reply. -/
structure ReplyTo (m r : Mbuf) : Prop where
  l3 : r.l3 = m.l3.swap
  ports : isIcmp m.l3.proto = false → r.l4.srcPort = m.l4.dstPort ∧ r.l4.dstPort = m.l4.srcPort
  echo : isIcmp m.l3.proto = true → r.l4.icmpIdent = m.l4.icmpIdent ∧
    r.l4.icmpType = if m.l3.proto = ipprotoIcmp then icmpEchoReply else icmpv6EchoReply

/-- The routing table of the VNI sends packets for the source of `m` to the port it came from. -/
def RoutedBack (cf : Conf) (c : Config) (m : Mbuf) : Prop :=
  match m.l3 with
  | .ipv4 src _ _ => ∃ k r, dpGetIp4OutPort cf c (ifaceVni c m) src = some (k, r) ∧ r.nh = m.port
  | .ipv6 src _ _ => ∃ k r, dpGetIp6OutPort cf c (ifaceVni c m) src = some (k, r) ∧ r.nh = m.port

/-- `m` comes from a virtual function and starts the flow `f`; it leaves through network NAT as `m₁`. -/
structure LeavesNat (cf : Conf) (s : Service) (m m₁ : Mbuf) (s₁ : Service) (f : ℕ) (fv : FlowValue) : Prop where
  ready : (s.cfg.port m.port).iface.ready = true
  connects : Connects m
  outer : m.outer = none
  routed : RoutedBack cf s.cfg m
  sends : Sends cf s m m₁ s₁
  fresh : s.dpl.flows f = none
  flow : m₁.df.conntrack = some f
  value : s₁.dpl.flows f = some fv
  nat : fv.natType = .networkLocal

/-- `r` is a tunnelled packet on a physical port, for the underlay address of a NAT in the VNI of `m`. The underlay
header leaves room for a longer inner one. -/
structure EntersNat (cf : Conf) (c : Config) (m r : Mbuf) : Prop where
  pf : cf.isPf r.port = true
  port : cf.hasPort r.port = true
  ip : r.notIp = false
  room : r.canGrow = true
  vnf : ∃ o v, r.outer = some o ∧ c.vnf.handleTbl o.dst = some v ∧ v.type = .nat ∧ v.vni = ifaceVni c m

/-- The reply `r` is matched to the flow `f` in its reply direction, and handed to `tx` for the port of `m` as a reply
to `m`, whatever the nodes meet on the way. -/
def RoundTrip (cf : Conf) (s : Service) (m : Mbuf) (f : ℕ) (r : Mbuf) : Prop :=
  ∀ es : List Env, es.length = 7 → ∃ s' r',
    run (step cf) s (.rx r :: walks s.inflight.length es) = some s' ∧ s'.inflight = s.inflight ++ [(.tx, r')] ∧
    r'.df.conntrack = some f ∧ r'.df.flowDir = .reply ∧ r'.df.nxtHop = m.port ∧ r'.outer = none ∧ ReplyTo m r'

def ToBootp (r : Mbuf) : Prop := r.l3.proto = ipprotoUdp ∧ r.l4.dstPort = bootpSrvPort

/-- The packets have the same addresses and ports. -/
def SameConn (m r : Mbuf) : Prop :=
  r.l3 = m.l3 ∧ isIcmp m.l3.proto = false ∧ r.l4.srcPort = m.l4.srcPort ∧ r.l4.dstPort = m.l4.dstPort

section Keys

variable {c : Config} {d : Dataplane} {m m₁ r : Mbuf} {f : ℕ} {fv : FlowValue}

theorem nat64L4Type_of_isIcmp {t : UInt8} (h : isIcmp t = true) : nat64L4Type t = ipprotoIcmp := by
  rw [isIcmp, Bool.or_eq_true, beq_iff_eq, beq_iff_eq] at h
  rcases h with h | h <;> rw [h] <;> rfl

/-- The headers of a reply to a translated packet. -/
theorem ReplyTo.hdr (ht : Translated c d m m₁ f fv) (hr : ReplyTo m₁ r) :
    ∃ natIp, r.l3 = .ipv4 m.dst4 natIp (nat64L4Type m.l3.proto) ∧
      (isIcmp m.l3.proto = false → r.l4.srcPort = m.l4.dstPort) ∧
      (isIcmp m.l3.proto = true → r.l4.icmpType = icmpEchoReply) := by
  obtain ⟨natIp, hl3⟩ := ht.l3
  have hproto : m₁.l3.proto = nat64L4Type m.l3.proto := by rw [hl3]; rfl
  have hicmp : isIcmp m₁.l3.proto = isIcmp m.l3.proto := by rw [hproto, isIcmp_nat64L4Type]
  refine ⟨natIp, by rw [hr.l3, hl3]; rfl, fun hi => ?_, fun hi => ?_⟩
  · rw [(hr.ports (hicmp.trans hi)).1, ht.ports hi]
  · rw [(hr.echo (hicmp.trans hi)).2, if_pos (hproto.trans (nat64L4Type_of_isIcmp hi))]

/-- The key of a reply is the reply key of the flow. -/
theorem ReplyTo.key (hm : Connects m) (ht : Translated c d m m₁ f fv) (hr : ReplyTo m₁ r) :
    natFlowKey (ifaceVni c m) r = fv.reply := by
  obtain ⟨natIp, hl3⟩ := ht.l3
  have hproto : m₁.l3.proto = nat64L4Type m.l3.proto := by rw [hl3]; rfl
  have hicmp : isIcmp m₁.l3.proto = isIcmp m.l3.proto := by rw [hproto, isIcmp_nat64L4Type]
  rw [ht.reply]
  unfold natFlowKey dpInvertFlowKey
  rw [hr.l3, hl3]
  by_cases hi : isIcmp m.l3.proto = true
  · obtain ⟨hid, hty⟩ := hr.echo (hicmp.trans hi)
    rw [if_pos (hproto.trans (nat64L4Type_of_isIcmp hi))] at hty
    rw [nat64L4Type_of_isIcmp hi]
    simp +decide [L3Hdr.swap, L3Hdr.src, L3Hdr.dst, L3Hdr.proto, hid, hty, ht.echo hi]
  · have hi' : isIcmp m.l3.proto = false := by simpa using hi
    obtain ⟨hs, hd⟩ := hr.ports (hicmp.trans hi')
    have htu : nat64L4Type m.l3.proto = ipprotoTcp ∨ nat64L4Type m.l3.proto = ipprotoUdp := by
      rcases hm.tracked with h | h | h
      · exact .inl (by rw [h]; rfl)
      · exact .inr (by rw [h]; rfl)
      · exact absurd h hi
    have hi₁ := hicmp.trans hi'
    rw [hproto] at hi₁
    generalize nat64L4Type m.l3.proto = t at htu hi₁
    simp [L3Hdr.swap, L3Hdr.src, L3Hdr.dst, L3Hdr.proto, hi₁, hs, hd, htu]

theorem L3Hdr.eq_of_src_dst {h h' : L3Hdr} (hs : h.src = h'.src) (hd : h.dst = h'.dst) (hp : h.proto = h'.proto) :
    h = h' := by
  cases h <;> cases h' <;> simp_all [L3Hdr.src, L3Hdr.dst, L3Hdr.proto]

/-- The reply has the key of the packet it replies to. -/
theorem ReplyTo.reply_eq_org (hm : Connects m) (ht : Translated c d m m₁ f fv) (hr : ReplyTo m₁ r) :
    fv.reply = fv.org ↔ SameConn m r := by
  obtain ⟨natIp, hl3, -, hecho⟩ := hr.hdr ht
  rw [← hr.key hm ht, ht.org]
  constructor
  · intro h
    have heq : r.l3 = m.l3 := L3Hdr.eq_of_src_dst (congrArg FlowKey.l3Src h :) (congrArg FlowKey.l3Dst h :)
      (congrArg FlowKey.proto h :)
    have hsrc := congrArg FlowKey.src h
    have hdst := congrArg FlowKey.portDst h
    simp only [natFlowKey, heq] at hsrc hdst
    cases hi : isIcmp m.l3.proto with
    | false =>
      simp only [hi, Bool.false_eq_true, if_false] at hsrc hdst
      exact ⟨heq, hi, hsrc, hdst⟩
    | true =>
      rw [if_pos hi, if_pos hi, hecho hi] at hsrc
      unfold Connects at hm
      rw [← heq, hl3] at hm hi
      change nat64L4Type m.l3.proto = _ ∨ nat64L4Type m.l3.proto = _ ∨ nat64L4Type m.l3.proto = _ ∧ _ at hm
      change isIcmp (nat64L4Type m.l3.proto) = true at hi
      rcases hm with h | h | ⟨-, hty⟩
      · rw [h] at hi
        cases hi
      · rw [h] at hi
        cases hi
      · rw [hty] at hsrc
        cases hsrc
  · rintro ⟨heq, hi, hs, hd⟩
    simp [natFlowKey, heq, hi, hs, hd]

end Keys

/-! ## Entry -/

/-- A packet that has lost the underlay header of a NAT. -/
structure Decapped (vni : Vni) (r r' : Mbuf) : Prop where
  port : r'.port = r.port
  outer : r'.outer = none
  l3 : r'.l3 = r.l3
  l4 : r'.l4 = r.l4
  room : r'.canGrow = r.canGrow
  l3Type : r'.df.l3Type = r.l3.type
  vni : r'.df.dstVni = vni
  vnfType : r'.df.vnfType = .nat
  conntrack : r'.df.conntrack = none

section Reply

variable {cf : Conf} {e : Env} {c : Config} {d d' : Dataplane} {n n' : Node} {m m₁ r r' : Mbuf} {f : ℕ}
  {fv fv' : FlowValue} {vni : Vni}

/-- The first two nodes take the underlay header off. -/
theorem reply_decap {src dst : Ip4} {proto : UInt8} (hr : EntersNat cf c m r) (hl3 : r.l3 = .ipv4 src dst proto)
    (hport : ∀ ul v, c.vnf.handleTbl ul = some v → v.type = .nat → cf.hasPort v.portId = true) (e e' : Env) :
    ∃ r', run (nodeStep cf c) (d, { r with isRecirc := false }, .cls) [e, e'] = some (d, r', .conntrack) ∧
      Decapped (ifaceVni c m) r r' := by
  obtain ⟨o, v, ho, hv, hty, hvni⟩ := hr.vnf
  have hcls : runNode cf e c d { r with isRecirc := false } .cls = some (d, { r with
      isRecirc := false
      df := { l3Type := .ipv4, ulSrcAddr6 := o.src, ulDstAddr6 := o.dst, tunProtoId := ipprotoIpip } },
        .ipipDecap) := by
    simp +decide [runNode, clsNode, Mbuf.frontHdr, hr.ip, hr.port, hr.pf, ho, hl3, L3Hdr.tunProto, L3Hdr.type, isIpv6Nd]
  have hdecap : runNode cf e' c d { r with
      isRecirc := false
      df := { l3Type := .ipv4, ulSrcAddr6 := o.src, ulDstAddr6 := o.dst, tunProtoId := ipprotoIpip } } .ipipDecap =
      some (d, { r with
        isRecirc := false
        outer := none
        df := { l3Type := .ipv4, ulSrcAddr6 := o.src, ulDstAddr6 := o.dst, tunProtoId := ipprotoIpip, dstVni := v.vni,
                vnfType := v.type, nxtHop := v.portId } }, .conntrack) := by
    simp [runNode, ipipDecapNode, hv, hport o.dst v hv hty]
  refine ⟨_, (run_node hcls rfl).trans (run_node hdecap rfl), ?_⟩
  exact ⟨rfl, rfl, rfl, rfl, rfl, by rw [hl3]; rfl, hvni, hty, rfl⟩

/-- A packet of a flow that the table has. -/
theorem dpCntrackHandle_found {key : FlowKey} (hkey : dpBuildFlowKey cf c d.cache.currBuf m = (true, key))
    (hcache : d.cache.prevValid = false) (ht : d.flowTbl key = some f) (hf : d.flows f = some fv) :
    ∃ d' fv' off, dpCntrackHandle cf e c d m = some (true, d', { m with
        df := { m.df with flowDir := pktDir key fv m.df, conntrack := some f, offloadState := off } }) ∧
      d'.flows f = some fv' ∧ fv'.core = fv.core := by
  have hget : dpGetFlowVal cf e c d m = some (some f, { { d with cache := d.cache.setCurr key }.setFlow f
      (dpSetFlowOffloadFlag cf m.port fv (dpSetPktFlowDirection key fv m.df)) with
        cache := dpCacheFlowVal (d.cache.setCurr key) f }, dpSetPktFlowDirection key fv m.df) := by
    simp [dpGetFlowVal, hkey, hcache, ht, dpKnownFlow, hf, Dataplane.setFlow]
  unfold dpCntrackHandle
  rw [hget, dpSetPktFlowDirection_eq]
  simp only [Dataplane.setFlow, Table.add_self]
  refine ⟨_, _, _, rfl, Table.add_self .., ?_⟩
  rw [trackFlow_core, dpSetFlowOffloadFlag_core]

/-- The reply after connection tracking: its flow is `f`. -/
structure Matched (dir : FlowDir) (vni : Vni) (f : ℕ) (r r' : Mbuf) : Prop where
  port : r'.port = r.port
  outer : r'.outer = none
  l3 : r'.l3 = r.l3
  l4 : r'.l4 = r.l4
  room : r'.canGrow = r.canGrow
  extracted : Extracted r'
  vni : r'.df.dstVni = vni
  conntrack : r'.df.conntrack = some f
  dir : r'.df.flowDir = dir

/-- The private data that connection tracking reads from a decapsulated packet. -/
theorem Decapped.extract (hd : Decapped vni r r') (ht : r.l3.Tracked) :
    ∃ df, (r'.df.extractL3 r'.frontHdr).extractL4 r'.l4 = some df ∧ Extracted { r' with df := df } ∧
      df.conntrack = none ∧ df.dstVni = vni ∧ df.vnfType = .nat := by
  obtain ⟨df, hdf, hx, hcon, hv, hvnf, -⟩ : ∃ df, _ := extract_eq (m := r') (hd.l3 ▸ ht) hd.outer
    (by rw [hd.l3Type, hd.l3])
  exact ⟨df, hdf, hx, hcon.trans hd.conntrack, hv.trans hd.vni, hvnf.trans hd.vnfType⟩

/-- The key of a reply that came through the underlay address of a NAT. -/
theorem dpBuildFlowKey_nat (buf : FlowKey) (hp : cf.isPf r.port = true) (hx : Extracted r) (ht : r.l3.Tracked)
    (he : r.l3.proto = ipprotoIcmp → r.l4.icmpType = icmpEchoReply) (hvnf : r.df.vnfType = .nat) :
    dpBuildFlowKey cf c buf r = (true, natFlowKey r.df.dstVni r) := by
  rw [dpBuildFlowKey_eq buf hx ht fun hi => .inl (he hi)]
  simp [flowKeyVni, hp, dpMarkVnfType, hvnf, natFlowKey]

/-- Connection tracking finds the flow of the reply, unless it takes the reply for a DHCP request. -/
theorem reply_conntrack (hm : Connects m) (hen : cf.conntrackEnabled = true) (hpf : cf.isPf r.port = true)
    (ht : Translated c d m m₁ f fv) (hf : d.flows f = some fv) (hr : ReplyTo m₁ r) (hd : Decapped (ifaceVni c m) r r')
    (e : Env) :
    (ToBootp r → ∃ r'', conntrackNode cf e c d r' = some (d, r'', .dnat) ∧ r''.df.conntrack = none ∧
      r''.df.l3Type = .ipv4 ∧ r''.df.l4Type = ipprotoUdp ∧ r''.df.dstPort = bootpSrvPort) ∧
    (¬ ToBootp r → ∃ d' r'' fv', conntrackNode cf e c d r' = some (d', r'', .dnat) ∧ d'.flows f = some fv' ∧
      fv'.core = fv.core ∧ Matched (if fv.reply = fv.org then .org else .reply) (ifaceVni c m) f r r'') := by
  obtain ⟨natIp, hl3, -, hecho⟩ := hr.hdr ht
  have hproto : r.l3.proto = nat64L4Type m.l3.proto := by rw [hl3]; rfl
  have htr : r.l3.Tracked := by
    unfold L3Hdr.Tracked
    rw [hproto, isIcmp_nat64L4Type]
    rcases hm.tracked with h | h | h
    · exact .inl (by rw [h]; rfl)
    · exact .inr (.inl (by rw [h]; rfl))
    · exact .inr (.inr h)
  obtain ⟨df, hdf, hx, hcon, hvni, hvnf⟩ := hd.extract htr
  have hl3t : df.l3Type = .ipv4 := by
    rw [hx.l3Type]
    change r'.l3.type = _
    rw [hd.l3, hl3]
    rfl
  have hl4t : df.l4Type = r.l3.proto := hx.l4Type.trans (congrArg L3Hdr.proto hd.l3 :)
  have hdport : r.l3.proto = ipprotoUdp → df.dstPort = r.l4.dstPort := by
    intro hu
    have hni : isIcmp r'.l3.proto = false := by rw [hd.l3, hu]; rfl
    exact (hx.ports hni).2.trans (congrArg L4Hdr.dstPort hd.l4 :)
  unfold conntrackNode
  rw [hdf]
  dsimp only
  refine ⟨fun ⟨hu, hb⟩ => ?_, fun hnb => ?_⟩
  · rw [if_pos ⟨hl3t, hl4t.trans hu, (hdport hu).trans hb⟩]
    exact ⟨_, rfl, hcon, hl3t, hl4t.trans hu, (hdport hu).trans hb⟩
  · have hnb' : ¬ (df.l3Type = .ipv4 ∧ df.l4Type = ipprotoUdp ∧ df.dstPort = bootpSrvPort) := by
      rintro ⟨-, hu, hb⟩
      rw [hl4t] at hu
      exact hnb ⟨hu, (hdport hu).symm.trans hb⟩
    have hkey : dpBuildFlowKey cf c d.cache.currBuf { r' with df := df } = (true, fv.reply) := by
      have hech : r'.l3.proto = ipprotoIcmp → r'.l4.icmpType = icmpEchoReply := by
        intro hi
        rw [hd.l3, hproto] at hi
        rw [hd.l4]
        exact hecho (by rw [← isIcmp_nat64L4Type, hi]; rfl)
      rw [dpBuildFlowKey_nat (r := { r' with df := df }) _ (by rw [hd.port]; exact hpf) hx (hd.l3 ▸ htr) hech hvnf]
      rw [← hr.key hm ht]
      simp only [natFlowKey, hd.l3, hd.l4, hvni]
    obtain ⟨d', fv', off, hh, hf', hcore⟩ : ∃ d' fv' off, dpCntrackHandle cf e c d { r' with df := df } = _ ∧ _ :=
      dpCntrackHandle_found hkey ht.flushed ht.entry hf
    rw [if_neg hnb', if_neg (by rw [hl3t]; rintro ⟨h, -⟩; cases h), if_neg (by simp [hen]), hh]
    have hnext : conntrackNext cf { r' with
        df := { df with flowDir := pktDir fv.reply fv df, conntrack := some f, offloadState := off } } = .dnat := by
      simp [conntrackNext, hd.port, hpf, hvnf]
    refine ⟨d', _, fv', congrArg (fun n => some (d', _, n)) hnext, hf', hcore, ?_⟩
    refine ⟨hd.port, hd.outer, hd.l3, hd.l4, hd.room, ⟨hx.l3Type, hx.l4Type, hx.v4, hx.v6, hx.ports, hx.echo⟩,
      hvni, rfl, ?_⟩
    simp only [pktDir, dpSetPktFlowDirection, if_true]
    split <;> rfl

/-! ## Back to the virtual function -/

/-- The reply after destination NAT: it is a reply to the packet that was sent first. -/
structure Restored (m : Mbuf) (vni : Vni) (f : ℕ) (r r' : Mbuf) : Prop where
  port : r'.port = r.port
  outer : r'.outer = none
  reply : ReplyTo m r'
  vni : r'.df.dstVni = vni
  conntrack : r'.df.conntrack = some f
  dir : r'.df.flowDir = .reply
  v4 : ∀ src dst proto, m.l3 = .ipv4 src dst proto → r'.df.dstAddr = src ∧
    (r'.df.l4Type = ipprotoUdp → r.l3.proto = ipprotoUdp ∧ r'.df.dstPort = r.l4.dstPort)
  v6 : ∀ src dst proto, m.l3 = .ipv6 src dst proto → r'.df.dstAddr6 = src

/-- The address of a NAT64 destination comes back. -/
theorem nat64Addr_low32 {ip : Ip6} (h : dpIsIp6InNat64Range ip = true) : nat64Addr (low32 ip) = ip := by
  rw [dpIsIp6InNat64Range, beq_iff_eq] at h
  rw [nat64Addr, ← h, low32]
  apply BitVec.eq_of_getLsbD_eq
  intro i hi
  rw [BitVec.getLsbD_append]
  split
  next hlt => simp [hlt]
  next hge =>
    have h96 : i - 32 < 96 := by omega
    have h32 : 32 + (i - 32) = i := by omega
    simp [h96, h32]

/-- A reply to a translated flow is left to the part of the `dnat` node that restores it. -/
theorem dnatNode_reply (hf : d.flows f = some fv) (hc : r.df.conntrack = some f) (hdir : r.df.flowDir = .reply)
    (hloc : fv.natType = .networkLocal) (hdst : fv.flags.dstNat = false) :
    dnatNode e c d r = dnatReply d r fv := by
  simp [dnatNode, hc, hf, hdir, dnatKnownFlow, hloc, hdst]

def restoredL4 (proto : UInt8) (org : FlowKey) (h : L4Hdr) : L4Hdr :=
  if proto = ipprotoIcmp then { h with icmpIdent := org.portDst } else { h with dstPort := org.src }

theorem dnatReplyL4_restores {src dst natIp : Ip4} {proto : UInt8} (hr : r.l3 = .ipv4 dst natIp proto)
    (hx : Extracted r)
    (hloc : fv.natType = .networkLocal) (hecho : proto = ipprotoIcmp → r.l4.icmpType = icmpEchoReply) :
    dnatReplyL4 (r.setDst4 src) fv src =
      some { r with l3 := .ipv4 dst src proto, l4 := restoredL4 proto fv.org r.l4 } := by
  have ht4 : r.df.l4Type = proto := by rw [hx.l4Type, hr]; rfl
  have hset : r.setDst4 src = { r with l3 := .ipv4 dst src proto } := by simp [Mbuf.setDst4, hr]
  rw [hset]
  by_cases hi : proto = ipprotoIcmp
  · have hty : r.df.icmpType = icmpEchoReply := by
      rw [(hx.echo (by rw [hr, hi]; rfl)).1]
      exact hecho hi
    simp [dnatReplyL4, restoredL4, hloc, ht4, hi, hty, Mbuf.setIcmpIdent]
  · simp [dnatReplyL4, restoredL4, hloc, ht4, hi, Mbuf.setDstPort]

/-- The reply to an IPv4 packet. -/
theorem dnatReply_ipv4 {src dst natIp : Ip4} {proto : UInt8} (hr : r.l3 = .ipv4 dst natIp proto) (hx : Extracted r)
    (hdir : r.df.flowDir = .reply) (hloc : fv.natType = .networkLocal)
    (hs : fv.flags.srcNat = true) (hs64 : fv.flags.srcNat64 = false) (horg : fv.org.l3Src = .v4 src)
    (hecho : proto = ipprotoIcmp → r.l4.icmpType = icmpEchoReply) :
    dnatReply d r fv = some (d, { r with
      l3 := .ipv4 dst src proto
      l4 := restoredL4 proto fv.org r.l4
      df := { r.df with natType := .dstIp, natAddr := r.df.dstAddr, dstAddr := src } }, .ipv4Lookup) := by
  have ht3 : r.df.l3Type = .ipv4 := by rw [hx.l3Type, hr]; rfl
  unfold dnatReply
  rw [if_pos ⟨hs, hdir⟩, horg]
  dsimp only
  rw [dnatReplyL4_restores hr hx hloc hecho]
  simp [dnatRewrite, Mbuf.setDst4, Mbuf.setNat, dnatReply64, hs64, dnatOut, ht3]

/-- The IPv6 packet that NAT64 makes of a reply. -/
theorem dpNatChgIpv4ToIpv6Hdr_hdr {src dst : Ip4} {proto : UInt8} (addr : Ip6) (hv : r.l3 = .ipv4 src dst proto)
    (ht : r.df.l4Type = proto) (hg : r.canGrow = true)
    (hk : proto = ipprotoTcp ∨ proto = ipprotoUdp ∨ proto = ipprotoIcmp ∧ r.l4.icmpType = icmpEchoReply) :
    ∃ df, df.dstAddr6 = addr ∧ df.dstVni = r.df.dstVni ∧ df.conntrack = r.df.conntrack ∧ df.flowDir = r.df.flowDir ∧
      dpNatChgIpv4ToIpv6Hdr r addr = (true, { r with
        l3 := .ipv6 (nat64Addr src) addr (if proto = ipprotoIcmp then ipprotoIcmpv6 else proto)
        l4 := if proto = ipprotoIcmp then { r.l4 with icmpCode := 0, icmpType := icmpv6EchoReply } else r.l4
        df := df }) := by
  rcases hk with rfl | rfl | ⟨rfl, hty⟩
  · exact ⟨{ r.df with dstAddr6 := addr }, rfl, rfl, rfl, rfl, by simp +decide [dpNatChgIpv4ToIpv6Hdr, hv, ht, hg]⟩
  · exact ⟨{ r.df with dstAddr6 := addr }, rfl, rfl, rfl, rfl, by simp +decide [dpNatChgIpv4ToIpv6Hdr, hv, ht, hg]⟩
  · exact ⟨{ r.df with dstAddr6 := addr, l4Type := ipprotoIcmpv6 }, rfl, rfl, rfl, rfl,
      by simp +decide [dpNatChgIpv4ToIpv6Hdr, hv, ht, hg, hty]⟩

/-- The reply to an IPv6 packet. -/
theorem dnatReply_ipv6 {src : Ip6} {dst natIp : Ip4} {proto : UInt8} (hr : r.l3 = .ipv4 dst natIp proto)
    (hx : Extracted r) (hdir : r.df.flowDir = .reply) (hloc : fv.natType = .networkLocal)
    (hs : fv.flags.srcNat = false) (hs64 : fv.flags.srcNat64 = true) (horg : fv.org.l3Src = .v6 src)
    (hk : proto = ipprotoTcp ∨ proto = ipprotoUdp ∨ proto = ipprotoIcmp ∧ r.l4.icmpType = icmpEchoReply)
    (hroom : r.canGrow = true) :
    ∃ df, df.dstAddr6 = src ∧ df.dstVni = r.df.dstVni ∧ df.conntrack = r.df.conntrack ∧ df.flowDir = .reply ∧
      dnatReply d r fv = some (d, { r with
        l3 := .ipv6 (nat64Addr dst) src (if proto = ipprotoIcmp then ipprotoIcmpv6 else proto)
        l4 := if proto = ipprotoIcmp then
            { r.l4 with icmpIdent := fv.org.portDst, icmpCode := 0, icmpType := icmpv6EchoReply }
          else { r.l4 with dstPort := fv.org.src }
        df := df }, .ipv6Lookup) := by
  have ht4 : r.df.l4Type = proto := by rw [hx.l4Type, hr]; rfl
  have hL4 : dnatReply64L4 (r.setNat .nat64DstIp r.df.dstAddr) fv = { r with
      l4 := restoredL4 proto fv.org r.l4
      df := { r.df with natType := .nat64DstIp, natAddr := r.df.dstAddr } } := by
    rcases hk with rfl | rfl | ⟨rfl, hty⟩
    · simp +decide [dnatReply64L4, restoredL4, hloc, ht4, Mbuf.setDstPort, Mbuf.setNat]
    · simp +decide [dnatReply64L4, restoredL4, hloc, ht4, Mbuf.setDstPort, Mbuf.setNat]
    · have hty' : r.df.icmpType = icmpEchoReply := by
        rw [(hx.echo (by rw [hr]; rfl)).1]
        exact hty
      simp +decide [dnatReply64L4, restoredL4, hloc, ht4, hty', Mbuf.setIcmpIdent, Mbuf.setNat]
  obtain ⟨df, h6, hvni, hcon, hdir', hchg⟩ := dpNatChgIpv4ToIpv6Hdr_hdr (r := { r with
      l4 := restoredL4 proto fv.org r.l4
      df := { r.df with natType := .nat64DstIp, natAddr := r.df.dstAddr } }) src hr ht4 hroom (by
    rcases hk with h | h | ⟨rfl, hty⟩
    · exact .inl h
    · exact .inr (.inl h)
    · exact .inr (.inr ⟨rfl, hty⟩))
  refine ⟨df, h6, hvni, hcon, hdir'.trans hdir, ?_⟩
  unfold dnatReply dnatReply64
  rw [if_neg (by simp [hs]), if_pos ⟨hs64, hdir⟩, horg]
  dsimp only
  rw [hL4, hchg]
  by_cases hi : proto = ipprotoIcmp <;> simp [restoredL4, hi]

/-- The node that looks up the route of the reply. -/
def lookupNode (h : L3Hdr) : Node :=
  match h with
  | .ipv4 .. => .ipv4Lookup
  | .ipv6 .. => .ipv6Lookup

/-- Destination NAT makes the reply to the translated packet a reply to the packet that was sent first. -/
theorem reply_dnat (hm : Connects m) (ht : Translated c d m m₁ f fv) (hloc : fv.natType = .networkLocal)
    (hr : ReplyTo m₁ r) (hroom : r.canGrow = true) (hmat : Matched .reply vni f r r') (hf : d'.flows f = some fv')
    (hcore : fv'.core = fv.core) :
    ∃ r'', dnatNode e c d' r' = some (d', r'', lookupNode m.l3) ∧ Restored m vni f r r'' := by
  obtain ⟨natIp, hl3, hports, hecho⟩ := hr.hdr ht
  have hloc' : fv'.natType = .networkLocal := (congrArg FlowValue.natType hcore :).trans hloc
  have hflags : fv'.flags = fv.flags := (congrArg FlowValue.flags hcore :)
  have horg : fv'.org = natFlowKey (ifaceVni c m) m := (congrArg FlowValue.org hcore :).trans ht.org
  have hsrc : fv'.org.l3Src = m.l3.src := by rw [horg]; rfl
  have hl3' : r'.l3 = .ipv4 m.dst4 natIp (nat64L4Type m.l3.proto) := hmat.l3.trans hl3
  have hport : isIcmp m.l3.proto = false → fv'.org.src = m.l4.srcPort := by
    intro hi
    rw [horg]
    simp [natFlowKey, hi]
  have hident : isIcmp m.l3.proto = true → fv'.org.portDst = m.l4.icmpIdent := by
    intro hi
    rw [horg]
    simp [natFlowKey, hi]
  rw [dnatNode_reply hf hmat.conntrack hmat.dir hloc' (by rw [hflags]; exact ht.dstFlags.1)]
  unfold Connects at hm
  cases hv : m.l3 with
  | ipv4 src dst proto =>
    have hp : nat64L4Type m.l3.proto = proto := by
      rw [hv] at hm ⊢
      rcases hm with h | h | ⟨h, -⟩ <;> rw [L3Hdr.proto, h] <;> rfl
    have hdst : m.dst4 = dst := by simp [Mbuf.dst4, hv]
    have hicmp : isIcmp m.l3.proto = isIcmp proto := by rw [hv]; rfl
    rw [hp, hdst] at hl3'
    rw [hicmp] at hports hecho hport hident
    have hx := hmat.extracted
    have hs : fv'.flags.srcNat = true := by rw [hflags, ht.srcFlags.1, hv]; rfl
    have hs64 : fv'.flags.srcNat64 = false := by rw [hflags, ht.srcFlags.2, hv]; rfl
    have hl4t : r'.df.l4Type = r.l3.proto := by rw [hx.l4Type, hmat.l3]
    have hech : proto = ipprotoIcmp → r'.l4.icmpType = icmpEchoReply := by
      intro hi
      rw [hmat.l4]
      exact hecho (by rw [hi]; rfl)
    rw [dnatReply_ipv4 hl3' hx hmat.dir hloc' hs hs64 (by rw [hsrc, hv]; rfl) hech]
    refine ⟨_, rfl, ⟨hmat.port, hmat.outer, ⟨by rw [hv]; rfl, fun hi => ?_, fun hi => ?_⟩, hmat.vni, hmat.conntrack,
      hmat.dir, fun src' dst' proto' hv' => ?_, fun src' dst' proto' hv' => ?_⟩⟩
    · rw [hicmp] at hi
      have hne : proto ≠ ipprotoIcmp := by rintro rfl; cases hi
      simp only [restoredL4, if_neg hne]
      exact ⟨by rw [hmat.l4]; exact hports hi, hport hi⟩
    · rw [hicmp] at hi
      have hpi : proto = ipprotoIcmp := by
        rw [← hp]
        exact nat64L4Type_of_isIcmp (hicmp.trans hi)
      rw [if_pos (by rw [hv]; exact hpi)]
      simp only [restoredL4, if_pos hpi]
      exact ⟨hident hi, hech hpi⟩
    · rw [hv] at hv'
      cases hv'
      refine ⟨rfl, fun hu => ?_⟩
      have hudp : r.l3.proto = ipprotoUdp := hl4t.symm.trans hu
      have hni : isIcmp r'.l3.proto = false := by rw [hmat.l3, hudp]; rfl
      exact ⟨hudp, by rw [← hmat.l4]; exact (hx.ports hni).2⟩
    · rw [hv] at hv'
      cases hv'
  | ipv6 src dst proto =>
    have hk : nat64L4Type m.l3.proto = ipprotoTcp ∨ nat64L4Type m.l3.proto = ipprotoUdp ∨
        nat64L4Type m.l3.proto = ipprotoIcmp ∧ r'.l4.icmpType = icmpEchoReply := by
      rw [hv] at hm hecho ⊢
      rw [hmat.l4]
      rcases hm.2 with h | h | ⟨h, -⟩
      · exact .inl (by rw [L3Hdr.proto, h]; rfl)
      · exact .inr (.inl (by rw [L3Hdr.proto, h]; rfl))
      · exact .inr (.inr ⟨by rw [L3Hdr.proto, h]; rfl, hecho (by rw [L3Hdr.proto, h]; rfl)⟩)
    have hs : fv'.flags.srcNat = false := by rw [hflags, ht.srcFlags.1, hv]; rfl
    have hs64 : fv'.flags.srcNat64 = true := by rw [hflags, ht.srcFlags.2, hv]; rfl
    obtain ⟨df, h6, hvni, hcon, hdir, heq⟩ := dnatReply_ipv6 (d := d') hl3' hmat.extracted hmat.dir hloc' hs hs64
      (by rw [hsrc, hv]; rfl) hk (hmat.room.trans hroom)
    rw [heq]
    refine ⟨_, rfl, ⟨hmat.port, hmat.outer, ⟨?_, fun hi => ?_, fun hi => ?_⟩, hvni.trans hmat.vni,
      hcon.trans hmat.conntrack, hdir, fun src' dst' proto' hv' => ?_, fun src' dst' proto' hv' => ?_⟩⟩
    · have hdst : m.dst4 = low32 dst := by simp [Mbuf.dst4, hv]
      have hback : (if nat64L4Type proto = ipprotoIcmp then ipprotoIcmpv6 else nat64L4Type proto) = proto := by
        rw [hv] at hm
        rcases hm.2 with h | h | ⟨h, -⟩ <;> rw [h] <;> rfl
      rw [hv] at hm ⊢
      simp only [L3Hdr.swap, L3Hdr.proto, hdst, nat64Addr_low32 hm.1]
      exact congrArg (L3Hdr.ipv6 dst src) hback
    · have hne : nat64L4Type m.l3.proto ≠ ipprotoIcmp := by
        intro heq
        rw [← isIcmp_nat64L4Type, heq] at hi
        cases hi
      simp only [if_neg hne]
      exact ⟨by rw [hmat.l4]; exact hports hi, hport hi⟩
    · have hne : m.l3.proto ≠ ipprotoIcmp := by
        rw [hv] at hm ⊢
        rcases hm.2 with h | h | ⟨h, -⟩ <;> rw [L3Hdr.proto, h] <;> decide
      simp only [if_pos (nat64L4Type_of_isIcmp hi), if_neg hne]
      exact ⟨hident hi, trivial⟩
    · rw [hv] at hv'
      cases hv'
    · rw [hv] at hv'
      cases hv'
      exact h6

/-- A packet from the underlay with a route to a virtual function. -/
theorem routePacket_toVf {nh : Route} {p : PortId} (e : Env) (d : Dataplane) (b : Bool) (pf : PortId)
    (hr : cf.isPf r.port = true) (hnh : nh.nh = p) (hp : cf.isPf p = false) :
    ∃ ft, routePacket cf e d r nh b pf =
    some (d, { r with df := { r.df with flowType := ft, nxtHop := p } }, .snat) := by
  simp [routePacket, hr, hnh, hp]

/-- The route of the reply leads to the port of the packet that was sent first. -/
theorem reply_lookup (hm : RoutedBack cf c m) (hpf : cf.isPf r.port = true) (hvf : cf.isPf m.port = false)
    (hidle : (c.port r.port).iface.vni = 0) (hnb : ¬ ToBootp r) (hres : Restored m (ifaceVni c m) f r r') :
    ∃ ft, runNode cf e c d r' (lookupNode m.l3) =
      some (d, { r' with df := { r'.df with flowType := ft, nxtHop := m.port } }, .snat) := by
  have hpf' : cf.isPf r'.port = true := by rw [hres.port]; exact hpf
  unfold RoutedBack at hm
  cases hv : m.l3 with
  | ipv4 src dst proto =>
    rw [hv] at hm
    obtain ⟨k, nh, hroute, hnh⟩ := hm
    obtain ⟨hdst, hudp⟩ := hres.v4 src dst proto hv
    rw [← hdst] at hroute
    have hvni : pktVni c r' = ifaceVni c m := by
      unfold pktVni
      rw [hres.vni, hres.port, hidle]
      split
      next h => exact h.symm
      next => rfl
    have hnd : ¬ (r'.df.l4Type = ipprotoUdp ∧ r'.df.dstPort = bootpSrvPort) := by
      rintro ⟨hu, hb⟩
      obtain ⟨hu', hport⟩ := hudp hu
      exact hnb ⟨hu', hport ▸ hb⟩
    obtain ⟨ft, heq⟩ := routePacket_toVf e d (k == 0) (if e.usePf1 then cf.pf1 else cf.pf0) hpf' hnh hvf
    refine ⟨ft, ?_⟩
    change ipv4LookupNode cf e c d r' = _
    unfold ipv4LookupNode
    rw [if_neg hnd, hvni, hroute]
    exact heq
  | ipv6 src dst proto =>
    rw [hv] at hm
    obtain ⟨k, nh, hroute, hnh⟩ := hm
    rw [← hres.v6 src dst proto hv] at hroute
    have hvni : (if cf.isPf r'.port ∧ r'.df.dstVni ≠ 0 then r'.df.dstVni else (c.port r'.port).iface.vni) =
        ifaceVni c m := by
      rw [hres.vni, hres.port, hidle]
      split
      next => rfl
      next h =>
        by_contra hne
        exact h ⟨hpf, fun h0 => hne h0.symm⟩
    obtain ⟨ft, heq⟩ := routePacket_toVf e d (k == 0) nh.nh hpf' hnh hvf
    refine ⟨ft, ?_⟩
    change ipv6LookupNode cf e c d r' = _
    unfold ipv6LookupNode
    dsimp only
    rw [hvni, hroute]
    exact heq

/-- Source NAT leaves a reply to a flow with source NAT alone. -/
theorem snatNode_reply (hpf : cf.isPf r.port = true) (hc : r.df.conntrack = some f) (hf : d.flows f = some fv)
    (hdir : r.df.flowDir = .reply) (hdst : fv.flags.dstNat = false ∧ fv.flags.dstLb = false) :
    snatNode cf e c d r = some (d, r, .firewall) := by
  simp [snatNode, snatKnownFlow, hpf, hc, hf, hdir, hdst.1, hdst.2]

/-- The firewall passes a reply on to its virtual function. -/
theorem firewallNode_reply (hc : r.df.conntrack = some f) (hf : d.flows f = some fv) (hdir : r.df.flowDir = .reply)
    (hvf : cf.isPf r.df.nxtHop = false) : firewallNode cf d r = some (d, r, .tx) := by
  simp [firewallNode, hc, hf, hdir, hvf]

/-- The last nodes hand the reply to the port of the packet that was sent first. -/
theorem reply_back (hm : RoutedBack cf c m) (hpf : cf.isPf r.port = true) (hvf : cf.isPf m.port = false)
    (hidle : (c.port r.port).iface.vni = 0) (hnb : ¬ ToBootp r) (hres : Restored m (ifaceVni c m) f r r')
    (hf : d.flows f = some fv) (hdst : fv.flags.dstNat = false ∧ fv.flags.dstLb = false) (e₅ e₆ e₇ : Env) :
    ∃ r'', run (nodeStep cf c) (d, r', lookupNode m.l3) [e₅, e₆, e₇] = some (d, r'', .tx) ∧ r''.df.conntrack = some f ∧
      r''.df.flowDir = .reply ∧ r''.df.nxtHop = m.port ∧ r''.outer = none ∧ ReplyTo m r'' := by
  obtain ⟨ft, hroute⟩ := reply_lookup (e := e₅) (d := d) hm hpf hvf hidle hnb hres
  have hsnat : runNode cf e₆ c d { r' with df := { r'.df with flowType := ft, nxtHop := m.port } } .snat =
      some (d, { r' with df := { r'.df with flowType := ft, nxtHop := m.port } }, .firewall) :=
    snatNode_reply (by rw [← hpf, ← hres.port]) hres.conntrack hf hres.dir hdst
  have hfw : runNode cf e₇ c d { r' with df := { r'.df with flowType := ft, nxtHop := m.port } } .firewall =
      some (d, { r' with df := { r'.df with flowType := ft, nxtHop := m.port } }, .tx) :=
    firewallNode_reply hres.conntrack hf hres.dir hvf
  refine ⟨_, ((run_node hroute rfl).trans (run_node hsnat rfl)).trans (run_node hfw rfl), ?_⟩
  exact ⟨hres.conntrack, hres.dir, rfl, hres.outer, hres.reply.l3, hres.reply.ports, hres.reply.echo⟩

/-! ## The round trip -/

/-- What the nodes do to the reply, and what it looks like at the end of its way. -/
def Arrives (cf : Conf) (s : Service) (m : Mbuf) (f : ℕ) (r : Mbuf) (es : List Env) : Prop :=
  ∃ d' r', run (nodeStep cf s.cfg) (s.dpl, { r with isRecirc := false }, .cls) es = some (d', r', .tx) ∧
    r'.df.conntrack = some f ∧ r'.df.flowDir = .reply ∧ r'.df.nxtHop = m.port ∧ r'.outer = none ∧ ReplyTo m r'

theorem roundTrip_iff_arrives {s : Service} (hal : (s.cfg.port r.port).allocated = true) :
    RoundTrip cf s m f r ↔ ∀ es : List Env, es.length = 7 → Arrives cf s m f r es := by
  constructor
  · intro h es hes
    obtain ⟨s', r', hrun, hfl, hrest⟩ := h es hes
    rw [run_cons (step_rx hal)] at hrun
    obtain ⟨d', -, hway⟩ := run_walks hrun (by rw [hfl, List.getElem?_concat_length])
    exact ⟨d', r', hway, hrest⟩
  · intro h es hes
    obtain ⟨d', r', hway, hrest⟩ := h es hes
    refine ⟨⟨s.cfg, d', s.inflight ++ [(.tx, r')]⟩, r', ?_, rfl, hrest⟩
    rw [run_cons (step_rx hal)]
    exact walks_run hway

/-- The state between the packet and its reply, and the reply at a physical port. -/
structure Replied (cf : Conf) (s₁ : Service) (m m₁ : Mbuf) (f : ℕ) (fv : FlowValue) (r : Mbuf) : Prop where
  ports : PortsOk cf s₁.cfg
  vnfs : VnfPorts cf s₁.cfg
  tracking : cf.conntrackEnabled = true
  connects : Connects m
  vf : cf.isPf m.port = false
  routed : RoutedBack cf s₁.cfg m
  value : s₁.dpl.flows f = some fv
  nat : fv.natType = .networkLocal
  translated : Translated s₁.cfg s₁.dpl m m₁ f fv
  reply : ReplyTo m₁ r
  enters : EntersNat cf s₁.cfg m r

section Replied

variable {s₁ : Service}

/-- Up to connection tracking. -/
theorem Replied.decap (h : Replied cf s₁ m m₁ f fv r) (e₁ e₂ : Env) (es : List Env) :
    ∃ r', Decapped (ifaceVni s₁.cfg m) r r' ∧
      run (nodeStep cf s₁.cfg) (s₁.dpl, { r with isRecirc := false }, .cls) (e₁ :: e₂ :: es) =
        run (nodeStep cf s₁.cfg) (s₁.dpl, r', .conntrack) es := by
  obtain ⟨natIp, hl3, -⟩ := h.reply.hdr h.translated
  obtain ⟨r', hrun, hd⟩ := reply_decap (d := s₁.dpl) h.enters hl3
    (fun ul v hv hty => h.vnfs ul v hv (by rw [hty]; decide)) e₁ e₂
  refine ⟨r', hd, ?_⟩
  change run _ _ ([e₁, e₂] ++ es) = _
  rw [run_append, hrun, Option.bind_some]

/-- A reply of neither kind arrives. -/
theorem Replied.arrives (h : Replied cf s₁ m m₁ f fv r) (hnb : ¬ ToBootp r) (hnc : ¬ SameConn m r)
    (e₁ e₂ e₃ e₄ e₅ e₆ e₇ : Env) : Arrives cf s₁ m f r [e₁, e₂, e₃, e₄, e₅, e₆, e₇] := by
  have hne : ¬ fv.reply = fv.org := fun heq => hnc ((h.reply.reply_eq_org h.connects h.translated).mp heq)
  have hidle : (s₁.cfg.port r.port).iface.vni = 0 := by
    rw [h.ports.idle (h.ports.not_ready_pf h.enters.pf)]
  obtain ⟨r₁, hd, hdecap⟩ := h.decap e₁ e₂ [e₃, e₄, e₅, e₆, e₇]
  obtain ⟨d', r₂, fv', hct, hf', hcore, hmat⟩ :=
    (reply_conntrack h.connects h.tracking h.enters.pf h.translated h.value h.reply hd e₃).2 hnb
  rw [if_neg hne] at hmat
  obtain ⟨r₃, hdnat, hres⟩ := reply_dnat (e := e₄) h.connects h.translated h.nat h.reply h.enters.room hmat hf' hcore
  have hflags : fv'.flags = fv.flags := (congrArg FlowValue.flags hcore :)
  obtain ⟨r₄, hback, hrest⟩ := reply_back h.routed h.enters.pf h.vf hidle hnb hres hf'
    (by rw [hflags]; exact h.translated.dstFlags) e₅ e₆ e₇
  have hl : (lookupNode m.l3).leaves = false := by cases m.l3 <;> rfl
  refine ⟨d', r₄, ?_, hrest⟩
  rw [hdecap, run_node (n := .conntrack) hct rfl, run_node (n := .dnat) hdnat hl, hback]

/-- A datagram to the BOOTP server port leaves at the `ipv4_lookup` node. -/
theorem Replied.bootp (h : Replied cf s₁ m m₁ f fv r) (hb : ToBootp r) (e₁ e₂ e₃ e₄ e₅ : Env) (es : List Env) :
    run (nodeStep cf s₁.cfg) (s₁.dpl, { r with isRecirc := false }, .cls)
    (e₁ :: e₂ :: e₃ :: e₄ :: e₅ :: es) = none := by
  obtain ⟨r₁, hd, hdecap⟩ := h.decap e₁ e₂ (e₃ :: e₄ :: e₅ :: es)
  obtain ⟨r₂, hct, hnone, hl3, hl4, hport⟩ :=
    (reply_conntrack h.connects h.tracking h.enters.pf h.translated h.value h.reply hd e₃).1 hb
  have hdnat : runNode cf e₄ s₁.cfg s₁.dpl r₂ .dnat = some (s₁.dpl, r₂, .ipv4Lookup) := by
    simp [runNode, dnatNode, hnone, dnatOut, hl3]
  have hdhcp : nodeStep cf s₁.cfg (s₁.dpl, r₂, .ipv4Lookup) e₅ = none := by
    simp [nodeStep, runNode, ipv4LookupNode, hl4, hport, Node.leaves]
  rw [hdecap, run_node (n := .conntrack) hct rfl, run_node hdnat rfl, run, hdhcp, Option.bind_none]

/-- The last three nodes do not change the direction of a packet. -/
theorem lookup_dir {e₅ e₆ e₇ : Env} {y : OnWay}
    (h : run (nodeStep cf c) (d, r, .ipv4Lookup) [e₅, e₆, e₇] = some y) : y.2.1.df.flowDir = r.df.flowDir := by
  obtain ⟨d₁, r₁, n₁, hlookup, hl₁, h⟩ := run_node_inv h
  obtain ⟨d₂, r₂, n₂, hsnat, hl₂, h⟩ := run_node_inv h
  obtain ⟨d₃, r₃, n₃, hfw, -, h⟩ := run_node_inv h
  cases h
  have hs₁ : SameFlow r r₁ := runNode_same (n := .ipv4Lookup) nofun nofun hlookup
  obtain rfl : n₁ = .snat := by
    obtain ⟨-, ⟨rfl | rfl, -⟩ | ⟨rfl, -⟩⟩ := lookup_cases (.inl hlookup)
    · cases hl₁
    · cases hl₁
    · rfl
  have hs₂ : SameFlow r₁ r₂ := runNode_same (n := .snat) nofun nofun hsnat
  obtain rfl : n₂ = .firewall := by
    obtain ⟨-, rfl | rfl⟩ := (snatNode_cases hsnat).known_pkt
    · cases hl₂
    · rfl
  exact ((hs₁.trans hs₂).trans (runNode_same (n := .firewall) nofun nofun hfw)).dir

/-- A reply that cannot be told from the packet it replies to is taken for another packet like it. -/
theorem Replied.sameConn {d' : Dataplane} {r' : Mbuf} (h : Replied cf s₁ m m₁ f fv r)
    (hnb : ¬ ToBootp r) (hsame : SameConn m r) {e₁ e₂ e₃ e₄ e₅ e₆ e₇ : Env}
    (hrun : run (nodeStep cf s₁.cfg) (s₁.dpl, { r with isRecirc := false }, .cls) [e₁, e₂, e₃, e₄, e₅, e₆, e₇] =
      some (d', r', .tx)) : r'.df.flowDir = .org := by
  have heq : fv.reply = fv.org := (h.reply.reply_eq_org h.connects h.translated).mpr hsame
  obtain ⟨r₁, hd, hdecap⟩ := h.decap e₁ e₂ [e₃, e₄, e₅, e₆, e₇]
  obtain ⟨d₂, r₂, fv', hct, hf', hcore, hmat⟩ :=
    (reply_conntrack h.connects h.tracking h.enters.pf h.translated h.value h.reply hd e₃).2 hnb
  rw [if_pos heq] at hmat
  obtain ⟨natIp, hl3, -⟩ := h.reply.hdr h.translated
  have hm3 : m.l3.type = .ipv4 := by rw [← hsame.1, hl3]; rfl
  have hl3t : r₂.df.l3Type = .ipv4 := by rw [hmat.extracted.l3Type, hmat.l3, hl3]; rfl
  have hflags : fv'.flags = fv.flags := (congrArg FlowValue.flags hcore :)
  have hnat : fv'.natType = .networkLocal := (congrArg FlowValue.natType hcore :).trans h.nat
  have hsrc : fv.flags.srcNat = true := by rw [h.translated.srcFlags.1, hm3]; rfl
  have hdnat : runNode cf e₄ s₁.cfg d₂ r₂ .dnat = some (d₂, r₂, .ipv4Lookup) := by
    have hne : fv.flags ≠ {} := by
      intro hfl
      rw [hfl] at hsrc
      cases hsrc
    simp [runNode, dnatNode, dnatKnownFlow, dnatReply, dnatReply64, dnatOut, hmat.conntrack, hf', hflags, hne, hnat,
      hmat.dir, h.translated.dstFlags.1, hl3t]
  rw [hdecap, run_node (n := .conntrack) hct rfl, run_node hdnat rfl] at hrun
  rw [lookup_dir hrun, hmat.dir]

/-- The reply arrives exactly if it is of neither kind. -/
theorem Replied.roundTrip_iff (h : Replied cf s₁ m m₁ f fv r) :
    RoundTrip cf s₁ m f r ↔ ¬ ToBootp r ∧ ¬ SameConn m r := by
  rw [roundTrip_iff_arrives (h.ports.pf h.enters.pf)]
  constructor
  · intro hall
    obtain ⟨d', r', hrun, -, hdir, -⟩ := hall [{}, {}, {}, {}, {}, {}, {}] rfl
    have hnb : ¬ ToBootp r := by
      intro hb
      rw [h.bootp hb] at hrun
      cases hrun
    refine ⟨hnb, fun hsame => ?_⟩
    rw [h.sameConn hnb hsame hrun] at hdir
    cases hdir
  · rintro ⟨hnb, hnc⟩ es hes
    match es, hes with
    | [e₁, e₂, e₃, e₄, e₅, e₆, e₇], _ => exact h.arrives hnb hnc e₁ e₂ e₃ e₄ e₅ e₆ e₇

end Replied

/-- **The reply to a packet that left through network NAT arrives, exactly if it does not look like a DHCP request or
like the packet it replies to.** -/
theorem nat_round_trip_iff {es : List Event} {s s₁ : Service} (h : run (step cf) (Service.init cf) es = some s)
    (hm : LeavesNat cf s m m₁ s₁ f fv) (hr : ReplyTo m₁ r) (hin : EntersNat cf s₁.cfg m r) :
    RoundTrip cf s₁ m f r ↔ ¬ ToBootp r ∧ ¬ SameConn m r := by
  have hports := portsOk_service h
  have hvf := (hports.ready hm.ready).2.1
  obtain ⟨hen, hcfg, ht⟩ := sends_translated (tracked_run h).base hvf hm.outer hm.connects hm.sends hm.fresh hm.flow
    hm.value hm.nat
  rw [← hcfg] at hports ht
  have hvnfs : VnfPorts cf s₁.cfg := hcfg ▸ vnfPorts_service h
  exact Replied.roundTrip_iff ⟨hports, hvnfs, hen, hm.connects, hvf, hcfg ▸ hm.routed, hm.value, hm.nat, ht, hr, hin⟩

end Reply

/-! ## Two round trips -/

/-- After the requests `rs`, the TCP or UDP packet `m` is sent as the first one and gets flow 0 with network NAT; `r` is
the reply to what is sent, and `P` holds of the state then. -/
def natReplies (rs : List Request) (m r : Mbuf) (P : Service → Bool) : Bool :=
  (run (step smallConf) (Service.init smallConf) (requests rs)).any fun s =>
    decide (s.inflight = [] ∧ (s.cfg.port m.port).iface.ready = true ∧ s.dpl.flows 0 = none) &&
    (dpGetIp4OutPort smallConf s.cfg (ifaceVni s.cfg m) m.src4).any (·.2.nh == m.port) &&
    (run (step smallConf) s (.rx m :: walks 0 (List.replicate 7 {}))).any fun s' =>
      s'.inflight.head?.any fun x =>
        decide (x.1 = .tx ∧ x.2.df.conntrack = some 0 ∧ isIcmp x.2.l3.proto = false ∧ r.l3 = x.2.l3.swap ∧
          r.l4.srcPort = x.2.l4.dstPort ∧ r.l4.dstPort = x.2.l4.srcPort) &&
        (step smallConf s' (.walk 0 {})).any fun s₁ =>
          (s₁.dpl.flows 0).any (·.natType == .networkLocal) &&
          (r.outer.bind fun o => s₁.cfg.vnf.handleTbl o.dst).any
            (fun v => v.type == .nat && v.vni == ifaceVni s₁.cfg m) &&
          P s₁

theorem natReplies_spec {rs : List Request} {m r : Mbuf} {P : Service → Bool} {src dst : Ip4} {proto : UInt8}
    (h : natReplies rs m r P = true) (hm3 : m.l3 = .ipv4 src dst proto) (hm : Connects m) (ho : m.outer = none)
    (hr : smallConf.isPf r.port = true ∧ smallConf.hasPort r.port = true ∧ r.notIp = false ∧ r.canGrow = true) :
    ∃ s m₁ s₁ fv, run (step smallConf) (Service.init smallConf) (requests rs) = some s ∧
      LeavesNat smallConf s m m₁ s₁ 0 fv ∧ ReplyTo m₁ r ∧ EntersNat smallConf s₁.cfg m r ∧ P s₁ = true := by
  obtain ⟨s, hs, h⟩ := (Option.any_eq_true _ _).mp h
  rw [Bool.and_eq_true, Bool.and_eq_true, decide_eq_true_eq] at h
  obtain ⟨⟨⟨hempty, hready, hfresh⟩, hroute⟩, h⟩ := h
  obtain ⟨⟨k, nh⟩, hk, hnh⟩ := (Option.any_eq_true _ _).mp hroute
  obtain ⟨s', hs', h⟩ := (Option.any_eq_true _ _).mp h
  obtain ⟨⟨n, m₁⟩, hx, h⟩ := (Option.any_eq_true _ _).mp h
  rw [Bool.and_eq_true, decide_eq_true_eq] at h
  obtain ⟨⟨rfl, hcon, hni, hl3, hsp, hdp⟩, h⟩ := h
  obtain ⟨s₁, hs₁, h⟩ := (Option.any_eq_true _ _).mp h
  rw [Bool.and_eq_true, Bool.and_eq_true] at h
  obtain ⟨⟨hflow, hvnf⟩, hP⟩ := h
  obtain ⟨fv, hfv, hnat⟩ := (Option.any_eq_true _ _).mp hflow
  obtain ⟨v, hv, htype⟩ := (Option.any_eq_true _ _).mp hvnf
  obtain ⟨o, hro, hv⟩ := Option.bind_eq_some_iff.mp hv
  rw [Bool.and_eq_true, beq_iff_eq, beq_iff_eq] at htype
  have hlen : s.inflight.length = 0 := by rw [hempty]; rfl
  have hsrc : m.src4 = src := by simp [Mbuf.src4, hm3]
  refine ⟨s, m₁, s₁, fv, hs, ?_, ⟨hl3, fun _ => ⟨hsp, hdp⟩, fun hi => absurd (hni.symm.trans hi) nofun⟩, ?_, hP⟩
  · refine ⟨hready, hm, ho, ?_, ⟨List.replicate 7 {}, {}, s', ?_, ?_, ?_⟩, hfresh, hcon, hfv, by simpa using hnat⟩
    · unfold RoutedBack
      rw [hm3]
      exact ⟨k, nh, hsrc ▸ hk, by simpa using hnh⟩
    · rw [hlen]
      exact hs'
    · rw [hlen, ← List.head?_eq_getElem?]
      exact hx
    · rw [hlen]
      exact hs₁
  · exact ⟨hr.1, hr.2.1, hr.2.2.1, hr.2.2.2, o, v, hro, hv, htype⟩

/-- The answer to `tcpPacket` behind NAT port 100. -/
def tcpAnswer : Mbuf where
  port := 0
  outer := some ⟨5, 2⟩
  l3 := .ipv4 0x08080808 0x01020304 ipprotoTcp
  l4 := { srcPort := 80, dstPort := 100, tcpSyn := true, tcpAck := true }

theorem nat_round_trip_tcp : ∃ s m₁ s₁ fv,
    run (step smallConf) (Service.init smallConf) (requests natSetup) = some s ∧
    LeavesNat smallConf s tcpPacket m₁ s₁ 0 fv ∧ ReplyTo m₁ tcpAnswer ∧ EntersNat smallConf s₁.cfg tcpPacket tcpAnswer ∧
    RoundTrip smallConf s₁ tcpPacket 0 tcpAnswer := by
  have hrun : natReplies natSetup tcpPacket tcpAnswer (fun _ => true) = true := by decide +kernel
  obtain ⟨s, m₁, s₁, fv, hs, hm, hr, hin, -⟩ := natReplies_spec hrun rfl (.inl rfl) rfl ⟨rfl, rfl, rfl, rfl⟩
  refine ⟨s, m₁, s₁, fv, hs, hm, hr, hin, (nat_round_trip_iff hs hm hr hin).mpr ⟨fun h => ?_, fun h => ?_⟩⟩
  · cases h.1
  · exact absurd h.1 (by decide)

/-- Interface 7 has the BOOTP server port as its only NAT port. -/
def bootpNat : List Request := smallSetup ++ [.createNat 7 (.v4 0x01020304) 67 68]

def dnsQuery : Mbuf :=
  { port := 2, l3 := .ipv4 0x0a000001 0x08080808 ipprotoUdp, l4 := { srcPort := 1000, dstPort := 53 } }

def dnsAnswer : Mbuf where
  port := 0
  outer := some ⟨5, 2⟩
  l3 := .ipv4 0x08080808 0x01020304 ipprotoUdp
  l4 := { srcPort := 53, dstPort := 67 }

/-- The answer to a DNS query is lost. -/
theorem nat_round_trip_dns : ∃ s m₁ s₁ fv,
    run (step smallConf) (Service.init smallConf) (requests bootpNat) = some s ∧
    LeavesNat smallConf s dnsQuery m₁ s₁ 0 fv ∧ ReplyTo m₁ dnsAnswer ∧ EntersNat smallConf s₁.cfg dnsQuery dnsAnswer ∧
    ¬ RoundTrip smallConf s₁ dnsQuery 0 dnsAnswer := by
  have hrun : natReplies bootpNat dnsQuery dnsAnswer (fun s₁ => s₁.inflight.isEmpty &&
      (run (step smallConf) s₁ (.rx dnsAnswer :: walks 0 (List.replicate 7 {}))).isNone) = true := by decide +kernel
  obtain ⟨s, m₁, s₁, fv, hs, hm, hr, hin, hlost⟩ := natReplies_spec hrun rfl (.inr (.inl rfl)) rfl ⟨rfl, rfl, rfl, rfl⟩
  refine ⟨s, m₁, s₁, fv, hs, hm, hr, hin, fun h => ?_⟩
  rw [Bool.and_eq_true, List.isEmpty_iff, Option.isNone_iff_eq_none] at hlost
  obtain ⟨s', r', hr', -⟩ := h (List.replicate 7 {}) rfl
  rw [hlost.1, List.length_nil, hlost.2] at hr'
  cases hr'

end Dpservice
