import Dpservice.PacketKeys
import Dpservice.Sending
import Dpservice.Walk

/-!
# A packet that leaves through network NAT

The way of a packet from a virtual function to `tx`, where the flow it starts is translated by network NAT (`Outward`).
What it leaves behind is what the reply will meet: the flow is in the table under the key of the packet as it was
received and under the inverted key of the packet as it is sent (`Translated`), and both are NAT keys (`natFlowKey`).

- `nodeStep_outward`: every node on the way keeps `Outward`;
- `sends_translated`: the state after the packet was sent.
-/

namespace Dpservice

/-! ## The way out -/

/-- The packet has the headers it was received with, and its private data says so. -/
structure Untouched (m m' : Mbuf) : Prop where
  port : m'.port = m.port
  l3 : m'.l3 = m.l3
  l4 : m'.l4 = m.l4
  dir : m'.df.flowDir = .org
  extracted : Extracted m'

/-- The keys of a flow that no node has translated. -/
structure Untranslated (c : Config) (m : Mbuf) (fv : FlowValue) : Prop where
  org : ∃ t, fv.org = { natFlowKey (ifaceVni c m) m with vnfType := t } ∧ (HasNat c m → t = .nat)
  reply : fv.reply = dpInvertFlowKey fv.org

/-- The flow `f` was translated by network NAT when `m` became `m'`: its keys are those of the two packets. -/
structure Translated (c : Config) (d : Dataplane) (m m' : Mbuf) (f : ℕ) (fv : FlowValue) : Prop where
  org : fv.org = natFlowKey (ifaceVni c m) m
  reply : fv.reply = dpInvertFlowKey (natFlowKey (ifaceVni c m) m')
  entry : d.flowTbl fv.reply = some f
  flushed : d.cache.prevValid = false
  dstFlags : fv.flags.dstNat = false ∧ fv.flags.dstLb = false
  srcFlags : fv.flags.srcNat = (m.l3.type == .ipv4) ∧ fv.flags.srcNat64 = (m.l3.type == .ipv6)
  l3 : ∃ natIp, m'.l3 = .ipv4 natIp m.dst4 (nat64L4Type m.l3.proto)
  ports : isIcmp m.l3.proto = false → m'.l4.dstPort = m.l4.dstPort
  echo : isIcmp m.l3.proto = true → m'.l4.icmpType = icmpEchoRequest

/-- Before source NAT: the flow of the packet is not translated by network NAT, and where no node has translated it, the
packet is as it was received. -/
structure Waiting (c : Config) (m : Mbuf) (f : ℕ) (d : Dataplane) (m' : Mbuf) : Prop where
  once : m'.df.natType ≠ .lbRecirc
  flow : ∀ fv, m'.df.conntrack = some f → d.flows f = some fv → fv.natType ≠ .networkLocal ∧
    (fv.flags = {} → Untouched m m' ∧ Untranslated c m fv)

/-- After source NAT: where the flow of the packet is translated by network NAT, its keys are those of the packets. -/
structure Settled (c : Config) (m : Mbuf) (f : ℕ) (d : Dataplane) (m' : Mbuf) : Prop where
  once : m'.df.natType ≠ .lbRecirc
  flow : ∀ fv, m'.df.conntrack = some f → d.flows f = some fv → fv.natType = .networkLocal →
    m'.df.flowDir = .org ∧ Translated c d m m' f fv

/-- Where the packet `m`, received in the state `d₀`, has got to; `f` is the flow that is made for it, if any. -/
def Outward (c : Config) (d₀ : Dataplane) (m : Mbuf) (f : ℕ) : OnWay → Prop
  | (d, m', .cls) => d = d₀ ∧ m' = m
  | (d, m', .conntrack) => d = d₀ ∧ m' = { m with df := { l3Type := m.l3.type } }
  | (d, m', .dnat) | (d, m', .ipv4Lookup) | (d, m', .ipv6Lookup) | (d, m', .snat) => Waiting c m f d m'
  | (d, m', .packetRelay) => m'.df.natType ≠ .lbRecirc ∧
    ∀ fv, m'.df.conntrack = some f → d.flows f = some fv → fv.natType ≠ .networkLocal
  | (d, m', .firewall) | (d, m', .ipipEncap) | (d, m', .tx) => Settled c m f d m'
  | _ => False

section Outward

variable {cf : Conf} {e : Env} {c : Config} {d₀ d d' : Dataplane} {n n' : Node} {m m₁ m' : Mbuf} {f g : ℕ}
  {fv fv' : FlowValue}

theorem clsNode_outward (hp : cf.isPf m.port = false) (ho : m.outer = none)
    (h : clsNode cf d₀ m = some (d', m', n')) (hn : n'.leaves = false) : Outward c d₀ m f (d', m', n') := by
  have hfront : m.frontHdr = m.l3 := by rw [Mbuf.frontHdr, ho]
  obtain ⟨rfl, -, hl | ⟨rfl, rfl⟩ | ⟨-, hpf, -⟩⟩ := clsNode_cases h
  · rw [hn] at hl
    cases hl
  · exact ⟨rfl, by rw [hfront]⟩
  · rw [hp] at hpf
    cases hpf

theorem conntrackNode_outward (hp : cf.isPf m.port = false) (ho : m.outer = none) (hm : Connects m)
    (hf : d₀.flows f = none) (h : conntrackNode cf e c d₀ { m with df := { l3Type := m.l3.type } } = some (d', m', n'))
    (hn : n'.leaves = false) : Outward c d₀ m f (d', m', n') := by
  obtain ⟨df, hdf, hx, hcon, -, -, hnat⟩ : ∃ df, _ := extract_eq (m := { m with df := { l3Type := m.l3.type } })
    hm.tracked ho rfl
  cases conntrackNode_cases h with
  | unread => cases hn
  | skip hdf' hnext =>
    cases hdf.symm.trans hdf'
    rcases hnext with rfl | rfl
    · refine ⟨by rw [hnat]; nofun, fun fv hc => ?_⟩
      rw [hcon] at hc
      cases hc
    · cases hn
  | @track df' b _ _ hdf' _ _ hh =>
    cases hdf.symm.trans hdf'
    cases b with
    | false => cases hn
    | true =>
      obtain ⟨r, hr, hres⟩ := hh.effect
      obtain ⟨g, dir, off, rfl, rfl⟩ := hres rfl
      have hnext : conntrackNext cf
          { m with df := { df with flowDir := dir, conntrack := some g, offloadState := off } } =
          .dnat := by simp [conntrackNext, hp]
      rw [if_pos rfl, hnext]
      refine ⟨by rw [hnat]; nofun, fun fv hc hfv => ?_⟩
      cases hc
      cases hr with
      | cached f' gv _ _ _ hg =>
        rw [hf] at hg
        cases hg
      | found f' gv _ _ _ hg =>
        rw [hf] at hg
        cases hg
      | made key gv hkey _ _ _ hi =>
        rw [hi.flows, Table.add_self, Option.some.injEq] at hfv
        subst hfv
        refine ⟨hi.notLocal, fun _ => ⟨⟨rfl, rfl, rfl, rfl, ?_⟩, ⟨?_, by rw [hi.reply, hi.org]⟩⟩⟩
        · exact ⟨hx.l3Type, hx.l4Type, hx.v4, hx.v6, hx.ports, hx.echo⟩
        · obtain ⟨t, ht, hv⟩ := dpBuildFlowKey_vf (m := { m with df := df }) d₀.cache.currBuf hp hm hx
          rw [ht] at hkey
          cases hkey
          exact ⟨t, hi.org, hv⟩

/-- The packet stays untouched where only its routing data changes. -/
theorem Untouched.route (h : Untouched m m₁) {ul : Ip6} {vni : Vni} {ft : FlowType} {nh : PortId} :
    Untouched m { m₁ with df := { m₁.df with ulDstAddr6 := ul, dstVni := vni, flowType := ft, nxtHop := nh } } where
  port := h.port
  l3 := h.l3
  l4 := h.l4
  dir := h.dir
  extracted := ⟨h.extracted.l3Type, h.extracted.l4Type, h.extracted.v4, h.extracted.v6, h.extracted.ports,
    h.extracted.echo⟩

theorem dnatNode_outward (hw : Waiting c m f d m₁) (h : dnatNode e c d m₁ = some (d', m', n'))
    (hn : n'.leaves = false) : Outward c d₀ m f (d', m', n') := by
  have hcase := dnatNode_cases h
  have honce : m'.df.natType ≠ .lbRecirc := hcase.carried.once hw.once
  have hsame : m'.df.conntrack = m₁.df.conntrack := hcase.carried.conntrack
  have hlookup : ∀ {n'}, n' = .ipv4Lookup ∨ n' = .ipv6Lookup → Waiting c m f d' m' → Outward c d₀ m f (d', m', n') := by
    rintro _ (rfl | rfl) hw <;> exact hw
  cases hcase with
  | out =>
    rcases dnatOut_next m₁ with h | h
    · rw [h] at hn
      cases hn
    · exact hlookup h hw
  | pass hnext =>
    rcases hnext with rfl | rfl
    · exact hw
    · cases hn
  | echo g fv hp =>
    refine ⟨honce, fun gv hf hgv => ?_⟩
    cases (plainFlow_live hp).1.symm.trans hf
    cases (Table.add_self ..).symm.trans hgv
    nofun
  | relay g fv ul hp =>
    refine ⟨honce, fun gv hf hgv => ?_⟩
    cases (plainFlow_live hp).1.symm.trans hf
    cases (Table.add_self ..).symm.trans hgv
    nofun
  | vip g fv ip hp =>
    obtain ⟨hc, hg, -⟩ := plainFlow_live hp
    split at hn
    next hok =>
      rw [if_pos hok]
      refine ⟨honce, fun gv hf hgv => ?_⟩
      cases hc.symm.trans (hsame ▸ hf)
      rw [rekeyed_flow, Option.some.injEq] at hgv
      subst hgv
      exact ⟨(hw.flow fv hc hg).1, fun hp' => by simp at hp'⟩
    · cases hn
  | known g fv hc hg h =>
    obtain rfl := h.state
    rcases h.next with rfl | rfl | hnext
    · cases hn
    · exact ⟨honce, fun gv hf hgv => (hw.flow gv (hsame ▸ hf) hgv).1⟩
    · refine hlookup hnext ⟨honce, fun gv hf hgv => ⟨(hw.flow gv (hsame ▸ hf) hgv).1, fun hp => ?_⟩⟩
      have hcf := hsame ▸ hf
      cases hc.symm.trans hcf
      cases hg.symm.trans hgv
      rw [h.same (by rcases hnext with rfl | rfl <;> nofun) (by rcases hnext with rfl | rfl <;> nofun) hp]
      exact (hw.flow fv hc hg).2 hp

theorem lookup_outward (hw : Waiting c m f d m₁)
    (h : ipv4LookupNode cf e c d m₁ = some (d', m', n') ∨ ipv6LookupNode cf e c d m₁ = some (d', m', n'))
    (hn : n'.leaves = false) : Outward c d₀ m f (d', m', n') := by
  obtain ⟨rfl, ⟨rfl | rfl, -⟩ | ⟨rfl, ul, vni, ft, nh, rfl⟩⟩ := lookup_cases h
  · cases hn
  · cases hn
  · refine ⟨hw.once, fun fv hc hfv => ⟨(hw.flow fv hc hfv).1, fun hp => ?_⟩⟩
    obtain ⟨hu, ht⟩ := (hw.flow fv hc hfv).2 hp
    exact ⟨hu.route, ht⟩

/-! ### Source NAT -/

theorem setSrc4_hdr {src dst : Ip4} {proto : UInt8} (hv : m.l3 = .ipv4 src dst proto) (ip : Ip4) :
    (m.setSrc4 ip).l3 = .ipv4 ip dst proto ∧ (m.setSrc4 ip).l4 = m.l4 := by
  simp [Mbuf.setSrc4, hv]

/-- A flow that network NAT has just translated, from here on as one whose translation is known. -/
theorem snatKnownFlow_nat {natIp dst : Ip4} {proto : UInt8} {src : Ip4} (hdir : m₁.df.flowDir = .org)
    (hflags : fv.flags = { srcNat := true }) (hloc : fv.natType = .networkLocal) (hr : fv.reply.l3Dst = .v4 natIp)
    (hv : m₁.l3 = .ipv4 src dst proto) (ht : m₁.df.l4Type = proto)
    (h : snatKnownFlow c d m₁ fv = some (d', m', n')) :
    n' = .firewall ∧ m'.l3 = .ipv4 natIp dst proto ∧
    m'.l4 = m₁.l4.setNatPort (proto == ipprotoIcmp) fv.reply.portDst := by
  obtain ⟨hs3, hs4, -⟩ := snatL4_hdr m₁ fv.reply.portDst
  obtain ⟨ha3, ha4⟩ := setSrc4_hdr (hs3.trans hv) natIp
  unfold snatKnownFlow at h
  simp only [hdir, hflags, hloc, hr, if_true, and_self, Bool.false_eq_true, or_self, false_and, if_false] at h
  cases h
  refine ⟨rfl, ha3, ?_⟩
  rw [ht] at hs4
  exact ha4.trans hs4

/-- The packet that NAT64 makes. -/
theorem dpNatChgIpv6ToIpv4Hdr_hdr {src dst : Ip6} {proto : UInt8} {ip : Ip4}
    (h : dpNatChgIpv6ToIpv4Hdr m₁ ip = (true, m')) (hv : m₁.l3 = .ipv6 src dst proto) (ht : m₁.df.l4Type = proto)
    (hk : proto = ipprotoTcp ∨ proto = ipprotoUdp ∨ proto = ipprotoIcmpv6 ∧ m₁.l4.icmpType = icmpv6EchoRequest) :
    m'.l3 = .ipv4 ip (low32 dst) (nat64L4Type proto) ∧ m'.df.l4Type = nat64L4Type proto ∧
      m'.l4 = if proto = ipprotoIcmpv6 then { m₁.l4 with icmpCode := 0, icmpType := icmpEchoRequest } else m₁.l4 := by
  unfold dpNatChgIpv6ToIpv4Hdr at h
  rw [hv] at h
  dsimp only at h
  split at h
  · cases h
  · rcases hk with rfl | rfl | ⟨rfl, hty⟩
    · rw [if_pos (.inl ht)] at h
      cases h
      exact ⟨rfl, ht, rfl⟩
    · rw [if_pos (.inr ht)] at h
      cases h
      exact ⟨rfl, ht, rfl⟩
    · rw [if_neg (by rw [ht]; decide), if_pos ht, if_pos hty] at h
      cases h
      exact ⟨rfl, rfl, rfl⟩

/-- The layer-4 header of a translated packet. -/
def natHdr (m : Mbuf) (p : UInt16) : L4Hdr :=
  (if m.l3.proto = ipprotoIcmpv6 then { m.l4 with icmpCode := 0, icmpType := icmpEchoRequest } else m.l4).setNatPort
    (nat64L4Type m.l3.proto == ipprotoIcmp) p

/-- The packet that network NAT makes. -/
theorem NatPacket.hdr_eq {natIp : Ip4} {p : UInt16} (hm : Connects m) (hu : Untouched m m₁)
    (h : NatPacket m₁ natIp p m') :
    m'.l3 = .ipv4 natIp m.dst4 (nat64L4Type m.l3.proto) ∧ m'.l4 = natHdr m p ∧
    m'.df.l4Type = nat64L4Type m.l3.proto := by
  obtain ⟨m₂, h4, h6, hl3, hl4, ht⟩ := h.hdr
  have hty := hu.extracted.l4Type
  rw [hl3, hl4, ht, natHdr, Mbuf.dst4]
  unfold Connects at hm
  cases hv : m.l3 with
  | ipv4 src dst proto =>
    have hv₁ := hu.l3.trans hv
    obtain ⟨h3, h4, ht₂⟩ := h4 (by rw [hu.extracted.l3Type, hv₁]; rfl)
    rw [h3, h4, ht₂, hty, hu.l4, hv₁, (setSrc4_hdr hv₁ natIp).1]
    rw [hv] at hm
    rcases hm with rfl | rfl | ⟨rfl, -⟩ <;> exact ⟨rfl, rfl, rfl⟩
  | ipv6 src dst proto =>
    have hv₁ := hu.l3.trans hv
    rw [hv] at hm
    rw [hv₁] at hty
    obtain ⟨hc3, hct, hc4⟩ := dpNatChgIpv6ToIpv4Hdr_hdr (h6 (by rw [hu.extracted.l3Type, hv₁]; rfl)) hv₁ hty
      (by rw [hu.l4]; exact hm.2)
    rw [hc3, hct, hc4, hu.l4]
    exact ⟨rfl, rfl, rfl⟩

/-- The reply key that network NAT enters is the inverted key of the packet it makes. -/
theorem natReply_natFlowKey {natIp : Ip4} (vni : Vni) (p : UInt16) (hm : Connects m) (hu : Untouched m m₁)
    (hrep : fv.reply = dpInvertFlowKey (natFlowKey vni m)) (hl3 : m'.l3 = .ipv4 natIp m.dst4 (nat64L4Type m.l3.proto))
    (hl4 : m'.l4 = natHdr m p) : natReply m₁ fv natIp p = dpInvertFlowKey (natFlowKey vni m') := by
  have hdst : m₁.dst4 = m.dst4 := by rw [Mbuf.dst4, hu.l3, Mbuf.dst4]
  rw [natReply, hrep, hu.extracted.l3Type, hu.extracted.l4Type, hu.l3, hdst]
  unfold Connects at hm
  cases hv : m.l3 with
  | ipv4 src dst proto =>
    rw [hv] at hm
    rcases hm with rfl | rfl | ⟨rfl, ht⟩ <;>
      simp +decide [snatReply, dpInvertFlowKey, natFlowKey, natHdr, Mbuf.dst4, hv, hl3, hl4, L3Hdr.type, L3Hdr.src,
        L3Hdr.dst, L3Hdr.proto, L4Hdr.setNatPort]
  | ipv6 src dst proto =>
    rw [hv] at hm
    rcases hm.2 with rfl | rfl | ⟨rfl, ht⟩ <;>
      simp +decide [nat64Reply, nat64OldReply, dpInvertFlowKey, natFlowKey, natHdr, Mbuf.dst4, L3Hdr.type, L3Hdr.src,
        L3Hdr.dst, L3Hdr.proto, L4Hdr.setNatPort, *]

/-- The state after a flow got its new reply key. -/
theorem rekeyed_entry {old : FlowKey} (hok : e.ok .flowAddReply = true) :
    (rekeyed e d g fv' old).flowTbl fv'.reply = some g ∧ (rekeyed e d g fv' old).cache.prevValid = false := by
  unfold rekeyed
  rw [if_pos hok]
  exact ⟨Table.add_self .., rfl⟩

theorem Untranslated.org_eq (h : Untranslated c m fv) (hnat : HasNat c m) : fv.org = natFlowKey (ifaceVni c m) m := by
  obtain ⟨t, ht, hv⟩ := h.org
  rw [ht, hv hnat]
  rfl

/-- An interface whose packet is translated has network NAT. -/
theorem HasNat.of_range {r : NatRange} (hu : Untouched m m₁) (h : natRangeOf c m₁ = some r) : HasNat c m := by
  unfold HasNat
  cases hv : m.l3 with
  | ipv6 => trivial
  | ipv4 src dst proto =>
    have hv₁ := hu.l3.trans hv
    have ht : m₁.df.l3Type = .ipv4 := by rw [hu.extracted.l3Type, hv₁]; rfl
    rw [natRangeOf, ht, (hu.extracted.v4 _ _ _ hv₁).1, hu.port] at h
    obtain ⟨sd, hsd, -⟩ := Option.map_eq_some_iff.mp h
    obtain ⟨hsd, hne⟩ := Option.filter_eq_some_iff.mp hsd
    exact (Option.any_eq_true _ _).mpr ⟨sd, hsd, hne⟩

/-- **A packet whose new flow was translated**: `m₂` is what NAT makes of it, and `m'` has the same headers. -/
theorem NatValue.translated {vni : Vni} {b : Bool} {natIp : Ip4} {p : UInt16} {m₂ : Mbuf} {old : FlowKey}
    (hm : Connects m) (hu : Untouched m m₁) (hut : Untranslated c m fv) (hp : fv.flags = {}) (hhas : HasNat c m)
    (hok : e.ok .flowAddReply = true) (h : NatValue vni b fv fv') (reply : fv'.reply = natReply m₁ fv natIp p)
    (flags : fv'.flags = if m₁.df.l3Type = .ipv6 then { fv.flags with srcNat64 := true }
      else { fv.flags with srcNat := true })
    (hpkt : NatPacket m₁ natIp p m₂) (hl3' : m'.l3 = m₂.l3) (hl4' : m'.l4 = m₂.l4) :
    Translated c (rekeyed e d f fv' old) m m' f fv' := by
  obtain ⟨hl3, hl4, -⟩ := hpkt.hdr_eq hm hu
  rw [← hl3'] at hl3
  rw [← hl4'] at hl4
  have horg := hut.org_eq hhas
  obtain ⟨hentry, hflush⟩ : (rekeyed e d f fv' old).flowTbl fv'.reply = some f ∧ _ := rekeyed_entry hok
  rw [hp, hu.extracted.l3Type, hu.l3] at flags
  have hicmp : isIcmp m.l3.proto = true → m.l3.proto = ipprotoIcmp ∧ m.l4.icmpType = icmpEchoRequest ∨
      m.l3.proto = ipprotoIcmpv6 := by
    unfold Connects at hm
    cases hv : m.l3 <;> rw [hv] at hm
    · rcases hm with rfl | rfl | h
      · nofun
      · nofun
      · exact fun _ => .inl h
    · rcases hm.2 with rfl | rfl | h
      · nofun
      · nofun
      · exact fun _ => .inr h.1
  refine ⟨h.org.trans horg, ?_, hentry, hflush, ?_, ?_, ⟨natIp, hl3⟩, fun hi => ?_, fun hi => ?_⟩
  · rw [reply]
    exact natReply_natFlowKey _ p hm hu (by rw [hut.reply, horg]) hl3 hl4
  · rw [flags]
    split <;> exact ⟨rfl, rfl⟩
  · rw [flags]
    cases m.l3 <;> exact ⟨rfl, rfl⟩
  · rw [hl4]
    unfold natHdr L4Hdr.setNatPort
    split <;> split <;> rfl
  · rw [hl4]
    unfold natHdr L4Hdr.setNatPort
    rcases hicmp hi with ⟨h, hty⟩ | h
    · simpa +decide [h] using hty
    · simp +decide [h]

theorem snatNode_outward (hm : Connects m) (hw : Waiting c m f d m₁) (h : snatNode cf e c d m₁ = some (d', m', n'))
    (hn : n'.leaves = false) : Outward c d₀ m f (d', m', n') := by
  obtain ⟨hcar, hnext⟩ := (snatNode_cases h).known_pkt
  obtain rfl : n' = .firewall := hnext.resolve_left fun hd => by rw [hd] at hn; cases hn
  refine ⟨hcar.once hw.once, fun fv' hc' hf' hloc => ?_⟩
  have hc : m₁.df.conntrack = some f := hcar.conntrack ▸ hc'
  cases snatNode_cases h with
  | known h =>
    rw [h.state] at hf'
    exact absurd hloc (hw.flow fv' hc hf').1
  | vip g fv ip hp =>
    cases hc.symm.trans (plainFlow_live hp).1
    rw [rekeyed_flow, Option.some.injEq] at hf'
    rw [← hf'] at hloc
    cases hloc
  | @nat _ m₂ _ _ b g fv r hp turn h carried next goes =>
    obtain ⟨hg, hf, hflags, hdir⟩ := plainFlow_live hp
    cases hc.symm.trans hg
    obtain ⟨hu, hut⟩ := (hw.flow fv hc hf).2 hflags
    have hhas : HasNat c m := .of_range hu (natTurn_inv turn).2.2.2.2.2
    obtain ⟨hb, h6, h4⟩ := goes rfl
    refine ⟨hcar.dir.trans hdir, ?_⟩
    cases h with
    | full | unconverted => cases hb
    | @done _ _ p fv₂ alloc conv value reply flags hpkt =>
      have hfv : fv₂ = fv' := Option.some.inj (rekeyed_flow.symm.trans hf')
      subst hfv
      obtain ⟨hl3, hl4, hty⟩ := hpkt.hdr_eq hm hu
      cases hv : m.l3 with
      | ipv6 =>
        rw [h6 (by rw [hu.extracted.l3Type, hu.l3, hv]; rfl)]
        exact value.translated hm hu hut hflags hhas hb reply flags hpkt rfl rfl
      | ipv4 src dst proto =>
        have ht : m₁.df.l3Type = .ipv4 := by rw [hu.extracted.l3Type, hu.l3, hv]; rfl
        obtain ⟨fv₃, hf₃, hk⟩ := h4 ht
        have hfv : fv₂ = fv₃ := Option.some.inj (rekeyed_flow.symm.trans hf₃)
        subst hfv
        rw [natReply, ht, if_neg (by decide)] at reply
        have hdst : fv₂.reply.l3Dst = .v4 r.natIp := by rw [reply]; rfl
        have hport : fv₂.reply.portDst = p := by rw [reply]; rfl
        rw [ht, if_neg (by decide), hflags] at flags
        obtain ⟨-, hl3', hl4'⟩ := snatKnownFlow_nat (hpkt.carried.dir.trans hu.dir) flags hloc hdst hl3 hty hk
        refine value.translated hm hu hut hflags hhas hb ?_ ?_ hpkt (hl3'.trans hl3.symm) ?_
        · rw [natReply, ht, if_neg (by decide)]
          exact reply
        · rw [ht, if_neg (by decide), hflags]
          exact flags
        · rw [hl4', hport, hl4, natHdr]
          unfold L4Hdr.setNatPort
          split <;> rfl

/-! ### The nodes after source NAT -/

theorem Translated.kept (h : Translated c d m m₁ f fv) (horg : fv'.org = fv.org) (hrep : fv'.reply = fv.reply)
    (hflags : { fv'.flags with firewall := false } = { fv.flags with firewall := false })
    (htbl : d'.flowTbl = d.flowTbl) (hcache : d'.cache = d.cache) (hl3 : m'.l3 = m₁.l3) (hl4 : m'.l4 = m₁.l4) :
    Translated c d' m m' f fv' := by
  have hsrc : fv'.flags.srcNat = fv.flags.srcNat := (congrArg FlowFlags.srcNat hflags :)
  have hsrc64 : fv'.flags.srcNat64 = fv.flags.srcNat64 := (congrArg FlowFlags.srcNat64 hflags :)
  have hdst : fv'.flags.dstNat = fv.flags.dstNat := (congrArg FlowFlags.dstNat hflags :)
  have hlb : fv'.flags.dstLb = fv.flags.dstLb := (congrArg FlowFlags.dstLb hflags :)
  have hkey : natFlowKey (ifaceVni c m) m' = natFlowKey (ifaceVni c m) m₁ := by simp only [natFlowKey, hl3, hl4]
  refine ⟨horg.trans h.org, ?_, ?_, ?_, ?_, ?_, ?_, ?_, ?_⟩
  · rw [hrep, h.reply, hkey]
  · rw [hrep, htbl, h.entry]
  · rw [hcache, h.flushed]
  · rw [hdst, hlb]
    exact h.dstFlags
  · rw [hsrc, hsrc64]
    exact h.srcFlags
  · rw [hl3]
    exact h.l3
  · rw [hl4]
    exact h.ports
  · rw [hl4]
    exact h.echo

theorem firewallNode_outward (hs : Settled c m f d m₁) (h : firewallNode cf d m₁ = some (d', m', n')) :
    Outward c d₀ m f (d', m', n') := by
  obtain ⟨rfl, rfl, hd⟩ := firewallNode_cases h
  have hset : Settled c m f d' m' := by
    rcases hd with rfl | ⟨g, fv, hc, hg, rfl⟩
    · exact hs
    · refine ⟨hs.once, fun fv' hf hfv hloc => ?_⟩
      cases hc.symm.trans hf
      obtain rfl := Option.some.inj ((Table.add_self ..).symm.trans hfv)
      obtain ⟨hdir, ht⟩ := hs.flow fv hf hg hloc
      exact ⟨hdir, ht.kept rfl rfl rfl rfl rfl rfl rfl⟩
  split <;> exact hset

theorem ipipEncapNode_outward (hs : Settled c m f d m₁) (h : ipipEncapNode cf c d m₁ = some (d', m', n'))
    (hn : n'.leaves = false) : Outward c d₀ m f (d', m', n') := by
  obtain ⟨rfl, ⟨rfl, -⟩ | ⟨⟨-, hrec⟩ | ⟨rfl, -⟩, proto, o, r, rfl⟩⟩ := ipipEncapNode_cases h
  · cases hn
  · exact absurd hrec hs.once
  · refine ⟨hs.once, fun fv hf hfv hloc => ?_⟩
    obtain ⟨hdir, ht⟩ := hs.flow fv hf hfv hloc
    exact ⟨hdir, ht.kept rfl rfl rfl rfl rfl rfl rfl⟩

theorem packetRelayNode_outward (hw : m₁.df.natType ≠ .lbRecirc ∧
      ∀ fv, m₁.df.conntrack = some f → d.flows f = some fv → fv.natType ≠ .networkLocal)
    (h : packetRelayNode d m₁ = some (d', m', n')) (hn : n'.leaves = false) : Outward c d₀ m f (d', m', n') := by
  obtain ⟨rfl, hcar, rfl | rfl⟩ := packetRelayNode_cases h
  · cases hn
  · exact ⟨hcar.once hw.1, fun fv hf hfv hloc => absurd hloc (hw.2 fv (hcar.conntrack ▸ hf) hfv)⟩

/-- **Every node keeps track of the packet.** -/
theorem nodeStep_outward (hp : cf.isPf m.port = false) (ho : m.outer = none) (hm : Connects m) (hf : d₀.flows f = none)
    {x y : OnWay} (hx : Outward c d₀ m f x) (h : nodeStep cf c x e = some y) : Outward c d₀ m f y := by
  obtain ⟨d, m₁, n⟩ := x
  obtain ⟨d', m', n'⟩ := y
  obtain ⟨hr, hn⟩ := nodeStep_eq_some.mp h
  dsimp only at hr hn
  cases n with
  | cls =>
    obtain ⟨rfl, rfl⟩ := hx
    exact clsNode_outward hp ho hr hn
  | conntrack =>
    obtain ⟨rfl, rfl⟩ := hx
    exact conntrackNode_outward hp ho hm hf hr hn
  | dnat => exact dnatNode_outward hx hr hn
  | ipv4Lookup => exact lookup_outward hx (.inl hr) hn
  | ipv6Lookup => exact lookup_outward hx (.inr hr) hn
  | snat => exact snatNode_outward hm hx hr hn
  | packetRelay => exact packetRelayNode_outward hx hr hn
  | firewall => exact firewallNode_outward hx hr
  | ipipEncap => exact ipipEncapNode_outward hx hr hn
  | tx =>
    obtain ⟨d₂, -, heq⟩ := Option.map_eq_some_iff.mp hr
    cases heq
    cases hn
  | ipipDecap => cases hx
  | lb => cases hx
  | arp | ipv6Nd | dhcp | dhcpv6 | drop => cases hx

end Outward

/-! ## After sending -/

section Sent

variable {cf : Conf} {e : Env} {c : Config} {m : Mbuf} {f : ℕ} {fv : FlowValue}

/-- On the way of a packet nobody takes a reference to the flow that is made for it, and where connection tracking is
off, no flow is made. -/
structure FreshWay (cf : Conf) (f : ℕ) (x : OnWay) : Prop where
  base : Base x.1
  pkt : NodeOk x.1 x.2.1 x.2.2
  fresh : ∀ fv, x.1.flows f = some fv → fv.Fresh cf
  off : cf.conntrackEnabled = false → x.2.2 ≠ .cls → x.2.1.df.conntrack = none

theorem nodeStep_fresh {x y : OnWay} (hx : FreshWay cf f x) (h : nodeStep cf c x e = some y) : FreshWay cf f y := by
  obtain ⟨d, m, n⟩ := x
  obtain ⟨d', m', n'⟩ := y
  obtain ⟨hr, hn'⟩ := nodeStep_eq_some.mp h
  dsimp only at hr hn'
  have hb := hx.base
  have htx : n ≠ .tx := by
    rintro rfl
    obtain ⟨d₂, -, heq⟩ := Option.map_eq_some_iff.mp hr
    cases heq
    cases hn'
  have hres := runNode_keeps hb hx.pkt (absurd · htx) hr
  have hstep : NodeStep cf e c d n m d' := runNode_effect (fun f fv hf hp => (hb.plain f fv hf hp).2) hr
  refine ⟨hb.nodeStep hstep, runNode_pkt hb hx.pkt hr, fun fv' hf' => ?_, fun hoff _ => ?_⟩
  · obtain ⟨fv, hf, hu⟩ | ⟨-, hfresh⟩ := hres.keeps.was_live f fv' hf'
    · exact (hx.fresh fv hf).upd hu
    · exact hfresh
  · by_cases hcon : n = .conntrack
    · subst hcon
      have hnone : m.df.conntrack = none := hx.off hoff nofun
      cases conntrackNode_cases hr with
      | unread => exact hnone
      | skip hdf => exact (extract_conntrack hdf).trans hnone
      | track _ hen =>
        rw [hoff] at hen
        cases hen
    · have hc := hres.conntrack hcon hn'
      rw [hc]
      split
      · rfl
      next hcls => exact hx.off hoff hcls

/-- **What a packet leaves behind that starts a flow and leaves through network NAT.** -/
theorem sends_translated {s s₁ : Service} {m₁ : Mbuf} (hb : Base s.dpl) (hp : cf.isPf m.port = false)
    (ho : m.outer = none) (hm : Connects m) (hs : Sends cf s m m₁ s₁) (hnew : s.dpl.flows f = none)
    (hc : m₁.df.conntrack = some f) (hf : s₁.dpl.flows f = some fv) (hloc : fv.natType = .networkLocal) :
    cf.conntrackEnabled = true ∧ s₁.cfg = s.cfg ∧ Translated s.cfg s₁.dpl m m₁ f fv := by
  obtain ⟨-, es, e, d₁, hway, htx, hcfg, -⟩ := hs.way
  have hfresh : FreshWay cf f (d₁, m₁, .tx) := by
    have hstart : FreshWay cf f (s.dpl, { m with isRecirc := false }, .cls) :=
      ⟨hb, trivial, fun fv hf => absurd (hnew.symm.trans hf) nofun, fun _ hn => absurd rfl hn⟩
    exact run_invariant (P := fun _ _ => True) (fun _ _ _ hx _ h => nodeStep_fresh hx h) hstart (along_true _ _) hway
  have hout : Outward s.cfg s.dpl { m with isRecirc := false } f (d₁, m₁, .tx) := by
    have hstart : Outward s.cfg s.dpl { m with isRecirc := false } f (s.dpl, { m with isRecirc := false }, .cls) :=
      ⟨rfl, rfl⟩
    exact run_invariant (P := fun _ _ => True)
      (fun _ _ _ hx _ h => nodeStep_outward (m := { m with isRecirc := false }) hp ho hm hnew hx h) hstart
      (along_true _ _) hway
  have hen : cf.conntrackEnabled = true := by
    by_contra hoff
    have hnone := hfresh.off (by simpa using hoff) nofun
    rw [hc] at hnone
    cases hnone
  obtain ⟨fv₁, hf₁, ht₁⟩ := txNode_natType hc htx hf
  obtain ⟨-, htr⟩ := hout.flow fv₁ hc hf₁ (ht₁.trans hloc)
  have hnf : fv₁.flags.nf = true := by
    unfold FlowFlags.nf
    rw [htr.srcFlags.1, htr.srcFlags.2]
    cases m.l3 <;> rfl
  have hpos : 0 < fv₁.refCount := by
    rw [(hfresh.fresh fv₁ hf₁).refCount]
    decide
  obtain ⟨fv₂, hr⟩ := txNode_only hc hf₁ hnf hpos htx
  have hfv : fv₂ = fv := Option.some.inj (hr.live.symm.trans hf)
  subst hfv
  have hkept := htr.kept (congrArg FlowValue.org hr.same :) (congrArg FlowValue.reply hr.same :)
    (congrArg (fun fv : FlowValue => { fv.flags with firewall := false }) hr.same :) hr.flowTbl hr.cache rfl rfl
  exact ⟨hen, hcfg, hkept.org, hkept.reply, hkept.entry, hkept.flushed, hkept.dstFlags, hkept.srcFlags, hkept.l3,
    hkept.ports, hkept.echo⟩

end Sent

end Dpservice
