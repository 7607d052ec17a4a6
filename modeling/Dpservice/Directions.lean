import Dpservice.Lib.Bytes
import Dpservice.PacketKeys
import Dpservice.Service

/-!
# The two directions of a connection

A flow is entered under the key of its first packet and under the inverted key, which should be the key of the packets
that come back.

- `flow_key_inversion`: for which packets inversion is undone by a second inversion; ICMPv6 messages other than echo
  lose their type.
- `receivedKey` is the key of a packet as it is received from a port, `Opposite` relates the packets of two directions.
- A packet of a virtual function and one that comes back through an underlay address have keys that differ at most in
  VNI and VNF type (`Conversation.invert`); where the VNF types come from differs (`Marked`).
- `connection_directions`: when both directions of a connection have one flow.
-/

namespace Dpservice

/-! ## Inverting twice -/

/-- The packet is not an ICMPv6 message whose type the inverted key forgets. -/
def Invertible (df : DpFlow) : Prop :=
  df.l4Type = ipprotoIcmpv6 → df.icmpType = 0 ∨ df.icmpType = icmpv6EchoRequest ∨ df.icmpType = icmpv6EchoReply

instance (df : DpFlow) : Decidable (Invertible df) := inferInstanceAs (Decidable (_ → _))

section Inversion

variable {cf cf' : Conf} {c c' : Config} {m m' : Mbuf} {buf buf' key key' : FlowKey}

/-- The echo types come back, and so does 0; every other type is forgotten. -/
theorem invertEchoType_icmpv6 (t : UInt8) :
    invertEchoType icmpv6EchoRequest icmpv6EchoReply
        (invertEchoType icmpv6EchoRequest icmpv6EchoReply t.toUInt16) = t.toUInt16 ↔
      t = 0 ∨ t = icmpv6EchoRequest ∨ t = icmpv6EchoReply :=
  forall_byte (P := fun t => invertEchoType icmpv6EchoRequest icmpv6EchoReply
    (invertEchoType icmpv6EchoRequest icmpv6EchoReply t.toUInt16) = t.toUInt16 ↔
      t = 0 ∨ t = icmpv6EchoRequest ∨ t = icmpv6EchoReply) (by decide +kernel) t

theorem dpInvertFlowKey_ports (h : key.proto = ipprotoTcp ∨ key.proto = ipprotoUdp) :
    dpInvertFlowKey key =
      { key with l3Dst := key.l3Src, l3Src := key.l3Dst, portDst := key.src, src := key.portDst } :=
  if_pos h

theorem dpInvertFlowKey_icmp (h : key.proto = ipprotoIcmp) :
    dpInvertFlowKey key = { key with
      l3Dst := key.l3Src, l3Src := key.l3Dst, src := invertEchoType icmpEchoRequest icmpEchoReply key.src } := by
  have hne : ¬(key.proto = ipprotoTcp ∨ key.proto = ipprotoUdp) := by rw [h]; decide
  exact (if_neg hne).trans (if_pos h)

theorem dpInvertFlowKey_icmpv6 (h : key.proto = ipprotoIcmpv6) :
    dpInvertFlowKey key = { key with
      l3Dst := key.l3Src, l3Src := key.l3Dst, src := invertEchoType icmpv6EchoRequest icmpv6EchoReply key.src } := by
  have hne : ¬(key.proto = ipprotoTcp ∨ key.proto = ipprotoUdp) := by rw [h]; decide
  have hne' : ¬key.proto = ipprotoIcmp := by rw [h]; decide
  exact (if_neg hne).trans ((if_neg hne').trans (if_pos h))

/-- What a key is made from: ports (also those that an ICMP error quotes), an ICMP echo type, or any ICMPv6 type. -/
theorem dpBuildFlowKey_kind (h : dpBuildFlowKey cf c buf m = (true, key)) :
    (m.df.l4Type ≠ ipprotoIcmpv6 ∧ (key.proto = ipprotoTcp ∨ key.proto = ipprotoUdp)) ∨
    (m.df.l4Type ≠ ipprotoIcmpv6 ∧ key.proto = ipprotoIcmp ∧
      (key.src = icmpEchoReply.toUInt16 ∨ key.src = icmpEchoRequest.toUInt16)) ∨
    (m.df.l4Type = ipprotoIcmpv6 ∧ key.proto = ipprotoIcmpv6 ∧ key.src = m.df.icmpType.toUInt16) := by
  unfold dpBuildFlowKey at h
  dsimp only at h
  split at h
  · cases h
  · split at h
    next htu =>
      cases h
      exact .inl ⟨by rcases htu with h | h <;> rw [h] <;> decide, htu⟩
    · split at h
      next hicmp =>
        have hne : m.df.l4Type ≠ ipprotoIcmpv6 := by rw [hicmp]; decide
        unfold dpBuildIcmpFlowKey at h
        split at h
        next hecho =>
          cases h
          refine .inr (.inl ⟨hne, hicmp, ?_⟩)
          rcases hecho with h | h
          · exact .inl (congrArg UInt8.toUInt16 h)
          · exact .inr (congrArg UInt8.toUInt16 h)
        · split at h
          · split at h
            · cases h
            · split at h
              · cases h
              next q _ =>
                split at h
                · cases h
                next hq =>
                  cases h
                  refine .inl ⟨hne, ?_⟩
                  by_contra hproto
                  exact hq (.inl (not_or.mp hproto))
          · cases h
      · split at h
        next hicmp6 =>
          cases h
          exact .inr (.inr ⟨hicmp6, hicmp6, rfl⟩)
        · cases h

/-- A key comes back from two inversions unless it has lost its type. -/
theorem dpInvertFlowKey_twice (h : dpBuildFlowKey cf c buf m = (true, key)) :
    dpInvertFlowKey (dpInvertFlowKey key) = key ↔ Invertible m.df := by
  rcases dpBuildFlowKey_kind h with ⟨hne, hports⟩ | ⟨hne, hicmp, hecho⟩ | ⟨hicmp6, hproto, hsrc⟩
  · rw [dpInvertFlowKey_ports hports, dpInvertFlowKey_ports (by exact hports)]
    exact iff_of_true rfl fun h => absurd h hne
  · rw [dpInvertFlowKey_icmp hicmp, dpInvertFlowKey_icmp (by exact hicmp)]
    refine iff_of_true ?_ fun h => absurd h hne
    have hback : invertEchoType icmpEchoRequest icmpEchoReply
        (invertEchoType icmpEchoRequest icmpEchoReply key.src) = key.src := by
      rcases hecho with h | h <;> rw [h] <;> decide
    dsimp only
    rw [hback]
  · rw [dpInvertFlowKey_icmpv6 hproto, dpInvertFlowKey_icmpv6 (by exact hproto)]
    have hback := invertEchoType_icmpv6 m.df.icmpType
    rw [← hsrc] at hback
    constructor
    · intro heq _
      exact hback.mp (congrArg FlowKey.src heq)
    · intro hinv
      dsimp only
      rw [hback.mpr (hinv hicmp6)]

/-- **Inversion of flow keys**: two inversions give a key back exactly if the packet is not an ICMPv6 message with
another type than echo, or 0; and different keys of such packets have different inverted keys. -/
theorem flow_key_inversion (h : dpBuildFlowKey cf c buf m = (true, key)) :
    (dpInvertFlowKey (dpInvertFlowKey key) = key ↔ Invertible m.df) ∧
      ∀ {cf' c' buf' m' key'}, dpBuildFlowKey cf' c' buf' m' = (true, key') → Invertible m.df → Invertible m'.df →
        dpInvertFlowKey key = dpInvertFlowKey key' → key = key' := by
  refine ⟨dpInvertFlowKey_twice h, fun h' hinv hinv' heq => ?_⟩
  rw [← (dpInvertFlowKey_twice h).mpr hinv, heq, (dpInvertFlowKey_twice h').mpr hinv']

end Inversion

/-- An ICMPv6 message of interface 7 to a neighbour, as connection tracking gets it. -/
def icmpv6Message (type : UInt8) : Mbuf where
  port := 2
  l3 := .ipv6 0xfd00 0xfe01 ipprotoIcmpv6
  l4 := { icmpType := type, icmpIdent := 1 }
  df :=
    { l3Type := .ipv6, srcAddr6 := 0xfd00, dstAddr6 := 0xfe01
      l4Type := ipprotoIcmpv6, icmpType := type, icmpIdent := 1 }

/-- The keys of an echo request and an echo reply of one direction differ, and so do the inverted ones. -/
theorem flow_key_inversion_echo :
    dpInvertFlowKey (dpInvertFlowKey (dpBuildFlowKey smallConf (.init smallConf) {} (icmpv6Message 128)).2) =
        (dpBuildFlowKey smallConf (.init smallConf) {} (icmpv6Message 128)).2 ∧
      dpInvertFlowKey (dpBuildFlowKey smallConf (.init smallConf) {} (icmpv6Message 128)).2 ≠
        dpInvertFlowKey (dpBuildFlowKey smallConf (.init smallConf) {} (icmpv6Message 129)).2 := by
  have hbuilt : ∀ t, dpBuildFlowKey smallConf (.init smallConf) {} (icmpv6Message t) =
      (true, (dpBuildFlowKey smallConf (.init smallConf) {} (icmpv6Message t)).2) := fun _ => rfl
  obtain ⟨htwice, hinj⟩ := flow_key_inversion (hbuilt 128)
  refine ⟨htwice.mpr (by decide), fun heq => ?_⟩
  exact absurd (hinj (hbuilt 129) (by decide) (by decide) heq) (by decide)

/-- An unreachable destination and a packet that was too big have different keys and the same inverted key. -/
theorem flow_key_inversion_error :
    (dpBuildFlowKey smallConf (.init smallConf) {} (icmpv6Message 1)).1 = true ∧
      (dpBuildFlowKey smallConf (.init smallConf) {} (icmpv6Message 2)).1 = true ∧
      (dpBuildFlowKey smallConf (.init smallConf) {} (icmpv6Message 1)).2 ≠
        (dpBuildFlowKey smallConf (.init smallConf) {} (icmpv6Message 2)).2 ∧
      dpInvertFlowKey (dpBuildFlowKey smallConf (.init smallConf) {} (icmpv6Message 1)).2 =
        dpInvertFlowKey (dpBuildFlowKey smallConf (.init smallConf) {} (icmpv6Message 2)).2 ∧
      dpInvertFlowKey (dpInvertFlowKey (dpBuildFlowKey smallConf (.init smallConf) {} (icmpv6Message 1)).2) ≠
        (dpBuildFlowKey smallConf (.init smallConf) {} (icmpv6Message 1)).2 := by
  decide

/-! ## Packets of two directions -/

def Conversation (m : Mbuf) : Prop :=
  match m.l3 with
  | .ipv4 _ _ proto => proto = ipprotoTcp ∨ proto = ipprotoUdp ∨
    proto = ipprotoIcmp ∧ (m.l4.icmpType = icmpEchoRequest ∨ m.l4.icmpType = icmpEchoReply)
  | .ipv6 _ _ proto => proto = ipprotoTcp ∨ proto = ipprotoUdp ∨
    proto = ipprotoIcmpv6 ∧ (m.l4.icmpType = icmpv6EchoRequest ∨ m.l4.icmpType = icmpv6EchoReply)

/-- The echo type of the other direction. -/
def exchangedEcho (t : UInt8) : UInt8 :=
  if t = icmpEchoRequest then icmpEchoReply
  else if t = icmpEchoReply then icmpEchoRequest
  else if t = icmpv6EchoRequest then icmpv6EchoReply
  else icmpv6EchoRequest

/-- The packets are of one connection, in opposite directions. -/
structure Opposite (m m' : Mbuf) : Prop where
  l3 : m'.l3 = m.l3.swap
  ports : isIcmp m.l3.proto = false → m'.l4.srcPort = m.l4.dstPort ∧ m'.l4.dstPort = m.l4.srcPort
  echo : isIcmp m.l3.proto = true → m'.l4.icmpIdent = m.l4.icmpIdent ∧ m'.l4.icmpType = exchangedEcho m.l4.icmpType

/-- A packet that has come in, as connection tracking gets it. -/
def toConntrack (cf : Conf) (c : Config) (m : Mbuf) : Option Mbuf :=
  match clsNode cf {} m with
  | some (_, m, .conntrack) => some m
  | some (_, m, .ipipDecap) =>
    match ipipDecapNode cf c {} m with
    | some (_, m, .conntrack) => some m
    | _ => none
  | _ => none

/-- The key that connection tracking builds for a packet, into the buffer `buf`. -/
def receivedKey (cf : Conf) (c : Config) (buf : FlowKey) (m : Mbuf) : Option FlowKey := do
  let m ← toConntrack cf c m
  let df ← (m.df.extractL3 m.frontHdr).extractL4 m.l4
  let r := dpBuildFlowKey cf c buf { m with df := df }
  if r.1 then some r.2 else none

/-- A packet of the virtual function `p`. -/
structure FromVf (cf : Conf) (p : PortId) (m : Mbuf) : Prop where
  port : m.port = p
  known : cf.hasPort p = true
  notPf : cf.isPf p = false
  outer : m.outer = none
  ip : m.notIp = false

/-- A packet of a physical function to the underlay address `ul`. -/
structure ToUnderlay (cf : Conf) (ul : Ip6) (m : Mbuf) : Prop where
  known : cf.hasPort m.port = true
  pf : cf.isPf m.port = true
  outer : ∃ src, m.outer = some ⟨src, ul⟩
  ip : m.notIp = false

def Vnf.IsIface (v : Vnf) : Prop := v.type = .interfaceIp ∨ v.type = .aliasPfx ∨ v.type = .lbAliasPfx

/-- The VNF type in the keys of packets that come in through a VNF of an interface. -/
def Vnf.mark (v : Vnf) : VnfType := if v.type = .lbAliasPfx then .lbAliasPfx else .undefined

/-- The key of a packet of a virtual function gets the VNF type that packets through the VNF get: for IPv4 the
interface has no NAT for the source, and a load-balanced prefix for exactly this address if the VNF is one; for IPv6 the
buffer happens to hold the type. -/
def Marked (c : Config) (buf : FlowKey) (m : Mbuf) (v : Vnf) : Prop :=
  match m.l3 with
  | .ipv4 src _ _ =>
    (dpGetIfaceSnatData c.nat src (ifaceVni c m)).any (·.natIp != 0) = false ∧
      (dpVnfLbprefixExists c.vnf m.port (ifaceVni c m) (.v4 src) 32 = true ↔ v.type = .lbAliasPfx)
  | .ipv6 _ dst _ => dpIsIp6InNat64Range dst = false ∧ buf.vnfType = v.mark

/-- Whichever of the packets is the first, the key of the other one is the inverted key of the first. -/
def OneFlow (cf : Conf) (c : Config) (buf buf' : FlowKey) (m m' : Mbuf) : Prop :=
  ∃ k k', receivedKey cf c buf m = some k ∧ receivedKey cf c buf' m' = some k' ∧
    k' = dpInvertFlowKey k ∧ k = dpInvertFlowKey k'

/-- Connection tracking makes no new flow for a packet while there is a flow under the key. -/
def Joins (cf : Conf) (c : Config) (buf : FlowKey) (m : Mbuf) (k : FlowKey) : Prop :=
  ∀ {e d x d' y n}, d.cache.currBuf = buf → d.flowTbl k ≠ none → toConntrack cf c m = some x →
    conntrackNode cf e c d x = some (d', y, n) → d'.nextFlow = d.nextFlow

section Directions

variable {cf : Conf} {c : Config} {buf buf' k : FlowKey} {m m' : Mbuf} {p : PortId} {ul : Ip6} {v : Vnf}

theorem Conversation.tracked (h : Conversation m) : m.l3.Tracked := by
  unfold Conversation at h
  unfold L3Hdr.Tracked
  cases hl3 : m.l3 with
  | ipv4 src dst proto =>
    rw [hl3] at h
    refine h.imp_right (.imp_right fun h => ?_)
    simp [L3Hdr.proto, isIcmp, h.1]
  | ipv6 src dst proto =>
    rw [hl3] at h
    refine h.imp_right (.imp_right fun h => ?_)
    simp [L3Hdr.proto, isIcmp, h.1]

theorem Conversation.echo (h : Conversation m) (hi : m.l3.proto = ipprotoIcmp) :
    m.l4.icmpType = icmpEchoReply ∨ m.l4.icmpType = icmpEchoRequest := by
  unfold Conversation at h
  cases hl3 : m.l3 with
  | ipv4 src dst proto =>
    rw [hl3] at h hi
    change proto = ipprotoIcmp at hi
    subst hi
    exact Or.symm (by simpa +decide using h)
  | ipv6 src dst proto =>
    rw [hl3] at h hi
    change proto = ipprotoIcmp at hi
    subst hi
    simp +decide at h

theorem Conversation.echo6 (h : Conversation m) (hi : m.l3.proto = ipprotoIcmpv6) :
    m.l4.icmpType = icmpv6EchoRequest ∨ m.l4.icmpType = icmpv6EchoReply := by
  unfold Conversation at h
  cases hl3 : m.l3 with
  | ipv4 src dst proto =>
    rw [hl3] at h hi
    change proto = ipprotoIcmpv6 at hi
    subst hi
    simp +decide at h
  | ipv6 src dst proto =>
    rw [hl3] at h hi
    change proto = ipprotoIcmpv6 at hi
    subst hi
    simpa +decide using h

theorem L3Hdr.swap_fields (h : L3Hdr) : h.swap.src = h.dst ∧ h.swap.dst = h.src ∧ h.swap.proto = h.proto := by
  cases h <;> exact ⟨rfl, rfl, rfl⟩

/-- The packets of the other direction are of a connection, too. -/
theorem Conversation.opposite (h : Conversation m) (ho : Opposite m m') : Conversation m' := by
  have hecho := ho.echo
  unfold Conversation at h ⊢
  rw [ho.l3]
  cases hl3 : m.l3 with
  | ipv4 src dst proto =>
    rw [hl3] at h hecho
    refine h.imp_right (.imp_right fun hp => ⟨hp.1, ?_⟩)
    obtain ⟨hp, ht⟩ := hp
    rw [(hecho (by simp [L3Hdr.proto, isIcmp, hp])).2]
    rcases ht with ht | ht <;> rw [ht] <;> decide
  | ipv6 src dst proto =>
    rw [hl3] at h hecho
    refine h.imp_right (.imp_right fun hp => ⟨hp.1, ?_⟩)
    obtain ⟨hp, ht⟩ := hp
    rw [(hecho (by simp [L3Hdr.proto, isIcmp, hp])).2]
    rcases ht with ht | ht <;> rw [ht] <;> decide

/-- **The inverted key of a packet is the key of the other direction**, with the same VNI and VNF type. -/
theorem Conversation.invert (h : Conversation m) (ho : Opposite m m') (vni : Vni) (t : VnfType) :
    dpInvertFlowKey { natFlowKey vni m with vnfType := t } = { natFlowKey vni m' with vnfType := t } := by
  obtain ⟨hsrc, hdst, hproto⟩ := m.l3.swap_fields
  rw [← ho.l3] at hsrc hdst hproto
  unfold natFlowKey
  rw [hsrc, hdst, hproto]
  by_cases htu : m.l3.proto = ipprotoTcp ∨ m.l3.proto = ipprotoUdp
  · have hni : isIcmp m.l3.proto = false := by rcases htu with h | h <;> rw [h] <;> decide
    obtain ⟨hs, hd⟩ := ho.ports hni
    rw [dpInvertFlowKey_ports (by exact htu)]
    simp only [hni, Bool.false_eq_true, if_false, hs, hd]
  · have hi : isIcmp m.l3.proto = true := (or_assoc.mpr h.tracked).resolve_left htu
    obtain ⟨hid, hty⟩ := ho.echo hi
    have hkind : m.l3.proto = ipprotoIcmp ∨ m.l3.proto = ipprotoIcmpv6 := by simpa [isIcmp] using hi
    rcases hkind with hic | hic
    · rw [dpInvertFlowKey_icmp (by exact hic)]
      simp only [hi, if_true, hid, hty]
      rcases h.echo hic with ht | ht <;> rw [ht] <;> rfl
    · rw [dpInvertFlowKey_icmpv6 (by exact hic)]
      simp only [hi, if_true, hid, hty]
      rcases h.echo6 hic with ht | ht <;> rw [ht] <;> rfl

theorem Opposite.symm (h : Conversation m) (ho : Opposite m m') : Opposite m' m := by
  obtain ⟨-, -, hproto⟩ := m.l3.swap_fields
  rw [← ho.l3] at hproto
  refine ⟨?_, fun hi => ?_, fun hi => ?_⟩
  · rw [ho.l3]
    cases m.l3 <;> rfl
  · obtain ⟨hs, hd⟩ := ho.ports (hproto ▸ hi)
    exact ⟨hd.symm, hs.symm⟩
  · rw [hproto] at hi
    obtain ⟨hid, hty⟩ := ho.echo hi
    have hkind : m.l3.proto = ipprotoIcmp ∨ m.l3.proto = ipprotoIcmpv6 := by simpa [isIcmp] using hi
    refine ⟨hid.symm, ?_⟩
    rw [hty]
    rcases hkind with hic | hic
    · rcases h.echo hic with ht | ht <;> rw [ht] <;> rfl
    · rcases h.echo6 hic with ht | ht <;> rw [ht] <;> rfl

/-! ## The keys of packets that come in -/

/-- The packet reaches connection tracking with the headers that it had, and nothing in front of them. -/
structure Reaches (cf : Conf) (c : Config) (m x : Mbuf) : Prop where
  way : toConntrack cf c m = some x
  l3 : x.l3 = m.l3
  l4 : x.l4 = m.l4
  port : x.port = m.port
  outer : x.outer = none
  l3Type : x.df.l3Type = x.l3.type

theorem FromVf.reaches (h : FromVf cf p m) (hm : Conversation m) : ∃ x, Reaches cf c m x := by
  have hp : cf.isPf m.port = false := h.port ▸ h.notPf
  have hk : cf.hasPort m.port = true := h.port ▸ h.known
  have hway : toConntrack cf c m = some { m with df := { l3Type := m.l3.type } } := by
    unfold toConntrack clsNode
    simp only [h.ip, Bool.false_eq_true, if_false, hk, Bool.not_true, Mbuf.frontHdr, h.outer, hp]
    cases hl3 : m.l3 with
    | ipv4 src dst proto => rfl
    | ipv6 src dst proto =>
      have hnd : (proto == ipprotoIcmpv6 && (m.l4.icmpType == 135 || m.l4.icmpType == 133)) = false := by
        by_cases hic : proto = ipprotoIcmpv6
        · have hproto : m.l3.proto = ipprotoIcmpv6 := by rw [hl3]; exact hic
          rcases hm.echo6 hproto with ht | ht <;> rw [ht, hic] <;> decide
        · rw [beq_false_of_ne hic, Bool.false_and]
      simp only [isIpv6Nd, hnd, Bool.false_eq_true, if_false, L3Hdr.type]
  exact ⟨_, hway, rfl, rfl, rfl, h.outer, rfl⟩

theorem ToUnderlay.reaches (h : ToUnderlay cf ul m) (hv : c.vnf.handleTbl ul = some v)
    (hp : cf.hasPort v.portId = true) : ∃ x, Reaches cf c m x ∧ x.df.dstVni = v.vni ∧ x.df.vnfType = v.type := by
  obtain ⟨src, ho⟩ := h.outer
  have hnd : ∀ m' : Mbuf, isIpv6Nd m' m.l3.tunProto = false := by
    intro m'
    cases m.l3 <;> rfl
  have hcls : clsNode cf {} m = some ({}, { m with
      df := { l3Type := m.l3.type, ulSrcAddr6 := src, ulDstAddr6 := ul, tunProtoId := m.l3.tunProto } },
        .ipipDecap) := by
    unfold clsNode
    simp only [h.ip, Bool.false_eq_true, if_false, h.known, Bool.not_true, Mbuf.frontHdr, ho, h.pf, if_true, hnd]
  have hway : toConntrack cf c m = some { m with
      df := { l3Type := m.l3.type, ulSrcAddr6 := src, ulDstAddr6 := ul, tunProtoId := m.l3.tunProto, dstVni := v.vni,
              vnfType := v.type, nxtHop := v.portId }
      outer := none } := by
    unfold toConntrack
    rw [hcls]
    simp only [ipipDecapNode, hv, hp, Bool.not_true, Bool.false_eq_true, if_false]
  exact ⟨_, ⟨hway, rfl, rfl, rfl, rfl, rfl⟩, rfl, rfl⟩

variable {x : Mbuf}

/-- The key is that of the headers; VNI and VNF type come from where the packet came from. -/
theorem Reaches.built (h : Reaches cf c m x) (hm : Conversation m) :
    ∃ df, (x.df.extractL3 x.frontHdr).extractL4 x.l4 = some df ∧ Extracted { x with df := df } ∧
      df.dstVni = x.df.dstVni ∧ df.vnfType = x.df.vnfType ∧
      ∀ buf, dpBuildFlowKey cf c buf { x with df := df } =
        (true, { natFlowKey (flowKeyVni cf c { x with df := df }) m with
          vnfType := dpMarkVnfType cf c df x.port (addressedKey cf c buf { x with df := df }) }) := by
  have htracked : x.l3.Tracked := h.l3 ▸ hm.tracked
  obtain ⟨df, hdf, hx, -, hvni, htype, -⟩ := extract_eq htracked h.outer h.l3Type
  refine ⟨df, hdf, hx, hvni, htype, fun buf => ?_⟩
  rw [dpBuildFlowKey_eq buf hx htracked]
  · simp only [natFlowKey, h.l3, h.l4]
  · intro hi
    have hecho := hm.echo (h.l3 ▸ hi)
    rwa [← h.l4] at hecho

theorem receivedKey_eq {df : DpFlow} (h : Reaches cf c m x)
    (hdf : (x.df.extractL3 x.frontHdr).extractL4 x.l4 = some df)
    (hk : dpBuildFlowKey cf c buf { x with df := df } = (true, k)) : receivedKey cf c buf m = some k := by
  unfold receivedKey
  rw [h.way]
  simp [hdf, hk]

def vfMark (c : Config) (buf : FlowKey) (m : Mbuf) : VnfType :=
  match m.l3 with
  | .ipv4 src _ _ =>
    if (dpGetIfaceSnatData c.nat src (ifaceVni c m)).any (·.natIp != 0) then .nat
    else if dpVnfLbprefixExists c.vnf m.port (ifaceVni c m) (.v4 src) 32 then .lbAliasPfx
    else .undefined
  | .ipv6 _ dst _ => if dpIsIp6InNat64Range dst then .nat else buf.vnfType

theorem vfMark_eq_iff : vfMark c buf m = v.mark ↔ Marked c buf m v := by
  unfold vfMark Marked Vnf.mark
  cases m.l3 with
  | ipv4 src dst proto => dsimp only; split_ifs <;> simp_all
  | ipv6 src dst proto => dsimp only; split_ifs <;> simp_all

/-- The key of a packet of a virtual function. -/
theorem FromVf.receivedKey (h : FromVf cf p m) (hm : Conversation m) (buf : FlowKey) :
    receivedKey cf c buf m = some { natFlowKey (ifaceVni c m) m with vnfType := vfMark c buf m } := by
  obtain ⟨x, hx⟩ : ∃ x, Reaches cf c m x := h.reaches hm
  obtain ⟨df, hdf, hext, -, -, hkey⟩ := hx.built hm
  have hp : cf.isPf x.port = false := by
    rw [hx.port, h.port]
    exact h.notPf
  have hvni : flowKeyVni cf c { x with df := df } = ifaceVni c m := by
    unfold flowKeyVni ifaceVni
    dsimp only
    rw [hp, if_neg Bool.false_ne_true, hx.port]
  obtain ⟨hdst, hsrc⟩ := setL3_extracted buf hext
  have hmark : dpMarkVnfType cf c df x.port (addressedKey cf c buf { x with df := df }) = vfMark c buf m := by
    have hbuf : (addressedKey cf c buf { x with df := df }).vnfType = buf.vnfType := by
      unfold addressedKey FlowKey.setL3
      dsimp only
      cases df.l3Type <;> rfl
    have hd : (addressedKey cf c buf { x with df := df }).l3Dst = m.l3.dst := by rw [← hx.l3]; exact hdst
    have hs : (addressedKey cf c buf { x with df := df }).l3Src = m.l3.src := by rw [← hx.l3]; exact hsrc
    have hv : (addressedKey cf c buf { x with df := df }).vni = ifaceVni c m := hvni
    unfold dpMarkVnfType vfMark
    rw [hd, hs, hv, hbuf, hx.port]
    rw [hx.port] at hp
    simp only [hp, Bool.false_eq_true, if_false]
    cases m.l3 <;> rfl
  refine receivedKey_eq hx hdf ?_
  rw [hkey, hvni, hmark]

/-- The key of a packet that comes in through a VNF of an interface. -/
theorem ToUnderlay.receivedKey (h : ToUnderlay cf ul m) (hm : Conversation m) (hv : c.vnf.handleTbl ul = some v)
    (hp : cf.hasPort v.portId = true) (ht : v.IsIface) (buf : FlowKey) :
    receivedKey cf c buf m = some { natFlowKey v.vni m with vnfType := v.mark } := by
  obtain ⟨x, hx, hvni, htype⟩ := h.reaches hv hp
  obtain ⟨df, hdf, -, hvni', htype', hkey⟩ := hx.built hm
  have hpf : cf.isPf x.port = true := by
    rw [hx.port]
    exact h.pf
  have hvni'' : flowKeyVni cf c { x with df := df } = v.vni := by
    simp [flowKeyVni, hpf, hvni', hvni]
  have hmark : dpMarkVnfType cf c df x.port (addressedKey cf c buf { x with df := df }) = v.mark := by
    unfold dpMarkVnfType Vnf.mark
    rw [hpf, htype', htype]
    rcases ht with ht | ht | ht <;> simp [ht]
  refine receivedKey_eq hx hdf ?_
  rw [hkey, hvni'', hmark]

/-! ## One flow -/

/-- Connection tracking finds the flow of a key that is in the table. -/
theorem GetCase.known {e : Env} {d d' : Dataplane} {o : Option ℕ} {df : DpFlow}
    (hk : (dpBuildFlowKey cf c d.cache.currBuf m).2 = k) (ht : d.flowTbl k ≠ none) (h : GetCase cf e c d m o d' df) :
    d'.nextFlow = d.nextFlow := by
  cases h with
  | noKey | cached | found => rfl
  | failed key _ hd => rcases hd with rfl | rfl <;> rfl
  | made key hkey _ miss =>
    rw [hkey] at hk
    exact absurd (hk ▸ miss) ht

/-- A packet whose key is in the table joins its flow. -/
theorem joins (h : receivedKey cf c buf m = some k) : Joins cf c buf m k := by
  intro e d x d' y n hbuf htbl hx hnode
  unfold receivedKey at h
  rw [hx, Option.bind_eq_bind, Option.bind_some] at h
  obtain ⟨df, hdf, h⟩ := Option.bind_eq_some_iff.mp h
  have hk : (dpBuildFlowKey cf c d.cache.currBuf { x with df := df }).2 = k := by
    rw [hbuf]
    dsimp only at h
    split at h <;> cases h
    rfl
  cases conntrackNode_cases hnode with
  | unread | skip => rfl
  | track hdf' _ _ h =>
    cases hdf.symm.trans hdf'
    cases h with
    | fail h => exact h.known hk htbl
    | track f fv h => exact (h.known hk htbl :)

end Directions

/-- **Both directions of a connection**: the keys of a packet of a virtual function and of the packet that comes back
through an underlay address of its interface belong to one flow exactly if the VNF has the VNI of the interface, and the
packet of the virtual function is marked like it. Then the second packet makes no flow, whichever comes first. -/
theorem connection_directions {cf : Conf} {c : Config} {buf buf' : FlowKey} {m m' : Mbuf} {p : PortId} {ul : Ip6}
    {v : Vnf} (hm : FromVf cf p m) (hm' : ToUnderlay cf ul m') (hconv : Conversation m) (ho : Opposite m m')
    (hv : c.vnf.handleTbl ul = some v) (hp : v.portId = p) (ht : v.IsIface) :
    (OneFlow cf c buf buf' m m' ↔ v.vni = ifaceVni c m ∧ Marked c buf m v) ∧
      (OneFlow cf c buf buf' m m' → ∃ k k', receivedKey cf c buf m = some k ∧ receivedKey cf c buf' m' = some k' ∧
        Joins cf c buf' m' (dpInvertFlowKey k) ∧ Joins cf c buf m (dpInvertFlowKey k')) := by
  have hk := hm.receivedKey (c := c) hconv buf
  have hk' := hm'.receivedKey (hconv.opposite ho) hv (hp ▸ hm.known) ht buf'
  have hinv := hconv.invert ho
  have hinv' := (hconv.opposite ho).invert (Opposite.symm hconv ho)
  refine ⟨⟨?_, ?_⟩, ?_⟩
  · rintro ⟨k, k', h₁, h₂, heq, -⟩
    rw [hk, Option.some.injEq] at h₁
    rw [hk', Option.some.injEq] at h₂
    subst h₁ h₂
    rw [hinv] at heq
    have hvni : v.vni = ifaceVni c m := congrArg FlowKey.vni heq
    have hmark : v.mark = vfMark c buf m := congrArg FlowKey.vnfType heq
    exact ⟨hvni, vfMark_eq_iff.mp hmark.symm⟩
  · rintro ⟨hvni, hmark⟩
    refine ⟨_, _, hk, hk', ?_, ?_⟩
    · rw [hinv, hvni, vfMark_eq_iff.mpr hmark]
    · rw [hinv', hvni, vfMark_eq_iff.mpr hmark]
  · rintro ⟨k, k', h₁, h₂, heq, heq'⟩
    exact ⟨k, k', h₁, h₂, heq ▸ joins h₂, heq' ▸ joins h₁⟩

/-- A route to other hosts in the network of interface 7. -/
def eastRoute : Request := .createRoute 100 (.v4 0x0a010000) 16 100 (.v6 6)

/-- A TCP packet of the VM of interface 7, with the given source, to one of these hosts. -/
def eastPacket (src : Ip4) : Mbuf where
  port := 2
  l3 := .ipv4 src 0x0a010001 ipprotoTcp
  l4 := { srcPort := 1000, dstPort := 80, tcpSyn := true }

/-- The packet that comes back, to an underlay address of the interface. -/
def westPacket (ul : Ip6) (dst : Ip4) : Mbuf where
  port := 0
  outer := some ⟨6, ul⟩
  l3 := .ipv4 0x0a010001 dst ipprotoTcp
  l4 := { srcPort := 80, dstPort := 1000, tcpSyn := true, tcpAck := true }

theorem eastPacket_opposite (ul : Ip6) (src : Ip4) : Opposite (eastPacket src) (westPacket ul src) :=
  ⟨rfl, fun _ => ⟨rfl, rfl⟩, nofun⟩

/-- The configuration with interface 7 and this route. -/
def eastConfig : Config :=
  ((run (step smallConf) (Service.init smallConf) (requests (smallSetup ++ [eastRoute]))).getD (.init smallConf)).cfg

/-- Without NAT the connection has one flow. -/
theorem connection_directions_plain :
    OneFlow smallConf eastConfig {} {} (eastPacket 0x0a000001) (westPacket 1 0x0a000001) := by
  have hv : eastConfig.vnf.handleTbl 1 = some ⟨.interfaceIp, 100, 2, .v4 0, 0⟩ := by decide +kernel
  have hconv : Conversation (eastPacket 0x0a000001) := Or.inl rfl
  refine (connection_directions (p := 2) ⟨rfl, by decide, by decide, rfl, rfl⟩ ⟨by decide, by decide, ⟨6, rfl⟩, rfl⟩
    hconv (eastPacket_opposite 1 0x0a000001) hv rfl (.inl rfl)).1.mpr ⟨by decide +kernel, ?_, ?_⟩
  · decide +kernel
  · exact iff_of_false (by decide +kernel) nofun

/-- The number of flows that were made, and the translations of the first two of them, after a run. -/
def flowsMade (events : List Event) : Option (ℕ × List (Option FlowNatType)) :=
  (run (step smallConf) (Service.init smallConf) events).map fun s =>
    (s.dpl.nextFlow, [0, 1].map fun f => (s.dpl.flows f).map (·.natType))

/-- With NAT the packets of the VM are marked, although those to other hosts of its network are not translated; and
packets from an address in a load-balanced prefix are not, unless the prefix is that address. Both times the connection
gets two flows. -/
theorem connection_directions_split :
    flowsMade (requests (natSetup ++ [eastRoute]) ++ passes (eastPacket 0x0a000001) 8 ++
      passes (westPacket 1 0x0a000001) 5) = some (2, [some .none, some .none]) ∧
    flowsMade (requests (smallSetup ++ [eastRoute, .createLoadBalancerPrefix 7 (.v4 0x0a020000) 24]) ++
      passes (westPacket 2 0x0a020005) 5 ++ passes (eastPacket 0x0a020005) 8) = some (2, [some .none, some .none]) := by
  decide +kernel

end Dpservice
