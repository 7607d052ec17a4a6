import Dpservice.NodeEffect

/-!
# Packets and the keys of their flows

What `dp_extract_ipv4_header`, `dp_extract_ipv6_header` and `dp_extract_l4_header` write into the private data of a
packet (`Extracted`), and the flow key that connection tracking then builds: it does not depend on what the key buffer
held before (`dpBuildFlowKey_eq`), and for a flow with network NAT it is `natFlowKey`.
-/

namespace Dpservice

namespace L3Hdr

def src : L3Hdr → IpAddr
  | ipv4 src _ _ => .v4 src
  | ipv6 src _ _ => .v6 src

def dst : L3Hdr → IpAddr
  | ipv4 _ dst _ => .v4 dst
  | ipv6 _ dst _ => .v6 dst

def proto : L3Hdr → UInt8
  | ipv4 _ _ proto => proto
  | ipv6 _ _ proto => proto

/-- The header of the opposite direction. -/
def swap : L3Hdr → L3Hdr
  | ipv4 src dst proto => ipv4 dst src proto
  | ipv6 src dst proto => ipv6 dst src proto

end L3Hdr

/-- A TCP or UDP packet or an echo request, over IPv4 or over IPv6 to the NAT64 prefix. -/
def Connects (m : Mbuf) : Prop :=
  match m.l3 with
  | .ipv4 _ _ proto =>
    proto = ipprotoTcp ∨ proto = ipprotoUdp ∨ proto = ipprotoIcmp ∧ m.l4.icmpType = icmpEchoRequest
  | .ipv6 _ dst proto => dpIsIp6InNat64Range dst = true ∧
    (proto = ipprotoTcp ∨ proto = ipprotoUdp ∨ proto = ipprotoIcmpv6 ∧ m.l4.icmpType = icmpv6EchoRequest)

/-- The key of a TCP, UDP or echo packet of a flow with network NAT. -/
def natFlowKey (vni : Vni) (m : Mbuf) : FlowKey where
  l3Dst := m.l3.dst
  proto := m.l3.proto
  portDst := if isIcmp m.l3.proto then m.l4.icmpIdent else m.l4.dstPort
  l3Src := m.l3.src
  vnfType := .nat
  src := if isIcmp m.l3.proto then m.l4.icmpType.toUInt16 else m.l4.srcPort
  vni := vni

/-- The interface of the packet has network NAT for it. -/
def HasNat (c : Config) (m : Mbuf) : Prop :=
  match m.l3 with
  | .ipv4 src _ _ => (dpGetIfaceSnatData c.nat src (ifaceVni c m)).any (·.natIp != 0) = true
  | .ipv6 .. => True

/-- The private data says what the headers of the packet do. -/
structure Extracted (m : Mbuf) : Prop where
  l3Type : m.df.l3Type = m.l3.type
  l4Type : m.df.l4Type = m.l3.proto
  v4 : ∀ src dst proto, m.l3 = .ipv4 src dst proto → m.df.srcAddr = src ∧ m.df.dstAddr = dst
  v6 : ∀ src dst proto, m.l3 = .ipv6 src dst proto → m.df.srcAddr6 = src ∧ m.df.dstAddr6 = dst
  ports : isIcmp m.l3.proto = false → m.df.srcPort = m.l4.srcPort ∧ m.df.dstPort = m.l4.dstPort
  echo : isIcmp m.l3.proto = true → m.df.icmpType = m.l4.icmpType ∧ m.df.icmpIdent = m.l4.icmpIdent

/-- The protocol of a packet is one that connection tracking knows. -/
def L3Hdr.Tracked (h : L3Hdr) : Prop := h.proto = ipprotoTcp ∨ h.proto = ipprotoUdp ∨ isIcmp h.proto = true

section Keys

variable {cf : Conf} {c : Config} {m : Mbuf} {df : DpFlow}

theorem Connects.tracked (h : Connects m) : m.l3.Tracked := by
  unfold Connects at h
  unfold L3Hdr.Tracked
  cases hl3 : m.l3 with
  | ipv4 src dst proto =>
    rw [hl3] at h
    rcases h with h | h | h
    · exact .inl h
    · exact .inr (.inl h)
    · exact .inr (.inr (by simp [L3Hdr.proto, isIcmp, h.1]))
  | ipv6 src dst proto =>
    rw [hl3] at h
    rcases h.2 with h | h | h
    · exact .inl h
    · exact .inr (.inl h)
    · exact .inr (.inr (by simp [L3Hdr.proto, isIcmp, h.1]))

/-- What `extractL3` and `extractL4` write for a packet without an outer header. -/
theorem extract_eq (h : m.l3.Tracked) (ho : m.outer = none) (ht : m.df.l3Type = m.l3.type) :
    ∃ df, (m.df.extractL3 m.frontHdr).extractL4 m.l4 = some df ∧ Extracted { m with df := df } ∧
      df.conntrack = m.df.conntrack ∧ df.dstVni = m.df.dstVni ∧ df.vnfType = m.df.vnfType ∧
      df.natType = m.df.natType := by
  have hfront : m.frontHdr = m.l3 := by simp [Mbuf.frontHdr, ho]
  have hl4 : (m.df.extractL3 m.l3).l4Type = m.l3.proto := by cases m.l3 <;> rfl
  have hl3 : (m.df.extractL3 m.l3).l3Type = m.l3.type := by rw [← ht]; cases m.l3 <;> rfl
  have h4 : ∀ src dst proto, m.l3 = .ipv4 src dst proto →
      (m.df.extractL3 m.l3).srcAddr = src ∧ (m.df.extractL3 m.l3).dstAddr = dst := by
    intro src dst proto hv
    rw [hv]
    exact ⟨rfl, rfl⟩
  have h6 : ∀ src dst proto, m.l3 = .ipv6 src dst proto →
      (m.df.extractL3 m.l3).srcAddr6 = src ∧ (m.df.extractL3 m.l3).dstAddr6 = dst := by
    intro src dst proto hv
    rw [hv]
    exact ⟨rfl, rfl⟩
  have hrest : (m.df.extractL3 m.l3).conntrack = m.df.conntrack ∧ (m.df.extractL3 m.l3).dstVni = m.df.dstVni ∧
      (m.df.extractL3 m.l3).vnfType = m.df.vnfType ∧ (m.df.extractL3 m.l3).natType = m.df.natType := by
    cases m.l3 <;> exact ⟨rfl, rfl, rfl, rfl⟩
  rw [hfront]
  unfold DpFlow.extractL4
  rw [hl4]
  split
  next htu =>
    have hni : isIcmp m.l3.proto = false := by rcases htu with h | h <;> rw [h] <;> decide
    exact ⟨_, rfl, ⟨hl3, rfl, h4, h6, fun _ => ⟨rfl, rfl⟩, fun hi => absurd (hni.symm.trans hi) nofun⟩, hrest⟩
  next htu =>
    have hi : isIcmp m.l3.proto = true := (or_assoc.mpr h).resolve_left htu
    rw [if_pos hi]
    exact ⟨_, rfl, ⟨hl3, rfl, h4, h6, fun hni => absurd (hni.symm.trans hi) nofun, fun _ => ⟨rfl, rfl⟩⟩, hrest⟩

/-- The buffer after the addresses, the protocol and the VNI of a packet were written into it. -/
def addressedKey (cf : Conf) (c : Config) (buf : FlowKey) (m : Mbuf) : FlowKey :=
  { buf.setL3 m.df with proto := m.df.l4Type, vni := flowKeyVni cf c m }

theorem setL3_extracted (buf : FlowKey) (hx : Extracted m) :
    (buf.setL3 m.df).l3Dst = m.l3.dst ∧ (buf.setL3 m.df).l3Src = m.l3.src := by
  unfold FlowKey.setL3
  rw [hx.l3Type]
  cases hl3 : m.l3 with
  | ipv4 src dst proto =>
    obtain ⟨hs, hd⟩ := hx.v4 src dst proto hl3
    simp [L3Hdr.type, L3Hdr.src, L3Hdr.dst, hs, hd]
  | ipv6 src dst proto =>
    obtain ⟨hs, hd⟩ := hx.v6 src dst proto hl3
    simp [L3Hdr.type, L3Hdr.src, L3Hdr.dst, hs, hd]

/-- The key of a TCP, UDP or echo packet is its NAT key but for the VNF type. -/
theorem dpBuildFlowKey_eq (buf : FlowKey) (hx : Extracted m) (ht : m.l3.Tracked)
    (he : m.l3.proto = ipprotoIcmp → m.l4.icmpType = icmpEchoReply ∨ m.l4.icmpType = icmpEchoRequest) :
    dpBuildFlowKey cf c buf m = (true, { natFlowKey (flowKeyVni cf c m) m with
      vnfType := dpMarkVnfType cf c m.df m.port (addressedKey cf c buf m) }) := by
  have hl3 : m.df.l3Type ≠ .other := by
    rw [hx.l3Type]
    cases m.l3 <;> nofun
  obtain ⟨hdst, hsrc⟩ := setL3_extracted buf hx
  unfold dpBuildFlowKey natFlowKey
  dsimp only
  rw [if_neg hl3]
  by_cases htu : m.l3.proto = ipprotoTcp ∨ m.l3.proto = ipprotoUdp
  · have hni : isIcmp m.l3.proto = false := by rcases htu with h | h <;> rw [h] <;> decide
    obtain ⟨hs, hd⟩ := hx.ports hni
    simp only [addressedKey, hx.l4Type, if_pos htu, hni, Bool.false_eq_true, if_false, hs, hd, hdst, hsrc]
  · have hi : isIcmp m.l3.proto = true := (or_assoc.mpr ht).resolve_left htu
    obtain ⟨hty, hid⟩ := hx.echo hi
    simp only [addressedKey, hx.l4Type, if_neg htu, hi, if_true, hdst, hsrc]
    split
    next hic =>
      unfold dpBuildIcmpFlowKey
      rw [if_pos (by rw [hty]; exact he hic), hty, hid]
    next hic =>
      have h6 : m.l3.proto = ipprotoIcmpv6 := by simpa [isIcmp, hic] using hi
      rw [if_pos h6, hty, hid]

/-- The key of a packet of a virtual function: its VNF type says whether the interface has NAT. -/
theorem dpBuildFlowKey_vf (buf : FlowKey) (hp : cf.isPf m.port = false) (hm : Connects m) (hx : Extracted m) :
    ∃ t, dpBuildFlowKey cf c buf m = (true, { natFlowKey (ifaceVni c m) m with vnfType := t }) ∧
      (HasNat c m → t = .nat) := by
  have hvni : flowKeyVni cf c m = ifaceVni c m := by simp [flowKeyVni, hp, ifaceVni]
  have hadr : (addressedKey cf c buf m).l3Dst = m.l3.dst ∧ (addressedKey cf c buf m).l3Src = m.l3.src :=
    setL3_extracted buf hx
  refine ⟨dpMarkVnfType cf c m.df m.port (addressedKey cf c buf m), ?_, fun hnat => ?_⟩
  · rw [← hvni]
    refine dpBuildFlowKey_eq buf hx hm.tracked fun hi => ?_
    unfold Connects at hm
    cases hl3 : m.l3 with
    | ipv4 src dst proto =>
      rw [hl3] at hm hi
      change proto = ipprotoIcmp at hi
      subst hi
      exact .inr (by simpa +decide using hm)
    | ipv6 src dst proto =>
      rw [hl3] at hm hi
      change proto = ipprotoIcmp at hi
      subst hi
      simp +decide at hm
  · unfold dpMarkVnfType
    rw [hadr.1, hadr.2]
    simp only [hp, Bool.false_eq_true, if_false]
    unfold HasNat at hnat
    unfold Connects at hm
    cases hl3 : m.l3 with
    | ipv4 src dst proto =>
      rw [hl3] at hnat
      have hv : (addressedKey cf c buf m).vni = ifaceVni c m := hvni
      simp only [L3Hdr.src, hv, hnat, if_true]
    | ipv6 src dst proto =>
      rw [hl3] at hm
      simp only [L3Hdr.src, L3Hdr.dst, hm.1, if_true]

end Keys

end Dpservice
