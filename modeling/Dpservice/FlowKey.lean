import Dpservice.Vnf
import Dpservice.NatConf

/-!
# Packets and flow keys

A packet (`Mbuf`), the private data the nodes keep with it (`DpFlow`), and the flow key that connection tracking
builds from them (`dpBuildFlowKey`). The key is written into a buffer that is reused from packet to packet, so a field
that a branch leaves alone keeps the value of an earlier packet.
-/

namespace Dpservice

/-! ## Packets -/

inductive L3Hdr where
  | ipv4 (src dst : Ip4) (proto : UInt8)
  | ipv6 (src dst : Ip6) (proto : UInt8)
  deriving DecidableEq, Repr

def L3Hdr.type : L3Hdr → L3Type
  | ipv4 .. => .ipv4
  | ipv6 .. => .ipv6

/-- The fields of a TCP, UDP, ICMP or ICMPv6 header that are used; which of them is meaningful depends on the protocol
number of the layer-3 header. -/
structure L4Hdr where
  srcPort : UInt16 := 0
  dstPort : UInt16 := 0
  tcpSyn : Bool := false
  tcpAck : Bool := false
  tcpFin : Bool := false
  tcpRst : Bool := false
  icmpType : UInt8 := 0
  icmpCode : UInt8 := 0
  icmpIdent : UInt16 := 0
  deriving DecidableEq, Repr

/-- The IPv4 header and ports quoted inside an ICMP error, `dp_get_icmp_err_ip_hdr`. -/
structure IcmpErrHdr where
  src : Ip4 := 0
  dst : Ip4 := 0
  proto : UInt8 := 0
  srcPort : UInt16 := 0
  dstPort : UInt16 := 0
  deriving DecidableEq, Repr

/-- The underlay header of a tunnelled packet; its protocol number follows from the inner header. -/
structure OuterHdr where
  src : Ip6
  dst : Ip6
  deriving DecidableEq, Repr

/-- `struct dp_flow`: what the nodes remember about a packet. -/
structure DpFlow where
  flowType : FlowType := .westEast
  natType : NatChg := .none
  flowDir : FlowDir := .org
  offloadState : OffloadState := .nonOffload
  vnfType : VnfType := .undefined
  l3Type : L3Type := .other
  srcAddr : Ip4 := 0
  dstAddr : Ip4 := 0
  srcAddr6 : Ip6 := 0
  dstAddr6 : Ip6 := 0
  natAddr : Ip4 := 0
  natPort : UInt16 := 0
  l4Type : UInt8 := 0
  srcPort : UInt16 := 0
  dstPort : UInt16 := 0
  icmpType : UInt8 := 0
  icmpCode : UInt8 := 0
  icmpIdent : UInt16 := 0
  ulSrcAddr6 : Ip6 := 0
  ulDstAddr6 : Ip6 := 0
  tunProtoId : UInt8 := 0
  dstVni : Vni := 0
  nxtHop : PortId := 0
  /-- The number of the flow, where connection tracking found or made one. -/
  conntrack : Option ℕ := none
  deriving DecidableEq, Repr

structure Mbuf where
  port : PortId
  outer : Option OuterHdr := none
  l3 : L3Hdr
  l4 : L4Hdr := {}
  errHdr : Option IcmpErrHdr := none
  /-- Neither Ethernet/IPv4 nor Ethernet/IPv6: an ARP packet, or one that is dropped. -/
  isArp : Bool := false
  notIp : Bool := false
  /-- There is room to replace an IPv6 by an IPv4 header (`rte_pktmbuf_adj` of NAT64, `rte_pktmbuf_prepend` of a virtual
  service), and an IPv4 by an IPv6 header. -/
  canShrink : Bool := true
  canGrow : Bool := true
  /-- The packet has enough headroom for an underlay header. -/
  canEncap : Bool := true
  isRecirc : Bool := false
  df : DpFlow := {}
  deriving DecidableEq, Repr

/-- The protocol number of the underlay header. -/
def L3Hdr.tunProto : L3Hdr → UInt8
  | .ipv4 .. => ipprotoIpip
  | .ipv6 .. => ipprotoIpv6

/-- The header at the front of the packet. -/
def Mbuf.frontHdr (m : Mbuf) : L3Hdr :=
  match m.outer with
  | none => m.l3
  | some o => .ipv6 o.src o.dst m.l3.tunProto

def DpFlow.extractL3 (df : DpFlow) : L3Hdr → DpFlow
  | .ipv4 src dst proto => { df with srcAddr := src, dstAddr := dst, l4Type := proto }
  | .ipv6 src dst proto => { df with srcAddr6 := src, dstAddr6 := dst, l4Type := proto }

/-- `dp_extract_l4_header`; `none` for other protocols. -/
def DpFlow.extractL4 (df : DpFlow) (h : L4Hdr) : Option DpFlow :=
  if df.l4Type = ipprotoTcp ∨ df.l4Type = ipprotoUdp then some { df with dstPort := h.dstPort, srcPort := h.srcPort }
  else if isIcmp df.l4Type then
    some { df with icmpType := h.icmpType, icmpCode := h.icmpCode, icmpIdent := h.icmpIdent }
  else none

/-! ## Flow keys -/

/-- `struct flow_key`; `src` is the source port or the ICMP type. -/
structure FlowKey where
  l3Dst : IpAddr := .v4 0
  proto : UInt8 := 0
  portDst : UInt16 := 0
  l3Src : IpAddr := .v4 0
  vnfType : VnfType := .undefined
  src : UInt16 := 0
  vni : Vni := 0
  deriving DecidableEq, Repr

/-- `dp_build_icmp_flow_key`: echo packets by identifier, three kinds of errors by the header they quote. The key comes
back changed also where the call fails. -/
def dpBuildIcmpFlowKey (df : DpFlow) (errHdr : Option IcmpErrHdr) (key : FlowKey) : Bool × FlowKey :=
  if df.icmpType = icmpEchoReply ∨ df.icmpType = icmpEchoRequest then
    (true, { key with portDst := df.icmpIdent, src := df.icmpType.toUInt16 })
  else if df.icmpType = icmpTypeError then
    if df.icmpCode ≠ icmpCodeProtoUnreachable ∧ df.icmpCode ≠ icmpCodePortUnreachable ∧
        df.icmpCode ≠ icmpCodeFragmentNeeded then (false, key)
    else
      match errHdr with
      | none => (false, key)
      | some q =>
        -- ports are read for TCP and UDP only
        if (q.proto ≠ ipprotoTcp ∧ q.proto ≠ ipprotoUdp) ∨ q.srcPort = 0 ∨ q.dstPort = 0 then (false, key)
        else
          let key := { key with l3Dst := .v4 q.src, l3Src := .v4 q.dst, proto := q.proto }
          (true, { key with portDst := q.srcPort, src := q.dstPort })
  else (false, key)

/-- `dp_mark_vnf_type`: from the underlay address for tunnelled packets, from the configuration of the source for
packets of a virtual function. For IPv6 outside the NAT64 range the key keeps what it had. -/
def dpMarkVnfType (cf : Conf) (c : Config) (df : DpFlow) (p : PortId) (key : FlowKey) : VnfType :=
  if cf.isPf p then
    if df.vnfType = .nat ∨ df.vnfType = .lbAliasPfx then df.vnfType else .undefined
  else
    match key.l3Src, key.l3Dst with
    | .v6 _, .v6 dst => if dpIsIp6InNat64Range dst then .nat else key.vnfType
    | .v4 src, _ =>
      if ((dpGetIfaceSnatData c.nat src key.vni).any (·.natIp != 0)) then .nat
      else if dpVnfLbprefixExists c.vnf p key.vni (.v4 src) 32 then .lbAliasPfx
      else .undefined
    -- source and destination come from one header
    | .v6 _, .v4 _ => key.vnfType

/-- The addresses of a packet, written into the key buffer. -/
def FlowKey.setL3 (key : FlowKey) (df : DpFlow) : FlowKey :=
  match df.l3Type with
  | .ipv4 => { key with l3Dst := .v4 df.dstAddr, l3Src := .v4 df.srcAddr }
  | .ipv6 => { key with l3Dst := .v6 df.dstAddr6, l3Src := .v6 df.srcAddr6 }
  | .other => key

def flowKeyVni (cf : Conf) (c : Config) (m : Mbuf) : Vni :=
  if cf.isPf m.port then m.df.dstVni else (c.port m.port).iface.vni

/-- `dp_build_flow_key` for a packet with private data `df`, into the buffer `key`. -/
def dpBuildFlowKey (cf : Conf) (c : Config) (key : FlowKey) (m : Mbuf) : Bool × FlowKey :=
  let df := m.df
  if df.l3Type = .other then (false, key)
  else
    let key := { key.setL3 df with proto := df.l4Type, vni := flowKeyVni cf c m }
    let key := { key with vnfType := dpMarkVnfType cf c df m.port key }
    if df.l4Type = ipprotoTcp ∨ df.l4Type = ipprotoUdp then
      (true, { key with portDst := df.dstPort, src := df.srcPort })
    else if df.l4Type = ipprotoIcmp then dpBuildIcmpFlowKey df m.errHdr key
    else if df.l4Type = ipprotoIcmpv6 then (true, { key with portDst := df.icmpIdent, src := df.icmpType.toUInt16 })
    else (false, key)

/-- The echo type of the opposite direction, 0 for every other type. -/
def invertEchoType (request reply : UInt8) (type : UInt16) : UInt16 :=
  if type = reply.toUInt16 then request.toUInt16 else if type = request.toUInt16 then reply.toUInt16 else 0

def dpInvertFlowKey (k : FlowKey) : FlowKey :=
  let inv := { k with l3Dst := k.l3Src, l3Src := k.l3Dst }
  if k.proto = ipprotoTcp ∨ k.proto = ipprotoUdp then { inv with src := k.portDst, portDst := k.src }
  else if k.proto = ipprotoIcmp then { inv with src := invertEchoType icmpEchoRequest icmpEchoReply k.src }
  else if k.proto = ipprotoIcmpv6 then { inv with src := invertEchoType icmpv6EchoRequest icmpv6EchoReply k.src }
  else { inv with portDst := 0, src := 0 }

/-! ## What a key says about its packet -/

/-- The key was built from the addresses and ports in the packet's private data. -/
structure KeyOf (df : DpFlow) (k : FlowKey) : Prop where
  l3 : (df.l3Type = .ipv4 ∧ k.l3Dst = .v4 df.dstAddr ∧ k.l3Src = .v4 df.srcAddr) ∨
    (df.l3Type = .ipv6 ∧ k.l3Dst = .v6 df.dstAddr6 ∧ k.l3Src = .v6 df.srcAddr6)
  proto : k.proto = df.l4Type
  l4 : ((df.l4Type = ipprotoTcp ∨ df.l4Type = ipprotoUdp) ∧ k.portDst = df.dstPort ∧ k.src = df.srcPort) ∨
    (isIcmp df.l4Type = true ∧ k.portDst = df.icmpIdent ∧ k.src = df.icmpType.toUInt16)

/-- An ICMP error; the key of its flow comes from the header it quotes. -/
def DpFlow.isIcmpErr (df : DpFlow) : Bool := df.l4Type == ipprotoIcmp && df.icmpType == icmpTypeError

/-- The addresses in the key are those of the packet. -/
theorem setL3_keyOf {df : DpFlow} (key : FlowKey) (h : df.l3Type ≠ .other) :
    (df.l3Type = .ipv4 ∧ (key.setL3 df).l3Dst = .v4 df.dstAddr ∧ (key.setL3 df).l3Src = .v4 df.srcAddr) ∨
    (df.l3Type = .ipv6 ∧ (key.setL3 df).l3Dst = .v6 df.dstAddr6 ∧ (key.setL3 df).l3Src = .v6 df.srcAddr6) := by
  unfold FlowKey.setL3
  cases ht : df.l3Type with
  | other => exact absurd ht h
  | ipv4 => exact .inl ⟨rfl, rfl, rfl⟩
  | ipv6 => exact .inr ⟨rfl, rfl, rfl⟩

/-- The key that is built is that of the packet, ICMP errors apart. -/
theorem dpBuildFlowKey_keyOf {cf : Conf} {c : Config} {m : Mbuf} {buf key : FlowKey}
    (h : dpBuildFlowKey cf c buf m = (true, key)) (he : m.df.isIcmpErr = false) : KeyOf m.df key := by
  unfold dpBuildFlowKey at h
  dsimp only at h
  split at h
  · cases h
  next hl3 =>
    have h3 := setL3_keyOf buf hl3
    split at h
    next htu =>
      cases h
      exact ⟨h3, rfl, .inl ⟨htu, rfl, rfl⟩⟩
    · split at h
      next hicmp =>
        unfold dpBuildIcmpFlowKey at h
        split at h
        · cases h
          exact ⟨h3, rfl, .inr ⟨by simp [isIcmp, hicmp], rfl, rfl⟩⟩
        · split at h
          next herr => simp [DpFlow.isIcmpErr, hicmp, herr] at he
          · cases h
      · split at h
        next hicmp6 =>
          cases h
          exact ⟨h3, rfl, .inr ⟨by simp [isIcmp, hicmp6], rfl, rfl⟩⟩
        · cases h

end Dpservice
