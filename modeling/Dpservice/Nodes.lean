import Dpservice.Offload

/-!
# Graph nodes

Each node takes a packet and says where it goes next (`NodeRet`). A node reads the configuration and changes the flow
state; `none` means that it follows a pointer to a freed flow.
-/

namespace Dpservice

/-- The nodes of the graph; packets that reach one of the last five leave the model. -/
inductive Node where
  | cls | ipipDecap | conntrack | lb | dnat | packetRelay | ipv4Lookup | ipv6Lookup | snat | firewall | ipipEncap | tx
  | arp | ipv6Nd | dhcp | dhcpv6 | drop
  deriving DecidableEq, Repr

/-- The new state, the packet and its next node. -/
abbrev NodeRet := Option (Dataplane × Mbuf × Node)

/-! ## Rewriting packets -/

/-- The source address of an IPv4 packet. -/
def Mbuf.src4 (m : Mbuf) : Ip4 :=
  match m.l3 with
  | .ipv4 src _ _ => src
  | .ipv6 src _ _ => low32 src

/-- The destination address of an IPv4 packet, or the one in the last bytes of an IPv6 destination. -/
def Mbuf.dst4 (m : Mbuf) : Ip4 :=
  match m.l3 with
  | .ipv4 _ dst _ => dst
  | .ipv6 _ dst _ => low32 dst

/-- Rewrite the source address of an IPv4 packet. -/
def Mbuf.setSrc4 (m : Mbuf) (ip : Ip4) : Mbuf :=
  match m.l3 with
  | .ipv4 _ dst proto => { m with l3 := .ipv4 ip dst proto }
  | .ipv6 .. => m

/-- Rewrite the destination address of an IPv4 packet. -/
def Mbuf.setDst4 (m : Mbuf) (ip : Ip4) : Mbuf :=
  match m.l3 with
  | .ipv4 src _ proto => { m with l3 := .ipv4 src ip proto }
  | .ipv6 .. => m

def Mbuf.setIcmpIdent (m : Mbuf) (ident : UInt16) : Mbuf := { m with l4 := { m.l4 with icmpIdent := ident } }
def Mbuf.setSrcPort (m : Mbuf) (port : UInt16) : Mbuf := { m with l4 := { m.l4 with srcPort := port } }
def Mbuf.setDstPort (m : Mbuf) (port : UInt16) : Mbuf := { m with l4 := { m.l4 with dstPort := port } }
def Mbuf.setNat (m : Mbuf) (t : NatChg) (addr : Ip4) : Mbuf :=
  { m with df := { m.df with natType := t, natAddr := addr } }

/-- `dp_nat_chg_ipv6_to_ipv4_hdr`; `false` where the packet is too short or its protocol is not translated. The private
data changes also where it fails. -/
def dpNatChgIpv6ToIpv4Hdr (m : Mbuf) (natIp : Ip4) : Bool × Mbuf :=
  match m.l3 with
  | .ipv4 .. => (false, m)
  | .ipv6 _ dst proto =>
    if !m.canShrink then (false, m)
    else
      let m := { m with l3 := .ipv4 natIp (low32 dst) proto, df := { m.df with l3Type := .ipv4 } }
      if m.df.l4Type = ipprotoTcp ∨ m.df.l4Type = ipprotoUdp then (true, m)
      else if m.df.l4Type = ipprotoIcmpv6 then
        let m := { m with l3 := .ipv4 natIp (low32 dst) ipprotoIcmp, df := { m.df with l4Type := ipprotoIcmp } }
        let m := { m with l4 := { m.l4 with icmpCode := 0 } }
        if m.l4.icmpType = icmpv6EchoRequest then (true, { m with l4 := { m.l4 with icmpType := icmpEchoRequest } })
        else if m.l4.icmpType = icmpv6EchoReply then (true, { m with l4 := { m.l4 with icmpType := icmpEchoReply } })
        else (false, m)
      else (false, m)

/-- The NAT64 address of an IPv4 address. -/
def nat64Addr (ip : Ip4) : Ip6 := 0x0064ff9b0000000000000000#96 ++ ip

/-- `dp_nat_chg_ipv4_to_ipv6_hdr`; the private data keeps IPv4 as its layer-3 type. -/
def dpNatChgIpv4ToIpv6Hdr (m : Mbuf) (addr : Ip6) : Bool × Mbuf :=
  match m.l3 with
  | .ipv6 .. => (false, m)
  | .ipv4 src _ proto =>
    if !m.canGrow then (false, m)
    else
      let m := { m with l3 := .ipv6 (nat64Addr src) addr proto, df := { m.df with dstAddr6 := addr } }
      if m.df.l4Type = ipprotoTcp ∨ m.df.l4Type = ipprotoUdp then (true, m)
      else if m.df.l4Type = ipprotoIcmp then
        let m := { m with l3 := .ipv6 (nat64Addr src) addr ipprotoIcmpv6, df := { m.df with l4Type := ipprotoIcmpv6 } }
        let m := { m with l4 := { m.l4 with icmpCode := 0 } }
        if m.l4.icmpType = icmpEchoRequest then (true, { m with l4 := { m.l4 with icmpType := icmpv6EchoRequest } })
        else if m.l4.icmpType = icmpEchoReply then (true, { m with l4 := { m.l4 with icmpType := icmpv6EchoReply } })
        else (false, m)
      else (false, m)

/-! ## Entry -/

/-- `is_ipv6_nd`: a neighbour or router solicitation. -/
def isIpv6Nd (m : Mbuf) (proto : UInt8) : Bool :=
  proto == ipprotoIcmpv6 && (m.l4.icmpType == 135 || m.l4.icmpType == 133)

/-- The `cls` node. A packet with an outer header is a tunnelled one. -/
def clsNode (cf : Conf) (d : Dataplane) (m : Mbuf) : NodeRet :=
  if m.notIp then some (d, m, if m.isArp then .arp else .drop)
  else
    let m := { m with df := {} }
    if !cf.hasPort m.port then some (d, m, .drop)
    else
      match m.frontHdr with
      | .ipv4 .. =>
        if cf.isPf m.port then some (d, m, .drop)
        else some (d, { m with df := { m.df with l3Type := .ipv4 } }, .conntrack)
      | .ipv6 _ _ proto =>
        if cf.isPf m.port then
          if isIpv6Nd m proto then some (d, m, .drop)
          else
            match m.outer with
            | none => some (d, { m with df := { m.df with l3Type := .ipv6 } }, .conntrack)
            | some o =>
              let df := { m.df with l3Type := m.l3.type, ulSrcAddr6 := o.src, ulDstAddr6 := o.dst, tunProtoId := proto }
              some (d, { m with df := df }, .ipipDecap)
        else if isIpv6Nd m proto then some (d, m, .ipv6Nd)
        else some (d, { m with df := { m.df with l3Type := .ipv6 } }, .conntrack)

def ipipDecapNode (cf : Conf) (c : Config) (d : Dataplane) (m : Mbuf) : NodeRet :=
  match c.vnf.handleTbl m.df.ulDstAddr6 with
  | none => some (d, m, .drop)
  | some v =>
    if !cf.hasPort v.portId then some (d, m, .drop)
    else
      let df := { m.df with dstVni := v.vni, vnfType := v.type, nxtHop := v.portId }
      some (d, { m with df := df, outer := none }, .conntrack)

/-- Where a packet goes after connection tracking. -/
def conntrackNext (cf : Conf) (m : Mbuf) : Node :=
  if !cf.isPf m.port then .dnat
  else
    match m.df.vnfType with
    | .lb => .lb
    | .vip | .nat => .dnat
    | .lbAliasPfx | .interfaceIp | .aliasPfx => .firewall
    | .undefined => .drop

def conntrackNode (cf : Conf) (e : Env) (c : Config) (d : Dataplane) (m : Mbuf) : NodeRet :=
  match (m.df.extractL3 m.frontHdr).extractL4 m.l4 with
  | none => some (d, m, .drop)
  | some df =>
    let m := { m with df := df }
    if df.l3Type = .ipv4 ∧ df.l4Type = ipprotoUdp ∧ df.dstPort = bootpSrvPort then some (d, m, .dnat)
    else if df.l3Type = .ipv6 ∧ df.l4Type = ipprotoUdp ∧ df.dstPort = dhcpv6ServerPort then some (d, m, .dhcpv6)
    else if !cf.conntrackEnabled then some (d, m, .dnat)
    else
      match dpCntrackHandle cf e c d m with
      | none => none
      | some (false, d, m) => some (d, m, .drop)
      | some (true, d, m) => some (d, m, conntrackNext cf m)

/-! ## Load balancing and relaying -/

/-- The VNI of a packet: that of the tunnel, or that of the interface it came from. -/
def pktVni (c : Config) (m : Mbuf) : Vni := if m.df.dstVni = 0 then (c.port m.port).iface.vni else m.df.dstVni

def lbDst (df : DpFlow) : Option IpAddr :=
  match df.l3Type with
  | .ipv4 => some (.v4 df.dstAddr)
  | .ipv6 => some (.v6 df.dstAddr6)
  | .other => none

def dpIsIpLb (s : LbState) (df : DpFlow) (vni : Vni) : Bool :=
  match lbDst df with
  | none => false
  | some ip => (s.lbTbl ⟨vni, ip⟩).isSome

/-- Keep the old underlay destination as source and set the new one, then `dp_lb_set_next_hop`: a target on this service
sends the packet round again. -/
def lbRedirect (c : Config) (m : Mbuf) (target : Ip6) : Mbuf :=
  let df := { m.df with ulSrcAddr6 := m.df.ulDstAddr6, ulDstAddr6 := target }
  if (c.vnf.handleTbl target).any (·.type == .lbAliasPfx) then { m with df := { df with natType := .lbRecirc } }
  else { m with df := { df with nxtHop := m.port, natType := .ulDstIp } }

def lbNewFlow (c : Config) (d : Dataplane) (m : Mbuf) (f : ℕ) (fv : FlowValue) : NodeRet :=
  if isIcmp m.df.l4Type ∧ (m.df.icmpType = icmpEchoRequest ∨ m.df.icmpType = icmpv6EchoRequest) then
    some (d, { m with df := { m.df with natType := .ulDstIp } }, .packetRelay)
  else if isIcmp m.df.l4Type ∧ m.df.icmpType ≠ icmpTypeError then some (d, m, .drop)
  else
    match dpLbGetBackendIp d.lb fv.org.l3Dst fv.org.portDst fv.org.proto (pktVni c m) with
    | none => none
    | some (none, s) => some ({ d with lb := s }, m, .drop)
    | some (some target, s) =>
      let d := { d with lb := s }
      let m := lbRedirect c m target
      let fv := { fv with underlayDst := target, flags := { fv.flags with dstLb := true } }
      if m.df.natType = .lbRecirc then some (d.setFlow f { fv with natType := .lbRecirc }, m, .ipipEncap)
      else some (dpRelayFlow (d.setFlow f { fv with natType := .lbForward }) f fv.reply, m, .ipipEncap)

def lbNode (c : Config) (d : Dataplane) (m : Mbuf) : NodeRet :=
  match m.df.conntrack with
  | none => some (d, m, .dnat)
  | some f =>
    if !dpIsLbEnabled d.lb then some (d, m, .dnat)
    else
      match d.flows f with
      | none => none
      | some fv =>
        if fv.flags = {} ∧ m.df.flowDir = .org ∧ dpIsIpLb d.lb m.df (pktVni c m) then lbNewFlow c d m f fv
        else if fv.flags.dstLb ∧ m.df.flowDir = .org then some (d, lbRedirect c m fv.underlayDst, .ipipEncap)
        else if fv.flags.dflt ∧ isIcmp m.df.l4Type then
          some (d, { m with df := { m.df with natType := .ulDstIp } }, .packetRelay)
        else some (d, m, .dnat)

/-- `lb_nnat_icmp_reply` and `lb_nnat_icmpv6_reply`: answer an echo request. -/
def echoReply (m : Mbuf) : Mbuf :=
  let df := { m.df with nxtHop := m.port, ulDstAddr6 := m.df.ulSrcAddr6 }
  match m.l3 with
  | .ipv4 src dst proto => { m with df := df, l3 := .ipv4 dst src proto, l4 := { m.l4 with icmpType := icmpEchoReply } }
  | .ipv6 src dst proto =>
    { m with df := df, l3 := .ipv6 dst src proto, l4 := { m.l4 with icmpType := icmpv6EchoReply } }

def packetRelayNode (d : Dataplane) (m : Mbuf) : NodeRet :=
  match m.df.conntrack with
  | none => some (d, m, .drop)
  | some f =>
    match d.flows f with
    | none => none
    | some fv =>
      if fv.natType = .networkNeigh then
        let df := { m.df with nxtHop := m.port, ulSrcAddr6 := m.df.ulDstAddr6, ulDstAddr6 := fv.underlayDst }
        some (d, { m with df := df }, .ipipEncap)
      else if m.df.l4Type = ipprotoIcmp then
        if m.l4.icmpType = icmpEchoRequest then some (d, echoReply m, .ipipEncap) else some (d, m, .drop)
      else if m.df.l4Type = ipprotoIcmpv6 then
        if m.l4.icmpType = icmpv6EchoRequest then some (d, echoReply m, .ipipEncap) else some (d, m, .drop)
      else some (d, m, .drop)

/-! ## Destination NAT -/

/-- The port that `dp_lookup_network_nat_underlay_ip` looks for. -/
def dnatPort (df : DpFlow) : UInt16 := if isIcmp df.l4Type then df.icmpIdent else df.dstPort

/-- Replace the destination of a packet; the old one is recorded. -/
def dnatRewrite (m : Mbuf) (ip : Ip4) : Mbuf :=
  let m := (m.setDst4 ip).setNat .dstIp m.df.dstAddr
  { m with df := { m.df with dstAddr := ip } }

/-- The `dnat` node for a new flow: a packet to a shared NAT address is relayed or dropped, one to a VIP translated. -/
def dnatNewFlow (e : Env) (c : Config) (d : Dataplane) (m : Mbuf) (f : ℕ) (fv : FlowValue) : NodeRet :=
  match dpGetDnatData c.nat m.df.dstAddr (pktVni c m) with
  | none => some (d, m, .ipv4Lookup)
  | some dnatIp =>
    if dnatIp = 0 then
      if m.df.l4Type = ipprotoIcmp ∧ m.df.icmpType = icmpEchoRequest then
        some (d.setFlow f { fv with natType := .asTarget }, m, .packetRelay)
      else
        match dpLookupNetworkNatUnderlayIp c.nat m.df.dstAddr m.df.dstVni (dnatPort m.df) with
        | none => some (d, m, .drop)
        | some ul =>
          let fv := { fv with natType := .networkNeigh, nfL4Type := m.df.l4Type, underlayDst := ul }
          -- relayed packets have no reverse direction
          some (dpRelayFlow (d.setFlow f fv) f fv.reply,
            { m with df := { m.df with natType := .ulDstIp } }, .packetRelay)
    else
      let m := dnatRewrite m dnatIp
      let fv := { fv with flags := { fv.flags with dstNat := true } }
      let d := dpDeleteFlow d fv.reply
      let fv := { fv with reply := { fv.reply with l3Src := .v4 dnatIp } }
      let d := d.setFlow f fv
      if e.ok .flowAddReply then some (dpAddFlow d fv.reply f, m, .ipv4Lookup) else some (d, m, .drop)

def dnatOut (m : Mbuf) : Node :=
  match m.df.l3Type with
  | .ipv4 => .ipv4Lookup
  | .ipv6 => .ipv6Lookup
  | .other => .drop

/-- Restore the port or identifier that SNAT replaced, for a reply to a translated flow. -/
def dnatReplyL4 (m : Mbuf) (fv : FlowValue) (vm : Ip4) : Option Mbuf :=
  if fv.natType ≠ .networkLocal then some m
  else if m.df.l4Type = ipprotoIcmp then
    if m.df.icmpType = icmpEchoReply then some (m.setIcmpIdent fv.org.portDst)
    else if m.df.icmpType = icmpTypeError then
      match m.errHdr with
      | none => none
      | some q =>
        if (q.proto ≠ ipprotoTcp ∧ q.proto ≠ ipprotoUdp) ∨ q.srcPort = 0 ∨ q.dstPort = 0 then none
        else some { m with errHdr := some { q with src := vm, srcPort := fv.org.src } }
    else some m
  else some (m.setDstPort fv.org.src)

/-- Restore the port or identifier, for a reply to a NAT64 flow. -/
def dnatReply64L4 (m : Mbuf) (fv : FlowValue) : Mbuf :=
  if fv.natType ≠ .networkLocal then m
  else if m.df.l4Type = ipprotoIcmp then
    if m.df.icmpType = icmpEchoReply then m.setIcmpIdent fv.org.portDst else m
  else m.setDstPort fv.org.src

/-- The end of the `dnat` node: a reply to a NAT64 flow becomes an IPv6 packet. -/
def dnatReply64 (d : Dataplane) (m : Mbuf) (fv : FlowValue) : NodeRet :=
  if fv.flags.srcNat64 ∧ m.df.flowDir = .reply then
    let m := dnatReply64L4 (m.setNat .nat64DstIp m.df.dstAddr) fv
    match fv.org.l3Src with
    | .v4 _ => some (d, m, .drop)
    | .v6 vm =>
      match dpNatChgIpv4ToIpv6Hdr m vm with
      | (false, m) => some (d, m, .drop)
      | (true, m) => some (d, m, .ipv6Lookup)
  else some (d, m, dnatOut m)

def dnatReply (d : Dataplane) (m : Mbuf) (fv : FlowValue) : NodeRet :=
  if fv.flags.srcNat ∧ m.df.flowDir = .reply then
    match fv.org.l3Src with
    | .v6 _ => some (d, m, .drop)
    | .v4 vm =>
      match dnatReplyL4 (m.setDst4 vm) fv vm with
      | none => some (d, m, .drop)
      | some m => dnatReply64 d (dnatRewrite m vm) fv
  else dnatReply64 d m fv

def dnatKnownFlow (d : Dataplane) (m : Mbuf) (fv : FlowValue) : NodeRet :=
  if fv.natType = .networkNeigh then some (d, { m with df := { m.df with natType := .ulDstIp } }, .packetRelay)
  else if fv.flags.dflt ∧ fv.natType = .asTarget ∧ isIcmp m.df.l4Type ∧
      (m.df.icmpType = icmpEchoRequest ∨ m.df.icmpType = icmpv6EchoRequest) then some (d, m, .packetRelay)
  else if fv.flags.dstNat ∧ m.df.flowDir = .org then
    match fv.reply.l3Src with
    | .v6 _ => some (d, m, .drop)
    | .v4 ip => dnatReply d (dnatRewrite m ip) fv
  else dnatReply d m fv

def dnatNode (e : Env) (c : Config) (d : Dataplane) (m : Mbuf) : NodeRet :=
  match m.df.conntrack with
  | none => some (d, m, dnatOut m)
  | some f =>
    match d.flows f with
    | none => none
    | some fv =>
      if fv.flags = {} ∧ m.df.flowDir = .org ∧ m.df.l3Type = .ipv4 then dnatNewFlow e c d m f fv
      else dnatKnownFlow d m fv

/-! ## Routing -/

def dpGetIp4OutPort (cf : Conf) (c : Config) (tVni : Vni) (dst : Ip4) : Option (Ip4 × Route) :=
  match c.vniHandleTbl tVni with
  | none => none
  | some v => (v.ipv4.lookup dst).filter fun r => cf.hasPort r.2.nh

def dpGetIp6OutPort (cf : Conf) (c : Config) (tVni : Vni) (dst : Ip6) : Option (Ip6 × Route) :=
  match c.vniHandleTbl tVni with
  | none => none
  | some v => (v.ipv6.lookup dst).filter fun r => cf.hasPort r.2.nh

/-- What both lookups do with the route they found. A route to a virtual function leaves the target VNI of the packet to
whatever the stack held. -/
def routePacket (cf : Conf) (e : Env) (d : Dataplane) (m : Mbuf) (r : Route) (isDefault : Bool) (pf : PortId) :
    NodeRet :=
  if cf.isPf r.nh && cf.isPf m.port then some (d, m, .drop)
  else
    let df := m.df
    let df := if cf.isPf r.nh then { df with ulDstAddr6 := r.nhIpv6 } else df
    let df := if cf.isPf m.port then df else { df with dstVni := if cf.isPf r.nh then r.vni else e.staleVni }
    let df := { df with flowType := if isDefault then .southNorth else .westEast }
    some (d, { m with df := { df with nxtHop := if cf.isPf r.nh then pf else r.nh } }, .snat)

def ipv4LookupNode (cf : Conf) (e : Env) (c : Config) (d : Dataplane) (m : Mbuf) : NodeRet :=
  if m.df.l4Type = ipprotoUdp ∧ m.df.dstPort = bootpSrvPort then some (d, m, .dhcp)
  else
    match dpGetIp4OutPort cf c (pktVni c m) m.df.dstAddr with
    | none => some (d, m, .drop)
    | some (key, r) => routePacket cf e d m r (key == 0) (if e.usePf1 then cf.pf1 else cf.pf0)

/-- The `ipv6_lookup` node: packets of a virtual function are always routed in its own VNI. -/
def ipv6LookupNode (cf : Conf) (e : Env) (c : Config) (d : Dataplane) (m : Mbuf) : NodeRet :=
  let tVni := if cf.isPf m.port ∧ m.df.dstVni ≠ 0 then m.df.dstVni else (c.port m.port).iface.vni
  match dpGetIp6OutPort cf c tVni m.df.dstAddr6 with
  | none => some (d, m, .drop)
  | some (key, r) => routePacket cf e d m r (key == 0) r.nh

/-! ## Source NAT -/

def snatL4 (m : Mbuf) (port : UInt16) : Mbuf :=
  let m := if m.df.l4Type = ipprotoIcmp then m.setIcmpIdent port else m.setSrcPort port
  { m with df := { m.df with natPort := port } }

/-- ICMP packets of a translated flow are never offloaded. -/
def snatNoOffload (m : Mbuf) (fv : FlowValue) : Mbuf × FlowValue :=
  if m.df.l4Type = ipprotoIcmp then
    ({ m with df := { m.df with offloadState := .nonOffload } },
      { fv with offloadOrig := .offloaded, offloadReply := .offloaded })
  else (m, fv)

/-- The reply key after source NAT; the port changes with network NAT only. -/
def snatReply (k : FlowKey) (ip : Ip4) (port : Option UInt16) : FlowKey :=
  { k with l3Dst := .v4 ip, portDst := port.getD k.portDst }

/-- The end of `dp_process_ipv4_snat`: enter the flow under its new reply key. -/
def snatRekey (e : Env) (d : Dataplane) (m : Mbuf) (f : ℕ) (fv : FlowValue) (ip : Ip4) (port : Option UInt16) :
    Bool × Dataplane × Mbuf :=
  let d := dpDeleteFlow d fv.reply
  let fv := { fv with flags := { fv.flags with srcNat := true }, reply := snatReply fv.reply ip port }
  let d := d.setFlow f fv
  let m := m.setNat .srcIp ip
  if e.ok .flowAddReply then (true, dpAddFlow d fv.reply f, m) else (false, d, m)

/-- `dp_process_ipv4_snat`; where an interface has both, its NAT takes precedence over its VIP. -/
def dpProcessIpv4Snat (cf : Conf) (e : Env) (c : Config) (d : Dataplane) (m : Mbuf) (f : ℕ) (fv : FlowValue)
    (sd : SnatData) : Bool × Dataplane × Mbuf :=
  let m := if sd.vipIp ≠ 0 then m.setSrc4 sd.vipIp else m
  let fv := if sd.vipIp ≠ 0 then { fv with natType := .vip } else fv
  if sd.natIp = 0 then snatRekey e d m f fv sd.vipIp none
  else
    let vni := (c.port m.port).iface.vni
    match dpAllocateNetworkSnatPort cf e d.ports ⟨sd.natIp, sd.natMinPort, sd.natMaxPort⟩ m.df vni with
    | (.error _, n) => (false, { d with ports := n }.setFlow f fv, m)
    | (.ok port, n) =>
      let r := snatNoOffload (snatL4 (m.setSrc4 sd.natIp) port) fv
      let fv := { r.2 with natType := .networkLocal, nfVni := vni, nfL4Type := m.df.l4Type }
      snatRekey e { d with ports := n.incUsed m.port } r.1 f fv sd.natIp (some port)

/-- The ICMP type of the reply key after NAT64. -/
def nat64ReplyType (type : UInt16) : UInt16 :=
  if type = icmpv6EchoRequest.toUInt16 then icmpEchoRequest.toUInt16
  else if type = icmpv6EchoReply.toUInt16 then icmpEchoReply.toUInt16
  else 0

/-- The reply key that NAT64 deletes: for ICMP its type has already been replaced. -/
def nat64OldReply (k : FlowKey) (l4Type : UInt8) : FlowKey :=
  if l4Type = ipprotoIcmp then { k with src := nat64ReplyType k.src } else k

/-- The reply key after NAT64. -/
def nat64Reply (k : FlowKey) (l4Type : UInt8) (dst natIp : Ip4) (port : UInt16) : FlowKey :=
  { nat64OldReply k l4Type with l3Src := .v4 dst, l3Dst := .v4 natIp, portDst := port, proto := l4Type }

/-- The end of `dp_process_ipv6_nat64`: enter the flow under its new reply key. -/
def nat64Rekey (e : Env) (d : Dataplane) (m : Mbuf) (f : ℕ) (fv : FlowValue) (dst natIp : Ip4) (port : UInt16) :
    Bool × Dataplane × Mbuf :=
  let d := dpDeleteFlow d (nat64OldReply fv.reply m.df.l4Type)
  let fv := { fv with
    flags := { fv.flags with srcNat64 := true }, reply := nat64Reply fv.reply m.df.l4Type dst natIp port }
  let d := d.setFlow f fv
  if e.ok .flowAddReply then (true, dpAddFlow d fv.reply f, m) else (false, d, m)

def dpProcessIpv6Nat64 (cf : Conf) (e : Env) (c : Config) (d : Dataplane) (m : Mbuf) (f : ℕ) (fv : FlowValue) :
    Bool × Dataplane × Mbuf :=
  let i := (c.port m.port).iface
  match dpAllocateNetworkSnatPort cf e d.ports ⟨i.natIp, i.natMinPort, i.natMaxPort⟩ m.df i.vni with
  | (.error _, n) => (false, { d with ports := n }, m)
  | (.ok port, n) =>
    let n := n.incUsed m.port
    let m' := { m with df := { m.df with natPort := port, natType := .nat64SrcIp, natAddr := i.natIp } }
    match dpNatChgIpv6ToIpv4Hdr m' i.natIp with
    | (false, m') => (false, { d with ports := (dpRemoveNetworkSnatPort n fv).decUsed m.port }, m')
    | (true, m') =>
      let r := snatNoOffload (snatL4 m' port) fv
      let fv := { r.2 with natType := .networkLocal, nfVni := i.vni, nfL4Type := m'.df.l4Type }
      nat64Rekey e { d with ports := n } r.1 f fv m.dst4 i.natIp port

def snatKnownFlow (c : Config) (d : Dataplane) (m : Mbuf) (fv : FlowValue) : NodeRet :=
  let r : Option Mbuf :=
    if fv.flags.srcNat ∧ m.df.flowDir = .org then
      match fv.reply.l3Dst with
      | .v6 _ => none
      | .v4 ip =>
        let m := if fv.natType = .networkLocal then snatL4 m fv.reply.portDst else m
        some ((m.setSrc4 ip).setNat .srcIp ip)
    else some m
  match r with
  | none => some (d, m, .drop)
  | some m =>
    let r : Option Mbuf :=
      if (fv.flags.dstNat ∨ fv.flags.dstLb) ∧ m.df.flowDir = .reply then
        match fv.org.l3Dst with
        | .v6 _ => none
        | .v4 ip => some (({ m with df := { m.df with srcAddr := m.src4 } }.setSrc4 ip).setNat .srcIp ip)
      else some m
    match r with
    | none => some (d, m, .drop)
    | some m =>
      if fv.flags.srcNat64 ∧ m.df.flowDir = .org then
        match dpNatChgIpv6ToIpv4Hdr m (c.port m.port).iface.natIp with
        | (false, m) => some (d, m, .drop)
        | (true, m) =>
          let m := if fv.natType = .networkLocal then snatL4 m fv.reply.portDst else m
          some (d, m.setNat .nat64SrcIp (c.port m.port).iface.natIp, .firewall)
      else some (d, m, .firewall)

def snatNode (cf : Conf) (e : Env) (c : Config) (d : Dataplane) (m : Mbuf) : NodeRet :=
  let i := (c.port m.port).iface
  if !cf.isPf m.port ∧ i.publicFlowRateCap ≠ 0 ∧ m.df.flowType = .southNorth ∧ m.df.l3Type ≠ .other ∧ e.red then
    some (d, m, .drop)
  else
    match m.df.conntrack with
    | none => some (d, m, .firewall)
    | some f =>
      match d.flows f with
      | none => none
      | some fv =>
        if fv.flags = {} ∧ m.df.flowDir = .org ∧ m.df.flowType = .southNorth then
          match m.df.l3Type with
          | .ipv4 =>
            match dpGetIfaceSnatData c.nat m.df.srcAddr i.vni with
            | none => snatKnownFlow c d m fv
            | some sd =>
              if sd.vipIp = 0 ∧ sd.natIp = 0 then snatKnownFlow c d m fv
              else
                match dpProcessIpv4Snat cf e c d m f fv sd with
                | (false, d, m) => some (d, m, .drop)
                | (true, d, m) =>
                  match d.flows f with
                  | none => none
                  | some fv => snatKnownFlow c d m fv
          | .ipv6 =>
            if i.natIp ≠ 0 ∧ dpIsIp6InNat64Range m.df.dstAddr6 then
              match dpProcessIpv6Nat64 cf e c d m f fv with
              | (false, d, m) => some (d, m, .drop)
              | (true, d, m) => some (d, m, .firewall)
            else snatKnownFlow c d m fv
          | .other => snatKnownFlow c d m fv
        else snatKnownFlow c d m fv

/-! ## Exit -/

/-- The `firewall` node; its verdict is not enforced. -/
def firewallNode (cf : Conf) (d : Dataplane) (m : Mbuf) : NodeRet :=
  let next := if cf.isPf m.df.nxtHop then .ipipEncap else .tx
  match m.df.conntrack with
  | none => some (d, m, next)
  | some f =>
    match d.flows f with
    | none => none
    | some fv =>
      if !fv.flags.firewall ∧ m.df.flowDir = .org then
        some (d.setFlow f { fv with flags := { fv.flags with firewall := true } }, m, next)
      else some (d, m, next)

def dpGetPortUlIpv6 (cf : Conf) (c : Config) (p : PortId) : Ip6 :=
  if (c.port p).iface.ready then (c.port p).iface.ulIpv6 else cf.underlayIp

/-- The `ipip_encap` node: recirculated packets go back to the entry. -/
def ipipEncapNode (cf : Conf) (c : Config) (d : Dataplane) (m : Mbuf) : NodeRet :=
  if m.df.l3Type = .other ∨ !m.canEncap then some (d, m, .drop)
  else
    let proto := match m.df.l3Type with
      | .ipv4 => ipprotoIpip
      | _ => ipprotoIpv6
    let m := { m with df := { m.df with tunProtoId := proto } }
    if m.df.natType = .lbRecirc then
      some (d, { m with outer := some ⟨m.df.ulSrcAddr6, m.df.ulDstAddr6⟩, isRecirc := true }, .cls)
    else some (d, { m with outer := some ⟨dpGetPortUlIpv6 cf c m.port, m.df.ulDstAddr6⟩ }, .tx)

/-- The `tx` node: the packet is sent, and its flow offloaded if connection tracking asked for it. -/
def txNode (cf : Conf) (e : Env) (c : Config) (d : Dataplane) (m : Mbuf) : Option Dataplane :=
  match m.df.conntrack with
  | none => some d
  | some f =>
    match d.flows f with
    | none => none
    | some fv =>
      let d := if fv.flags.nf then d else d.setFlow f { fv with flags := { fv.flags with dflt := true } }
      if m.df.offloadState = .install then dpOffloadHandler cf e c d m f else some d

end Dpservice
