import Dpservice.Lib.Lpm

/-!
# Addresses, protocol numbers and enumerations

The scalar types the service works with. Addresses and ports are kept in host byte order: every conversion between
network and host order of the source is the identity here.
-/

namespace Dpservice

abbrev Ip4 := BitVec 32
abbrev Ip6 := BitVec 128
/-- A DPDK port number. -/
abbrev PortId := UInt16
/-- A virtual network identifier. -/
abbrev Vni := UInt32
/-- A 64-byte identifier (an interface id, a load-balancer id, a device name). -/
abbrev Id64 := BitVec 512

/-- `struct dp_ip_address`: an address of either family. -/
inductive IpAddr where
  | v4 (ip : Ip4)
  | v6 (ip : Ip6)
  deriving DecidableEq, Repr

namespace IpAddr

def isV6 : IpAddr → Bool
  | v4 _ => false
  | v6 _ => true

/-- The zero address of a family. -/
def zero (isV6 : Bool) : IpAddr := if isV6 then v6 0 else v4 0

end IpAddr

/-- The IPv4 address in the last four bytes of an IPv6 address. -/
def low32 (ip : Ip6) : Ip4 := ip.setWidth 32

/-- `dp_is_ip6_in_nat64_range`: the address starts with `64:ff9b::/96`. -/
def dpIsIp6InNat64Range (ip : Ip6) : Bool := ip.extractLsb' 32 96 == 0x0064ff9b0000000000000000#96

/-! ## Protocol numbers -/

abbrev ipprotoIcmp : UInt8 := 1
abbrev ipprotoIpip : UInt8 := 4
abbrev ipprotoTcp : UInt8 := 6
abbrev ipprotoUdp : UInt8 := 17
abbrev ipprotoIpv6 : UInt8 := 41
abbrev ipprotoIcmpv6 : UInt8 := 58

abbrev icmpEchoReply : UInt8 := 0
abbrev icmpTypeError : UInt8 := 3
abbrev icmpEchoRequest : UInt8 := 8
abbrev icmpv6EchoRequest : UInt8 := 128
abbrev icmpv6EchoReply : UInt8 := 129

abbrev icmpCodeProtoUnreachable : UInt8 := 2
abbrev icmpCodePortUnreachable : UInt8 := 3
abbrev icmpCodeFragmentNeeded : UInt8 := 4

abbrev bootpSrvPort : UInt16 := 67
abbrev dhcpv6ServerPort : UInt16 := 547

def isIcmp (proto : UInt8) : Bool := proto == ipprotoIcmp || proto == ipprotoIcmpv6

/-! ## Enumerations -/

/-- The layer-3 type stored in a packet's private data; `other` is the zero value. -/
inductive L3Type where
  | other | ipv4 | ipv6
  deriving DecidableEq, Repr

inductive VnfType where
  | undefined | lbAliasPfx | aliasPfx | lb | vip | nat | interfaceIp
  deriving DecidableEq, Repr

inductive FlowNatType where
  | none | vip | networkLocal | networkNeigh | asTarget | lbLocalNeigh | lbRecirc | lbForward
  deriving DecidableEq, Repr

/-- `enum dp_nat_type`: what a node changed in a packet. -/
inductive NatChg where
  | none | srcIp | dstIp | ulDstIp | lbRecirc | nat64SrcIp | nat64DstIp
  deriving DecidableEq, Repr

inductive FlowDir where
  | org | reply
  deriving DecidableEq, Repr

inductive FlowType where
  | westEast | southNorth
  deriving DecidableEq, Repr

inductive OffloadState where
  | nonOffload | install | offloaded
  deriving DecidableEq, Repr

inductive TcpState where
  | none | newSyn | newSynack | established | finwait | rstFin
  deriving DecidableEq, Repr

/-! ## Static configuration -/

structure PortmapKey where
  vni : Vni
  srcIp : IpAddr
  ifaceSrcPort : UInt16
  deriving DecidableEq, Repr

/-- What does not change while the service runs: the ports found at start and the command line. -/
structure Conf where
  pf0 : PortId
  pf1 : PortId
  /-- All ports, in the order of the port array. -/
  portList : List PortId
  /-- `rte_eth_dev_get_port_by_name`. -/
  portByName : Id64 → Option PortId
  underlayIp : Ip6
  /-- The NIC supports metering. -/
  nicMellanox : Bool
  offloadEnabled : Bool
  conntrackEnabled : Bool
  flowTimeout : UInt32
  /-- `rte_get_timer_hz()`. -/
  timerHz : UInt64
  /-- `rte_hash_hash` on the portmap table. -/
  portmapHash : PortmapKey → UInt32

namespace Conf

def isPf (cf : Conf) (p : PortId) : Bool := p == cf.pf0 || p == cf.pf1

def hasPort (cf : Conf) (p : PortId) : Bool := cf.portList.contains p

/-- `dp_get_port_by_name`; an empty name is not looked up. -/
def dpGetPortByName (cf : Conf) (name : Id64) : Option PortId :=
  if name = 0 then none else (cf.portByName name).filter cf.hasPort

end Conf

end Dpservice
