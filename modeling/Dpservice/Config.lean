import Dpservice.Types

/-!
# The configuration state

The tables that only requests change: port records, interface ids, VNFs, VNIs with their routing tables, and the SNAT
and DNAT configuration. Packet-processing nodes read them.

`Env` fixes, for one step, everything the step takes from outside: which calls into DPDK or the allocator fail, random
bytes, the clock and what the hardware answers.
-/

namespace Dpservice

/-! ## The environment of a step -/

/-- A call that can fail for reasons outside the program. -/
inductive Op where
  | vnfHandleAdd | vnfValueAdd | ifaceIdAdd
  | vniAlloc | ribCreate | ribInsert (p : PortId) | rib6Insert (p : PortId)
  | snatAdd | dnatAdd | neighAlloc
  | meterTotal | meterSysfs | meterReset | meterPublic | portStart | portStop
  | lbAlloc | lbAdd | lbIdAdd
  | flowAlloc | flowAddOrg | flowAddInv | flowAddReply | overloadAdd | portmapAdd
  | portmapLookup | overloadLookup | scanLookup (i : ℕ)
  | agectxAlloc (i : ℕ) | handleCreate (i : ℕ) | ruleInstall (i : ℕ) | l4Item
  deriving DecidableEq, Repr

/-- What one step takes from outside the program. -/
structure Env where
  /-- The calls that fail. -/
  fails : List Op := []
  /-- `rand() % 256` for the underlay address, and for the first value of the prefix counter. -/
  randByte : UInt8 := 0
  randStart : UInt8 := 0
  /-- `rte_rdtsc()`. -/
  now : UInt64 := 0
  /-- The public meter colours the packet red. -/
  red : Bool := false
  /-- `dp_multipath_get_pf` chooses the second physical port. -/
  usePf1 : Bool := false
  /-- The bytes that an uninitialised `struct dp_iface_route` holds. -/
  staleVni : Vni := 0
  /-- Seconds since the last hit of the age action of a context, asked while the `i`-th entry of the flow table is
  visited; `none` when the query fails. -/
  sinceLastHit : ℕ → ℕ → Option UInt32 := fun _ _ => none

/-- The call succeeds. -/
def Env.ok (e : Env) (op : Op) : Bool := !e.fails.contains op

/-! ## Records -/

/-- `struct dp_port_iface` with the fields of its `cfg` that routing and NAT use. -/
structure Iface where
  ready : Bool := false
  vni : Vni := 0
  id : Id64 := 0
  ownIp : Ip4 := 0
  dhcpIpv6 : Ip6 := 0
  ulIpv6 : Ip6 := 0
  natIp : Ip4 := 0
  natMinPort : UInt16 := 0
  natMaxPort : UInt16 := 0
  totalFlowRateCap : UInt64 := 0
  publicFlowRateCap : UInt64 := 0
  deriving DecidableEq, Repr

/-- `struct dp_port` with the fields that change at run time. -/
structure Port where
  allocated : Bool := false
  captured : Bool := false
  iface : Iface := {}
  deriving DecidableEq, Repr

/-- `struct dp_vnf`: what an underlay address stands for. -/
structure Vnf where
  type : VnfType
  vni : Vni
  portId : PortId
  pfx : IpAddr
  length : UInt8
  deriving DecidableEq, Repr

/-- A route: its next hop and, for external routes, the target VNI and underlay address. -/
structure Route where
  nh : PortId
  vni : Vni := 0
  nhIpv6 : Ip6 := 0
  deriving DecidableEq, Repr

structure VniData where
  refCount : Int := 1
  ipv4 : Rib 32 Route := Table.empty
  ipv6 : Rib 128 Route := Table.empty

structure NatKey where
  ip : Ip4
  vni : Vni
  deriving DecidableEq, Repr

structure SnatData where
  vipIp : Ip4 := 0
  natIp : Ip4 := 0
  natMinPort : UInt16 := 0
  natMaxPort : UInt16 := 0
  ulVipIp6 : Ip6 := 0
  ulNatIp6 : Ip6 := 0
  deriving DecidableEq, Repr

/-- `struct network_nat_entry`: a NAT range of a neighbouring service. -/
structure NetworkNatEntry where
  natIp : Ip4
  vni : Vni
  minPort : UInt16
  maxPort : UInt16
  dstIpv6 : Ip6
  deriving DecidableEq, Repr

/-- The tables of the VNFs, with the counter that underlay addresses are made from. -/
structure VnfState where
  handleTbl : Table Ip6 Vnf := Table.empty
  valueTbl : Table Vnf Ip6 := Table.empty
  pfxCounter : UInt32 := 0

/-- The NAT configuration: SNAT data by interface address, DNAT data by public address, ranges of neighbours. -/
structure NatState where
  snatTbl : Table NatKey SnatData := Table.empty
  dnatTbl : Table NatKey Ip4 := Table.empty
  natHeadp : List NetworkNatEntry := []

structure Config where
  port : PortId → Port := fun _ => {}
  ifaceIdTable : Table Id64 PortId := Table.empty
  vnf : VnfState := {}
  vniHandleTbl : Table Vni VniData := Table.empty
  nat : NatState := {}

/-- The configuration right after start: the two physical ports are running, nothing else is configured. -/
def Config.init (cf : Conf) : Config := { port := fun p => { allocated := cf.isPf p } }

/-- Replace the interface record of a port. -/
def Config.setIface (c : Config) (p : PortId) (i : Iface) : Config :=
  { c with port := Function.update c.port p { c.port p with iface := i } }

/-! ## Results of requests -/

inductive Ret where
  | noVm | notFound | alreadyExists | badIpver | wrongType | outOfMemory
  | vnfInsert | vnfDelete | vmHandle | vniInit4 | vniFree4 | portMeter | portStart | portStop
  | noVni | routeExists | routeInsert | routeNotFound | routeBadPort | routeReset
  | snatCreate | snatExists | snatNoData | dnatCreate | dnatExists | dnatNoData
  | noLb | createLbErr | lbExists | limitReached | noBackip
  | noDropSupport | notActive | alreadyActive | rollback
  deriving DecidableEq, Repr

inductive Resp where
  | err (r : Ret)
  | ok
  | ulAddr (ul : Ip6)
  | addr (ip : Ip4)
  | vip (ip : Ip4) (ul : Ip6)
  | nat (ip : Ip4) (minPort maxPort : UInt16) (ul : Ip6)
  deriving DecidableEq, Repr

/-- The answer of a call that returns an error code or nothing. -/
def Resp.ofRet : Option Ret → Resp
  | none => .ok
  | some r => .err r

end Dpservice
