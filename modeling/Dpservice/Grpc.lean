import Dpservice.Vnf
import Dpservice.Route
import Dpservice.NatConf
import Dpservice.Lb

/-!
# Requests

The handlers of `dp_grpc_impl.c` that change the configuration. A handler returns its answer, the new configuration
and the flow-removal passes it starts; the passes run on the flow table only.
-/

namespace Dpservice

/-- A flow-removal pass: `dp_remove_nat_flows`, `dp_remove_neighnat_flows` or `dp_remove_iface_flows`. -/
inductive FlowRemoval where
  | nat (p : PortId) (type : FlowNatType)
  | neighnat (ip : Ip4) (vni : Vni) (minPort maxPort : UInt16)
  | iface (p : PortId) (ip : Ip4) (vni : Vni)
  deriving DecidableEq, Repr

inductive Request where
  | reqInitialize
  | createInterface (pciName ifaceId : Id64) (vni : Vni) (ip4 : Ip4) (ip6 : Ip6) (totalCap publicCap : UInt64)
  | deleteInterface (ifaceId : Id64)
  | createPrefix (ifaceId : Id64) (addr : IpAddr) (length : UInt8)
  | deletePrefix (ifaceId : Id64) (addr : IpAddr) (length : UInt8)
  | createRoute (vni : Vni) (pfx : IpAddr) (length : UInt8) (trgtVni : Vni) (trgt : IpAddr)
  | deleteRoute (vni : Vni) (pfx : IpAddr) (length : UInt8)
  | createVip (ifaceId : Id64) (addr : IpAddr)
  | deleteVip (ifaceId : Id64)
  | getVip (ifaceId : Id64)
  | createNat (ifaceId : Id64) (addr : IpAddr) (minPort maxPort : UInt16)
  | deleteNat (ifaceId : Id64)
  | getNat (ifaceId : Id64)
  | createNeighnat (addr : IpAddr) (vni : Vni) (minPort maxPort : UInt16) (ul : Ip6)
  | deleteNeighnat (addr : IpAddr) (vni : Vni) (minPort maxPort : UInt16)
  | createLoadBalancerPrefix (ifaceId : Id64) (addr : IpAddr) (length : UInt8)
  | deleteLoadBalancerPrefix (ifaceId : Id64) (addr : IpAddr) (length : UInt8)
  | createLb (lbId : Id64) (vni : Vni) (addr : IpAddr) (ports : List LbPort)
  | deleteLb (lbId : Id64)
  | createLbtarget (lbId : Id64) (addr : IpAddr)
  | deleteLbtarget (lbId : Id64) (addr : IpAddr)
  | resetVni (vni : Vni) (both : Bool)
  deriving DecidableEq, Repr

/-! ## Interfaces -/

/-- `dp_map_iface_id`; `none` is failure. -/
def dpMapIfaceId (e : Env) (c : Config) (id : Id64) (p : PortId) : Option Config :=
  if (c.ifaceIdTable id).isSome || !e.ok .ifaceIdAdd then none
  else some ({ c with ifaceIdTable := c.ifaceIdTable.add id p }.setIface p { (c.port p).iface with id := id })

def dpUnmapIfaceId (c : Config) (id : Id64) : Config := { c with ifaceIdTable := c.ifaceIdTable.del id }

/-- `dp_setup_iface`; `none` is failure. -/
def dpSetupIface (e : Env) (c : Config) (p : PortId) (vni : Vni) : Option Config :=
  match dpCreateVniRouteTables e c.vniHandleTbl vni with
  | none => none
  | some t => some ({ c with vniHandleTbl := t }.setIface p { (c.port p).iface with vni := vni, ready := true })

/-- `dp_del_route` and `dp_del_route6` on the configuration; their results are not used where these stand. -/
def Config.delRoute (c : Config) (p : PortId) (vni : Vni) (ip : Ip4) (depth : UInt8) : Config :=
  { c with vniHandleTbl := (dpDelRoute c.vniHandleTbl p vni ip depth).2 }

def Config.delRoute6 (c : Config) (p : PortId) (vni : Vni) (ip : Ip6) (depth : UInt8) : Config :=
  { c with vniHandleTbl := (dpDelRoute6 c.vniHandleTbl p vni ip depth).2 }

def Config.deleteVni (c : Config) (vni : Vni) : Bool × Config :=
  let r := dpDeleteVniRouteTables c.vniHandleTbl c.nat.natHeadp vni
  (r.1, { c with vniHandleTbl := r.2.1, nat := { c.nat with natHeadp := r.2.2 } })

/-- `dp_delete_iface`: the two host routes, the use of the VNI and the interface record. -/
def dpDeleteIface (c : Config) (p : PortId) : Config :=
  let i := (c.port p).iface
  let c := (c.delRoute p i.vni i.ownIp 32).delRoute6 p i.vni i.dhcpIpv6 128
  (c.deleteVni i.vni).2.setIface p {}

def Config.delVnf (c : Config) (ul : Ip6) : Config := { c with vnf := (dpDelVnf c.vnf ul).2 }

/-- `dp_port_meter_config`; the result says whether it succeeded. -/
def dpPortMeterConfig (cf : Conf) (e : Env) (i : Iface) (total pub : UInt64) : Bool × Iface :=
  if !cf.nicMellanox then (true, i)
  else if pub > total then (false, i)
  else if !e.ok .meterTotal then (false, i)
  else
    -- a missing sysfs file is not an error, the cap is just not stored
    let i := if e.ok .meterSysfs then { i with totalFlowRateCap := total } else i
    if !e.ok .meterPublic then (false, if e.ok .meterReset then { i with totalFlowRateCap := 0 } else i)
    else (true, { i with publicFlowRateCap := pub })

def dpStartPort (e : Env) (c : Config) (p : PortId) : Option Config :=
  if e.ok .portStart then some { c with port := Function.update c.port p { c.port p with allocated := true } }
  else none

/-- `dp_stop_port`; the result says whether it succeeded. -/
def dpStopPort (e : Env) (c : Config) (p : PortId) : Bool × Config :=
  if e.ok .portStop then
    (true, { c with port := Function.update c.port p { c.port p with allocated := false } })
  else (false, c)

/-- The labels at the end of `dp_process_create_interface`, from the last to the first. -/
def createIfaceErrVnf (c : Config) (ul : Ip6) : Config := c.delVnf ul

def createIfaceHandleErr (c : Config) (id : Id64) (ul : Ip6) : Config := createIfaceErrVnf (dpUnmapIfaceId c id) ul

def createIfaceIfaceErr (c : Config) (p : PortId) (id : Id64) (ul : Ip6) : Config :=
  createIfaceHandleErr (dpDeleteIface c p) id ul

def createIfaceRouteErr (c : Config) (p : PortId) (id : Id64) (vni : Vni) (ip4 : Ip4) (ul : Ip6) : Config :=
  createIfaceIfaceErr (c.delRoute p vni ip4 32) p id ul

def createIfaceRoute6Err (c : Config) (p : PortId) (id : Id64) (vni : Vni) (ip4 : Ip4) (ip6 ul : Ip6) : Config :=
  createIfaceRouteErr (c.delRoute6 p vni ip6 128) p id vni ip4 ul

def createIfaceStart (cf : Conf) (e : Env) (c : Config) (p : PortId) (id : Id64) (vni : Vni) (ip4 : Ip4)
    (ip6 ul : Ip6) (total pub : UInt64) : Resp × Config :=
  let m := if cf.isPf p then (true, (c.port p).iface) else dpPortMeterConfig cf e (c.port p).iface total pub
  let c := c.setIface p m.2
  if !m.1 then (.err .portMeter, createIfaceRoute6Err c p id vni ip4 ip6 ul)
  else
    match dpStartPort e c p with
    | some c => (.ulAddr ul, c)
    | none =>
      let c := c.setIface p (dpPortMeterConfig cf e (c.port p).iface 0 0).2
      (.err .portStart, createIfaceRoute6Err c p id vni ip4 ip6 ul)

/-- The middle of `dp_process_create_interface`: the interface record and its host routes; a zero address means that the
address family is disabled. -/
def createIfaceRoutes (cf : Conf) (e : Env) (c : Config) (p : PortId) (id : Id64) (vni : Vni) (ip4 : Ip4)
    (ip6 ul : Ip6) (total pub : UInt64) : Resp × Config :=
  let c := c.setIface p { (c.port p).iface with ulIpv6 := ul, ownIp := ip4, dhcpIpv6 := ip6 }
  let r4 := if ip4 ≠ 0 then dpAddRoute cf e c.vniHandleTbl p vni 0 ip4 0 32 else (none, c.vniHandleTbl)
  let c := { c with vniHandleTbl := r4.2 }
  match r4.1 with
  | some r => (.err r, createIfaceIfaceErr c p id ul)
  | none =>
    let r6 := if ip6 ≠ 0 then dpAddRoute6 cf e c.vniHandleTbl p vni 0 ip6 0 128 else (none, c.vniHandleTbl)
    let c := { c with vniHandleTbl := r6.2 }
    match r6.1 with
    | some r => (.err r, createIfaceRouteErr c p id vni ip4 ul)
    | none => createIfaceStart cf e c p id vni ip4 ip6 ul total pub

def dpProcessCreateInterface (cf : Conf) (e : Env) (c : Config) (pciName id : Id64) (vni : Vni) (ip4 : Ip4)
    (ip6 : Ip6) (total pub : UInt64) : Resp × Config :=
  match cf.dpGetPortByName pciName with
  | none => (.err .notFound, c)
  | some p =>
    if (c.port p).allocated then (.err .alreadyExists, c)
    else
      let v := dpCreateVnfRoute cf e c.vnf { type := .interfaceIp, vni := vni, portId := p, pfx := .v4 0, length := 0 }
      let ul := v.2.1
      let c := { c with vnf := v.2.2 }
      if !v.1 then (.err .vnfInsert, c)
      else
        match dpMapIfaceId e c id p with
        | none => (.err .vmHandle, createIfaceErrVnf c ul)
        | some c =>
          match dpSetupIface e c p vni with
          | none => (.err .vniInit4, createIfaceHandleErr c id ul)
          | some c => createIfaceRoutes cf e c p id vni ip4 ip6 ul total pub

def dpProcessDeleteInterface (cf : Conf) (e : Env) (c : Config) (id : Id64) : Resp × Config × List FlowRemoval :=
  match c.ifaceIdTable id with
  | none => (.err .notFound, c, [])
  | some p =>
    let i := (c.port p).iface
    let m := if cf.isPf p then (true, i) else dpPortMeterConfig cf e i 0 0
    let c := (c.setIface p m.2).delVnf i.ulIpv6
    let s := dpStopPort e c p
    let c := dpDeleteIface (dpUnmapIfaceId s.2 id) p
    let resp := if !s.1 then .err .portStop else if !m.1 then .err .portMeter else .ok
    (resp, c, [.iface p i.ownIp i.vni])

/-! ## Prefixes and routes -/

def dpProcessCreatePrefix (cf : Conf) (e : Env) (c : Config) (id : Id64) (addr : IpAddr) (length : UInt8) :
    Resp × Config :=
  match c.ifaceIdTable id with
  | none => (.err .noVm, c)
  | some p =>
    let vni := (c.port p).iface.vni
    match dpGrpcAddRoute cf e c.vniHandleTbl p vni 0 addr 0 length with
    | (some r, t) => (.err r, { c with vniHandleTbl := t })
    | (none, t) =>
      let v := dpCreateVnfRoute cf e c.vnf
        { type := .aliasPfx, vni := vni, portId := p, pfx := addr, length := length }
      if v.1 then (.ulAddr v.2.1, { c with vniHandleTbl := t, vnf := v.2.2 })
      else (.err .vnfInsert, { c with vniHandleTbl := (dpGrpcDelRoute t p vni addr length).2, vnf := v.2.2 })

/-- `dp_process_delete_prefix`: the VNF is deleted whether or not the route was there. -/
def dpProcessDeletePrefix (c : Config) (id : Id64) (addr : IpAddr) (length : UInt8) : Resp × Config :=
  match c.ifaceIdTable id with
  | none => (.err .noVm, c)
  | some p =>
    let vni := (c.port p).iface.vni
    let r := dpGrpcDelRoute c.vniHandleTbl p vni addr length
    let v := dpDelVnfByValue c.vnf { type := .aliasPfx, vni := vni, portId := p, pfx := addr, length := length }
    (Resp.ofRet (r.1.orElse fun _ => v.1), { c with vniHandleTbl := r.2, vnf := v.2 })

def dpProcessCreateRoute (cf : Conf) (e : Env) (c : Config) (vni : Vni) (pfx : IpAddr) (length : UInt8)
    (trgtVni : Vni) (trgt : IpAddr) : Resp × Config :=
  match trgt with
  | .v4 _ => (.err .badIpver, c)
  | .v6 ul =>
    let r := dpGrpcAddRoute cf e c.vniHandleTbl cf.pf0 vni trgtVni pfx ul length
    (Resp.ofRet r.1, { c with vniHandleTbl := r.2 })

def dpProcessDeleteRoute (cf : Conf) (c : Config) (vni : Vni) (pfx : IpAddr) (length : UInt8) : Resp × Config :=
  let r := dpGrpcDelRoute c.vniHandleTbl cf.pf0 vni pfx length
  (Resp.ofRet r.1, { c with vniHandleTbl := r.2 })

def dpProcessCreateLbprefix (cf : Conf) (e : Env) (c : Config) (id : Id64) (addr : IpAddr) (length : UInt8) :
    Resp × Config :=
  match c.ifaceIdTable id with
  | none => (.err .noVm, c)
  | some p =>
    let vni := (c.port p).iface.vni
    if dpVnfLbprefixExists c.vnf p vni addr length then (.err .alreadyExists, c)
    else
      let v := dpCreateVnfRoute cf e c.vnf
        { type := .lbAliasPfx, vni := vni, portId := p, pfx := addr, length := length }
      (if v.1 then .ulAddr v.2.1 else .err .vnfInsert, { c with vnf := v.2.2 })

def dpProcessDeleteLbprefix (c : Config) (id : Id64) (addr : IpAddr) (length : UInt8) : Resp × Config :=
  match c.ifaceIdTable id with
  | none => (.err .noVm, c)
  | some p =>
    let v := dpDelVnfByValue c.vnf
      { type := .lbAliasPfx, vni := (c.port p).iface.vni, portId := p, pfx := addr, length := length }
    (Resp.ofRet v.1, { c with vnf := v.2 })

def dpProcessResetVni (cf : Conf) (e : Env) (c : Config) (vni : Vni) (both : Bool) : Option (Resp × Config) :=
  if both then (dpLpmResetRouteTables cf e c vni).map fun r => (Resp.ofRet r.1, { c with vniHandleTbl := r.2 })
  else some (.err .wrongType, c)

/-- `dp_process_initialize`: all neighbour-NAT entries and all routes but the host routes are dropped. -/
def dpProcessInitialize (cf : Conf) (e : Env) (c : Config) : Option (Resp × Config) :=
  let c := { c with nat := { c.nat with natHeadp := dpDelAllNeighNatEntriesInVni c.nat.natHeadp 0 } }
  (dpLpmResetAllRouteTables cf e c).map fun r => (Resp.ofRet r.1, { c with vniHandleTbl := r.2 })

/-! ## VIP and NAT -/

def dpProcessCreateVip (cf : Conf) (e : Env) (c : Config) (id : Id64) (addr : IpAddr) : Resp × Config :=
  match c.ifaceIdTable id with
  | none => (.err .noVm, c)
  | some p =>
    match addr with
    | .v6 _ => (.err .badIpver, c)
    | .v4 vip =>
      let ip := (c.port p).iface.ownIp
      let vni := (c.port p).iface.vni
      let v := dpCreateVnfRoute cf e c.vnf { type := .vip, vni := vni, portId := p, pfx := .v4 0, length := 0 }
      let ul := v.2.1
      if !v.1 then (.err .vnfInsert, { c with vnf := v.2.2 })
      else
        match dpSetIfaceVipIp e c.nat ip vip vni ul with
        | (some r, n) => (.err r, { c with vnf := (dpDelVnf v.2.2 ul).2, nat := n })
        | (none, n) =>
          match dpSetDnatIp e n vip ip vni with
          | (some r, n) => (.err r, { c with vnf := (dpDelVnf v.2.2 ul).2, nat := (dpDelIfaceVipIp n ip vni).2 })
          | (none, n) => (.ulAddr ul, { c with vnf := v.2.2, nat := n })

def dpProcessDeleteVip (c : Config) (id : Id64) : Resp × Config × List FlowRemoval :=
  match c.ifaceIdTable id with
  | none => (.err .noVm, c, [])
  | some p =>
    let ip := (c.port p).iface.ownIp
    let vni := (c.port p).iface.vni
    match dpGetIfaceSnatData c.nat ip vni with
    | none => (.err .snatNoData, c, [])
    | some d =>
      if d.vipIp = 0 then (.err .snatNoData, c, [])
      else
        let n := (dpDelIfaceVipIp (dpDelDnatIp c.nat d.vipIp vni) ip vni).2
        (.addr d.vipIp, { c with vnf := (dpDelVnf c.vnf d.ulVipIp6).2, nat := n }, [.nat p .vip])

def dpProcessGetVip (c : Config) (id : Id64) : Resp :=
  match c.ifaceIdTable id with
  | none => .err .noVm
  | some p =>
    match dpGetIfaceSnatData c.nat (c.port p).iface.ownIp (c.port p).iface.vni with
    | none => .err .snatNoData
    | some d => if d.vipIp = 0 then .err .snatNoData else .vip d.vipIp d.ulVipIp6

/-- The NAT fields of an interface record. -/
def Iface.setNat (i : Iface) (ip : Ip4) (minPort maxPort : UInt16) : Iface :=
  { i with natIp := ip, natMinPort := minPort, natMaxPort := maxPort }

/-- `dp_process_create_nat`: an existing DNAT entry is shared. -/
def dpProcessCreateNat (cf : Conf) (e : Env) (c : Config) (id : Id64) (addr : IpAddr) (minPort maxPort : UInt16) :
    Resp × Config :=
  match c.ifaceIdTable id with
  | none => (.err .noVm, c)
  | some p =>
    match addr with
    | .v6 _ => (.err .badIpver, c)
    | .v4 natIp =>
      let ip := (c.port p).iface.ownIp
      let vni := (c.port p).iface.vni
      let v := dpCreateVnfRoute cf e c.vnf { type := .nat, vni := vni, portId := p, pfx := .v4 0, length := 0 }
      let ul := v.2.1
      if !v.1 then (.err .vnfInsert, { c with vnf := v.2.2 })
      else
        match dpSetIfaceNatIp e c.nat ip natIp vni minPort maxPort ul with
        | (some r, n) => (.err r, { c with vnf := (dpDelVnf v.2.2 ul).2, nat := n })
        | (none, n) =>
          match dpSetDnatIp e n natIp 0 vni with
          | (some .dnatCreate, n) =>
            (.err .dnatCreate, { c with vnf := (dpDelVnf v.2.2 ul).2, nat := (dpDelIfaceNatIp n ip vni).2 })
          | (_, n) =>
            (.ulAddr ul, { c with vnf := v.2.2, nat := n }.setIface p ((c.port p).iface.setNat natIp minPort maxPort))

def dpProcessDeleteNat (c : Config) (id : Id64) : Resp × Config × List FlowRemoval :=
  match c.ifaceIdTable id with
  | none => (.err .noVm, c, [])
  | some p =>
    let ip := (c.port p).iface.ownIp
    let vni := (c.port p).iface.vni
    match dpGetIfaceSnatData c.nat ip vni with
    | none => (.err .snatNoData, c, [])
    | some d =>
      if d.natIp = 0 then (.err .snatNoData, c, [])
      else
        let n := (dpDelIfaceNatIp (dpDelVipFromDnat c.nat d.natIp vni) ip vni).2
        (.addr d.natIp, { c with vnf := (dpDelVnf c.vnf d.ulNatIp6).2, nat := n }.setIface p
          ((c.port p).iface.setNat 0 0 0), [.nat p .networkLocal])

def dpProcessGetNat (c : Config) (id : Id64) : Resp :=
  match c.ifaceIdTable id with
  | none => .err .noVm
  | some p =>
    match dpGetIfaceSnatData c.nat (c.port p).iface.ownIp (c.port p).iface.vni with
    | none => .err .snatNoData
    | some d => if d.natIp = 0 then .err .snatNoData else .nat d.natIp d.natMinPort d.natMaxPort d.ulNatIp6

/-- `dp_process_create_neighnat`: an existing DNAT entry is shared. -/
def dpProcessCreateNeighnat (e : Env) (c : Config) (addr : IpAddr) (vni : Vni) (minPort maxPort : UInt16) (ul : Ip6) :
    Resp × Config :=
  match addr with
  | .v6 _ => (.err .badIpver, c)
  | .v4 ip =>
    match dpAddNetworkNatEntry e c.nat ⟨ip, vni, minPort, maxPort, ul⟩ with
    | (some r, n) => (.err r, { c with nat := n })
    | (none, n) =>
      match dpSetDnatIp e n ip 0 vni with
      | (some .dnatCreate, n) =>
        (.err .dnatCreate, { c with nat := (dpDelNetworkNatEntry n ip vni minPort maxPort).2 })
      | (_, n) => (.ok, { c with nat := n })

def dpProcessDeleteNeighnat (c : Config) (addr : IpAddr) (vni : Vni) (minPort maxPort : UInt16) :
    Resp × Config × List FlowRemoval :=
  match addr with
  | .v6 _ => (.err .badIpver, c, [])
  | .v4 ip =>
    match dpDelNetworkNatEntry c.nat ip vni minPort maxPort with
    | (some r, n) => (.err r, { c with nat := n }, [])
    | (none, n) => (.ok, { c with nat := dpDelVipFromDnat n ip vni }, [.neighnat ip vni minPort maxPort])

/-! ## Load balancers -/

def dpProcessCreateLb (cf : Conf) (e : Env) (c : Config) (s : LbState) (id : Id64) (vni : Vni) (addr : IpAddr)
    (ports : List LbPort) : Resp × Config × LbState :=
  let v := dpCreateVnfRoute cf e c.vnf
    { type := .lb, vni := vni, portId := cf.pf0, pfx := .zero addr.isV6, length := 0 }
  let ul := v.2.1
  if !v.1 then (.err .vnfInsert, { c with vnf := v.2.2 }, s)
  else
    match dpCreateLb e s id ⟨vni, addr⟩ ports ul with
    | (some r, s) => (.err r, { c with vnf := (dpDelVnf v.2.2 ul).2 }, s)
    | (none, s) =>
      match dpCreateVniRouteTables e c.vniHandleTbl vni with
      | none => (.err .vniInit4, { c with vnf := (dpDelVnf v.2.2 ul).2 }, (dpDeleteLb s id).2)
      | some t => (.ulAddr ul, { c with vnf := v.2.2, vniHandleTbl := t }, s)

/-- `dp_process_delete_lb`; `none` where it reads a freed load balancer. -/
def dpProcessDeleteLb (c : Config) (s : LbState) (id : Id64) : Option (Resp × Config × LbState) :=
  match dpGetLb s id with
  | none => none
  | some (.error r) => some (.err r, c, s)
  | some (.ok (key, ul)) =>
    let d := ({ c with vnf := (dpDelVnf c.vnf ul).2 } : Config).deleteVni key.vni
    some (if d.1 then .ok else .err .vniFree4, d.2, (dpDeleteLb s id).2)

def dpProcessCreateLbtarget (s : LbState) (id : Id64) (addr : IpAddr) : Option (Resp × LbState) :=
  match addr with
  | .v4 _ => some (.err .badIpver, s)
  | .v6 ip => (dpAddLbBackIp s id ip).map fun r => (Resp.ofRet r.1, r.2)

def dpProcessDeleteLbtarget (s : LbState) (id : Id64) (addr : IpAddr) : Option (Resp × LbState) :=
  match addr with
  | .v4 _ => some (.err .badIpver, s)
  | .v6 ip => (dpDelLbBackIp s id ip).map fun r => (Resp.ofRet r.1, r.2)

def dpProcessListLbtargets (s : LbState) (id : Id64) : Option (Except Ret (List Ip6)) := dpGetLbBackIps s id

/-! ## Dispatch -/

/-- What a request leaves behind: its answer, the configuration, the load balancers and the passes it starts. -/
structure Outcome where
  resp : Resp
  cfg : Config
  lb : LbState
  removals : List FlowRemoval := []

/-- `dp_process_request`; `none` where the handler has no defined behaviour. -/
def dpProcessRequest (cf : Conf) (e : Env) (c : Config) (s : LbState) : Request → Option Outcome
  | .reqInitialize => (dpProcessInitialize cf e c).map fun r => ⟨r.1, r.2, s, []⟩
  | .createInterface pci id vni ip4 ip6 total pub =>
    let r := dpProcessCreateInterface cf e c pci id vni ip4 ip6 total pub
    some ⟨r.1, r.2, s, []⟩
  | .deleteInterface id => let r := dpProcessDeleteInterface cf e c id; some ⟨r.1, r.2.1, s, r.2.2⟩
  | .createPrefix id addr len => let r := dpProcessCreatePrefix cf e c id addr len; some ⟨r.1, r.2, s, []⟩
  | .deletePrefix id addr len => let r := dpProcessDeletePrefix c id addr len; some ⟨r.1, r.2, s, []⟩
  | .createRoute vni pfx len tv t => let r := dpProcessCreateRoute cf e c vni pfx len tv t; some ⟨r.1, r.2, s, []⟩
  | .deleteRoute vni pfx len => let r := dpProcessDeleteRoute cf c vni pfx len; some ⟨r.1, r.2, s, []⟩
  | .createVip id addr => let r := dpProcessCreateVip cf e c id addr; some ⟨r.1, r.2, s, []⟩
  | .deleteVip id => let r := dpProcessDeleteVip c id; some ⟨r.1, r.2.1, s, r.2.2⟩
  | .getVip id => some ⟨dpProcessGetVip c id, c, s, []⟩
  | .createNat id addr lo hi => let r := dpProcessCreateNat cf e c id addr lo hi; some ⟨r.1, r.2, s, []⟩
  | .deleteNat id => let r := dpProcessDeleteNat c id; some ⟨r.1, r.2.1, s, r.2.2⟩
  | .getNat id => some ⟨dpProcessGetNat c id, c, s, []⟩
  | .createNeighnat addr vni lo hi ul => let r := dpProcessCreateNeighnat e c addr vni lo hi ul; some ⟨r.1, r.2, s, []⟩
  | .deleteNeighnat addr vni lo hi => let r := dpProcessDeleteNeighnat c addr vni lo hi; some ⟨r.1, r.2.1, s, r.2.2⟩
  | .createLoadBalancerPrefix id addr len => let r := dpProcessCreateLbprefix cf e c id addr len; some ⟨r.1, r.2, s, []⟩
  | .deleteLoadBalancerPrefix id addr len => let r := dpProcessDeleteLbprefix c id addr len; some ⟨r.1, r.2, s, []⟩
  | .createLb id vni addr ports => let r := dpProcessCreateLb cf e c s id vni addr ports; some ⟨r.1, r.2.1, r.2.2, []⟩
  | .deleteLb id => (dpProcessDeleteLb c s id).map fun r => ⟨r.1, r.2.1, r.2.2, []⟩
  | .createLbtarget id addr => (dpProcessCreateLbtarget s id addr).map fun r => ⟨r.1, c, r.2, []⟩
  | .deleteLbtarget id addr => (dpProcessDeleteLbtarget s id addr).map fun r => ⟨r.1, c, r.2, []⟩
  | .resetVni vni both => (dpProcessResetVni cf e c vni both).map fun r => ⟨r.1, r.2, s, []⟩

end Dpservice
