import Dpservice.Lib.Buffer
import Dpservice.Ipc
import Dpservice.Grpc

/-!
# The contents of replies

A request and its reply share a buffer, so what a handler does not write is left from the request, and what it does not
write into a buffer that was added for a long list is left from an earlier use of that buffer. Here are the bytes that
the handlers write (`answer`) and the bytes that the calls read (`parseReply`, `parseMessage`), field by field in the
layouts of the structures on a 64-bit machine.
-/

namespace Dpservice

/-! ## Fields -/

/-- A member of a structure: its offset and its size in bytes. -/
structure Field where
  off : ℕ
  size : ℕ

/-- A number, lowest byte first. -/
def leBytes (n v : ℕ) : List UInt8 := (List.range n).map fun i => UInt8.ofNat (v >>> (8 * i))

/-- An address or a name, highest byte first. -/
def beBytes (n v : ℕ) : List UInt8 := (leBytes n v).reverse

/-- The number of bytes written. -/
@[simp] theorem length_leBytes (n v : ℕ) : (leBytes n v).length = n := by simp [leBytes]

@[simp] theorem length_beBytes (n v : ℕ) : (beBytes n v).length = n := by simp [beBytes]

/-- The bytes that a member of an array has to itself. -/
@[simp] def Field.at (f : Field) (stride i : ℕ) : Field := ⟨f.off + stride * i, f.size⟩

/-- A number is stored in a field. -/
def Field.num (f : Field) (v : ℕ) : Write := ⟨f.off, leBytes f.size v⟩

/-- An address, or the 64 bytes of a name, are stored in a field. -/
def Field.raw (f : Field) (v : ℕ) : Write := ⟨f.off, beBytes f.size v⟩

section Stores

variable (f : Field) (v : ℕ)

@[simp] theorem Field.num_off : (f.num v).off = f.off := rfl

/-- A number fills its field. -/
@[simp] theorem Field.length_num : (f.num v).bytes.length = f.size := length_leBytes ..

@[simp] theorem Field.raw_off : (f.raw v).off = f.off := rfl

/-- So does one in network byte order. -/
@[simp] theorem Field.length_raw : (f.raw v).bytes.length = f.size := length_beBytes ..

end Stores

/-- A character array of `n` bytes that holds a string. -/
structure CStr (n : ℕ) where
  bytes : List UInt8
  length_eq : bytes.length = n
  terminated : 0 ∈ bytes

/-- `snprintf(…, "%s", …)`: the string and its terminator. -/
def CStr.text {n : ℕ} (s : CStr n) : List UInt8 := s.bytes.takeWhile (· != 0) ++ [0]

/-- The bytes of an address in `struct dp_ip_address`, which starts at this field, and its `is_v6`. -/
@[simp] def Field.isV6 (f : Field) : Field := ⟨f.off + 16, 1⟩

@[simp] def Field.ipv6 (f : Field) : Field := ⟨f.off, 16⟩

@[simp] def Field.ipv4 (f : Field) : Field := ⟨f.off, 4⟩

def dpSetIpaddr4 (f : Field) (ip : Ip4) : List Write :=
  [f.isV6.num 0, ⟨f.off, List.replicate 16 0⟩, f.ipv4.num ip.toNat]

def dpSetIpaddr6 (f : Field) (ip : Ip6) : List Write := [f.isV6.num 1, f.ipv6.raw ip.toNat]

def dpCopyIpaddr (f : Field) : IpAddr → List Write
  | .v4 ip => [f.isV6.num 0, ⟨f.off, leBytes 4 ip.toNat ++ List.replicate 12 0⟩]
  | .v6 ip => [f.isV6.num 1, f.ipv6.raw ip.toNat]

/-! ### `struct dpgrpc_ul_addr`, `dpgrpc_vf_pci`, `dpgrpc_iface` -/

@[simp] def ulAddrAddr6 : Field := ⟨0, 16⟩

@[simp] def vfPciName : Field := ⟨0, 64⟩
@[simp] def vfPciUlAddr6 : Field := ⟨64, 16⟩

@[simp] def ifaceIfaceId : Field := ⟨0, 64⟩
@[simp] def ifaceIp4Addr : Field := ⟨64, 4⟩
@[simp] def ifaceIp6Addr : Field := ⟨68, 16⟩
@[simp] def ifaceVniField : Field := ⟨84, 4⟩
@[simp] def ifacePciName : Field := ⟨137, 64⟩
@[simp] def ifaceUlAddr6 : Field := ⟨201, 16⟩
@[simp] def ifaceTotalFlowRateCap : Field := ⟨224, 8⟩
@[simp] def ifacePublicFlowRateCap : Field := ⟨232, 8⟩

/-! ### `struct dpgrpc_route`, `dpgrpc_vip`, `dpgrpc_nat` -/

@[simp] def routePfxAddr : Field := ⟨0, 17⟩
@[simp] def routePfxLength : Field := ⟨17, 1⟩
@[simp] def routeTrgtAddr : Field := ⟨24, 17⟩
@[simp] def routeTrgtVni : Field := ⟨44, 4⟩

@[simp] def vipAddr : Field := ⟨0, 17⟩
@[simp] def vipUlAddr6 : Field := ⟨81, 16⟩

@[simp] def natAddr : Field := ⟨64, 17⟩
@[simp] def natMinPort : Field := ⟨82, 2⟩
@[simp] def natMaxPort : Field := ⟨84, 2⟩
@[simp] def natVni : Field := ⟨88, 4⟩
@[simp] def natUlAddr6 : Field := ⟨108, 16⟩

/-! ### `struct dpgrpc_lb`, `dpgrpc_lb_target` -/

@[simp] def lbAddr : Field := ⟨64, 17⟩
@[simp] def lbVni : Field := ⟨84, 4⟩
@[simp] def lbLbportsProtocol (i : ℕ) : Field := Field.at ⟨88, 1⟩ 4 i
@[simp] def lbLbportsPort (i : ℕ) : Field := Field.at ⟨90, 2⟩ 4 i
@[simp] def lbUlAddr6 : Field := ⟨152, 16⟩

@[simp] def lbTargetAddr : Field := ⟨64, 17⟩

/-! ### `struct dp_fwall_rule`, `dpgrpc_vni_in_use`, `dpgrpc_versions` -/

@[simp] def fwrule : Field := ⟨0, 176⟩
@[simp] def fwruleRuleId : Field := ⟨0, 64⟩
@[simp] def fwruleSrcIp : Field := ⟨64, 17⟩
@[simp] def fwruleDestIp : Field := ⟨81, 17⟩
@[simp] def fwruleSrcMask : Field := ⟨100, 16⟩
@[simp] def fwruleDestMask : Field := ⟨116, 16⟩
@[simp] def fwrulePriority : Field := ⟨132, 2⟩
@[simp] def fwruleProtocol : Field := ⟨134, 1⟩
@[simp] def fwruleSrcPort : Field := ⟨136, 8⟩
@[simp] def fwruleDstPort : Field := ⟨144, 8⟩
@[simp] def fwruleIcmp : Field := ⟨136, 8⟩
@[simp] def fwruleAction : Field := ⟨152, 4⟩
@[simp] def fwruleDir : Field := ⟨156, 4⟩

@[simp] def vniInUse : Field := ⟨0, 1⟩

@[simp] def versionsProto : Field := ⟨64, 64⟩
@[simp] def versionsApp : Field := ⟨128, 64⟩

/-! ### `struct dpgrpc_capture_stop`, `dpgrpc_capture` -/

abbrev captureMaxPortNum : ℕ := 16

@[simp] def captureStopPortCnt : Field := ⟨0, 2⟩

@[simp] def capture : Field := ⟨0, 1116⟩
@[simp] def captureDstAddr6 : Field := ⟨0, 16⟩
@[simp] def captureInterfaceCount : Field := ⟨16, 1⟩
@[simp] def captureUdpSrcPort : Field := ⟨18, 2⟩
@[simp] def captureUdpDstPort : Field := ⟨20, 2⟩
@[simp] def captureIfaceType (i : ℕ) : Field := Field.at ⟨24, 4⟩ 68 i
@[simp] def captureIfacePfIndex (i : ℕ) : Field := Field.at ⟨28, 1⟩ 68 i
@[simp] def captureIfaceId (i : ℕ) : Field := Field.at ⟨28, 64⟩ 68 i
@[simp] def captureIsActive : Field := ⟨1112, 1⟩

/-! ## What the worker looks at -/

/-- A firewall rule as it is stored; its name is a string. -/
structure FwallRule where
  bytes : List UInt8
  length_eq : bytes.length = fwrule.size
  terminated : 0 ∈ bytes.take fwruleRuleId.size

def FwallRule.ruleId (r : FwallRule) : List UInt8 := (r.bytes.take fwruleRuleId.size).takeWhile (· != 0)

def FwallRule.isDrop (r : FwallRule) : Bool := ((r.bytes.drop fwruleAction.off).take fwruleAction.size).all (· == 0)

/-- The state of the worker, as far as replies are made from it. -/
structure Worker where
  cf : Conf
  cfg : Config
  lb : LbState
  /-- `DP_SERVICE_VERSION`, `vf_name` and `dev_name` of the ports. -/
  versionLen : ℕ
  version : CStr versionLen
  vfName : PortId → CStr 16
  devName : PortId → CStr 64
  fwallHead : PortId → List FwallRule
  captureEnabled : Bool
  captureNodeIpv6Addr : Ip6
  captureUdpSrcPort : UInt16
  captureUdpDstPort : UInt16
  /-- A static assertion of `dp_process_get_version`. -/
  versionFits : versionLen ≤ versionsProto.size
  /-- Interface ids are strings: no other ones get into requests. -/
  ids : ∀ p, 0 ∈ beBytes 64 (cfg.port p).iface.id.toNat

inductive VniType where
  | ipv4 | ipv6 | both
  deriving DecidableEq, Repr

/-- A request of any type. Iteration over a table comes with the order of its entries. -/
inductive WorkerRequest where
  | config (r : Request)
  | getVersion
  | getInterface (ifaceId : Id64)
  | getLb (lbId : Id64)
  | createFwrule (ifaceId : Id64) (rule : FwallRule)
  | deleteFwrule (ifaceId : Id64) (ruleId : List UInt8)
  | getFwrule (ifaceId : Id64) (ruleId : List UInt8)
  | checkVniinuse (vni : Vni) (type : VniType)
  /-- With the result of turning capture on. -/
  | captureStart (ret : Option Ret)
  /-- With the result of `dp_disable_pkt_capture_on_all_ifaces`. -/
  | captureStop (disabled : Except Ret UInt16)
  | captureStatus
  | listInterfaces
  | listPrefixes (ifaceId : Id64) (order : List Ip6)
  | listRoutes (vni : Vni) (order : List (Ip4 × ℕ))
  | listLocalnats (addr : IpAddr) (order : List NatKey)
  | listNeighnats (addr : IpAddr)
  | listLbtargets (lbId : Id64)
  | listLbprefixes (ifaceId : Id64) (order : List Ip6)
  | listFwrules (ifaceId : Id64)

def Request.type : Request → RequestType
  | .reqInitialize => .reqInitialize
  | .createInterface .. => .createInterface
  | .deleteInterface .. => .deleteInterface
  | .createPrefix .. => .createPrefix
  | .deletePrefix .. => .deletePrefix
  | .createRoute .. => .createRoute
  | .deleteRoute .. => .deleteRoute
  | .createVip .. => .createVip
  | .deleteVip .. => .deleteVip
  | .getVip .. => .getVip
  | .createNat .. => .createNat
  | .deleteNat .. => .deleteNat
  | .getNat .. => .getNat
  | .createNeighnat .. => .createNeighborNat
  | .deleteNeighnat .. => .deleteNeighborNat
  | .createLoadBalancerPrefix .. => .createLoadBalancerPrefix
  | .deleteLoadBalancerPrefix .. => .deleteLoadBalancerPrefix
  | .createLb .. => .createLoadBalancer
  | .deleteLb .. => .deleteLoadBalancer
  | .createLbtarget .. => .createLoadBalancerTarget
  | .deleteLbtarget .. => .deleteLoadBalancerTarget
  | .resetVni .. => .resetVni

def WorkerRequest.type : WorkerRequest → RequestType
  | .config r => r.type
  | .getVersion => .getVersion
  | .getInterface .. => .getInterface
  | .getLb .. => .getLoadBalancer
  | .createFwrule .. => .createFirewallRule
  | .deleteFwrule .. => .deleteFirewallRule
  | .getFwrule .. => .getFirewallRule
  | .checkVniinuse .. => .checkVniInUse
  | .captureStart .. => .captureStart
  | .captureStop .. => .captureStop
  | .captureStatus => .captureStatus
  | .listInterfaces => .listInterfaces
  | .listPrefixes .. => .listPrefixes
  | .listRoutes .. => .listRoutes
  | .listLocalnats .. => .listLocalNats
  | .listNeighnats .. => .listNeighborNats
  | .listLbtargets .. => .listLoadBalancerTargets
  | .listLbprefixes .. => .listLoadBalancerPrefixes
  | .listFwrules .. => .listFirewallRules

/-! ## What the handlers write -/

/-- What a handler that returns `DP_GRPC_OK` has written: into the reply, or into each message of a list. -/
inductive Answer where
  | single (ws : List Write)
  | multi (messages : List (List Write))

/-- The reply of the handlers that answer with an underlay address. -/
def ulAddrReply (ul : Ip6) : List Write := [ulAddrAddr6.raw ul.toNat]

/-- The replies of the requests that change the configuration or read NAT data. -/
def configReply (w : Worker) : Request → Resp → List Write
  | .createInterface pci .., .ulAddr ul =>
    vfPciUlAddr6.raw ul.toNat ::
      ((w.cf.dpGetPortByName pci).map fun p => ⟨vfPciName.off, (w.vfName p).text⟩).toList
  | .createPrefix .., .ulAddr ul | .createVip .., .ulAddr ul | .createNat .., .ulAddr ul | .createLb .., .ulAddr ul =>
    ulAddrReply ul
  | .createLoadBalancerPrefix .., .ulAddr ul => dpSetIpaddr6 routeTrgtAddr ul
  | .deleteVip .., .addr ip | .deleteNat .., .addr ip => dpSetIpaddr4 vipAddr ip
  | .getVip .., .vip ip ul => dpSetIpaddr4 vipAddr ip ++ [vipUlAddr6.raw ul.toNat]
  | .getNat .., .nat ip lo hi ul =>
    dpSetIpaddr4 natAddr ip ++ [natMinPort.num lo.toNat, natMaxPort.num hi.toNat, natUlAddr6.raw ul.toNat]
  | _, _ => []

def dpProcessGetVersion (w : Worker) : List Write :=
  [⟨versionsProto.off, w.version.bytes⟩, ⟨versionsApp.off, w.version.bytes⟩]

/-- The members of `struct dpgrpc_iface` that `dp_process_get_interface` and `dp_process_list_interfaces` write. -/
def ifaceReply (w : Worker) (p : PortId) : List Write :=
  let i := (w.cfg.port p).iface
  [ifaceIp4Addr.num i.ownIp.toNat, ifaceIp6Addr.raw i.dhcpIpv6.toNat, ifaceVniField.num i.vni.toNat,
    ifaceIfaceId.raw i.id.toNat, ⟨ifacePciName.off, (w.devName p).bytes⟩, ifaceUlAddr6.raw i.ulIpv6.toNat,
    ifaceTotalFlowRateCap.num i.totalFlowRateCap.toNat, ifacePublicFlowRateCap.num i.publicFlowRateCap.toNat]

def dpProcessGetInterface (w : Worker) (id : Id64) : Except Ret (List Write) :=
  match w.cfg.ifaceIdTable id with
  | none => .error .notFound
  | some p => .ok (ifaceReply w p)

def lbReply (key : LbKey) (v : LbValue) : List Write :=
  lbVni.num key.vni.toNat :: dpCopyIpaddr lbAddr key.ip ++ [lbUlAddr6.raw v.lbUlAddr.toNat] ++
    (List.range lbMaxPorts).flatMap fun i =>
      [(lbLbportsPort i).num (v.ports.getD i {}).port.toNat,
        (lbLbportsProtocol i).num (v.ports.getD i {}).protocol.toNat]

/-- `dp_process_get_lb`; `none` where it reads a freed load balancer. -/
def dpProcessGetLb (w : Worker) (id : Id64) : Option (Except Ret (List Write)) :=
  match w.lb.idMapTbl id with
  | none => some (.error .notFound)
  | some key =>
    match w.lb.lbTbl key with
    | none => some (.error .noBackip)
    | some none => none
    | some (some v) => some (.ok (lbReply key v))

/-- `dp_get_firewall_rule` compares all 64 bytes of the two identifiers, here these are the bytes up to the first zero:
requests carry identifiers that are zero from there on. -/
def dpGetFirewallRule (w : Worker) (p : PortId) (ruleId : List UInt8) : Option FwallRule :=
  (w.fwallHead p).find? (·.ruleId == ruleId)

/-- `dp_process_create_fwrule`, where there is memory for the rule. It leaves the reply as it is. -/
def dpProcessCreateFwrule (w : Worker) (id : Id64) (rule : FwallRule) : Except Ret (List Write) :=
  match w.cfg.ifaceIdTable id with
  | none => .error .noVm
  | some p =>
    if (dpGetFirewallRule w p rule.ruleId).isSome then .error .alreadyExists
    else if rule.isDrop then .error .noDropSupport
    else .ok []

def dpProcessDeleteFwrule (w : Worker) (id : Id64) (ruleId : List UInt8) : Except Ret (List Write) :=
  match w.cfg.ifaceIdTable id with
  | none => .error .noVm
  | some p => if (dpGetFirewallRule w p ruleId).isSome then .ok [] else .error .notFound

/-- A rule is copied as a whole. -/
def fwruleReply (rule : FwallRule) : List Write := [⟨fwrule.off, rule.bytes⟩]

def dpProcessGetFwrule (w : Worker) (id : Id64) (ruleId : List UInt8) : Except Ret (List Write) :=
  match w.cfg.ifaceIdTable id with
  | none => .error .noVm
  | some p =>
    match dpGetFirewallRule w p ruleId with
    | none => .error .notFound
    | some rule => .ok (fwruleReply rule)

def dpProcessCheckVniinuse (w : Worker) (vni : Vni) : VniType → Except Ret (List Write)
  | .ipv4 | .ipv6 => .ok [vniInUse.num (w.cfg.vniHandleTbl vni).isSome.toNat]
  | .both => .error .wrongType

def dpProcessCaptureStop (w : Worker) (disabled : Except Ret UInt16) : Except Ret (List Write) :=
  if !w.captureEnabled then .error .notActive
  else disabled.map fun n => [captureStopPortCnt.num n.toNat]

/-- `DP_CAPTURE_IFACE_TYPE_SINGLE_PF` and `DP_CAPTURE_IFACE_TYPE_SINGLE_VF`. -/
abbrev captureSinglePf : UInt8 := 0
abbrev captureSingleVf : UInt8 := 1

def captureIface (w : Worker) (i : ℕ) (p : PortId) : List Write :=
  if w.cf.isPf p then
    [(captureIfaceType i).num captureSinglePf.toNat, (captureIfacePfIndex i).num (if p = w.cf.pf0 then 0 else 1)]
  else [(captureIfaceType i).num captureSingleVf.toNat, (captureIfaceId i).raw (w.cfg.port p).iface.id.toNat]

def captureIfaces (w : Worker) : ℕ → List PortId → List Write
  | _, [] => []
  | i, p :: ps => captureIface w i p ++ captureIfaces w (i + 1) ps

def dpProcessCaptureStatus (w : Worker) : Except Ret (List Write) :=
  if !w.captureEnabled then .ok [⟨capture.off, List.replicate capture.size 0⟩]
  else
    let ps := w.cf.portList.filter fun p => (w.cfg.port p).allocated && (w.cfg.port p).captured
    if ps.length > captureMaxPortNum then .error .limitReached
    else
      .ok (captureIfaces w 0 ps ++
        [captureDstAddr6.raw w.captureNodeIpv6Addr.toNat, captureUdpSrcPort.num w.captureUdpSrcPort.toNat,
          captureUdpDstPort.num w.captureUdpDstPort.toNat, captureInterfaceCount.num ps.length, captureIsActive.num 1])

/-! ### Lists -/

def dpProcessListInterfaces (w : Worker) : List (List Write) :=
  (w.cf.portList.filter fun p => (w.cfg.port p).iface.ready).map (ifaceReply w)

def prefixMessage (ul : Ip6) (v : Vnf) : List Write :=
  dpCopyIpaddr routePfxAddr v.pfx ++ [routePfxLength.num v.length.toNat] ++ dpSetIpaddr6 routeTrgtAddr ul

def dpListVnfAliasPrefixes (w : Worker) (p : PortId) (type : VnfType) (order : List Ip6) : List (List Write) :=
  order.filterMap fun ul => ((w.cfg.vnf.handleTbl ul).filter fun v => v.portId == p && v.type == type).map
    (prefixMessage ul)

def dpProcessListPrefixes (w : Worker) (id : Id64) (order : List Ip6) : Except Ret (List (List Write)) :=
  match w.cfg.ifaceIdTable id with
  | none => .error .noVm
  | some p => .ok (dpListVnfAliasPrefixes w p .aliasPfx order)

def dpProcessListLbprefixes (w : Worker) (id : Id64) (order : List Ip6) : Except Ret (List (List Write)) :=
  match w.cfg.ifaceIdTable id with
  | none => .error .noVm
  | some p => .ok (dpListVnfAliasPrefixes w p .lbAliasPfx order)

def routeMessage (k : Ip4 × ℕ) (r : Route) : List Write :=
  dpSetIpaddr4 routePfxAddr k.1 ++ [routePfxLength.num k.2] ++ dpSetIpaddr6 routeTrgtAddr r.nhIpv6 ++
    [routeTrgtVni.num r.vni.toNat]

def dpListRouteEntries (cf : Conf) (rib : Rib 32 Route) : List (Ip4 × ℕ) → Except Ret (List (List Write))
  | [] => .ok []
  | k :: ks =>
    match rib k with
    | none => dpListRouteEntries cf rib ks
    | some r =>
      if !cf.hasPort r.nh then .error .noVm
      else
        (dpListRouteEntries cf rib ks).map fun ms => if cf.isPf r.nh then routeMessage k r :: ms else ms

/-- `dp_process_list_routes`: the IPv4 routes that leave the host. -/
def dpProcessListRoutes (w : Worker) (vni : Vni) (order : List (Ip4 × ℕ)) : Except Ret (List (List Write)) :=
  match w.cfg.vniHandleTbl vni with
  | none => .error .noVni
  | some d => dpListRouteEntries w.cf d.ipv4 order

def dpProcessListLocalnats (w : Worker) (addr : IpAddr) (order : List NatKey) : Except Ret (List (List Write)) :=
  match addr with
  | .v6 _ => .error .badIpver
  | .v4 ip =>
    .ok <| order.filterMap fun k => ((w.cfg.nat.snatTbl k).filter (·.natIp == ip)).map fun d =>
      [natMinPort.num d.natMinPort.toNat, natMaxPort.num d.natMaxPort.toNat] ++ dpSetIpaddr4 natAddr k.ip ++
        [natVni.num k.vni.toNat]

def dpProcessListNeighnats (w : Worker) (addr : IpAddr) : Except Ret (List (List Write)) :=
  match addr with
  | .v6 _ => .error .badIpver
  | .v4 ip =>
    .ok <| (w.cfg.nat.natHeadp.filter (·.natIp == ip)).map fun n =>
      [natMinPort.num n.minPort.toNat, natMaxPort.num n.maxPort.toNat, natVni.num n.vni.toNat,
        natUlAddr6.raw n.dstIpv6.toNat]

def lbTargetMessage (ip : Ip6) : List Write := [lbTargetAddr.ipv6.raw ip.toNat, lbTargetAddr.isV6.num 1]

def dpProcessListFwrules (w : Worker) (id : Id64) : Except Ret (List (List Write)) :=
  match w.cfg.ifaceIdTable id with
  | none => .error .noVm
  | some p => .ok ((w.fwallHead p).map fwruleReply)

/-- The bytes that the handler of a request writes if it returns `DP_GRPC_OK`; `none` where it has no defined
behaviour. -/
def answer (w : Worker) (e : Env) : WorkerRequest → Option (Except Ret Answer)
  | .config r => (dpProcessRequest w.cf e w.cfg w.lb r).map fun o =>
    match o.resp with
    | .err x => .error x
    | resp => .ok (.single (configReply w r resp))
  | .getVersion => some (.ok (.single (dpProcessGetVersion w)))
  | .getInterface id => some ((dpProcessGetInterface w id).map .single)
  | .getLb id => (dpProcessGetLb w id).map (·.map .single)
  | .createFwrule id rule => some ((dpProcessCreateFwrule w id rule).map .single)
  | .deleteFwrule id ruleId => some ((dpProcessDeleteFwrule w id ruleId).map .single)
  | .getFwrule id ruleId => some ((dpProcessGetFwrule w id ruleId).map .single)
  | .checkVniinuse vni type => some ((dpProcessCheckVniinuse w vni type).map .single)
  | .captureStart ret => some (ret.elim (.ok (.single [])) .error)
  | .captureStop disabled => some ((dpProcessCaptureStop w disabled).map .single)
  | .captureStatus => some ((dpProcessCaptureStatus w).map .single)
  | .listInterfaces => some (.ok (.multi (dpProcessListInterfaces w)))
  | .listPrefixes id order => some ((dpProcessListPrefixes w id order).map .multi)
  | .listRoutes vni order => some ((dpProcessListRoutes w vni order).map .multi)
  | .listLocalnats addr order => some ((dpProcessListLocalnats w addr order).map .multi)
  | .listNeighnats addr => some ((dpProcessListNeighnats w addr).map .multi)
  | .listLbtargets id => (dpProcessListLbtargets w.lb id).map fun r =>
      (r.map fun ips => .multi (ips.map lbTargetMessage))
  | .listLbprefixes id order => some ((dpProcessListLbprefixes w id order).map .multi)
  | .listFwrules id => some ((dpProcessListFwrules w id).map .multi)

/-! ## What the calls read -/

def Field.get (f : Field) : Reader (List UInt8) := .readBytes f.off f.size

/-- A string that starts at a field; nothing but its terminator ends it. -/
def Field.str (f : Field) : Reader (List UInt8) := .readStr f.off (repMaxSize - f.off)

/-- An address of either family. -/
def Field.addr (f : Field) : Reader (List UInt8) := do
  let v6 ← .byte f.isV6.off
  if v6 = 0 then f.ipv4.get else f.ipv6.get

/-- Several fields, one after the other. -/
def readAll : List (Reader (List UInt8)) → Reader (List (List UInt8))
  | [] => pure []
  | r :: rs => do
    let x ← r
    let xs ← readAll rs
    pure (x :: xs)

def dpToGrpcInterface : Reader (List (List UInt8)) :=
  readAll [ifaceIp4Addr.get, ifaceIp6Addr.get, ifaceIfaceId.str, ifaceVniField.get, ifacePciName.str, ifaceUlAddr6.get,
    ifaceTotalFlowRateCap.get, ifacePublicFlowRateCap.get]

def setupIpAndPrefix (ip mask : Field) : Reader (List UInt8) := do
  let v6 ← .byte ip.isV6.off
  if v6 = 0 then do
    let _ ← ip.ipv4.get
    mask.ipv4.get
  else do
    let _ ← ip.ipv6.get
    mask.get

def dpToGrpcFwrule : Reader (List (List UInt8)) := do
  let head ← readAll [fwruleRuleId.str, fwrulePriority.get, fwruleDir.get, fwruleAction.get,
    setupIpAndPrefix fwruleSrcIp fwruleSrcMask, setupIpAndPrefix fwruleDestIp fwruleDestMask]
  let proto ← .byte fwruleProtocol.off
  let filter ←
    if proto = ipprotoTcp ∨ proto = ipprotoUdp then readAll [fwruleDstPort.get, fwruleSrcPort.get]
    else if proto = ipprotoIcmp then readAll [fwruleIcmp.get]
    else pure []
  pure (head ++ filter)

/-- The loop of `GetLoadBalancerCall::ParseReply` over the ports. -/
def parseLbport (i : ℕ) : Reader (List UInt8) := do
  let port ← (lbLbportsPort i).get
  if port.all (· == 0) then pure [] else (lbLbportsProtocol i).get

/-- The loop of `CaptureStatusCall::ParseReply` over the interfaces. -/
def parseCaptureIface (i : ℕ) : Reader (List UInt8) := do
  let type ← (captureIfaceType i).get
  if type = leBytes 4 captureSinglePf.toNat then (captureIfacePfIndex i).get
  else if type = leBytes 4 captureSingleVf.toNat then (captureIfaceId i).str
  else pure []

def parseCaptureStatus : Reader (List (List UInt8)) := do
  let active ← .byte captureIsActive.off
  if active = 0 then pure []
  else do
    let head ← readAll [captureUdpSrcPort.get, captureUdpDstPort.get, captureDstAddr6.get]
    let count ← .byte captureInterfaceCount.off
    let ifaces ← .readMany parseCaptureIface count.toNat
    pure (head ++ ifaces)

def parseReply : RequestType → Reader (List (List UInt8))
  | .getVersion => readAll [versionsProto.str, versionsApp.str]
  | .createInterface => readAll [vfPciName.str, vfPciUlAddr6.get]
  | .getInterface => dpToGrpcInterface
  | .createPrefix | .createVip | .createNat | .createLoadBalancer => readAll [ulAddrAddr6.get]
  | .getVip => readAll [vipAddr.ipv4.get, vipUlAddr6.get]
  | .getNat => readAll [natAddr.ipv4.get, natMaxPort.get, natMinPort.get, natUlAddr6.get]
  | .getLoadBalancer => do
    let head ← readAll [lbVni.get, lbAddr.addr]
    let ports ← .readMany parseLbport lbMaxPorts
    let ul ← lbUlAddr6.get
    pure (head ++ ports ++ [ul])
  | .createLoadBalancerPrefix => readAll [routeTrgtAddr.ipv6.get]
  | .createFirewallRule => readAll [fwruleRuleId.get]
  | .getFirewallRule => dpToGrpcFwrule
  | .checkVniInUse => readAll [vniInUse.get]
  | .captureStop => readAll [captureStopPortCnt.get]
  | .captureStatus => parseCaptureStatus
  | _ => pure []

def parseMessage : RequestType → Reader (List (List UInt8))
  | .listInterfaces => dpToGrpcInterface
  | .listPrefixes | .listLoadBalancerPrefixes =>
    readAll [routePfxAddr.addr, routePfxLength.get, routeTrgtAddr.ipv6.get]
  | .listRoutes => readAll [routeTrgtVni.get, routeTrgtAddr.addr, routePfxAddr.addr, routePfxLength.get]
  | .listLocalNats => readAll [natAddr.ipv4.get, natMinPort.get, natMaxPort.get, natVni.get]
  | .listNeighborNats => readAll [natUlAddr6.get, natMinPort.get, natMaxPort.get, natVni.get]
  | .listLoadBalancerTargets => readAll [lbTargetAddr.ipv6.get]
  | .listFirewallRules => dpToGrpcFwrule
  | _ => pure []

end Dpservice
