import Dpservice.Grpc
import Dpservice.FlowKey
import Dpservice.Lib.Prefix

/-!
# Firewall rules

A `CreateFirewallRule` message is checked and converted to a `struct dp_fwall_rule` (`fillRequest`); the worker keeps
the rules of an interface in a list and compares packets with them (`dpIsRuleMatching`, `dpGetFirewallAction`).

Two unions are read through the other member than the one that was written. An address or a mask of one version can be
read as one of the other: `IpAddr.ipv4`, `IpAddr.ipv6` and `DpIpMask.ip4` say what the bytes are then, on a
little-endian machine. The port filter and the ICMP filter of a rule share their words, as do the ports and the ICMP
fields of a packet.

A request is cleared before it is filled. The conversion of address texts is left to `inet_aton` and `inet_pton`.
-/

namespace Dpservice

/-! ## Messages -/

/-- The version in a message; a client can also send other numbers. -/
inductive IpVersion where
  | ipv4 | ipv6 | other
  deriving DecidableEq, Repr

inductive TrafficDirection where
  | ingress | egress | other
  deriving DecidableEq, Repr

inductive FirewallAction where
  | drop | accept | other
  deriving DecidableEq, Repr

structure GrpcPrefix where
  ipver : IpVersion
  address : String
  length : UInt32
  deriving DecidableEq, Repr

/-- `TcpFilter` and `UdpFilter`; a lower bound of -1 stands for all ports. -/
structure GrpcPortFilter where
  srcPortLower : Int32
  srcPortUpper : Int32
  dstPortLower : Int32
  dstPortUpper : Int32
  deriving DecidableEq, Repr

/-- `IcmpFilter`; -1 stands for all types or codes. -/
structure GrpcIcmpFilter where
  icmpType : Int32
  icmpCode : Int32
  deriving DecidableEq, Repr

inductive ProtocolFilter where
  | tcp (f : GrpcPortFilter)
  | udp (f : GrpcPortFilter)
  | icmp (f : GrpcIcmpFilter)
  | notSet
  deriving DecidableEq, Repr

/-- `message FirewallRule`; identifiers are byte strings. -/
structure FirewallRule where
  id : List UInt8
  direction : TrafficDirection
  action : FirewallAction
  priority : UInt32
  sourcePrefix : GrpcPrefix
  destinationPrefix : GrpcPrefix
  protocolFilter : ProtocolFilter
  deriving DecidableEq, Repr

structure CreateFirewallRuleRequest where
  interfaceId : List UInt8
  rule : FirewallRule
  deriving DecidableEq, Repr

/-- How the C library reads addresses. -/
structure Inet where
  aton : String → Option Ip4
  pton : String → Option Ip6

/-! ## Rules -/

inductive FwallAction where
  | drop | accept
  deriving DecidableEq, Repr

inductive FwallDirection where
  | ingress | egress
  deriving DecidableEq, Repr

/-- The word that stands for any port, ICMP type or ICMP code. -/
abbrev fwallMatchAny : UInt32 := 0xffffffff
abbrev fwallMatchAnyProtocol : UInt8 := 0

/-- `struct dp_ip_mask`: sixteen bytes. -/
structure DpIpMask where
  ip6 : Ip6
  deriving DecidableEq, Repr

namespace DpIpMask

/-- The first four bytes as a word. -/
def ip4 (m : DpIpMask) : Ip4 := bswap (m.ip6.extractLsb' 96 32)

/-- A word is written to the first four bytes of a cleared mask. -/
def ofIp4 (m : Ip4) : DpIpMask := ⟨bswap m ++ 0#96⟩

end DpIpMask

namespace IpAddr

/-- The member `ipv4` of the union, whichever was written. -/
def ipv4 : IpAddr → Ip4
  | v4 ip => ip
  | v6 ip => bswap (ip.extractLsb' 96 32)

/-- The member `ipv6` of the union, whichever was written. -/
def ipv6 : IpAddr → Ip6
  | v4 ip => bswap ip ++ 0#96
  | v6 ip => ip

end IpAddr

/-- The filter of a rule: four words that are read as two port ranges or, the first two, as ICMP type and code. -/
structure FwallFilter where
  srcPortLower : UInt32 := 0
  srcPortUpper : UInt32 := 0
  dstPortLower : UInt32 := 0
  dstPortUpper : UInt32 := 0
  deriving DecidableEq, Repr

namespace FwallFilter

def icmpType (f : FwallFilter) : UInt32 := f.srcPortLower
def icmpCode (f : FwallFilter) : UInt32 := f.srcPortUpper
def ofIcmp (type code : UInt32) : FwallFilter := { srcPortLower := type, srcPortUpper := code }

end FwallFilter

structure DpFwallRule where
  ruleId : List UInt8
  srcIp : IpAddr
  destIp : IpAddr
  srcMask : DpIpMask
  destMask : DpIpMask
  priority : UInt16
  protocol : UInt8
  filter : FwallFilter
  action : FwallAction
  dir : FwallDirection
  deriving DecidableEq, Repr

/-! ## Conversion -/

/-- `SNPRINTF_FAILED` on an array of 64 characters: an empty or too long text fails. The text ends at its first zero. -/
def snprintfId (s : List UInt8) (error : String) : Except String (List UInt8) :=
  if s.isEmpty ∨ 64 ≤ (s.takeWhile (· ≠ 0)).length then .error error else .ok (s.takeWhile (· ≠ 0))

def ipv4PrefixLenToMask (length : UInt32) : Option Ip4 :=
  if length > 32 then none
  else if length = 0 then some 0
  else some (~~~(((1 : Ip4) <<< (32 - length.toNat)) - 1))

/-- `GrpcConv::Ipv6PrefixLenToMask`: bit `i` is bit `7 - i % 8` of byte `i / 8`. -/
def ipv6PrefixLenToMask (length : UInt32) : Option Ip6 :=
  if length > 128 then none
  else some ((List.range length.toNat).foldl (fun m i => m ||| (1 : Ip6) <<< ((15 - i / 8) * 8 + (7 - i % 8))) 0)

/-- The checks of one of the two prefixes of a rule. -/
def fillPrefix (inet : Inet) (p : GrpcPrefix) (name : String) : Except String (IpAddr × DpIpMask) :=
  match p.ipver with
  | .other => .error ("Invalid " ++ name ++ ".ip.ipver")
  | .ipv4 =>
    match inet.aton p.address with
    | none => .error ("Invalid " ++ name ++ ".ip")
    | some ip =>
      match ipv4PrefixLenToMask p.length with
      | none => .error ("Invalid " ++ name ++ ".length")
      | some m => .ok (.v4 ip, .ofIp4 m)
  | .ipv6 =>
    match inet.pton p.address with
    | none => .error ("Invalid " ++ name ++ ".ip")
    | some ip =>
      match ipv6PrefixLenToMask p.length with
      | none => .error ("Invalid ip6 " ++ name ++ ".length")
      | some m => .ok (.v6 ip, ⟨m⟩)

def grpcToDpFwallDirection : TrafficDirection → Except String FwallDirection
  | .ingress => .ok .ingress
  | .egress => .ok .egress
  | .other => .error "Invalid direction"

def grpcToDpFwallAction : FirewallAction → Except String FwallAction
  | .accept => .ok .accept
  | .drop => .ok .drop
  | .other => .error "Invalid action"

/-- `GrpcConv::GrpcToDpFwallPort`, with the text of its error. -/
def grpcToDpFwallPort (port : Int32) (error : String) : Except String UInt32 :=
  if port.toUInt32 ≠ fwallMatchAny ∧ port.toUInt32 > 65535 then .error error else .ok port.toUInt32

/-- A range whose ends are the wrong way round is refused. -/
def checkFwallRange (lower upper : UInt32) (error : String) : Except String Unit :=
  if lower ≠ fwallMatchAny ∧ upper < lower then .error error else .ok ()

/-- The checks of a TCP or UDP filter. -/
def fillPortFilter (f : GrpcPortFilter) (name : String) : Except String FwallFilter := do
  let srcLower ← grpcToDpFwallPort f.srcPortLower ("Invalid " ++ name ++ ".src_port_lower")
  let dstLower ← grpcToDpFwallPort f.dstPortLower ("Invalid " ++ name ++ ".dst_port_lower")
  let srcUpper ← grpcToDpFwallPort f.srcPortUpper ("Invalid " ++ name ++ ".src_port_upper")
  let dstUpper ← grpcToDpFwallPort f.dstPortUpper ("Invalid " ++ name ++ ".dst_port_upper")
  checkFwallRange srcLower srcUpper ("Invalid " ++ name ++ ".src_port range")
  checkFwallRange dstLower dstUpper ("Invalid " ++ name ++ ".dst_port range")
  pure ⟨srcLower, srcUpper, dstLower, dstUpper⟩

/-- The check of an ICMP type or code. -/
def fillIcmpField (x : Int32) (error : String) : Except String UInt32 :=
  if x.toUInt32 ≠ fwallMatchAny ∧ x.toUInt32 > 255 then .error error else .ok x.toUInt32

/-- The protocol and the filter of a rule. Without a filter only the two lower ports are written. -/
def fillFilter : ProtocolFilter → Except String (UInt8 × FwallFilter)
  | .tcp f => do pure (ipprotoTcp, ← fillPortFilter f "tcp")
  | .udp f => do pure (ipprotoUdp, ← fillPortFilter f "udp")
  | .icmp f => do
    let type ← fillIcmpField f.icmpType "Invalid icmp.icmp_type"
    let code ← fillIcmpField f.icmpCode "Invalid icmp.icmp_code"
    pure (ipprotoIcmp, .ofIcmp type code)
  | .notSet => pure (fwallMatchAnyProtocol, { srcPortLower := fwallMatchAny, dstPortLower := fwallMatchAny })

def fillPriority (priority : UInt32) : Except String UInt16 :=
  if priority > 65535 then .error "Invalid priority" else .ok priority.toUInt16

/-- `CreateFirewallRuleCall::FillRequest`: the interface and the rule, or the text of an error. -/
def fillRequest (inet : Inet) (req : CreateFirewallRuleRequest) : Except String (List UInt8 × DpFwallRule) := do
  let ifaceId ← snprintfId req.interfaceId "Invalid interface_id"
  let ruleId ← snprintfId req.rule.id "Invalid rule id"
  let src ← fillPrefix inet req.rule.sourcePrefix "source_prefix"
  let dest ← fillPrefix inet req.rule.destinationPrefix "destination_prefix"
  let dir ← grpcToDpFwallDirection req.rule.direction
  let action ← grpcToDpFwallAction req.rule.action
  let priority ← fillPriority req.rule.priority
  let filter ← fillFilter req.rule.protocolFilter
  pure (ifaceId, {
    ruleId := ruleId
    srcIp := src.1
    destIp := dest.1
    srcMask := src.2
    destMask := dest.2
    priority := priority
    protocol := filter.1
    filter := filter.2
    action := action
    dir := dir })

/-! ## Matching -/

def IpAddr.l3Type (ip : IpAddr) : L3Type := if ip.isV6 then .ipv6 else .ipv4

/-- The ports of a packet as `l4_info.trans_port` has them: for ICMP packets these are the identifier, and the type and
the code. -/
def DpFlow.transSrcPort (df : DpFlow) : UInt16 := if isIcmp df.l4Type then df.icmpIdent else df.srcPort

def DpFlow.transDstPort (df : DpFlow) : UInt16 :=
  if isIcmp df.l4Type then df.icmpType.toUInt16 <<< 8 ||| df.icmpCode.toUInt16 else df.dstPort

def FwallFilter.icmpMatches (f : FwallFilter) (df : DpFlow) : Bool :=
  (f.icmpType == fwallMatchAny || df.icmpType.toUInt32 == f.icmpType) &&
  (f.icmpCode == fwallMatchAny || df.icmpCode.toUInt32 == f.icmpCode)

def fwallPortMatches (lower upper : UInt32) (port : UInt16) : Bool :=
  lower == fwallMatchAny || (port.toUInt32 ≥ lower && port.toUInt32 ≤ upper)

def FwallFilter.portsMatch (f : FwallFilter) (df : DpFlow) : Bool :=
  fwallPortMatches f.srcPortLower f.srcPortUpper df.transSrcPort &&
  fwallPortMatches f.dstPortLower f.dstPortUpper df.transDstPort

def DpFwallRule.addrsMatch (rule : DpFwallRule) (df : DpFlow) : Bool :=
  match df.l3Type with
  | .ipv4 =>
    df.srcAddr &&& rule.srcMask.ip4 == rule.srcIp.ipv4 &&& rule.srcMask.ip4 &&
    df.dstAddr &&& rule.destMask.ip4 == rule.destIp.ipv4 &&& rule.destMask.ip4
  | .ipv6 =>
    df.srcAddr6 &&& rule.srcMask.ip6 == rule.srcIp.ipv6 &&& rule.srcMask.ip6 &&
    df.dstAddr6 &&& rule.destMask.ip6 == rule.destIp.ipv6 &&& rule.destMask.ip6
  | .other => false

/-- The rule is for this protocol or for all. -/
def DpFwallRule.protocolMatches (rule : DpFwallRule) (protocol : UInt8) : Bool :=
  rule.protocol == fwallMatchAnyProtocol || rule.protocol == protocol

def DpFwallRule.restMatches (rule : DpFwallRule) (df : DpFlow) (protocol : UInt8) : Bool :=
  rule.addrsMatch df && rule.filter.portsMatch df && rule.protocolMatches protocol

/-- `dp_is_rule_matching`: an ICMP packet of the right type and code matches at once, any other packet goes on to the
addresses. -/
def dpIsRuleMatching (rule : DpFwallRule) (df : DpFlow) : Bool :=
  if rule.srcIp.l3Type ≠ df.l3Type ∧ rule.destIp.l3Type ≠ df.l3Type then false
  else if df.l4Type = ipprotoTcp ∨ df.l4Type = ipprotoUdp then
    if !rule.protocolMatches df.l4Type then false else rule.restMatches df df.l4Type
  else if isIcmp df.l4Type then
    if !rule.protocolMatches ipprotoIcmp then false
    else
      -- there are no ICMPv6 rules
      let protocol := if df.l3Type = .ipv6 then ipprotoIcmp else df.l4Type
      if rule.filter.icmpMatches df && rule.protocolMatches protocol then true else rule.restMatches df protocol
  else false

/-! ## Decisions -/

/-- What the firewall reads of a port. -/
structure FwallPort where
  isPf : Bool
  fwallHead : List DpFwallRule
  deriving DecidableEq, Repr

/-- `dp_is_matched_in_fwall_list`: the first rule of a direction that matches, and the counter of egress rules, where
the caller gave one. `none` where a counter is needed and there is none. -/
def dpIsMatchedInFwallList (df : DpFlow) (dir : FwallDirection) :
    List DpFwallRule → Option UInt32 → Option (Option DpFwallRule × Option UInt32)
  | [], count => some (none, count)
  | rule :: rules, count =>
    let counted := if rule.dir = .egress then count.map fun n => some (n + 1) else some count
    match counted with
    | none => none
    | some count =>
      if dir == rule.dir && dpIsRuleMatching rule df then some (some rule, count)
      else dpIsMatchedInFwallList df dir rules count

def dpGetEgressAction (df : DpFlow) (rules : List DpFwallRule) : Option FwallAction :=
  match dpIsMatchedInFwallList df .egress rules (some 0) with
  | none => none
  | some (some rule, _) => some rule.action
  | some (none, count) => some (if count = some 0 then .accept else .drop)

def dpGetFirewallAction (df : DpFlow) (inPort outPort : FwallPort) : Option FwallAction :=
  if outPort.isPf then dpGetEgressAction df inPort.fwallHead
  else
    let egress := if inPort.isPf then some .accept else dpGetEgressAction df inPort.fwallHead
    match egress with
    | none => none
    | some .drop => some .drop
    | some .accept =>
      match dpIsMatchedInFwallList df .ingress outPort.fwallHead none with
      | none => none
      | some (some rule, _) => some (if rule.action = .accept then .accept else .drop)
      | some (none, _) => some .drop

/-! ## Requests -/

/-- The rules of each port. -/
abbrev FwallTbl := PortId → List DpFwallRule

def FwallTbl.dpGetFirewallRule (rules : List DpFwallRule) (id : List UInt8) : Option DpFwallRule :=
  rules.find? (·.ruleId == id)

/-- `dp_delete_firewall_rule`; `none` where there is no such rule. -/
def FwallTbl.dpDeleteFirewallRule (rules : List DpFwallRule) (id : List UInt8) : Option (List DpFwallRule) :=
  if rules.any (·.ruleId == id) then some (rules.eraseP (·.ruleId == id)) else none

/-- `dp_process_create_fwrule` on the rules of the interface's port, if there is one; `alloc` says whether the rule can
be allocated. -/
def FwallTbl.dpProcessCreateFwrule (t : FwallTbl) (port : Option PortId) (rule : DpFwallRule) (alloc : Bool) :
    Option Ret × FwallTbl :=
  match port with
  | none => (some .noVm, t)
  | some p =>
    if (FwallTbl.dpGetFirewallRule (t p) rule.ruleId).isSome then (some .alreadyExists, t)
    else if rule.action = .drop then (some .noDropSupport, t)
    else if !alloc then (some .outOfMemory, t)
    else (none, Function.update t p (t p ++ [rule]))

def FwallTbl.dpProcessDeleteFwrule (t : FwallTbl) (port : Option PortId) (id : List UInt8) : Option Ret × FwallTbl :=
  match port with
  | none => (some .noVm, t)
  | some p =>
    match FwallTbl.dpDeleteFirewallRule (t p) id with
    | none => (some .notFound, t)
    | some rules => (none, Function.update t p rules)

end Dpservice
