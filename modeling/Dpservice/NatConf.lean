import Dpservice.Config

/-!
# SNAT, DNAT and neighbour-NAT configuration

The SNAT table holds, for an interface address, its VIP and its NAT range; the DNAT table holds the public addresses,
with the owner of a VIP and 0 for a shared NAT address; the list holds the NAT ranges of neighbouring services.
-/

namespace Dpservice

def dpGetIfaceSnatData (s : NatState) (ip : Ip4) (vni : Vni) : Option SnatData := s.snatTbl ⟨ip, vni⟩

/-- Look an SNAT entry up, or create a zeroed one. -/
def dpGetOrCreateSnatData (e : Env) (s : NatState) (ip : Ip4) (vni : Vni) : Option SnatData :=
  match dpGetIfaceSnatData s ip vni with
  | some d => some d
  | none => if e.ok .snatAdd then some {} else none

def dpSetIfaceVipIp (e : Env) (s : NatState) (ip vip : Ip4) (vni : Vni) (ul : Ip6) : Option Ret × NatState :=
  match dpGetOrCreateSnatData e s ip vni with
  | none => (some .snatCreate, s)
  | some d =>
    if d.vipIp ≠ 0 then (some .snatExists, s)
    else (none, { s with snatTbl := s.snatTbl.add ⟨ip, vni⟩ { d with vipIp := vip, ulVipIp6 := ul } })

def dpSetIfaceNatIp (e : Env) (s : NatState) (ip natIp : Ip4) (vni : Vni) (minPort maxPort : UInt16) (ul : Ip6) :
    Option Ret × NatState :=
  match dpGetOrCreateSnatData e s ip vni with
  | none => (some .snatCreate, s)
  | some d =>
    if d.natIp ≠ 0 then (some .snatExists, s)
    else
      let d := { d with natIp := natIp, natMinPort := minPort, natMaxPort := maxPort, ulNatIp6 := ul }
      (none, { s with snatTbl := s.snatTbl.add ⟨ip, vni⟩ d })

/-- `dp_del_iface_vip_ip`: the entry stays for its NAT range. -/
def dpDelIfaceVipIp (s : NatState) (ip : Ip4) (vni : Vni) : Option Ret × NatState :=
  match dpGetIfaceSnatData s ip vni with
  | none => (some .snatNoData, s)
  | some d =>
    if d.natIp ≠ 0 then (none, { s with snatTbl := s.snatTbl.add ⟨ip, vni⟩ { d with vipIp := 0 } })
    else (none, { s with snatTbl := s.snatTbl.del ⟨ip, vni⟩ })

/-- `dp_del_iface_nat_ip`: the entry stays for its VIP. -/
def dpDelIfaceNatIp (s : NatState) (ip : Ip4) (vni : Vni) : Option Ret × NatState :=
  match dpGetIfaceSnatData s ip vni with
  | none => (some .snatNoData, s)
  | some d =>
    if d.vipIp ≠ 0 then
      (none, { s with snatTbl := s.snatTbl.add ⟨ip, vni⟩ { d with natIp := 0, natMinPort := 0, natMaxPort := 0 } })
    else (none, { s with snatTbl := s.snatTbl.del ⟨ip, vni⟩ })

def dpGetDnatData (s : NatState) (ip : Ip4) (vni : Vni) : Option Ip4 := s.dnatTbl ⟨ip, vni⟩

def dpSetDnatIp (e : Env) (s : NatState) (ip dnatIp : Ip4) (vni : Vni) : Option Ret × NatState :=
  match dpGetDnatData s ip vni with
  | some _ => (some .dnatExists, s)
  | none => if e.ok .dnatAdd then (none, { s with dnatTbl := s.dnatTbl.add ⟨ip, vni⟩ dnatIp })
      else (some .dnatCreate, s)

/-- `dp_del_dnat_ip`; its result is not used. -/
def dpDelDnatIp (s : NatState) (ip : Ip4) (vni : Vni) : NatState := { s with dnatTbl := s.dnatTbl.del ⟨ip, vni⟩ }

/-- `dp_is_network_nat_ip`: the zero address matches no entry. -/
def dpIsNetworkNatIp (n : NetworkNatEntry) (ip : Ip4) (vni : Vni) : Bool := n.vni == vni && (ip != 0 && n.natIp == ip)

def dpIsNetworkNatEntry (n : NetworkNatEntry) (ip : Ip4) (vni : Vni) (minPort maxPort : UInt16) : Bool :=
  dpIsNetworkNatIp n ip vni && n.minPort == minPort && n.maxPort == maxPort

def dpIsNetworkNatPort (n : NetworkNatEntry) (ip : Ip4) (vni : Vni) (port : UInt16) : Bool :=
  dpIsNetworkNatIp n ip vni && n.minPort ≤ port && n.maxPort > port

/-- `dp_del_vip_from_dnat`: keep the DNAT entry while a neighbour has the address. -/
def dpDelVipFromDnat (s : NatState) (ip : Ip4) (vni : Vni) : NatState :=
  if s.natHeadp.any (dpIsNetworkNatIp · ip vni) then s else dpDelDnatIp s ip vni

def dpAddNetworkNatEntry (e : Env) (s : NatState) (n : NetworkNatEntry) : Option Ret × NatState :=
  if s.natHeadp.any (dpIsNetworkNatEntry · n.natIp n.vni n.minPort n.maxPort) then (some .alreadyExists, s)
  else if e.ok .neighAlloc then (none, { s with natHeadp := s.natHeadp ++ [n] })
  else (some .outOfMemory, s)

/-- `dp_del_network_nat_entry`: remove the first entry that matches. -/
def dpDelNetworkNatEntry (s : NatState) (ip : Ip4) (vni : Vni) (minPort maxPort : UInt16) : Option Ret × NatState :=
  if s.natHeadp.any (dpIsNetworkNatEntry · ip vni minPort maxPort) then
    (none, { s with natHeadp := s.natHeadp.eraseP (dpIsNetworkNatEntry · ip vni minPort maxPort) })
  else (some .notFound, s)

/-- `dp_lookup_network_nat_underlay_ip`: the neighbour whose range holds the port. -/
def dpLookupNetworkNatUnderlayIp (s : NatState) (ip : Ip4) (vni : Vni) (port : UInt16) : Option Ip6 :=
  (s.natHeadp.find? (dpIsNetworkNatPort · ip vni port)).map (·.dstIpv6)

end Dpservice
