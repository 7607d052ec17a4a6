import Dpservice.Lib.Ownership
import Dpservice.LbTables
import Dpservice.VnfTables

/-!
# Owners of underlay addresses

Interfaces, VIPs, NATs and load balancers each have an underlay address, under which `vnf_handle_tbl` knows what they
are. The address is stored with its owner, and deleting the owner deletes the entry of that address, without looking
what it stands for.

- `ownedUl` is the underlay address that an owner has; `UlOwned` says that the table has an entry of the right kind for
  it and that no two owners share one (`ulOwned_run`);
- **`iface_registry`**: interface ids, ready ports and their VNFs agree, and the ports without an interface are free, in
  every run in which a port can be stopped when its interface is deleted.
-/

namespace Dpservice

/-! ## Owners -/

/-- What has an underlay address of its own. -/
inductive UlOwner where
  | iface (p : PortId)
  | vip (k : NatKey)
  | nat (k : NatKey)
  | lb (k : LbKey)
  deriving DecidableEq

/-- The addresses of all owners, from those of each kind. -/
def ulOf (iface : PortId → Option Ip6) (vip nat : NatKey → Option Ip6) (lb : LbKey → Option Ip6) :
    UlOwner → Option Ip6
  | .iface p => iface p
  | .vip k => vip k
  | .nat k => nat k
  | .lb k => lb k

/-- The address of the interface on a port. -/
def ifaceUl (c : Config) (p : PortId) : Option Ip6 :=
  if (c.port p).iface.ready then some (c.port p).iface.ulIpv6 else none

def SnatData.vipUl (d : SnatData) : Option Ip6 := if d.vipIp = 0 then none else some d.ulVipIp6

def SnatData.natUl (d : SnatData) : Option Ip6 := if d.natIp = 0 then none else some d.ulNatIp6

def vipUl (t : Table NatKey SnatData) (k : NatKey) : Option Ip6 := (t k).bind SnatData.vipUl

def natUl (t : Table NatKey SnatData) (k : NatKey) : Option Ip6 := (t k).bind SnatData.natUl

/-- The address of a load balancer. -/
def lbUl (s : LbState) (k : LbKey) : Option Ip6 := (s.lbTbl k).join.map (·.lbUlAddr)

/-- The underlay address of an owner. -/
def ownedUl (c : Config) (s : LbState) : UlOwner → Option Ip6 :=
  ulOf (ifaceUl c) (vipUl c.nat.snatTbl) (natUl c.nat.snatTbl) (lbUl s)

/-- What the underlay address of an owner has to stand for. -/
def vnfOf (c : Config) : UlOwner → Vnf → Prop
  | .iface p, v => v = ifaceVnf p (c.port p).iface.vni
  | .vip _, v => v.type = .vip
  | .nat _, v => v.type = .nat
  | .lb _, v => v.type = .lb

/-- The underlay address of every owner stands for it, and for no other one. -/
def UlOwned (c : Config) (s : LbState) : Prop := HoldsAs (vnfOf c) (ownedUl c s) c.vnf.handleTbl

section Owners

variable {i : PortId → Option Ip6} {v n : NatKey → Option Ip6} {l : LbKey → Option Ip6} {x : Option Ip6} {k : NatKey}

theorem ulOf_iface (p : PortId) : ulOf (Function.update i p x) v n l = Function.update (ulOf i v n l) (.iface p) x := by
  funext o
  cases o <;> simp [ulOf, Function.update_apply]

theorem ulOf_vip : ulOf i (Function.update v k x) n l = Function.update (ulOf i v n l) (.vip k) x := by
  funext o
  cases o <;> simp [ulOf, Function.update_apply]

theorem ulOf_nat : ulOf i v (Function.update n k x) l = Function.update (ulOf i v n l) (.nat k) x := by
  funext o
  cases o <;> simp [ulOf, Function.update_apply]

theorem ulOf_lb (k : LbKey) : ulOf i v n (Function.update l k x) = Function.update (ulOf i v n l) (.lb k) x := by
  funext o
  cases o <;> simp [ulOf, Function.update_apply]

end Owners

/-! ## The SNAT table -/

section Snat

variable {e : Env} {s s' : NatState} {ip a : Ip4} {vni : Vni} {ul : Ip6} {lo hi : UInt16} {t : Table NatKey SnatData}
  {k : NatKey} {d : SnatData}

theorem vipUl_add : vipUl (t.add k d) = Function.update (vipUl t) k d.vipUl := by
  funext k'
  rw [vipUl, Table.add_apply, Function.update_apply]
  split <;> rfl

theorem natUl_add : natUl (t.add k d) = Function.update (natUl t) k d.natUl := by
  funext k'
  rw [natUl, Table.add_apply, Function.update_apply]
  split <;> rfl

theorem vipUl_del : vipUl (t.del k) = Function.update (vipUl t) k none := by
  funext k'
  rw [vipUl, Table.del_apply, Function.update_apply]
  split <;> rfl

theorem natUl_del : natUl (t.del k) = Function.update (natUl t) k none := by
  funext k'
  rw [natUl, Table.del_apply, Function.update_apply]
  split <;> rfl

/-- The entry that a VIP or a NAT is put into: the one that is there, or a zeroed one. -/
theorem dpGetOrCreateSnatData_ul (h : dpGetOrCreateSnatData e s ip vni = some d) :
    vipUl s.snatTbl ⟨ip, vni⟩ = d.vipUl ∧ natUl s.snatTbl ⟨ip, vni⟩ = d.natUl := by
  unfold dpGetOrCreateSnatData dpGetIfaceSnatData at h
  unfold vipUl natUl
  cases hk : s.snatTbl ⟨ip, vni⟩ with
  | some d' =>
    rw [hk] at h
    cases h
    exact ⟨rfl, rfl⟩
  | none =>
    rw [hk] at h
    dsimp only at h
    split at h
    · cases h
      exact ⟨rfl, rfl⟩
    · cases h

/-- A VIP gets its underlay address. -/
theorem dpSetIfaceVipIp_ul (h : dpSetIfaceVipIp e s ip a vni ul = (none, s')) :
    vipUl s.snatTbl ⟨ip, vni⟩ = none ∧
      vipUl s'.snatTbl = Function.update (vipUl s.snatTbl) ⟨ip, vni⟩ (if a = 0 then none else some ul) ∧
      natUl s'.snatTbl = natUl s.snatTbl := by
  unfold dpSetIfaceVipIp at h
  split at h
  · cases h
  next d hd =>
    obtain ⟨hv, hn⟩ := dpGetOrCreateSnatData_ul hd
    split at h
    · cases h
    next hz =>
      cases h
      rw [vipUl_add, natUl_add]
      refine ⟨?_, rfl, Function.update_eq_self_iff.mpr hn.symm⟩
      rw [hv, SnatData.vipUl, if_pos (not_not.mp hz)]

/-- So does a NAT. -/
theorem dpSetIfaceNatIp_ul (h : dpSetIfaceNatIp e s ip a vni lo hi ul = (none, s')) :
    natUl s.snatTbl ⟨ip, vni⟩ = none ∧
      natUl s'.snatTbl = Function.update (natUl s.snatTbl) ⟨ip, vni⟩ (if a = 0 then none else some ul) ∧
      vipUl s'.snatTbl = vipUl s.snatTbl := by
  unfold dpSetIfaceNatIp at h
  split at h
  · cases h
  next d hd =>
    obtain ⟨hv, hn⟩ := dpGetOrCreateSnatData_ul hd
    split at h
    · cases h
    next hz =>
      cases h
      dsimp only
      rw [vipUl_add, natUl_add]
      refine ⟨?_, rfl, Function.update_eq_self_iff.mpr hv.symm⟩
      rw [hn, SnatData.natUl, if_pos (not_not.mp hz)]

/-- Deleting the VIP of an entry leaves its NAT. -/
theorem dpDelIfaceVipIp_ul (s : NatState) (ip : Ip4) (vni : Vni) :
    vipUl (dpDelIfaceVipIp s ip vni).2.snatTbl = Function.update (vipUl s.snatTbl) ⟨ip, vni⟩ none ∧
      natUl (dpDelIfaceVipIp s ip vni).2.snatTbl = natUl s.snatTbl := by
  unfold dpDelIfaceVipIp dpGetIfaceSnatData
  cases hk : s.snatTbl ⟨ip, vni⟩ with
  | none => exact ⟨(Function.update_eq_self_iff.mpr (by rw [vipUl, hk]; rfl)).symm, rfl⟩
  | some d =>
    have hn : natUl s.snatTbl ⟨ip, vni⟩ = d.natUl := by
      rw [natUl, hk]
      rfl
    dsimp only
    split
    · rw [vipUl_add, natUl_add]
      exact ⟨rfl, Function.update_eq_self_iff.mpr hn.symm⟩
    next hz =>
      rw [vipUl_del, natUl_del]
      refine ⟨rfl, Function.update_eq_self_iff.mpr ?_⟩
      rw [hn, SnatData.natUl, if_pos (not_not.mp hz)]

/-- Deleting the NAT of an entry leaves its VIP. -/
theorem dpDelIfaceNatIp_ul (s : NatState) (ip : Ip4) (vni : Vni) :
    natUl (dpDelIfaceNatIp s ip vni).2.snatTbl = Function.update (natUl s.snatTbl) ⟨ip, vni⟩ none ∧
      vipUl (dpDelIfaceNatIp s ip vni).2.snatTbl = vipUl s.snatTbl := by
  unfold dpDelIfaceNatIp dpGetIfaceSnatData
  cases hk : s.snatTbl ⟨ip, vni⟩ with
  | none => exact ⟨(Function.update_eq_self_iff.mpr (by rw [natUl, hk]; rfl)).symm, rfl⟩
  | some d =>
    have hv : vipUl s.snatTbl ⟨ip, vni⟩ = d.vipUl := by
      rw [vipUl, hk]
      rfl
    dsimp only
    split
    · dsimp only
      rw [vipUl_add, natUl_add]
      exact ⟨rfl, Function.update_eq_self_iff.mpr hv.symm⟩
    next hz =>
      rw [vipUl_del, natUl_del]
      refine ⟨rfl, Function.update_eq_self_iff.mpr ?_⟩
      rw [hv, SnatData.vipUl, if_pos (not_not.mp hz)]

theorem dpSetDnatIp_snat (e : Env) (s : NatState) (ip a : Ip4) (vni : Vni) :
    (dpSetDnatIp e s ip a vni).2.snatTbl = s.snatTbl := by
  unfold dpSetDnatIp
  split
  · rfl
  · split <;> rfl

theorem dpDelVipFromDnat_snat (s : NatState) (ip : Ip4) (vni : Vni) :
    (dpDelVipFromDnat s ip vni).snatTbl = s.snatTbl := by
  unfold dpDelVipFromDnat
  split <;> rfl

theorem dpAddNetworkNatEntry_snat {e : Env} {s s' : NatState} {n : NetworkNatEntry} {x : Option Ret}
    (h : dpAddNetworkNatEntry e s n = (x, s')) : s'.snatTbl = s.snatTbl := by
  unfold dpAddNetworkNatEntry at h
  split at h
  · cases h
    rfl
  · split at h <;> cases h <;> rfl

theorem dpDelNetworkNatEntry_snat (s : NatState) (ip : Ip4) (vni : Vni) (lo hi : UInt16) :
    (dpDelNetworkNatEntry s ip vni lo hi).2.snatTbl = s.snatTbl := by
  unfold dpDelNetworkNatEntry
  split <;> rfl

theorem dpSetIfaceVipIp_other {k : NatKey} (h : dpSetIfaceVipIp e s ip a vni ul = (none, s')) (hk : k ≠ ⟨ip, vni⟩) :
    s'.snatTbl k = s.snatTbl k := by
  unfold dpSetIfaceVipIp at h
  split at h
  · cases h
  · split at h <;> cases h
    exact Table.add_of_ne hk ..

theorem dpSetIfaceNatIp_other {k : NatKey} (h : dpSetIfaceNatIp e s ip a vni lo hi ul = (none, s'))
    (hk : k ≠ ⟨ip, vni⟩) : s'.snatTbl k = s.snatTbl k := by
  unfold dpSetIfaceNatIp at h
  split at h
  · cases h
  · split at h <;> cases h
    exact Table.add_of_ne hk ..

theorem dpDelIfaceVipIp_other {k : NatKey} (hk : k ≠ ⟨ip, vni⟩) :
    (dpDelIfaceVipIp s ip vni).2.snatTbl k = s.snatTbl k := by
  unfold dpDelIfaceVipIp
  split
  · rfl
  · split
    · exact Table.add_of_ne hk ..
    · exact Table.del_of_ne hk ..

theorem dpDelIfaceNatIp_other {k : NatKey} (hk : k ≠ ⟨ip, vni⟩) :
    (dpDelIfaceNatIp s ip vni).2.snatTbl k = s.snatTbl k := by
  unfold dpDelIfaceNatIp
  split
  · rfl
  · split
    · exact Table.add_of_ne hk ..
    · exact Table.del_of_ne hk ..

/-- The key of an interface in the SNAT table. -/
def Iface.natKey (i : Iface) : NatKey := ⟨i.ownIp, i.vni⟩

/-- The interface whose SNAT entry a request writes. -/
def Request.snatIface : Request → Option Id64
  | .createVip id _ | .deleteVip id | .createNat id .. | .deleteNat id => some id
  | _ => none

/-- A request writes the SNAT entry of its interface only. -/
theorem dpProcessRequest_snat_other {cf : Conf} {c : Config} {l : LbState} {r : Request} {o : Outcome} {k : NatKey}
    (hc : PortsOk cf c) (h : dpProcessRequest cf e c l r = some o)
    (hk : ∀ id p, r.snatIface = some id → c.ifaceIdTable id = some p → k ≠ (c.port p).iface.natKey) :
    o.cfg.nat.snatTbl k = c.nat.snatTbl k := by
  have hdnat : ∀ {x n a b vni n'}, dpSetDnatIp e n a b vni = (x, n') → n'.snatTbl = n.snatTbl :=
    fun hd => (congrArg (·.2.snatTbl) hd).symm.trans (dpSetDnatIp_snat ..)
  cases dpProcessRequest_cases h with
  | ifaceUndone _ _ _ hun => exact congrFun (hun hc.uses).snat k
  | ifaceCreated _ _ _ hcr => exact congrArg (·.snatTbl k) hcr.nat
  | ifaceDeleted _ hd => exact congrArg (·.snatTbl k) hd.nat
  | vipUndone hp _ hset =>
    exact (dpDelIfaceVipIp_other (hk _ _ rfl hp)).trans (dpSetIfaceVipIp_other hset (hk _ _ rfl hp))
  | vipCreated hp _ hset hd => exact (congrFun (hdnat hd) k).trans (dpSetIfaceVipIp_other hset (hk _ _ rfl hp))
  | vipDeleted hp => exact dpDelIfaceVipIp_other (hk _ _ rfl hp)
  | natUndone hp _ hset =>
    exact (dpDelIfaceNatIp_other (hk _ _ rfl hp)).trans (dpSetIfaceNatIp_other hset (hk _ _ rfl hp))
  | natCreated hp _ hset hd => exact (congrFun (hdnat hd) k).trans (dpSetIfaceNatIp_other hset (hk _ _ rfl hp))
  | natDeleted hp => exact (dpDelIfaceNatIp_other (hk _ _ rfl hp)).trans (congrFun (dpDelVipFromDnat_snat ..) k)
  | neighUndone hadd =>
    exact congrFun ((dpDelNetworkNatEntry_snat ..).trans (dpAddNetworkNatEntry_snat hadd)) k
  | neighCreated hadd hd => exact congrFun ((hdnat hd).trans (dpAddNetworkNatEntry_snat hadd)) k
  | neighDeleted hdel =>
    refine congrFun ((dpDelVipFromDnat_snat ..).trans ?_) k
    exact (congrArg (·.2.snatTbl) hdel).symm.trans (dpDelNetworkNatEntry_snat ..)
  | createLb hx =>
    obtain ⟨f, t, hcfg, -⟩ := hx.frame
    rw [hcfg]
  | _ => rfl

theorem dpProcessRequest_snat {cf : Conf} {c : Config} {l : LbState} {r : Request} {o : Outcome} (hc : PortsOk cf c)
    (hr : r.snatIface = none) (h : dpProcessRequest cf e c l r = some o) : o.cfg.nat.snatTbl = c.nat.snatTbl :=
  funext fun _ => dpProcessRequest_snat_other hc h fun _ _ hid => absurd (hr.symm.trans hid) nofun

end Snat

/-! ## What requests do to owners -/

section Requests

variable {cf : Conf} {e : Env} {c c' : Config} {s s' : LbState} {r : Request} {o : Outcome} {own : UlOwner → Option Ip6}
  {t : Table Ip6 Vnf} {v : Vnf}

/-- The VNIs of the ports stay. -/
theorem UlOwned.of (h : HoldsAs (vnfOf c) own t) (hvni : ∀ p, (c'.port p).iface.vni = (c.port p).iface.vni)
    (hh : c'.vnf.handleTbl = t) (hown : ownedUl c' s' = own) : UlOwned c' s' := by
  unfold UlOwned
  rw [hh, hown]
  refine h.mono fun i k v _ hv => ?_
  cases i with
  | iface p => rwa [vnfOf, hvni]
  | vip k => exact hv
  | nat k => exact hv
  | lb k => exact hv

/-- Owners and their VNFs stay. -/
theorem UlOwned.congr (h : UlOwned c s) (hport : c'.port = c.port) (hh : c'.vnf.handleTbl = c.vnf.handleTbl)
    (hsnat : c'.nat.snatTbl = c.nat.snatTbl) (hlb : lbUl s' = lbUl s) : UlOwned c' s' := by
  refine UlOwned.of h (fun p => by rw [hport]) hh ?_
  have hi : ifaceUl c' = ifaceUl c := by
    funext p
    rw [ifaceUl, hport, ifaceUl]
  unfold ownedUl
  rw [hi, hsnat, hlb]

/-- A VNF without an owner comes and goes. -/
theorem HoldsAs.created {P : UlOwner → Vnf → Prop} {x : VnfState} (h : HoldsAs P own x.handleTbl) (v : Vnf) :
    HoldsAs P own (dpCreateVnfRoute cf e x v).2.2.handleTbl := by
  cases hok : (dpCreateVnfRoute cf e x v).1 with
  | true =>
    obtain ⟨hh, hfree⟩ := dpCreateVnfRoute_made hok
    exact hh ▸ h.more hfree
  | false => exact dpCreateVnfRoute_failed hok ▸ h

/-- A VNF is created for an owner that has none, or for nobody. -/
theorem HoldsAs.createdFor {P : UlOwner → Vnf → Prop} {x : VnfState} {i : UlOwner} (h : HoldsAs P own x.handleTbl)
    (hi : own i = none) (hok : (dpCreateVnfRoute cf e x v).1 = true) (hP : P i v) (b : Prop) [Decidable b] :
    HoldsAs P (Function.update own i (if b then none else some (dpCreateVnfRoute cf e x v).2.1))
      (dpCreateVnfRoute cf e x v).2.2.handleTbl := by
  obtain ⟨hh, hfree⟩ := dpCreateVnfRoute_made hok
  rw [hh]
  split
  · rw [Function.update_eq_self_iff.mpr hi.symm]
    exact h.more hfree
  · exact h.take hfree hP

/-- The value table leads back to the handle table. -/
def ValueOk (x : VnfState) : Prop := ∀ {v ul}, x.valueTbl v = some ul → x.handleTbl ul = some v

theorem ValueOk.change {x x' : VnfState} {mk : Option Vnf} (h : ValueOk x) (hc : VnfChange cf e x mk x') :
    ValueOk x' := by
  intro v ul hv
  cases hc with
  | same hh hvt =>
    rw [hh]
    rw [hvt] at hv
    exact h hv
  | deleted hul hh hvt =>
    rw [hvt, Table.del_eq_some] at hv
    rw [hh, Table.del_of_ne, h hv.2]
    rintro rfl
    rw [h hv.2, Option.some.injEq] at hul
    exact hv.1 hul
  | added hmk _ hul hh hvt =>
    rw [hvt, Table.add_eq_some] at hv
    rw [hh, Table.add_eq_some]
    rcases hv with ⟨rfl, rfl⟩ | ⟨-, hv⟩
    · exact .inl ⟨rfl, rfl⟩
    · refine .inr ⟨?_, h hv⟩
      rintro rfl
      rw [h hv] at hul
      cases hul
  | lost hmk _ hh hvt =>
    rw [hvt, Table.del_eq_some] at hv
    rw [hh]
    exact h hv.2

/-- Deleting a prefix by its value deletes the VNF of no owner. -/
theorem HoldsAs.delByValue {x : VnfState} (h : HoldsAs (vnfOf c) own x.handleTbl) (hx : ValueOk x)
    (hv : v.type = .aliasPfx ∨ v.type = .lbAliasPfx) : HoldsAs (vnfOf c) own (dpDelVnfByValue x v).2.handleTbl := by
  unfold dpDelVnfByValue
  split
  · exact h
  next ul hul =>
    rw [dpDelVnf_handle]
    refine h.drop fun i hi => ?_
    obtain ⟨w, hw, hp⟩ := h.held hi
    obtain rfl := Option.some.inj (hw.symm.trans (hx hul))
    cases i <;> simp_all [vnfOf]

/-- The NAT fields of an interface record do not matter. -/
theorem SamePorts.owned (h : SamePorts c c') :
    ifaceUl c' = ifaceUl c ∧ ∀ q, (c'.port q).iface.vni = (c.port q).iface.vni := by
  refine ⟨funext fun q => ?_, fun q => ?_⟩
  all_goals obtain ⟨a, lo, hi, hp⟩ := h.port q
  · rw [ifaceUl, hp, ifaceUl]
    rfl
  · rw [hp]
    rfl

/-- The interface of a port is the owner of its address. -/
theorem ownedUl_iface {p : PortId} (hr : (c.port p).iface.ready = true) :
    ownedUl c s (.iface p) = some (c.port p).iface.ulIpv6 := by
  show ifaceUl c p = _
  rw [ifaceUl, if_pos hr]

theorem UlOwned.undone {n : NewIface} (h : UlOwned c s) (hnr : (c.port n.p).iface.ready = false)
    (hh : c'.vnf.handleTbl = c.vnf.handleTbl) (hu : Undone c n c') : UlOwned c' s := by
  obtain ⟨i, hi, hcase⟩ := hu.port
  have hready : i.ready = false := by rcases hcase with rfl | rfl | rfl <;> [rfl; exact hnr; exact hnr]
  have hifaces : ifaceUl c' = ifaceUl c := by
    funext q
    by_cases hq : q = n.p
    · rw [hq, ifaceUl, hi, if_neg (by simp [hready]), ifaceUl, if_neg (by simp [hnr])]
    · rw [ifaceUl, hu.other hq, ifaceUl]
  unfold UlOwned
  rw [hh, show ownedUl c' s = ownedUl c s by unfold ownedUl; rw [hifaces, hu.snat]]
  refine h.mono fun o k v ho hv => ?_
  cases o with
  | iface q =>
    have hq : q ≠ n.p := by
      rintro rfl
      have hnone : ifaceUl c n.p = none := by rw [ifaceUl, if_neg (by simp [hnr])]
      cases hnone.symm.trans ho
    rwa [vnfOf, hu.other hq]
  | vip k => exact hv
  | nat k => exact hv
  | lb k => exact hv

/-- A new interface owns its address. -/
theorem UlOwned.created {n : NewIface} (h : UlOwned c s) (hnr : (c.port n.p).iface.ready = false)
    (hfree : c.vnf.handleTbl n.ul = none) (hh : c'.vnf.handleTbl = c.vnf.handleTbl.add n.ul (ifaceVnf n.p n.vni))
    (hc : Created c n c') : UlOwned c' s := by
  obtain ⟨a, b, hp⟩ := hc.port
  have hifaces : ifaceUl c' = Function.update (ifaceUl c) n.p (some n.ul) := by
    funext q
    by_cases hq : q = n.p
    · rw [hq, Function.update_self, ifaceUl, hp]
      rfl
    · rw [Function.update_of_ne hq, ifaceUl, hc.other hq, ifaceUl]
  have hown : ownedUl c' s = Function.update (ownedUl c s) (.iface n.p) (some n.ul) := by
    unfold ownedUl
    rw [hifaces, hc.nat, ulOf_iface]
  unfold UlOwned
  rw [hown, hh]
  refine HoldsAs.take (h.mono fun o k v ho hv => ?_) hfree ?_
  · cases o with
    | iface q =>
      have hq : q ≠ n.p := by
        rintro rfl
        have hnone : ifaceUl c n.p = none := by rw [ifaceUl, if_neg (by simp [hnr])]
        cases hnone.symm.trans ho
      rwa [vnfOf, hc.other hq]
    | vip k => exact hv
    | nat k => exact hv
    | lb k => exact hv
  · rw [vnfOf, hp]
    rfl

/-- A deleted interface gives its address back. -/
theorem UlOwned.deleted {p : PortId} {id : Id64} (h : UlOwned c s) (hr : (c.port p).iface.ready = true)
    (hd : Deleted c p id c') : UlOwned c' s := by
  obtain ⟨a, hp⟩ := hd.port
  have hifaces : ifaceUl c' = Function.update (ifaceUl c) p none := by
    funext q
    by_cases hq : q = p
    · rw [hq, Function.update_self, ifaceUl, hp]
      rfl
    · rw [Function.update_of_ne hq, ifaceUl, hd.other hq, ifaceUl]
  have hown : ownedUl c' s = Function.update (ownedUl c s) (.iface p) none := by
    unfold ownedUl
    rw [hifaces, hd.nat, ulOf_iface]
  unfold UlOwned
  rw [hown, hd.vnf, dpDelVnf_handle]
  refine (HoldsAs.release h (ownedUl_iface hr)).mono fun o k v ho hv => ?_
  cases o with
  | iface q =>
    have hq : q ≠ p := by
      rintro rfl
      rw [Function.update_self] at ho
      cases ho
    rwa [vnfOf, hd.other hq]
  | vip k => exact hv
  | nat k => exact hv
  | lb k => exact hv

/-- A VIP is set where there was none. -/
theorem UlOwned.createVip {p : PortId} {vip : Ip4} {n n' : NatState} (h : UlOwned c s)
    (hok : (dpCreateVnfRoute cf e c.vnf (vipVnf c p)).1 = true)
    (hset : dpSetIfaceVipIp e c.nat (c.port p).iface.ownIp vip (c.port p).iface.vni
      (dpCreateVnfRoute cf e c.vnf (vipVnf c p)).2.1 = (none, n)) (hn : n'.snatTbl = n.snatTbl) :
    UlOwned { c with vnf := (dpCreateVnfRoute cf e c.vnf (vipVnf c p)).2.2, nat := n' } s := by
  obtain ⟨hnone, hvip, hnat⟩ := dpSetIfaceVipIp_ul hset
  refine UlOwned.of (HoldsAs.createdFor (i := .vip _) h hnone hok rfl (vip = 0)) (fun _ => rfl) rfl ?_
  unfold ownedUl
  dsimp only
  rw [hn, hvip, hnat, ulOf_vip]
  rfl

/-- It is taken back. -/
theorem UlOwned.undoVip {p : PortId} {vip : Ip4} {ul : Ip6} {n : NatState} {f : VnfState} (h : UlOwned c s)
    (hf : f.handleTbl = c.vnf.handleTbl)
    (hset : dpSetIfaceVipIp e c.nat (c.port p).iface.ownIp vip (c.port p).iface.vni ul = (none, n)) :
    UlOwned { c with vnf := f, nat := (dpDelIfaceVipIp n (c.port p).iface.ownIp (c.port p).iface.vni).2 } s := by
  obtain ⟨hnone, hvip, hnat⟩ := dpSetIfaceVipIp_ul hset
  obtain ⟨hdv, hdn⟩ := dpDelIfaceVipIp_ul n (c.port p).iface.ownIp (c.port p).iface.vni
  refine UlOwned.of h (fun _ => rfl) hf ?_
  unfold ownedUl
  rw [hdv, hdn, hvip, hnat, Function.update_idem, Function.update_eq_self_iff.mpr hnone.symm]
  rfl

theorem UlOwned.deleteVip {p : PortId} {d : SnatData} (h : UlOwned c s)
    (hd : dpGetIfaceSnatData c.nat (c.port p).iface.ownIp (c.port p).iface.vni = some d) (hz : d.vipIp ≠ 0) :
    UlOwned { c with
      vnf := (dpDelVnf c.vnf d.ulVipIp6).2
      nat := (dpDelIfaceVipIp (dpDelDnatIp c.nat d.vipIp (c.port p).iface.vni) (c.port p).iface.ownIp
        (c.port p).iface.vni).2 } s := by
  obtain ⟨hdv, hdn⟩ := dpDelIfaceVipIp_ul (dpDelDnatIp c.nat d.vipIp (c.port p).iface.vni) (c.port p).iface.ownIp
    (c.port p).iface.vni
  have hown : ownedUl c s (.vip ⟨(c.port p).iface.ownIp, (c.port p).iface.vni⟩) = some d.ulVipIp6 := by
    show vipUl _ _ = _
    rw [vipUl, show c.nat.snatTbl _ = some d from hd]
    exact if_neg hz
  refine UlOwned.of (HoldsAs.release h hown) (fun _ => rfl) (dpDelVnf_handle ..) ?_
  unfold ownedUl
  dsimp only
  rw [hdv, hdn, ulOf_vip]
  rfl

/-- A NAT is set where there was none. -/
theorem UlOwned.createNat {p : PortId} {a : Ip4} {lo hi : UInt16} {n : NatState} (h : UlOwned c s)
    (hok : (dpCreateVnfRoute cf e c.vnf (natVnf c p)).1 = true)
    (hset : dpSetIfaceNatIp e c.nat (c.port p).iface.ownIp a (c.port p).iface.vni lo hi
      (dpCreateVnfRoute cf e c.vnf (natVnf c p)).2.1 = (none, n)) (hs : SamePorts c c')
    (hf : c'.vnf.handleTbl = (dpCreateVnfRoute cf e c.vnf (natVnf c p)).2.2.handleTbl)
    (hn : c'.nat.snatTbl = n.snatTbl) : UlOwned c' s := by
  obtain ⟨hnone, hnat, hvip⟩ := dpSetIfaceNatIp_ul hset
  obtain ⟨hi, hvni⟩ := hs.owned
  refine UlOwned.of (HoldsAs.createdFor (i := .nat _) h hnone hok rfl (a = 0)) hvni hf ?_
  unfold ownedUl
  rw [hi, hn, hvip, hnat, ulOf_nat]

/-- It is taken back. -/
theorem UlOwned.undoNat {p : PortId} {a : Ip4} {lo hi : UInt16} {ul : Ip6} {n : NatState} {f : VnfState}
    (h : UlOwned c s) (hf : f.handleTbl = c.vnf.handleTbl)
    (hset : dpSetIfaceNatIp e c.nat (c.port p).iface.ownIp a (c.port p).iface.vni lo hi ul = (none, n)) :
    UlOwned { c with vnf := f, nat := (dpDelIfaceNatIp n (c.port p).iface.ownIp (c.port p).iface.vni).2 } s := by
  obtain ⟨hnone, hnat, hvip⟩ := dpSetIfaceNatIp_ul hset
  obtain ⟨hdn, hdv⟩ := dpDelIfaceNatIp_ul n (c.port p).iface.ownIp (c.port p).iface.vni
  refine UlOwned.of h (fun _ => rfl) hf ?_
  unfold ownedUl
  rw [hdv, hdn, hvip, hnat, Function.update_idem, Function.update_eq_self_iff.mpr hnone.symm]
  rfl

theorem UlOwned.deleteNat {p : PortId} {d : SnatData} (h : UlOwned c s)
    (hd : dpGetIfaceSnatData c.nat (c.port p).iface.ownIp (c.port p).iface.vni = some d) (hz : d.natIp ≠ 0)
    (hs : SamePorts c c') (hf : c'.vnf = (dpDelVnf c.vnf d.ulNatIp6).2)
    (hn : c'.nat = (dpDelIfaceNatIp (dpDelVipFromDnat c.nat d.natIp (c.port p).iface.vni) (c.port p).iface.ownIp
      (c.port p).iface.vni).2) : UlOwned c' s := by
  obtain ⟨hdn, hdv⟩ := dpDelIfaceNatIp_ul (dpDelVipFromDnat c.nat d.natIp (c.port p).iface.vni)
    (c.port p).iface.ownIp (c.port p).iface.vni
  have hown : ownedUl c s (.nat ⟨(c.port p).iface.ownIp, (c.port p).iface.vni⟩) = some d.ulNatIp6 := by
    show natUl _ _ = _
    rw [natUl, show c.nat.snatTbl _ = some d from hd]
    exact if_neg hz
  obtain ⟨hi, hvni⟩ := hs.owned
  refine UlOwned.of (HoldsAs.release h hown) hvni (by rw [hf]; exact dpDelVnf_handle ..) ?_
  unfold ownedUl
  rw [hi, hn, hdv, hdn, dpDelVipFromDnat_snat, ulOf_nat]

theorem lbUl_add (k : LbKey) (w : Option LbValue) (ids : Table Id64 LbKey) (n : ℕ) :
    lbUl { lbTbl := s.lbTbl.add k w, idMapTbl := ids, count := n } =
      Function.update (lbUl s) k (w.map (·.lbUlAddr)) := by
  funext k'
  show Option.map _ (s.lbTbl.add k w k').join = _
  rw [Table.add_apply, Function.update_apply]
  split <;> rfl

theorem lbUl_del (k : LbKey) (ids : Table Id64 LbKey) (n : ℕ) :
    lbUl { lbTbl := s.lbTbl.del k, idMapTbl := ids, count := n } = Function.update (lbUl s) k none := by
  funext k'
  show Option.map _ (s.lbTbl.del k k').join = _
  rw [Table.del_apply, Function.update_apply]
  split <;> rfl

theorem UlOwned.createLb {id : Id64} {vni : Vni} {addr : IpAddr} {ports : List LbPort} {q : Resp × Config × LbState}
    (h : UlOwned c s) (hq : CreateLbCase cf e c s id vni addr ports q) : UlOwned q.2.1 q.2.2 := by
  cases hq with
  | noVnf hv hresp hcfg hlb =>
    rw [hcfg, hlb]
    exact UlOwned.of (HoldsAs.created h _) (fun _ => rfl) rfl rfl
  | refused hv hacc hresp hcfg hlb =>
    rw [hcfg, hlb]
    exact h.congr rfl (dpCreateVnfRoute_undo hv).1 rfl rfl
  | dead hv hacc hid hresp hcfg hlb =>
    rw [hcfg, hlb]
    refine h.congr rfl (dpCreateVnfRoute_undo hv).1 rfl ?_
    rw [lbUl_add]
    refine Function.update_eq_self_iff.mpr ?_
    rw [lbUl, lbAccepts_free hacc]
    rfl
  | noVni hv hacc hid hvni hresp hcfg hlb =>
    rw [hcfg, hlb]
    exact h.congr rfl (dpCreateVnfRoute_undo hv).1 rfl rfl
  | created hv hacc hid hvni hresp hcfg hlb =>
    rw [hcfg, hlb]
    have hnone : ownedUl c s (.lb ⟨vni, addr⟩) = none := by
      show lbUl _ _ = _
      rw [lbUl, lbAccepts_free hacc]
      rfl
    refine UlOwned.of (HoldsAs.createdFor (i := .lb ⟨vni, addr⟩) h hnone hv rfl False) (fun _ => rfl) rfl ?_
    unfold ownedUl
    rw [LbState.create, lbUl_add, ulOf_lb]
    rfl

theorem UlOwned.deleteLb {key : LbKey} {w : LbValue} (h : UlOwned c s) (hk : s.lbTbl key = some (some w))
    (ids : Table Id64 LbKey) (n : ℕ) :
    UlOwned (({ c with vnf := (dpDelVnf c.vnf w.lbUlAddr).2 } : Config).deleteVni key.vni).2
      { lbTbl := s.lbTbl.del key, idMapTbl := ids, count := n } := by
  have hown : ownedUl c s (.lb key) = some w.lbUlAddr := by
    show lbUl _ _ = _
    rw [lbUl, hk]
    rfl
  refine UlOwned.of (HoldsAs.release h hown) (fun _ => rfl) (dpDelVnf_handle ..) ?_
  unfold ownedUl
  rw [lbUl_del, ulOf_lb]
  rfl

theorem UlOwned.targets {id : Id64} {key : LbKey} {w w' : LbValue} (h : UlOwned c s)
    (ht : SetsTargets s s' id key w w') : UlOwned c s' := by
  refine h.congr rfl rfl rfl ?_
  rw [ht.eq, lbUl_add]
  refine Function.update_eq_self_iff.mpr ?_
  rw [lbUl, ht.val]
  exact congrArg some ht.ulAddr

/-- **Every request keeps the owners in order.** -/
theorem UlOwned.request (hc : PortsOk cf c) (hv : ValueOk c.vnf) (h : UlOwned c s)
    (ho : dpProcessRequest cf e c s r = some o) : UlOwned o.cfg o.lb := by
  have hsnat : ∀ {x n a b vni} {n' : NatState}, dpSetDnatIp e n a b vni = (x, n') → n'.snatTbl = n.snatTbl :=
    fun hd => (congrArg (·.2.snatTbl) hd).symm.trans (dpSetDnatIp_snat ..)
  cases dpProcessRequest_cases ho with
  | noVnf | prefixUndone | prefixCreated | lbprefixCreated =>
    exact UlOwned.of (HoldsAs.created h _) (fun _ => rfl) rfl rfl
  | undone _ hok => exact h.congr rfl (dpCreateVnfRoute_undo hok).1 rfl rfl
  | ifaceUndone _ hal hok hun =>
    refine h.undone (hc.not_ready hal) ?_ (hun hc.uses)
    exact (congrArg VnfState.handleTbl (hun hc.uses).vnf).trans (dpCreateVnfRoute_undo hok).1
  | ifaceCreated _ hal hok hcr =>
    obtain ⟨hh, hfree⟩ := dpCreateVnfRoute_made hok
    refine h.created (hc.not_ready hal) hfree ?_ hcr
    exact (congrArg VnfState.handleTbl hcr.vnf).trans hh
  | ifaceDeleted hp hd => exact h.deleted (hc.mapped.mp hp).1 hd
  | prefixDeleted => exact UlOwned.of (HoldsAs.delByValue h hv (.inl rfl)) (fun _ => rfl) rfl rfl
  | lbprefixDeleted => exact UlOwned.of (HoldsAs.delByValue h hv (.inr rfl)) (fun _ => rfl) rfl rfl
  | vipUndone _ hok hset => exact h.undoVip (dpCreateVnfRoute_undo hok).1 hset
  | vipCreated _ hok hset hd => exact h.createVip hok hset (hsnat hd)
  | vipDeleted _ hd hz => exact h.deleteVip hd hz
  | natUndone _ hok hset => exact h.undoNat (dpCreateVnfRoute_undo hok).1 hset
  | natCreated hp hok hset hd => exact h.createNat hok hset (.setNat hc hp rfl rfl hc.uses) rfl (hsnat hd)
  | natDeleted hp hd hz => exact h.deleteNat hd hz (.setNat hc hp rfl rfl hc.uses) rfl rfl
  | neighUndone | neighCreated | neighDeleted => exact h.congr rfl rfl (dpProcessRequest_snat hc rfl ho) rfl
  | createLb hx => exact h.createLb hx
  | lbDeleted _ hk => exact h.deleteLb hk _ _
  | lbTargetCreated ht | lbTargetDeleted ht => exact h.targets ht
  | _ => exact h.congr rfl rfl rfl rfl

end Requests

/-! ## Whole runs -/

/-- The underlay address of every owner stands for it, in every state of every run. -/
theorem ulOwned_run {cf : Conf} {es : List Call} {s : Ctl} (h : run (ctlStep cf) (Ctl.init cf) es = some s) :
    UlOwned s.cfg s.lb := by
  have hinv : PortsOk cf s.cfg ∧ ValueOk s.cfg.vnf ∧ UlOwned s.cfg s.lb := by
    refine run_invariant (I := fun s => PortsOk cf s.cfg ∧ ValueOk s.cfg.vnf ∧ UlOwned s.cfg s.lb)
      (P := fun _ _ => True) ?_ ⟨.init cf, fun hv => (by cases hv), ?_⟩ (along_true _ _) h
    · rintro s a s' ⟨hports, hval, hown⟩ - hstep
      obtain ⟨o, ho, hcfg, hlb⟩ := ctlStep_eq hstep
      rw [hcfg, hlb]
      exact ⟨hports.request ho, hval.change (dpProcessRequest_vnf hports ho), hown.request hports hval ho⟩
    · have hnone : ownedUl (Config.init cf) {} = fun _ => none := by
        funext o
        cases o <;> rfl
      unfold UlOwned Ctl.init
      dsimp only
      rw [hnone]
      exact .empty
  exact hinv.2.2

/-- The registry of interfaces: the id table, the port records, the VNFs and the devices agree. -/
structure IfaceRegistry (cf : Conf) (c : Config) : Prop where
  ids : ∀ id p, c.ifaceIdTable id = some p ↔ (c.port p).iface.ready = true ∧ (c.port p).iface.id = id
  vnf : ∀ p, (c.port p).iface.ready = true →
    c.vnf.handleTbl (c.port p).iface.ulIpv6 = some (ifaceVnf p (c.port p).iface.vni)
  uls : ∀ p q, (c.port p).iface.ready = true → (c.port q).iface.ready = true →
    (c.port p).iface.ulIpv6 = (c.port q).iface.ulIpv6 → p = q
  free : ∀ p, cf.isPf p = false → (c.port p).iface.ready = false → (c.port p).allocated = false

def StopsOk (s : Ctl) : Call → Prop
  | (.deleteInterface id, e) => (s.cfg.ifaceIdTable id).isSome → e.ok .portStop = true
  | _ => True

instance (s : Ctl) (a : Call) : Decidable (StopsOk s a) := by
  obtain ⟨r, e⟩ := a
  cases r <;> unfold StopsOk <;> infer_instance

/-- Virtual functions without an interface are stopped. -/
def FreePorts (cf : Conf) (c : Config) : Prop :=
  ∀ p, cf.isPf p = false → (c.port p).iface.ready = false → (c.port p).allocated = false

section Free

variable {cf : Conf} {e : Env} {c c' : Config} {s : LbState} {r : Request} {o : Outcome}

/-- A stopped port is free. -/
theorem dpProcessDeleteInterface_stopped {id : Id64} {p : PortId} (hid : c.ifaceIdTable id = some p)
    (hstop : e.ok .portStop = true) : ((dpProcessDeleteInterface cf e c id).2.1.port p).allocated = false := by
  simp [dpProcessDeleteInterface, hid, dpStopPort, hstop, dpDeleteIface, dpUnmapIfaceId, Config.setIface,
    Config.delRoute, Config.delRoute6, Config.deleteVni]

/-- A request that stops the port it deletes keeps free ports free. -/
theorem FreePorts.request (hc : PortsOk cf c) (h : FreePorts cf c) (hs : StopsOk ⟨c, s⟩ (r, e))
    (ho : dpProcessRequest cf e c s r = some o) : FreePorts cf o.cfg := by
  intro q hpf hq
  have hcase := dpProcessRequest_portCase hc ho
  have hstopped : ∀ {id p}, r = .deleteInterface id → c.ifaceIdTable id = some p →
      (o.cfg.port p).allocated = false := by
    rintro id p rfl hp
    cases ho
    exact dpProcessDeleteInterface_stopped hp (hs (by simp [hp]))
  generalize o.cfg = x at hcase hq hstopped
  cases hcase with
  | kept hsame =>
    obtain ⟨a, lo, hi, hp⟩ := hsame.port q
    rw [hp] at hq ⊢
    exact h q hpf hq
  | @undone _ _ _ _ _ _ _ p _ _ hal _ hun =>
    by_cases hqp : q = p
    · obtain ⟨i, hi, -⟩ := hun.port
      rw [hqp]
      exact (congrArg Port.allocated hi).trans hal
    · rw [hun.other hqp] at hq ⊢
      exact h q hpf hq
  | @created _ _ _ _ _ _ _ p _ _ hal _ hcr =>
    by_cases hqp : q = p
    · obtain ⟨a, b, hp⟩ := hcr.port
      rw [hqp] at hq
      cases (congrArg (fun x : Port => x.iface.ready) hp).symm.trans hq
    · rw [hcr.other hqp] at hq ⊢
      exact h q hpf hq
  | @deleted id p _ hp hd =>
    by_cases hqp : q = p
    · rw [hqp]
      exact hstopped rfl hp
    · rw [hd.other hqp] at hq ⊢
      exact h q hpf hq

end Free

/-- **The registry of interfaces is consistent** in every state of a run in which the port of a deleted interface can
always be stopped. -/
theorem iface_registry {cf : Conf} {es : List Call} {s : Ctl} (hok : Along (ctlStep cf) StopsOk (Ctl.init cf) es)
    (hrun : run (ctlStep cf) (Ctl.init cf) es = some s) : IfaceRegistry cf s.cfg := by
  have hports := portsOk_run hrun
  have hown := ulOwned_run hrun
  have hfree : PortsOk cf s.cfg ∧ FreePorts cf s.cfg := by
    refine run_invariant (I := fun s => PortsOk cf s.cfg ∧ FreePorts cf s.cfg) ?_ ⟨.init cf, fun p hp _ => hp⟩ hok hrun
    rintro s a s' ⟨hs, hf⟩ hstop hstep
    obtain ⟨o, ho, hcfg, -⟩ := ctlStep_eq hstep
    rw [hcfg]
    exact ⟨hs.request ho, hf.request hs hstop ho⟩
  refine ⟨fun id p => hports.mapped, fun p hp => ?_, fun p q hp hq heq => ?_, hfree.2⟩
  · obtain ⟨v, hv, rfl⟩ := hown.held (ownedUl_iface hp)
    exact hv
  · have := hown.inj (ownedUl_iface hp) (heq ▸ ownedUl_iface hq)
    cases this
    rfl

/-- Two interfaces, of which the first is deleted and created again. -/
def ifaceCalls : List Call :=
  calls (natSetup ++ [.createInterface 3 8 100 0x0a000002 0 0 0, .deleteInterface 7,
    .createInterface 2 9 200 0x0a000001 0 0 0])

theorem iface_registry_two : Along (ctlStep smallConf) StopsOk (Ctl.init smallConf) ifaceCalls ∧
    ∃ s, run (ctlStep smallConf) (Ctl.init smallConf) ifaceCalls = some s ∧ IfaceRegistry smallConf s.cfg ∧
      (s.cfg.port 2).iface.ready = true ∧ (s.cfg.port 3).iface.ready = true := by
  have hok : Along (ctlStep smallConf) StopsOk (Ctl.init smallConf) ifaceCalls := by decide +kernel
  refine ⟨hok, exists_some_imp (P := fun s => (s.cfg.port 2).iface.ready = true ∧ (s.cfg.port 3).iface.ready = true)
    (by decide +kernel) ?_⟩
  intro s hs hready
  exact ⟨iface_registry hok hs, hready⟩

def stopFailCalls : List Call :=
  calls smallSetup ++ [(.deleteInterface 7, { fails := [.portStop] })]

/-- A port that could not be stopped has no interface any more, and no interface can be created on it. -/
theorem iface_registry_stop_fails : ∃ s, run (ctlStep smallConf) (Ctl.init smallConf) stopFailCalls = some s ∧
    smallConf.isPf 2 = false ∧ (s.cfg.port 2).iface.ready = false ∧ (s.cfg.port 2).allocated = true ∧
    (dpProcessCreateInterface smallConf {} s.cfg 2 7 100 0x0a000001 0xfd00 0 0).1 = .err .alreadyExists := by
  decide +kernel

end Dpservice
