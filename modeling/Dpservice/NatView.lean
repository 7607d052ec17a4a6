import Dpservice.NatRequests

/-!
# What the NAT tables say

The SNAT table is read by key: the VIP and the NAT range of an interface address, zero where there is none. `NatView` is
the NAT configuration in these terms; every function that writes the tables is one update of it, and so is every
request.

- `NatState.view`: the view of the tables;
- `dpSetIfaceVipIp_view`, `dpDelIfaceVipIp_view`, …: the updates of the functions;
- `createVip_view`, `createNat_view`, …: those of the requests;
- `dpProcessRequest_nat`: the other requests leave the tables alone.
-/

namespace Dpservice

attribute [ext] NatKey

def NatRange.zero : NatRange := ⟨0, 0, 0⟩

/-- The NAT configuration: the VIP and the NAT range by key, the DNAT table and the ranges of neighbours. -/
structure NatView where
  vip : NatKey → Ip4
  nat : NatKey → NatRange
  dnat : Table NatKey Ip4
  neigh : List NetworkNatEntry

/-- A missing SNAT entry reads as zero. -/
def NatState.view (s : NatState) : NatView where
  vip k := ((s.snatTbl k).map (·.vipIp)).getD 0
  nat k := ((s.snatTbl k).map (·.natRange)).getD .zero
  dnat := s.dnatTbl
  neigh := s.natHeadp

namespace NatView

variable (w : NatView) (k : NatKey)

def setVip (a : Ip4) : NatView := { w with vip := Function.update w.vip k a }

def setNat (x : NatRange) : NatView := { w with nat := Function.update w.nat k x }

def setDnat (o : Option Ip4) : NatView := { w with dnat := Function.update w.dnat k o }

/-- An entry without NAT address goes with its VIP, and its ports go too. -/
def clearVip : NatView :=
  { w.setVip k 0 with nat := if (w.nat k).natIp = 0 then Function.update w.nat k .zero else w.nat }

/-- A DNAT entry for a shared address, unless there is one. -/
def shareDnat : NatView := if (w.dnat k).isSome then w else w.setDnat k (some 0)

/-- The DNAT entry goes unless a neighbour has the address. -/
def unshareDnat : NatView := if w.neigh.any (dpIsNetworkNatIp · k.ip k.vni) then w else w.setDnat k none

/-- The ranges of the neighbours in a VNI are dropped. -/
def dropNeigh (vni : Vni) : NatView := { w with neigh := dpDelAllNeighNatEntriesInVni w.neigh vni }

end NatView

/-! ## The functions -/

section Functions

variable {e : Env} {s s' : NatState} {ip a : Ip4} {vni : Vni} {ul : Ip6} {lo hi : UInt16} {d : SnatData} {k : NatKey}

theorem view_vip_of (h : s.snatTbl k = some d) : s.view.vip k = d.vipIp := by simp [NatState.view, h]

theorem view_nat_of (h : s.snatTbl k = some d) : s.view.nat k = d.natRange := by simp [NatState.view, h]

theorem view_vip_none (h : s.snatTbl k = none) : s.view.vip k = 0 := by simp [NatState.view, h]

theorem view_nat_none (h : s.snatTbl k = none) : s.view.nat k = .zero := by simp [NatState.view, h]

/-- The view after an SNAT entry was written. -/
theorem view_add : ({ s with snatTbl := s.snatTbl.add k d } : NatState).view =
    (s.view.setVip k d.vipIp).setNat k d.natRange := by
  unfold NatState.view NatView.setVip NatView.setNat
  congr 1
  · funext k'
    dsimp only
    rw [Table.add_apply, Function.update_apply]
    split <;> rfl
  · funext k'
    dsimp only
    rw [Table.add_apply, Function.update_apply]
    split <;> rfl

/-- The view after an SNAT entry was deleted. -/
theorem view_del : ({ s with snatTbl := s.snatTbl.del k } : NatState).view = (s.view.setVip k 0).setNat k .zero := by
  unfold NatState.view NatView.setVip NatView.setNat
  congr 1
  · funext k'
    dsimp only
    rw [Table.del_apply, Function.update_apply]
    split <;> rfl
  · funext k'
    dsimp only
    rw [Table.del_apply, Function.update_apply]
    split <;> rfl

theorem setVip_self (w : NatView) (k : NatKey) {a : Ip4} (h : w.vip k = a) : w.setVip k a = w := by
  unfold NatView.setVip
  rw [← h, Function.update_eq_self]

theorem setNat_self (w : NatView) (k : NatKey) {x : NatRange} (h : w.nat k = x) : w.setNat k x = w := by
  unfold NatView.setNat
  rw [← h, Function.update_eq_self]

theorem clearVip_zero {w : NatView} (h : (w.nat k).natIp = 0) : w.clearVip k = (w.setVip k 0).setNat k .zero := by
  unfold NatView.clearVip
  rw [if_pos h]
  rfl

theorem clearVip_keep {w : NatView} (h : (w.nat k).natIp ≠ 0) : w.clearVip k = w.setVip k 0 := by
  unfold NatView.clearVip
  rw [if_neg h]
  rfl

/-- The entry that is found or created reads as before. -/
theorem view_of_getOrCreate (h : dpGetOrCreateSnatData e s ip vni = some d) :
    s.view.vip ⟨ip, vni⟩ = d.vipIp ∧ s.view.nat ⟨ip, vni⟩ = d.natRange := by
  obtain hold | ⟨hnone, rfl⟩ := dpGetOrCreateSnatData_cases h
  · exact ⟨view_vip_of hold, view_nat_of hold⟩
  · exact ⟨view_vip_none hnone, view_nat_none hnone⟩

/-- A VIP is set where there is none. -/
theorem dpSetIfaceVipIp_view (h : dpSetIfaceVipIp e s ip a vni ul = (none, s')) :
    s.view.vip ⟨ip, vni⟩ = 0 ∧ s'.view = s.view.setVip ⟨ip, vni⟩ a := by
  unfold dpSetIfaceVipIp at h
  split at h
  · cases h
  next d hd =>
    obtain ⟨hv, hn⟩ := view_of_getOrCreate hd
    split at h <;> cases h
    next hz => exact ⟨hv.trans (not_not.mp hz), view_add.trans (setNat_self _ _ hn)⟩

/-- A NAT range is set where there is no NAT address. -/
theorem dpSetIfaceNatIp_view (h : dpSetIfaceNatIp e s ip a vni lo hi ul = (none, s')) :
    (s.view.nat ⟨ip, vni⟩).natIp = 0 ∧ s'.view = s.view.setNat ⟨ip, vni⟩ ⟨a, lo, hi⟩ := by
  unfold dpSetIfaceNatIp at h
  split at h
  · cases h
  next d hd =>
    obtain ⟨hv, hn⟩ := view_of_getOrCreate hd
    split at h <;> cases h
    next hz =>
      refine ⟨by rw [hn]; exact not_not.mp hz, view_add.trans ?_⟩
      rw [show s.view.setVip ⟨ip, vni⟩ d.vipIp = s.view from setVip_self _ _ hv]
      rfl

theorem dpDelIfaceVipIp_view (s : NatState) (ip : Ip4) (vni : Vni) :
    (dpDelIfaceVipIp s ip vni).2.view = s.view.clearVip ⟨ip, vni⟩ := by
  unfold dpDelIfaceVipIp dpGetIfaceSnatData
  cases hd : s.snatTbl ⟨ip, vni⟩ with
  | none =>
    have hn := view_nat_none hd
    rw [clearVip_zero (by rw [hn]; rfl), setVip_self _ _ (view_vip_none hd)]
    exact (setNat_self _ _ hn).symm
  | some d =>
    have hn := view_nat_of hd
    dsimp only
    by_cases hnat : d.natIp = 0
    · rw [if_neg (not_not.mpr hnat), clearVip_zero (by rw [hn]; exact hnat), view_del]
    · rw [if_pos hnat, clearVip_keep (by rw [hn]; exact hnat), view_add]
      exact setNat_self _ _ hn

theorem dpDelIfaceNatIp_view (s : NatState) (ip : Ip4) (vni : Vni) :
    (dpDelIfaceNatIp s ip vni).2.view = s.view.setNat ⟨ip, vni⟩ .zero := by
  unfold dpDelIfaceNatIp dpGetIfaceSnatData
  cases hd : s.snatTbl ⟨ip, vni⟩ with
  | none => exact (setNat_self _ _ (view_nat_none hd)).symm
  | some d =>
    have hv := view_vip_of hd
    dsimp only
    by_cases hvip : d.vipIp = 0
    · rw [if_neg (not_not.mpr hvip), view_del, setVip_self _ _ (hv.trans hvip)]
    · rw [if_pos hvip, view_add, setVip_self _ _ hv]
      rfl

theorem dpDelVipFromDnat_view (s : NatState) (ip : Ip4) (vni : Vni) :
    (dpDelVipFromDnat s ip vni).view = s.view.unshareDnat ⟨ip, vni⟩ := by
  unfold dpDelVipFromDnat NatView.unshareDnat
  show _ = if s.natHeadp.any (dpIsNetworkNatIp · ip vni) = true then _ else _
  split <;> rfl

theorem dpSetDnatIp_view (h : dpSetDnatIp e s ip a vni = (none, s')) :
    s.view.dnat ⟨ip, vni⟩ = none ∧ s'.view = s.view.setDnat ⟨ip, vni⟩ (some a) := by
  obtain ⟨-, heq⟩ | ⟨hnone, -, heq⟩ | ⟨-, -, heq⟩ := dpSetDnatIp_cases e s ip a vni <;> cases heq.symm.trans h
  exact ⟨hnone, rfl⟩

/-- A shared address gets a DNAT entry, unless it cannot be stored. -/
theorem dpSetDnatIp_share {x : Option Ret} (h : dpSetDnatIp e s ip 0 vni = (x, s')) (hx : x ≠ some .dnatCreate) :
    s'.view = s.view.shareDnat ⟨ip, vni⟩ := by
  unfold NatView.shareDnat
  obtain ⟨hsome, heq⟩ | ⟨hnone, -, heq⟩ | ⟨-, -, heq⟩ := dpSetDnatIp_cases e s ip 0 vni <;> cases heq.symm.trans h
  · exact (if_pos hsome).symm
  · rw [show s.view.dnat ⟨ip, vni⟩ = none from hnone]
    rfl
  · exact absurd rfl hx

end Functions

/-! ## The requests -/

section Requests

variable {cf : Conf} {e : Env} {c : Config} {s : LbState} {r : Request} {o : Outcome} {p : PortId}

/-- `CreateVip` sets a VIP with its DNAT entry, or nothing changes, or an entry without NAT address is lost. -/
theorem createVip_view {id : Id64} {addr : IpAddr} (h : dpProcessRequest cf e c s (.createVip id addr) = some o) :
    let w := c.nat.view
    let w' := o.cfg.nat.view
    w' = w ∨ ∃ p a, c.ifaceIdTable id = some p ∧ addr = .v4 a ∧ w.vip (c.port p).iface.natKey = 0 ∧
      (w' = w.clearVip (c.port p).iface.natKey ∨
        (w.dnat ⟨a, (c.port p).iface.vni⟩ = none ∧
          w' = (w.setVip (c.port p).iface.natKey a).setDnat ⟨a, (c.port p).iface.vni⟩
          (some (c.port p).iface.ownIp))) := by
  intro w w'
  cases dpProcessRequest_cases h with
  | refused | noVnf | undone => exact .inl rfl
  | vipUndone hp _ hset =>
    obtain ⟨hzero, hview⟩ := dpSetIfaceVipIp_view hset
    refine .inr ⟨_, _, hp, rfl, hzero, .inl ?_⟩
    unfold w'
    rw [dpDelIfaceVipIp_view, hview]
    unfold NatView.clearVip NatView.setVip Iface.natKey
    simp only [Function.update_idem]
    rfl
  | vipCreated hp _ hset hd =>
    obtain ⟨hzero, hview⟩ := dpSetIfaceVipIp_view hset
    obtain ⟨hnone, hview'⟩ := dpSetDnatIp_view hd
    rw [hview] at hnone hview'
    exact .inr ⟨_, _, hp, rfl, hzero, .inr ⟨hnone, hview'⟩⟩

/-- `DeleteVip` takes a VIP and its DNAT entry away, or nothing changes. -/
theorem deleteVip_view {id : Id64} (h : dpProcessRequest cf e c s (.deleteVip id) = some o) :
    let w := c.nat.view
    let w' := o.cfg.nat.view
    w' = w ∨ ∃ p, c.ifaceIdTable id = some p ∧ w.vip (c.port p).iface.natKey ≠ 0 ∧
      w' = (w.setDnat ⟨w.vip (c.port p).iface.natKey, (c.port p).iface.vni⟩ none).clearVip (c.port p).iface.natKey := by
  intro w w'
  cases dpProcessRequest_cases h with
  | refused | noVnf | undone => exact .inl rfl
  | @vipDeleted _ p d hp hd hz =>
    have hvip : w.vip (c.port p).iface.natKey = d.vipIp := view_vip_of hd
    refine .inr ⟨p, hp, by rwa [hvip], ?_⟩
    rw [hvip]
    exact dpDelIfaceVipIp_view ..

/-- `CreateNat` sets a NAT range with a DNAT entry, or nothing changes, or the ports of a zero address are lost. -/
theorem createNat_view {id : Id64} {addr : IpAddr} {lo hi : UInt16}
    (h : dpProcessRequest cf e c s (.createNat id addr lo hi) = some o) :
    let w := c.nat.view
    let w' := o.cfg.nat.view
    (w' = w ∧ o.cfg.port = c.port) ∨
      ∃ p a, c.ifaceIdTable id = some p ∧ addr = .v4 a ∧ (w.nat (c.port p).iface.natKey).natIp = 0 ∧
        ((w' = w.setNat (c.port p).iface.natKey .zero ∧ o.cfg.port = c.port) ∨
          (w' = (w.setNat (c.port p).iface.natKey ⟨a, lo, hi⟩).shareDnat ⟨a, (c.port p).iface.vni⟩ ∧
            o.cfg.port = (c.setIface p ((c.port p).iface.setNat a lo hi)).port)) := by
  intro w w'
  cases dpProcessRequest_cases h with
  | refused | noVnf | undone => exact .inl ⟨rfl, rfl⟩
  | natUndone hp _ hset =>
    obtain ⟨hzero, hview⟩ := dpSetIfaceNatIp_view hset
    refine .inr ⟨_, _, hp, rfl, hzero, .inl ⟨?_, rfl⟩⟩
    unfold w'
    rw [dpDelIfaceNatIp_view, hview]
    unfold NatView.setNat Iface.natKey
    rw [Function.update_idem]
  | natCreated hp _ hset hd hx =>
    obtain ⟨hzero, hview⟩ := dpSetIfaceNatIp_view hset
    refine .inr ⟨_, _, hp, rfl, hzero, .inr ⟨(dpSetDnatIp_share hd hx).trans ?_, rfl⟩⟩
    rw [hview]
    rfl

/-- `DeleteNat` takes a NAT range away, with its DNAT entry unless a neighbour has the address, or nothing changes. -/
theorem deleteNat_view {id : Id64} (h : dpProcessRequest cf e c s (.deleteNat id) = some o) :
    let w := c.nat.view
    let w' := o.cfg.nat.view
    (w' = w ∧ o.cfg.port = c.port) ∨
      ∃ p, c.ifaceIdTable id = some p ∧ (w.nat (c.port p).iface.natKey).natIp ≠ 0 ∧
        w' = (w.unshareDnat ⟨(w.nat (c.port p).iface.natKey).natIp, (c.port p).iface.vni⟩).setNat
          (c.port p).iface.natKey .zero ∧
        o.cfg.port = (c.setIface p ((c.port p).iface.setNat 0 0 0)).port := by
  intro w w'
  cases dpProcessRequest_cases h with
  | refused | noVnf | undone => exact .inl ⟨rfl, rfl⟩
  | @natDeleted _ p d hp hd hz =>
    have hnat : w.nat (c.port p).iface.natKey = d.natRange := view_nat_of hd
    refine .inr ⟨p, hp, by rw [hnat]; exact hz, ?_, rfl⟩
    unfold w'
    rw [setIface_nat, dpDelIfaceNatIp_view, dpDelVipFromDnat_view, hnat]
    rfl

/-- `CreateNeighborNat` appends a range with a DNAT entry, or nothing changes. -/
theorem createNeighnat_view {a : Ip4} (ha : a ≠ 0) {vni : Vni} {lo hi : UInt16} {ul : Ip6}
    (h : dpProcessRequest cf e c s (.createNeighnat (.v4 a) vni lo hi ul) = some o) :
    let w := c.nat.view
    let w' := o.cfg.nat.view
    w' = w ∨ w' = ({ w with neigh := w.neigh ++ [⟨a, vni, lo, hi, ul⟩] } : NatView).shareDnat ⟨a, vni⟩ := by
  intro w w'
  have hadded : ∀ {n}, dpAddNetworkNatEntry e c.nat ⟨a, vni, lo, hi, ul⟩ = (none, n) →
      c.nat.natHeadp.any (dpIsNetworkNatEntry · a vni lo hi) = false ∧
        n = { c.nat with natHeadp := c.nat.natHeadp ++ [⟨a, vni, lo, hi, ul⟩] } := by
    intro n hadd
    unfold dpAddNetworkNatEntry at hadd
    split at hadd
    · cases hadd
    next hany =>
      split at hadd <;> cases hadd
      exact ⟨Bool.eq_false_iff.mpr hany, rfl⟩
  cases dpProcessRequest_cases h with
  | refused | noVnf | undone => exact .inl rfl
  | neighUndone hadd hd =>
    obtain ⟨hany, rfl⟩ := hadded hadd
    have hself : dpIsNetworkNatEntry ⟨a, vni, lo, hi, ul⟩ a vni lo hi = true := by
      simpa [dpIsNetworkNatEntry, dpIsNetworkNatIp] using ha
    have herase : (c.nat.natHeadp ++ [NetworkNatEntry.mk a vni lo hi ul]).eraseP (dpIsNetworkNatEntry · a vni lo hi) =
        c.nat.natHeadp := by
      rw [List.eraseP_append_right _ (List.any_eq_false.mp hany)]
      simp [hself]
    refine .inl ?_
    unfold w' dpDelNetworkNatEntry
    dsimp only
    rw [if_pos (by simp [hself]), herase]
  | neighCreated hadd hd hx =>
    obtain ⟨-, rfl⟩ := hadded hadd
    exact .inr (dpSetDnatIp_share hd hx)

/-- `DeleteNeighborNat` takes a range away, with its DNAT entry unless another one has the address, or nothing
changes. -/
theorem deleteNeighnat_view {a : Ip4} {vni : Vni} {lo hi : UInt16}
    (h : dpProcessRequest cf e c s (.deleteNeighnat (.v4 a) vni lo hi) = some o) :
    let w := c.nat.view
    let w' := o.cfg.nat.view
    w' = w ∨ (w.neigh.any (dpIsNetworkNatEntry · a vni lo hi) = true ∧
      w' = ({ w with neigh := w.neigh.eraseP (dpIsNetworkNatEntry · a vni lo hi) } : NatView).unshareDnat
      ⟨a, vni⟩) := by
  intro w w'
  cases dpProcessRequest_cases h with
  | refused | noVnf | undone => exact .inl rfl
  | neighDeleted hdel =>
    unfold dpDelNetworkNatEntry at hdel
    split at hdel <;> cases hdel
    next hany => exact .inr ⟨hany, dpDelVipFromDnat_view ..⟩

def Request.writesNat : Request → Bool
  | .reqInitialize | .createInterface .. | .deleteInterface _ | .createVip .. | .deleteVip _ | .createNat ..
  | .deleteNat _ | .createNeighnat .. | .deleteNeighnat .. | .deleteLb _ => true
  | _ => false

theorem dpProcessRequest_nat (hr : r.writesNat = false) (h : dpProcessRequest cf e c s r = some o) :
    o.cfg.nat = c.nat := by
  cases dpProcessRequest_cases h with
  | initialized | ifaceUndone | ifaceCreated | ifaceDeleted | vipUndone | vipCreated | vipDeleted | natUndone
  | natCreated | natDeleted | neighUndone | neighCreated | neighDeleted | lbDeleted => cases hr
  | createLb hx =>
    obtain ⟨f, t, hcfg, -⟩ := hx.frame
    rw [hcfg]
  | _ => rfl

/-- `DeleteLoadBalancer` drops the neighbours of a VNI that it releases. -/
theorem deleteLb_view {id : Id64} (h : dpProcessRequest cf e c s (.deleteLb id) = some o) :
    o.cfg.nat.view = c.nat.view ∨
      ∃ k, s.idMapTbl id = some k ∧ vniRefs c.vniHandleTbl k.vni = some 1 ∧
        o.cfg.nat.view = c.nat.view.dropNeigh k.vni := by
  cases dpProcessRequest_cases h with
  | refused | noVnf | undone => exact .inl rfl
  | @lbDeleted _ k _ _ hid =>
    unfold Config.deleteVni
    dsimp only
    obtain ⟨-, heq⟩ | ⟨hone, heq⟩ | ⟨d, -, -, heq⟩ := dpDeleteVniRouteTables_spec c.vniHandleTbl c.nat.natHeadp k.vni
    · rw [heq]
      exact .inl rfl
    · rw [heq]
      exact .inr ⟨k, hid, hone, rfl⟩
    · rw [heq]
      exact .inl rfl

/-- `DeleteInterface` drops the neighbours of a VNI that it releases. -/
theorem Deleted.view {id : Id64} {x : Config} (h : Deleted c p id x) :
    x.nat.view = c.nat.view ∨
      (vniRefs c.vniHandleTbl (c.port p).iface.vni = some 1 ∧
        x.nat.view = c.nat.view.dropNeigh (c.port p).iface.vni) := by
  rw [h.nat]
  obtain ⟨-, heq⟩ | ⟨hone, heq⟩ | ⟨d, -, -, heq⟩ :=
    dpDeleteVniRouteTables_spec (vacatedTbl c p) c.nat.natHeadp (c.port p).iface.vni
  · rw [heq]
    exact .inl rfl
  · rw [heq]
    exact .inr ⟨by rw [← (vacatedTbl_fewer c p).refs]; exact hone, rfl⟩
  · rw [heq]
    exact .inl rfl

/-- A creation that is taken back drops the neighbours of a VNI that it has created. -/
theorem Undone.view {n : NewIface} {x : Config} (h : Undone c n x) :
    x.nat.view = c.nat.view ∨ (c.vniHandleTbl n.vni = none ∧ x.nat.view = c.nat.view.dropNeigh n.vni) := by
  unfold NatState.view NatView.dropNeigh
  rw [h.snat, h.dnat]
  obtain hheadp | ⟨hnone, hheadp⟩ := h.headp
  · rw [hheadp]
    exact .inl rfl
  · rw [hheadp]
    exact .inr ⟨hnone, rfl⟩

end Requests

end Dpservice
