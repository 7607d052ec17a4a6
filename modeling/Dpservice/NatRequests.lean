import Dpservice.Underlay

/-!
# VIP and NAT requests

`CreateVip` and `CreateNat` enter a VNF, the SNAT entry of the interface and the DNAT entry of the public address, and
take the earlier ones back where a later one fails; `DeleteVip` and `DeleteNat` undo all three. An address of zero
stands for "not configured", and the VNF of an interface is known by its value, which is the same for every request.

- `RequestOk`: a request that succeeds can be undone, one that fails changes nothing;
- `VipUndo`, `NatUndo`: what `GetVip` and `DeleteVip`, `GetNat` and `DeleteNat`, have to do after a creation;
- `nat_requests_iff`: in which states this holds.
-/

namespace Dpservice

/-- The VNF of a VIP or of a NAT range. -/
abbrev publicVnf (type : VnfType) (p : PortId) (vni : Vni) : Vnf :=
  { type := type, vni := vni, portId := p, pfx := .v4 0, length := 0 }

/-- The same SNAT, DNAT and VNF tables, and the same NAT fields of the interfaces. -/
structure SameNat (c c' : Config) : Prop where
  snat : c'.nat.snatTbl = c.nat.snatTbl
  dnat : c'.nat.dnatTbl = c.nat.dnatTbl
  handles : c'.vnf.handleTbl = c.vnf.handleTbl
  values : c'.vnf.valueTbl = c.vnf.valueTbl
  natIp : ∀ p, (c'.port p).iface.natIp = (c.port p).iface.natIp
  natMinPort : ∀ p, (c'.port p).iface.natMinPort = (c.port p).iface.natMinPort
  natMaxPort : ∀ p, (c'.port p).iface.natMaxPort = (c.port p).iface.natMaxPort

/-- A request that succeeds leaves a state that can be undone, and one that fails changes nothing. -/
structure RequestOk (c : Config) (undo : Ip6 → Config → Prop) (r : Resp × Config) : Prop where
  done : ∀ ul c', r = (.ulAddr ul, c') → undo ul c'
  fails : ∀ er c', r = (.err er, c') → SameNat c c'

/-- `GetVip` gives the address back, and `DeleteVip` leads back to the tables of `c`. -/
def VipUndo (c : Config) (id : Id64) (addr : IpAddr) (ul : Ip6) (c' : Config) : Prop :=
  ∃ vip, addr = .v4 vip ∧ dpProcessGetVip c' id = .vip vip ul ∧
    ∃ c'' fs, dpProcessDeleteVip c' id = (.addr vip, c'', fs) ∧ SameNat c c''

/-- `GetNat` gives the address and the ports back, and `DeleteNat` leads back to the tables of `c`. -/
def NatUndo (c : Config) (id : Id64) (addr : IpAddr) (minPort maxPort : UInt16) (ul : Ip6) (c' : Config) : Prop :=
  ∃ natIp, addr = .v4 natIp ∧ dpProcessGetNat c' id = .nat natIp minPort maxPort ul ∧
    ∃ c'' fs, dpProcessDeleteNat c' id = (.addr natIp, c'', fs) ∧ SameNat c c''

/-! ## The SNAT entry -/

section Snat

variable {cf : Conf} {e : Env} {s s' : NatState} {ip addr : Ip4} {vni : Vni} {ul : Ip6} {lo hi : UInt16} {d : SnatData}

/-- The SNAT entry of an interface survives a VIP that comes and goes: there is none, or a NAT range keeps it. -/
def VipPasses (s : NatState) (ip : Ip4) (vni : Vni) (ul : Ip6) : Prop :=
  match dpGetIfaceSnatData s ip vni with
  | none => True
  | some d => d.natIp ≠ 0 ∧ d.ulVipIp6 = ul

/-- The SNAT entry of an interface survives a NAT range that comes and goes: there is none, or a VIP keeps it. -/
def NatPasses (s : NatState) (ip : Ip4) (vni : Vni) (ul : Ip6) : Prop :=
  match dpGetIfaceSnatData s ip vni with
  | none => True
  | some d => d.vipIp ≠ 0 ∧ d.natMinPort = 0 ∧ d.natMaxPort = 0 ∧ d.ulNatIp6 = ul

/-- An entry that is created has neither address. -/
theorem dpGetOrCreateSnatData_cases (h : dpGetOrCreateSnatData e s ip vni = some d) :
    dpGetIfaceSnatData s ip vni = some d ∨ (dpGetIfaceSnatData s ip vni = none ∧ d = {}) := by
  unfold dpGetOrCreateSnatData at h
  cases hd : dpGetIfaceSnatData s ip vni with
  | some d' =>
    rw [hd] at h
    exact .inl h
  | none =>
    rw [hd] at h
    dsimp only at h
    split at h
    · exact .inr ⟨rfl, (Option.some.inj h).symm⟩
    · cases h

/-- The SNAT entry takes a VIP. -/
theorem dpSetIfaceVipIp_free (hd : dpGetOrCreateSnatData e s ip vni = some d) (hfree : d.vipIp = 0) :
    dpSetIfaceVipIp e s ip addr vni ul =
      (none, { s with snatTbl := s.snatTbl.add ⟨ip, vni⟩ { d with vipIp := addr, ulVipIp6 := ul } }) := by
  simp [dpSetIfaceVipIp, hd, hfree]

/-- The SNAT entry does not take a VIP. -/
theorem dpSetIfaceVipIp_refused (h : ∀ d, dpGetOrCreateSnatData e s ip vni = some d → d.vipIp ≠ 0) :
    ∃ r, dpSetIfaceVipIp e s ip addr vni ul = (some r, s) := by
  unfold dpSetIfaceVipIp
  cases hd : dpGetOrCreateSnatData e s ip vni with
  | none => exact ⟨_, rfl⟩
  | some d => exact ⟨_, if_pos (h d hd)⟩

/-- The SNAT entry takes a NAT range. -/
theorem dpSetIfaceNatIp_free (hd : dpGetOrCreateSnatData e s ip vni = some d) (hfree : d.natIp = 0) :
    dpSetIfaceNatIp e s ip addr vni lo hi ul =
      (none, { s with
        snatTbl := s.snatTbl.add ⟨ip, vni⟩
          { d with natIp := addr, natMinPort := lo, natMaxPort := hi, ulNatIp6 := ul } }) := by
  simp [dpSetIfaceNatIp, hd, hfree]

/-- The SNAT entry does not take a NAT range. -/
theorem dpSetIfaceNatIp_refused (h : ∀ d, dpGetOrCreateSnatData e s ip vni = some d → d.natIp ≠ 0) :
    ∃ r, dpSetIfaceNatIp e s ip addr vni lo hi ul = (some r, s) := by
  unfold dpSetIfaceNatIp
  cases hd : dpGetOrCreateSnatData e s ip vni with
  | none => exact ⟨_, rfl⟩
  | some d => exact ⟨_, if_pos (h d hd)⟩

/-- When `dp_del_iface_vip_ip` takes back what `dp_set_iface_vip_ip` did. -/
theorem dpDelIfaceVipIp_undo (hd : dpGetOrCreateSnatData e s ip vni = some d) (hfree : d.vipIp = 0)
    (hs : s'.snatTbl = s.snatTbl.add ⟨ip, vni⟩ { d with vipIp := addr, ulVipIp6 := ul }) :
    (dpDelIfaceVipIp s' ip vni).2.snatTbl = s.snatTbl ↔ VipPasses s ip vni ul := by
  unfold dpDelIfaceVipIp VipPasses dpGetIfaceSnatData
  rw [hs, Table.add_self]
  obtain hold | ⟨hnone, rfl⟩ := dpGetOrCreateSnatData_cases hd
  · unfold dpGetIfaceSnatData at hold
    rw [hold]
    dsimp only
    split
    next hnat =>
      rw [Table.add_add, Table.add_eq_self_iff, hold, Option.some.injEq]
      constructor
      · intro heq
        exact ⟨hnat, congrArg SnatData.ulVipIp6 heq⟩
      · rintro ⟨-, rfl⟩
        rw [← hfree]
    next hnat =>
      rw [Table.del_add, Table.del_eq_self_iff, hold]
      exact ⟨fun h => (by cases h), fun h => absurd h.1 hnat⟩
  · unfold dpGetIfaceSnatData at hnone
    rw [hnone]
    simp [Table.del_add, Table.del_of_none hnone]

/-- When `dp_del_iface_nat_ip` takes back what `dp_set_iface_nat_ip` did. -/
theorem dpDelIfaceNatIp_undo (hd : dpGetOrCreateSnatData e s ip vni = some d) (hfree : d.natIp = 0)
    (hs : s'.snatTbl = s.snatTbl.add ⟨ip, vni⟩
      { d with natIp := addr, natMinPort := lo, natMaxPort := hi, ulNatIp6 := ul }) :
    (dpDelIfaceNatIp s' ip vni).2.snatTbl = s.snatTbl ↔ NatPasses s ip vni ul := by
  unfold dpDelIfaceNatIp NatPasses dpGetIfaceSnatData
  rw [hs, Table.add_self]
  obtain hold | ⟨hnone, rfl⟩ := dpGetOrCreateSnatData_cases hd
  · unfold dpGetIfaceSnatData at hold
    rw [hold]
    dsimp only
    split
    next hvip =>
      rw [Table.add_add, Table.add_eq_self_iff, hold, Option.some.injEq]
      constructor
      · intro heq
        exact ⟨hvip, congrArg SnatData.natMinPort heq, congrArg SnatData.natMaxPort heq,
          congrArg SnatData.ulNatIp6 heq⟩
      · rintro ⟨-, hlo, hhi, rfl⟩
        cases d
        cases hfree
        cases hlo
        cases hhi
        rfl
    next hvip =>
      rw [Table.del_add, Table.del_eq_self_iff, hold]
      exact ⟨fun h => (by cases h), fun h => absurd h.1 hvip⟩
  · unfold dpGetIfaceSnatData at hnone
    rw [hnone]
    simp [Table.del_add, Table.del_of_none hnone]

end Snat

@[simp] theorem dpDelIfaceVipIp_dnat (s : NatState) (ip : Ip4) (vni : Vni) :
    (dpDelIfaceVipIp s ip vni).2.dnatTbl = s.dnatTbl := by
  unfold dpDelIfaceVipIp
  split
  · rfl
  · split <;> rfl

@[simp] theorem dpDelIfaceNatIp_dnat (s : NatState) (ip : Ip4) (vni : Vni) :
    (dpDelIfaceNatIp s ip vni).2.dnatTbl = s.dnatTbl := by
  unfold dpDelIfaceNatIp
  split
  · rfl
  · split <;> rfl

/-! ## The DNAT entry -/

section Dnat

variable {s s' : NatState} {ip : Ip4} {vni : Vni}

/-- The three ways `dp_set_dnat_ip` ends. -/
theorem dpSetDnatIp_cases (e : Env) (s : NatState) (ip a : Ip4) (vni : Vni) :
    ((dpGetDnatData s ip vni).isSome = true ∧ dpSetDnatIp e s ip a vni = (some .dnatExists, s)) ∨
      (dpGetDnatData s ip vni = none ∧ e.ok .dnatAdd = true ∧
        dpSetDnatIp e s ip a vni = (none, { s with dnatTbl := s.dnatTbl.add ⟨ip, vni⟩ a })) ∨
      (dpGetDnatData s ip vni = none ∧ e.ok .dnatAdd = false ∧ dpSetDnatIp e s ip a vni = (some .dnatCreate, s)) := by
  unfold dpSetDnatIp
  cases dpGetDnatData s ip vni with
  | some _ => simp
  | none => cases e.ok .dnatAdd <;> simp

/-- When `dp_del_vip_from_dnat` takes back what `dp_set_dnat_ip` did for a shared address: the entry was there before
exactly if a neighbour keeps it. -/
theorem dpDelVipFromDnat_undo {k : NatKey} (hk : k = ⟨ip, vni⟩) (hneigh : s'.natHeadp = s.natHeadp)
    (hd : s'.dnatTbl = match dpGetDnatData s ip vni with
      | some _ => s.dnatTbl
      | none => s.dnatTbl.add k 0) :
    (dpDelVipFromDnat s' ip vni).dnatTbl = s.dnatTbl ↔
      ((dpGetDnatData s ip vni).isSome = true ↔ s.natHeadp.any (dpIsNetworkNatIp · ip vni) = true) := by
  subst hk
  unfold dpDelVipFromDnat dpDelDnatIp
  unfold dpGetDnatData at hd ⊢
  rw [hneigh]
  cases hold : s.dnatTbl ⟨ip, vni⟩ with
  | some a =>
    rw [hold] at hd
    split
    next hn => simp [hd, hn]
    next hn => simp [hd, hn, Table.del_eq_self_iff, hold]
  | none =>
    rw [hold] at hd
    split
    next hn => simp [hd, hn, Table.add_eq_self_iff, hold]
    next hn => simp [hd, hn, Table.del_add, Table.del_of_none hold]

end Dnat

/-! ## The requests -/

section Requests

variable {cf : Conf} {e : Env} {c c' : Config} {id : Id64} {p : PortId} {undo : Ip6 → Config → Prop}

theorem requestOk_err {er : Ret} : RequestOk c undo (.err er, c') ↔ SameNat c c' := by
  constructor
  · exact fun h => h.fails er c' rfl
  · intro h
    refine ⟨fun ul c'' heq => ?_, fun er' c'' heq => ?_⟩
    · cases heq
    · cases heq
      exact h

theorem requestOk_ulAddr {ul : Ip6} : RequestOk c undo (.ulAddr ul, c') ↔ undo ul c' := by
  constructor
  · exact fun h => h.done ul c' rfl
  · intro h
    refine ⟨fun ul' c'' heq => ?_, fun er c'' heq => ?_⟩
    · cases heq
      exact h
    · cases heq

/-- Where only the tables differ. -/
theorem sameNat_iff {x : VnfState} {n : NatState} : SameNat c { c with vnf := x, nat := n } ↔
    n.snatTbl = c.nat.snatTbl ∧ n.dnatTbl = c.nat.dnatTbl ∧ x.handleTbl = c.vnf.handleTbl ∧
      x.valueTbl = c.vnf.valueTbl := by
  constructor
  · exact fun h => ⟨h.snat, h.dnat, h.handles, h.values⟩
  · rintro ⟨hs, hd, hh, hv⟩
    exact ⟨hs, hd, hh, hv, fun _ => rfl, fun _ => rfl, fun _ => rfl⟩

/-- A state whose VNF was entered and deleted again: an earlier entry of the same value is lost. -/
theorem sameNat_undone {x : VnfState} {n : NatState} {v : Vnf} (hh : x.handleTbl = c.vnf.handleTbl)
    (hv : x.valueTbl = c.vnf.valueTbl.del v) :
    SameNat c { c with vnf := x, nat := n } ↔
      c.vnf.valueTbl v = none ∧ n.snatTbl = c.nat.snatTbl ∧ n.dnatTbl = c.nat.dnatTbl := by
  rw [sameNat_iff, hh, hv, Table.del_eq_self_iff]
  tauto

/-- What a `CreateVip` that gets as far as its VNF needs to be undone. -/
structure VipReversible (e : Env) (c : Config) (p : PortId) (vip : Ip4) (ul : Ip6) : Prop where
  /-- No VNF of a VIP is left for the port. -/
  vnf : c.vnf.valueTbl (publicVnf .vip p (c.port p).iface.vni) = none
  /-- An SNAT entry that takes the VIP can give it back, and a request that succeeds has an address. -/
  snat : e.ok .vnfValueAdd = true →
    ∀ d, dpGetOrCreateSnatData e c.nat (c.port p).iface.ownIp (c.port p).iface.vni = some d → d.vipIp = 0 →
      VipPasses c.nat (c.port p).iface.ownIp (c.port p).iface.vni ul ∧
        (dpGetDnatData c.nat vip (c.port p).iface.vni = none → e.ok .dnatAdd = true → vip ≠ 0)

/-- Where the SNAT entry takes the VIP. -/
theorem vipReversible_iff {vip : Ip4} {ul : Ip6} {d : SnatData} (hadd : e.ok .vnfValueAdd = true)
    (hd : dpGetOrCreateSnatData e c.nat (c.port p).iface.ownIp (c.port p).iface.vni = some d) (hfree : d.vipIp = 0) :
    VipReversible e c p vip ul ↔ c.vnf.valueTbl (publicVnf .vip p (c.port p).iface.vni) = none ∧
      VipPasses c.nat (c.port p).iface.ownIp (c.port p).iface.vni ul ∧
      (dpGetDnatData c.nat vip (c.port p).iface.vni = none → e.ok .dnatAdd = true → vip ≠ 0) := by
  constructor
  · exact fun h => ⟨h.vnf, h.snat hadd d hd hfree⟩
  · exact fun h => ⟨h.1, fun _ _ _ _ => h.2⟩

/-- After a `CreateVip` that succeeded. -/
theorem vipUndo_iff {x : VnfState} {n : NatState} {vip : Ip4} {ul : Ip6} {d : SnatData}
    (hp : c.ifaceIdTable id = some p)
    (hh : (dpDelVnf x ul).2.handleTbl = c.vnf.handleTbl)
    (hv : (dpDelVnf x ul).2.valueTbl = c.vnf.valueTbl.del (publicVnf .vip p (c.port p).iface.vni))
    (hd : dpGetOrCreateSnatData e c.nat (c.port p).iface.ownIp (c.port p).iface.vni = some d) (hfree : d.vipIp = 0)
    (hs : n.snatTbl = c.nat.snatTbl.add ⟨(c.port p).iface.ownIp, (c.port p).iface.vni⟩
      { d with vipIp := vip, ulVipIp6 := ul })
    (hdnone : dpGetDnatData c.nat vip (c.port p).iface.vni = none)
    (hdn : n.dnatTbl = c.nat.dnatTbl.add ⟨vip, (c.port p).iface.vni⟩ (c.port p).iface.ownIp) :
    VipUndo c id (.v4 vip) ul { c with vnf := x, nat := n } ↔
      c.vnf.valueTbl (publicVnf .vip p (c.port p).iface.vni) = none ∧
        VipPasses c.nat (c.port p).iface.ownIp (c.port p).iface.vni ul ∧ vip ≠ 0 := by
  have hat : dpGetIfaceSnatData n (c.port p).iface.ownIp (c.port p).iface.vni =
      some { d with vipIp := vip, ulVipIp6 := ul } := by
    unfold dpGetIfaceSnatData
    rw [hs, Table.add_self]
  by_cases hzero : vip = 0
  · refine ⟨fun ⟨_, _, hget, _⟩ => ?_, fun h => absurd hzero h.2.2⟩
    simp [dpProcessGetVip, hp, hat, hzero] at hget
  · have hget : dpProcessGetVip { c with vnf := x, nat := n } id = .vip vip ul := by
      simp only [dpProcessGetVip, hp, hat, if_neg hzero]
    have hdel : dpProcessDeleteVip { c with vnf := x, nat := n } id =
        (.addr vip, { c with
          vnf := (dpDelVnf x ul).2
          nat := (dpDelIfaceVipIp (dpDelDnatIp n vip (c.port p).iface.vni) (c.port p).iface.ownIp
            (c.port p).iface.vni).2 }, [.nat p .vip]) := by
      simp only [dpProcessDeleteVip, hp, hat, if_neg hzero]
    have hsnat : (dpDelIfaceVipIp (dpDelDnatIp n vip (c.port p).iface.vni) (c.port p).iface.ownIp
        (c.port p).iface.vni).2.snatTbl = c.nat.snatTbl ↔
        VipPasses c.nat (c.port p).iface.ownIp (c.port p).iface.vni ul := dpDelIfaceVipIp_undo hd hfree hs
    have hdnat : (dpDelIfaceVipIp (dpDelDnatIp n vip (c.port p).iface.vni) (c.port p).iface.ownIp
        (c.port p).iface.vni).2.dnatTbl = c.nat.dnatTbl := by
      rw [dpDelIfaceVipIp_dnat]
      exact (congrArg (Table.del · _) hdn).trans ((Table.del_add ..).trans (Table.del_of_none hdnone))
    constructor
    · rintro ⟨a, ha, -, c'', fs, hc, hsame⟩
      rw [hdel] at hc
      obtain ⟨-, rfl, -⟩ : _ ∧ _ ∧ _ := by simpa only [Prod.mk.injEq] using hc
      rw [sameNat_undone hh hv, hsnat] at hsame
      exact ⟨hsame.1, hsame.2.1, hzero⟩
    · rintro ⟨hval, hpass, -⟩
      exact ⟨vip, rfl, hget, _, _, hdel, (sameNat_undone hh hv).mpr ⟨hval, hsnat.mpr hpass, hdnat⟩⟩

/-- When a `CreateVip` can be undone, or has changed nothing. -/
theorem createVip_iff (hp : c.ifaceIdTable id = some p) (vip : Ip4) :
    RequestOk c (VipUndo c id (.v4 vip)) (dpProcessCreateVip cf e c id (.v4 vip)) ↔
      (vnfRefused cf e c.vnf = false → VipReversible e c p vip (dpGenerateUnderlayIpv6 cf e c.vnf).1) := by
  have hul : (dpCreateVnfRoute cf e c.vnf (publicVnf .vip p (c.port p).iface.vni)).2.1 =
      (dpGenerateUnderlayIpv6 cf e c.vnf).1 := rfl
  simp only [dpProcessCreateVip, hp]
  obtain ⟨href, hf, hh, hv⟩ | ⟨href, hadd, hok, -, -, -⟩ | ⟨href, hadd, hf, hh, hv⟩ :=
    dpCreateVnfRoute_cases cf e c.vnf (publicVnf .vip p (c.port p).iface.vni)
  · rw [hf, href]
    exact ⟨fun _ h => (by cases h), fun _ => requestOk_err.mpr (sameNat_iff.mpr ⟨rfl, rfl, hh, hv⟩)⟩
  · obtain ⟨hh, hv⟩ := dpCreateVnfRoute_undo hok
    rw [hok, href, hul]
    rw [hul] at hh hv
    simp only [Bool.not_true, Bool.false_eq_true, if_false, true_implies]
    by_cases hset : ∃ d, dpGetOrCreateSnatData e c.nat (c.port p).iface.ownIp (c.port p).iface.vni =
      some d ∧ d.vipIp = 0
    · obtain ⟨d, hd, hfree⟩ := hset
      rw [dpSetIfaceVipIp_free hd hfree, vipReversible_iff hadd hd hfree]
      dsimp only
      obtain ⟨hsome, hdn⟩ | ⟨hnone, hok', hdn⟩ | ⟨-, hno, hdn⟩ := dpSetDnatIp_cases e
        { c.nat with
          snatTbl := c.nat.snatTbl.add ⟨(c.port p).iface.ownIp, (c.port p).iface.vni⟩
            { d with vipIp := vip, ulVipIp6 := (dpGenerateUnderlayIpv6 cf e c.vnf).1 } }
        vip (c.port p).iface.ownIp (c.port p).iface.vni
      · have hne : dpGetDnatData c.nat vip (c.port p).iface.vni ≠ none := Option.isSome_iff_ne_none.mp hsome
        rw [hdn, requestOk_err, sameNat_undone hh hv, dpDelIfaceVipIp_undo hd hfree rfl]
        simp [hne]
      · rw [hdn, requestOk_ulAddr, vipUndo_iff hp hh hv hd hfree rfl hnone rfl]
        simp [hok', show dpGetDnatData c.nat vip (c.port p).iface.vni = none from hnone]
      · rw [hdn, requestOk_err, sameNat_undone hh hv, dpDelIfaceVipIp_undo hd hfree rfl]
        simp [hno]
    · have hno : ∀ d, dpGetOrCreateSnatData e c.nat (c.port p).iface.ownIp (c.port p).iface.vni = some d →
          d.vipIp ≠ 0 :=
        fun d hd hzero => hset ⟨d, hd, hzero⟩
      obtain ⟨r, hr⟩ := dpSetIfaceVipIp_refused hno
      rw [hr]
      dsimp only
      rw [requestOk_err, sameNat_undone hh hv]
      exact ⟨fun h => ⟨h.1, fun _ d hd hzero => absurd hzero (hno d hd)⟩, fun h => ⟨h.vnf, rfl, rfl⟩⟩
  · rw [hf, href]
    simp only [Bool.not_false, if_true, true_implies]
    rw [requestOk_err, sameNat_undone hh hv]
    refine ⟨fun h => ⟨h.1, fun hadd' => ?_⟩, fun h => ⟨h.vnf, rfl, rfl⟩⟩
    rw [hadd] at hadd'
    cases hadd'

/-! ### NAT ranges -/

/-- What a `CreateNat` that succeeds needs to be undone: an address, an interface without NAT fields, and a DNAT entry
that was there before exactly if a neighbour keeps it. -/
structure NatClean (c : Config) (p : PortId) (natIp : Ip4) : Prop where
  addr : natIp ≠ 0
  ip : (c.port p).iface.natIp = 0
  minPort : (c.port p).iface.natMinPort = 0
  maxPort : (c.port p).iface.natMaxPort = 0
  dnat : (dpGetDnatData c.nat natIp (c.port p).iface.vni).isSome = true ↔
    c.nat.natHeadp.any (dpIsNetworkNatIp · natIp (c.port p).iface.vni) = true

/-- What a `CreateNat` that gets as far as its VNF needs to be undone. -/
structure NatReversible (e : Env) (c : Config) (p : PortId) (natIp : Ip4) (ul : Ip6) : Prop where
  /-- No VNF of a NAT range is left for the port. -/
  vnf : c.vnf.valueTbl (publicVnf .nat p (c.port p).iface.vni) = none
  /-- An SNAT entry that takes the range can give it back, and a request that succeeds can be undone. -/
  snat : e.ok .vnfValueAdd = true →
    ∀ d, dpGetOrCreateSnatData e c.nat (c.port p).iface.ownIp (c.port p).iface.vni = some d → d.natIp = 0 →
      NatPasses c.nat (c.port p).iface.ownIp (c.port p).iface.vni ul ∧
        ((dpGetDnatData c.nat natIp (c.port p).iface.vni).isSome = true ∨ e.ok .dnatAdd = true → NatClean c p natIp)

/-- Where the SNAT entry takes the range. -/
theorem natReversible_iff {natIp : Ip4} {ul : Ip6} {d : SnatData} (hadd : e.ok .vnfValueAdd = true)
    (hd : dpGetOrCreateSnatData e c.nat (c.port p).iface.ownIp (c.port p).iface.vni = some d) (hfree : d.natIp = 0) :
    NatReversible e c p natIp ul ↔ c.vnf.valueTbl (publicVnf .nat p (c.port p).iface.vni) = none ∧
      NatPasses c.nat (c.port p).iface.ownIp (c.port p).iface.vni ul ∧
      ((dpGetDnatData c.nat natIp (c.port p).iface.vni).isSome = true ∨ e.ok .dnatAdd = true → NatClean c p natIp) := by
  constructor
  · exact fun h => ⟨h.vnf, h.snat hadd d hd hfree⟩
  · exact fun h => ⟨h.1, fun _ _ _ _ => h.2⟩

/-- The NAT fields of the interface are set and cleared again. -/
theorem sameNat_cleared {x : VnfState} {n : NatState} {i : Iface} (hip : i.natIp = 0) (hlo : i.natMinPort = 0)
    (hhi : i.natMaxPort = 0) {pt : PortId → Port} (hpt : ∀ q, q ≠ p → pt q = c.port q) (hp : (pt p).iface = i) :
    SameNat c { c with vnf := x, nat := n, port := pt } ↔ SameNat c { c with vnf := x, nat := n } ∧
      (c.port p).iface.natIp = 0 ∧ (c.port p).iface.natMinPort = 0 ∧ (c.port p).iface.natMaxPort = 0 := by
  constructor
  · intro h
    refine ⟨sameNat_iff.mpr ⟨h.snat, h.dnat, h.handles, h.values⟩, ?_, ?_, ?_⟩
    · rw [← h.natIp p, ← hip, ← hp]
    · rw [← h.natMinPort p, ← hlo, ← hp]
    · rw [← h.natMaxPort p, ← hhi, ← hp]
  · rintro ⟨h, hip', hlo', hhi'⟩
    refine ⟨h.snat, h.dnat, h.handles, h.values, fun q => ?_, fun q => ?_, fun q => ?_⟩
    all_goals
      dsimp only
      by_cases hq : q = p
      · subst hq
        rw [hp]
        simp only [*]
      · rw [hpt q hq]

/-- After a `CreateNat` that succeeded. -/
theorem natUndo_iff {x : VnfState} {n : NatState} {natIp : Ip4} {lo hi : UInt16} {ul : Ip6} {d : SnatData}
    (hp : c.ifaceIdTable id = some p)
    (hh : (dpDelVnf x ul).2.handleTbl = c.vnf.handleTbl)
    (hv : (dpDelVnf x ul).2.valueTbl = c.vnf.valueTbl.del (publicVnf .nat p (c.port p).iface.vni))
    (hd : dpGetOrCreateSnatData e c.nat (c.port p).iface.ownIp (c.port p).iface.vni = some d) (hfree : d.natIp = 0)
    (hs : n.snatTbl = c.nat.snatTbl.add ⟨(c.port p).iface.ownIp, (c.port p).iface.vni⟩
      { d with natIp := natIp, natMinPort := lo, natMaxPort := hi, ulNatIp6 := ul })
    (hneigh : n.natHeadp = c.nat.natHeadp)
    (hdn : n.dnatTbl = match dpGetDnatData c.nat natIp (c.port p).iface.vni with
      | some _ => c.nat.dnatTbl
      | none => c.nat.dnatTbl.add ⟨natIp, (c.port p).iface.vni⟩ 0) :
    NatUndo c id (.v4 natIp) lo hi ul
        ({ c with vnf := x, nat := n }.setIface p ((c.port p).iface.setNat natIp lo hi)) ↔
      c.vnf.valueTbl (publicVnf .nat p (c.port p).iface.vni) = none ∧
        NatPasses c.nat (c.port p).iface.ownIp (c.port p).iface.vni ul ∧ NatClean c p natIp := by
  have hat : dpGetIfaceSnatData n (c.port p).iface.ownIp (c.port p).iface.vni =
      some { d with natIp := natIp, natMinPort := lo, natMaxPort := hi, ulNatIp6 := ul } := by
    unfold dpGetIfaceSnatData
    rw [hs, Table.add_self]
  have hiface : (Function.update c.port p { c.port p with iface := (c.port p).iface.setNat natIp lo hi } p).iface =
      (c.port p).iface.setNat natIp lo hi := by rw [Function.update_self]
  by_cases hzero : natIp = 0
  · refine ⟨fun ⟨_, _, hget, _⟩ => ?_, fun h => absurd hzero h.2.2.addr⟩
    simp [dpProcessGetNat, Config.setIface, Iface.setNat, hp, hat, hzero] at hget
  · have hget : dpProcessGetNat ({ c with vnf := x, nat := n }.setIface p ((c.port p).iface.setNat natIp lo hi)) id =
        .nat natIp lo hi ul := by
      simp only [dpProcessGetNat, Config.setIface, hp, hiface]
      simp only [Iface.setNat, hat, if_neg hzero]
    have hdel : dpProcessDeleteNat ({ c with vnf := x, nat := n }.setIface p ((c.port p).iface.setNat natIp lo hi)) id =
        (.addr natIp, { c with
          vnf := (dpDelVnf x ul).2
          nat := (dpDelIfaceNatIp (dpDelVipFromDnat n natIp (c.port p).iface.vni) (c.port p).iface.ownIp
            (c.port p).iface.vni).2
          port := Function.update c.port p { c.port p with iface := (c.port p).iface.setNat 0 0 0 } },
          [.nat p .networkLocal]) := by
      simp only [dpProcessDeleteNat, Config.setIface, hp, hiface]
      simp only [Iface.setNat, hat, if_neg hzero, Function.update_self, Function.update_idem]
    have hsnat : (dpDelIfaceNatIp (dpDelVipFromDnat n natIp (c.port p).iface.vni) (c.port p).iface.ownIp
        (c.port p).iface.vni).2.snatTbl = c.nat.snatTbl ↔
        NatPasses c.nat (c.port p).iface.ownIp (c.port p).iface.vni ul :=
      dpDelIfaceNatIp_undo hd hfree (by rw [dpDelVipFromDnat_snat, hs])
    have hdnat : (dpDelIfaceNatIp (dpDelVipFromDnat n natIp (c.port p).iface.vni) (c.port p).iface.ownIp
        (c.port p).iface.vni).2.dnatTbl = c.nat.dnatTbl ↔
        ((dpGetDnatData c.nat natIp (c.port p).iface.vni).isSome = true ↔
          c.nat.natHeadp.any (dpIsNetworkNatIp · natIp (c.port p).iface.vni) = true) := by
      rw [dpDelIfaceNatIp_dnat]
      exact dpDelVipFromDnat_undo rfl hneigh hdn
    have hports : ∀ q, q ≠ p →
        Function.update c.port p { c.port p with iface := (c.port p).iface.setNat 0 0 0 } q = c.port q :=
      fun q hq => Function.update_of_ne hq ..
    have hcleared := fun y m => sameNat_cleared (c := c) (p := p) (x := y) (n := m)
      (i := (c.port p).iface.setNat 0 0 0) rfl rfl rfl hports (by rw [Function.update_self])
    constructor
    · rintro ⟨a, ha, -, c'', fs, hc, hsame⟩
      rw [hdel] at hc
      obtain ⟨-, rfl, -⟩ : _ ∧ _ ∧ _ := by simpa only [Prod.mk.injEq] using hc
      rw [hcleared, sameNat_undone hh hv, hsnat, hdnat] at hsame
      obtain ⟨⟨hval, hpass, hd'⟩, h1, h2, h3⟩ := hsame
      exact ⟨hval, hpass, hzero, h1, h2, h3, hd'⟩
    · rintro ⟨hval, hpass, -, h1, h2, h3, hd'⟩
      refine ⟨natIp, rfl, hget, _, _, hdel, (hcleared ..).mpr ⟨?_, h1, h2, h3⟩⟩
      exact (sameNat_undone hh hv).mpr ⟨hval, hsnat.mpr hpass, hdnat.mpr hd'⟩

/-- When a `CreateNat` can be undone, or has changed nothing. -/
theorem createNat_iff (hp : c.ifaceIdTable id = some p) (natIp : Ip4) (lo hi : UInt16) :
    RequestOk c (NatUndo c id (.v4 natIp) lo hi) (dpProcessCreateNat cf e c id (.v4 natIp) lo hi) ↔
      (vnfRefused cf e c.vnf = false → NatReversible e c p natIp (dpGenerateUnderlayIpv6 cf e c.vnf).1) := by
  have hul : (dpCreateVnfRoute cf e c.vnf (publicVnf .nat p (c.port p).iface.vni)).2.1 =
      (dpGenerateUnderlayIpv6 cf e c.vnf).1 := rfl
  simp only [dpProcessCreateNat, hp]
  obtain ⟨href, hf, hh, hv⟩ | ⟨href, hadd, hok, -, -, -⟩ | ⟨href, hadd, hf, hh, hv⟩ :=
    dpCreateVnfRoute_cases cf e c.vnf (publicVnf .nat p (c.port p).iface.vni)
  · rw [hf, href]
    exact ⟨fun _ h => (by cases h), fun _ => requestOk_err.mpr (sameNat_iff.mpr ⟨rfl, rfl, hh, hv⟩)⟩
  · obtain ⟨hh, hv⟩ := dpCreateVnfRoute_undo hok
    rw [hok, href, hul]
    rw [hul] at hh hv
    simp only [Bool.not_true, Bool.false_eq_true, if_false, true_implies]
    by_cases hset : ∃ d, dpGetOrCreateSnatData e c.nat (c.port p).iface.ownIp (c.port p).iface.vni =
      some d ∧ d.natIp = 0
    · obtain ⟨d, hd, hfree⟩ := hset
      rw [dpSetIfaceNatIp_free hd hfree, natReversible_iff hadd hd hfree]
      dsimp only
      obtain ⟨hsome, hdn⟩ | ⟨hnone, hok', hdn⟩ | ⟨hnone, hno, hdn⟩ := dpSetDnatIp_cases e
        { c.nat with
          snatTbl := c.nat.snatTbl.add ⟨(c.port p).iface.ownIp, (c.port p).iface.vni⟩
            { d with
              natIp := natIp, natMinPort := lo, natMaxPort := hi, ulNatIp6 := (dpGenerateUnderlayIpv6 cf e c.vnf).1 } }
        natIp 0 (c.port p).iface.vni
      · obtain ⟨a, ha⟩ := Option.isSome_iff_exists.mp hsome
        replace ha : dpGetDnatData c.nat natIp (c.port p).iface.vni = some a := ha
        rw [hdn]
        refine requestOk_ulAddr.trans ((natUndo_iff hp hh hv hd hfree ?_ ?_ ?_).trans ?_)
        · rfl
        · rfl
        · rw [ha]
        · simp [ha]
      · replace hnone : dpGetDnatData c.nat natIp (c.port p).iface.vni = none := hnone
        rw [hdn]
        refine requestOk_ulAddr.trans ((natUndo_iff hp hh hv hd hfree ?_ ?_ ?_).trans ?_)
        · rfl
        · rfl
        · rw [hnone]
        · simp [hok']
      · replace hnone : dpGetDnatData c.nat natIp (c.port p).iface.vni = none := hnone
        rw [hdn]
        dsimp only
        rw [requestOk_err, sameNat_undone hh hv, dpDelIfaceNatIp_undo hd hfree rfl]
        simp [hno, hnone]
    · have hno : ∀ d, dpGetOrCreateSnatData e c.nat (c.port p).iface.ownIp (c.port p).iface.vni = some d →
          d.natIp ≠ 0 :=
        fun d hd hzero => hset ⟨d, hd, hzero⟩
      obtain ⟨r, hr⟩ := dpSetIfaceNatIp_refused hno
      rw [hr]
      dsimp only
      rw [requestOk_err, sameNat_undone hh hv]
      exact ⟨fun h => ⟨h.1, fun _ d hd hzero => absurd hzero (hno d hd)⟩, fun h => ⟨h.vnf, rfl, rfl⟩⟩
  · rw [hf, href]
    simp only [Bool.not_false, if_true, true_implies]
    rw [requestOk_err, sameNat_undone hh hv]
    refine ⟨fun h => ⟨h.1, fun hadd' => ?_⟩, fun h => ⟨h.vnf, rfl, rfl⟩⟩
    rw [hadd] at hadd'
    cases hadd'

/-- **VIP and NAT requests are invertible, and those that fail change nothing, exactly in these states.** -/
theorem nat_requests_iff (cf : Conf) (e : Env) (c : Config) (id : Id64) (addr : IpAddr) (minPort maxPort : UInt16) :
    (RequestOk c (VipUndo c id addr) (dpProcessCreateVip cf e c id addr) ↔
      ∀ p vip, c.ifaceIdTable id = some p → addr = .v4 vip → vnfRefused cf e c.vnf = false →
        VipReversible e c p vip (dpGenerateUnderlayIpv6 cf e c.vnf).1) ∧
    (RequestOk c (NatUndo c id addr minPort maxPort) (dpProcessCreateNat cf e c id addr minPort maxPort) ↔
      ∀ p natIp, c.ifaceIdTable id = some p → addr = .v4 natIp → vnfRefused cf e c.vnf = false →
        NatReversible e c p natIp (dpGenerateUnderlayIpv6 cf e c.vnf).1) := by
  cases hp : c.ifaceIdTable id with
  | none =>
    have hsame : SameNat c c := ⟨rfl, rfl, rfl, rfl, fun _ => rfl, fun _ => rfl, fun _ => rfl⟩
    simp [dpProcessCreateVip, dpProcessCreateNat, hp, requestOk_err, hsame]
  | some p =>
    cases addr with
    | v4 a =>
      refine ⟨(createVip_iff hp a).trans ⟨?_, fun h => h p a rfl rfl⟩,
        (createNat_iff hp a minPort maxPort).trans ⟨?_, fun h => h p a rfl rfl⟩⟩
      · rintro h q b hq hb
        cases hq
        cases hb
        exact h
      · rintro h q b hq hb
        cases hq
        cases hb
        exact h
    | v6 a =>
      have hsame : SameNat c c := ⟨rfl, rfl, rfl, rfl, fun _ => rfl, fun _ => rfl, fun _ => rfl⟩
      simp [dpProcessCreateVip, dpProcessCreateNat, hp, requestOk_err, hsame]

end Requests

/-- The first NAT range of an interface. -/
theorem nat_requests_first : ∃ s, run (ctlStep smallConf) (Ctl.init smallConf)
      (calls [.createInterface 2 1 100 0x0a000001 0 0 0]) = some s ∧
    RequestOk s.cfg (NatUndo s.cfg 1 (.v4 0x01020304) 100 200)
      (dpProcessCreateNat smallConf {} s.cfg 1 (.v4 0x01020304) 100 200) := by
  refine exists_some_imp (P := fun s => s.cfg.ifaceIdTable 1 = some 2 ∧
    s.cfg.vnf.valueTbl (publicVnf .nat 2 (s.cfg.port 2).iface.vni) = none ∧
    dpGetIfaceSnatData s.cfg.nat (s.cfg.port 2).iface.ownIp (s.cfg.port 2).iface.vni = none ∧
    (s.cfg.port 2).iface.natIp = 0 ∧ (s.cfg.port 2).iface.natMinPort = 0 ∧ (s.cfg.port 2).iface.natMaxPort = 0 ∧
    dpGetDnatData s.cfg.nat 0x01020304 (s.cfg.port 2).iface.vni = none ∧ s.cfg.nat.natHeadp = []) (by decide +kernel) ?_
  rintro s - ⟨hid, hvnf, hsnat, hip, hlo, hhi, hdnat, hneigh⟩
  refine (nat_requests_iff smallConf {} s.cfg 1 (.v4 0x01020304) 100 200).2.mpr fun p natIp hp haddr _ => ?_
  cases hid.symm.trans hp
  cases haddr
  refine ⟨hvnf, fun _ d _ _ => ⟨?_, fun _ => ⟨by decide, hip, hlo, hhi, ?_⟩⟩⟩
  · unfold NatPasses
    rw [hsnat]
    trivial
  · rw [hdnat, hneigh]
    simp

/-- Two interfaces share a NAT address: the second one comes and goes, and takes the DNAT entry of the first along. -/
theorem nat_requests_shared : ∃ s ul c' c'' fs, run (ctlStep smallConf) (Ctl.init smallConf)
      (calls [.createInterface 2 1 100 0x0a000001 0 0 0, .createInterface 3 2 100 0x0a000002 0 0 0,
        .createNat 1 (.v4 0x01020304) 100 200]) = some s ∧
    dpProcessCreateNat smallConf {} s.cfg 2 (.v4 0x01020304) 200 300 = (.ulAddr ul, c') ∧
    dpProcessDeleteNat c' 2 = (.addr 0x01020304, c'', fs) ∧
    s.cfg.nat.dnatTbl ⟨0x01020304, 100⟩ = some 0 ∧ c''.nat.dnatTbl ⟨0x01020304, 100⟩ = none := by
  have hrun : (run (ctlStep smallConf) (Ctl.init smallConf)
      (calls [.createInterface 2 1 100 0x0a000001 0 0 0, .createInterface 3 2 100 0x0a000002 0 0 0,
        .createNat 1 (.v4 0x01020304) 100 200])).any (fun s =>
      let r := dpProcessCreateNat smallConf {} s.cfg 2 (.v4 0x01020304) 200 300
      let d := dpProcessDeleteNat r.2 2
      decide (r.1 = .ulAddr (dpGenerateUnderlayIpv6 smallConf {} s.cfg.vnf).1 ∧ d.1 = .addr 0x01020304 ∧
        s.cfg.nat.dnatTbl ⟨0x01020304, 100⟩ = some 0 ∧ d.2.1.nat.dnatTbl ⟨0x01020304, 100⟩ = none)) = true := by
    decide +kernel
  obtain ⟨s, hs, h⟩ := (Option.any_eq_true _ _).mp hrun
  obtain ⟨hcreate, hdelete, hbefore, hafter⟩ := of_decide_eq_true h
  exact ⟨s, _, _, _, _, hs, Prod.ext hcreate rfl, Prod.ext hdelete rfl, hbefore, hafter⟩

end Dpservice
