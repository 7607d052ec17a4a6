import Dpservice.Lib.Inverse
import Dpservice.Control

/-!
# The two VNF tables

`vnf_handle_tbl` maps underlay addresses to VNFs, `vnf_value_tbl` maps VNFs back. The value of a VNF without a prefix
(an interface, a VIP, a NAT, a load balancer) does not tell two of them on the same port apart.

- `requestVnf` is the VNF that a request creates, `VnfChange` what the request then does to the two tables
  (`dpProcessRequest_vnf`);
- the tables stay inverse to each other along every run in which no request creates a VNF that the value table already
  has (`vnf_tables_inverse`); two load balancers in one VNI break it (`vnf_tables_second_lb`).
-/

namespace Dpservice

/-! ## What a request does to the tables -/

/-- What happens to the tables when a request creates the VNF `mk`, or none. -/
inductive VnfChange (cf : Conf) (e : Env) (s : VnfState) (mk : Option Vnf) (s' : VnfState) : Prop
  /-- Nothing. -/
  | same (hh : s'.handleTbl = s.handleTbl) (hv : s'.valueTbl = s.valueTbl)
  /-- An underlay address is deleted with its VNF. -/
  | deleted {ul : Ip6} {v : Vnf} (hul : s.handleTbl ul = some v) (hh : s'.handleTbl = s.handleTbl.del ul)
    (hv : s'.valueTbl = s.valueTbl.del v)
  /-- The VNF is entered under a new underlay address. -/
  | added {v : Vnf} {ul : Ip6} (hmk : mk = some v) (href : vnfRefused cf e s = false) (hul : s.handleTbl ul = none)
    (hh : s'.handleTbl = s.handleTbl.add ul v) (hv : s'.valueTbl = s.valueTbl.add v ul)
  /-- The VNF is taken back, and with it whatever the value table had for it. -/
  | lost {v : Vnf} (hmk : mk = some v) (href : vnfRefused cf e s = false) (hh : s'.handleTbl = s.handleTbl)
    (hv : s'.valueTbl = s.valueTbl.del v)

section Change

variable {cf : Conf} {e : Env} {c : Config} {s s' : VnfState} {mk : Option Vnf} {v : Vnf} {l : LbState} {r : Request}
  {o : Outcome}

theorem VnfChange.refl : VnfChange cf e s mk s := .same rfl rfl

/-- An underlay address is deleted. -/
theorem VnfChange.del (ul : Ip6) : VnfChange cf e s mk (dpDelVnf s ul).2 := by
  have hh := dpDelVnf_handle s ul
  have hv := dpDelVnf_value s ul
  cases hul : s.handleTbl ul with
  | none =>
    rw [hul] at hv
    exact .same (hh.trans (Table.del_of_none hul)) hv
  | some v =>
    rw [hul] at hv
    exact .deleted hul hh hv

theorem VnfChange.delByValue (v : Vnf) : VnfChange cf e s mk (dpDelVnfByValue s v).2 := by
  unfold dpDelVnfByValue
  split
  · exact .refl
  · exact .del _

/-- The VNF of the request is created, or not. -/
theorem VnfChange.create (hmk : mk = some v) : VnfChange cf e s mk (dpCreateVnfRoute cf e s v).2.2 := by
  rcases dpCreateVnfRoute_cases cf e s v with ⟨-, -, hh, hv⟩ | ⟨href, -, -, hul, hh, hv⟩ | ⟨href, -, -, hh, hv⟩
  · exact .same hh hv
  · exact .added hmk href hul hh hv
  · exact .lost hmk href hh hv

/-- The VNF of the request is created and deleted again. -/
theorem VnfChange.undo (hmk : mk = some v) (hok : (dpCreateVnfRoute cf e s v).1 = true) :
    VnfChange cf e s mk (dpDelVnf (dpCreateVnfRoute cf e s v).2.2 (dpCreateVnfRoute cf e s v).2.1).2 := by
  obtain ⟨hh, hv⟩ := dpCreateVnfRoute_undo hok
  rcases dpCreateVnfRoute_cases cf e s v with ⟨-, hf, -⟩ | ⟨href, -⟩ | ⟨-, -, hf, -⟩
  · rw [hok] at hf
    cases hf
  · exact .lost hmk href hh hv
  · rw [hok] at hf
    cases hf

/-- A VNF that is in the tables afterwards was there before, or is the one of the request. -/
theorem VnfChange.handle_old {ul : Ip6} (h : VnfChange cf e s mk s') (hf : s'.handleTbl ul = some v) :
    s.handleTbl ul = some v ∨ mk = some v := by
  cases h with
  | same hh _ | lost _ _ hh _ => exact .inl (hh ▸ hf)
  | deleted _ hh _ =>
    rw [hh] at hf
    exact .inl (Table.del_eq_some.mp hf).2
  | added hmk _ _ hh _ =>
    rw [hh] at hf
    obtain ⟨-, rfl⟩ | ⟨-, hf⟩ := Table.add_eq_some.mp hf
    · exact .inr hmk
    · exact .inl hf

theorem VnfChange.value_old {ul : Ip6} (h : VnfChange cf e s mk s') (hv : s'.valueTbl v = some ul) :
    s.valueTbl v = some ul ∨ mk = some v := by
  cases h with
  | same _ hh => exact .inl (hh ▸ hv)
  | deleted _ _ hh | lost _ _ _ hh =>
    rw [hh] at hv
    exact .inl (Table.del_eq_some.mp hv).2
  | added hmk _ _ _ hh =>
    rw [hh] at hv
    obtain ⟨rfl, -⟩ | ⟨-, hv⟩ := Table.add_eq_some.mp hv
    · exact .inr hmk
    · exact .inl hv

/-- **What a request does to the VNF tables.** -/
theorem dpProcessRequest_vnf (hc : PortsOk cf c) (h : dpProcessRequest cf e c l r = some o) :
    VnfChange cf e c.vnf (requestVnf cf e c r) o.cfg.vnf := by
  cases dpProcessRequest_cases h with
  | noVnf hmk => exact .create hmk
  | undone hmk hok => exact .undo hmk hok
  | ifaceUndone hname hal hok hun => exact (hun hc.uses).vnf ▸ .undo (by simp [requestVnf, hname, hal]) hok
  | ifaceCreated hname hal hok hcr => exact hcr.vnf ▸ .create (by simp [requestVnf, hname, hal])
  | ifaceDeleted hp hd => exact hd.vnf ▸ .del _
  | prefixUndone hp ht | prefixCreated hp ht => exact .create (by simpa [requestVnf, hp] using congrArg Prod.fst ht)
  | lbprefixCreated hp hno => exact .create (by simp [requestVnf, hp, hno])
  | prefixDeleted | lbprefixDeleted => exact .delByValue _
  | vipUndone hp hok | natUndone hp hok => exact .undo (by simp [requestVnf, hp]) hok
  | vipCreated hp | natCreated hp => exact .create (by simp [requestVnf, hp])
  | vipDeleted | natDeleted | lbDeleted => exact .del _
  | createLb hx =>
    cases hx with
    | noVnf _ _ hcfg | created _ _ _ _ _ hcfg =>
      rw [hcfg]
      exact .create rfl
    | refused hv _ _ hcfg | dead hv _ _ _ hcfg | noVni hv _ _ _ _ hcfg =>
      rw [hcfg]
      exact .undo rfl hv
  | _ => exact .refl

/-- The VNF of a request is the one of a new interface, one of an interface that is there, or a load balancer. -/
theorem requestVnf_owner (h : requestVnf cf e c r = some v) :
    (r.placesIface = true ∧ v.type = .interfaceIp ∧ ∃ name, cf.dpGetPortByName name = some v.portId) ∨
      (r.placesIface = false ∧ v.type ≠ .interfaceIp ∧ v.type ≠ .lb ∧
        ∃ id, c.ifaceIdTable id = some v.portId ∧ v.vni = (c.port v.portId).iface.vni) ∨
      (r.placesIface = false ∧ v.type = .lb ∧ v.portId = cf.pf0) := by
  unfold requestVnf at h
  split at h
  · split at h <;> try cases h
    next hp =>
      split at h <;> cases h
      exact .inl ⟨rfl, rfl, _, hp⟩
  · split at h <;> try cases h
    next hp =>
      split at h <;> cases h
      exact .inr (.inl ⟨rfl, nofun, nofun, _, hp, rfl⟩)
  · obtain ⟨p, hp, rfl⟩ := Option.map_eq_some_iff.mp h
    exact .inr (.inl ⟨rfl, nofun, nofun, _, hp, rfl⟩)
  · obtain ⟨p, hp, rfl⟩ := Option.map_eq_some_iff.mp h
    exact .inr (.inl ⟨rfl, nofun, nofun, _, hp, rfl⟩)
  · split at h <;> try cases h
    next hp =>
      split at h <;> cases h
      exact .inr (.inl ⟨rfl, nofun, nofun, _, hp, rfl⟩)
  · cases h
    exact .inr (.inr ⟨rfl, rfl, rfl⟩)
  · cases h

end Change

/-! ## Whole runs -/

/-- The request creates no VNF that the value table already has. -/
def VnfFresh (cf : Conf) (s : Ctl) (a : Call) : Prop :=
  ∀ v ∈ requestVnf cf a.2 s.cfg a.1, vnfRefused cf a.2 s.cfg.vnf = false → s.cfg.vnf.valueTbl v = none

instance (cf : Conf) (s : Ctl) (a : Call) : Decidable (VnfFresh cf s a) :=
  inferInstanceAs (Decidable (∀ v ∈ requestVnf cf a.2 s.cfg a.1, vnfRefused cf a.2 s.cfg.vnf = false → _))

theorem Inverse.change {cf : Conf} {e : Env} {s s' : VnfState} {mk : Option Vnf} (h : Inverse s.handleTbl s.valueTbl)
    (hfresh : ∀ v ∈ mk, vnfRefused cf e s = false → s.valueTbl v = none) (hch : VnfChange cf e s mk s') :
    Inverse s'.handleTbl s'.valueTbl := by
  cases hch with
  | same hh hv =>
    rw [hh, hv]
    exact h
  | deleted hul hh hv =>
    rw [hh, hv]
    exact h.del hul
  | added hmk href hul hh hv =>
    rw [hh, hv]
    exact h.add hul (hfresh _ hmk href)
  | lost hmk href hh hv =>
    rw [hh, hv, Table.del_of_none (hfresh _ hmk href)]
    exact h

/-- **The VNF tables are inverse to each other** in every state of a run whose requests never create a VNF that the
value table already has. -/
theorem vnf_tables_inverse {cf : Conf} {es : List Call} {s : Ctl}
    (hok : Along (ctlStep cf) (VnfFresh cf) (Ctl.init cf) es) (hrun : run (ctlStep cf) (Ctl.init cf) es = some s) :
    ∀ ul v, s.cfg.vnf.handleTbl ul = some v ↔ s.cfg.vnf.valueTbl v = some ul := by
  have hinv : PortsOk cf s.cfg ∧ Inverse s.cfg.vnf.handleTbl s.cfg.vnf.valueTbl := by
    refine run_invariant (I := fun s => PortsOk cf s.cfg ∧ Inverse s.cfg.vnf.handleTbl s.cfg.vnf.valueTbl) ?_
      ⟨.init cf, .empty⟩ hok hrun
    intro s a s' hs hfresh hstep
    obtain ⟨o, ho, hcfg, -⟩ := ctlStep_eq hstep
    rw [hcfg]
    exact ⟨hs.1.request ho, hs.2.change hfresh (dpProcessRequest_vnf hs.1 ho)⟩
  exact hinv.2.iff

/-- Interface 7 with a NAT, a VIP and an alias prefix; the VIP is deleted again. -/
def vnfSetup : List Request :=
  natSetup ++ [.createVip 7 (.v4 0x01020305), .createPrefix 7 (.v4 0x0a000100) 24, .deleteVip 7]

theorem vnf_tables_inverse_iface :
    Along (ctlStep smallConf) (VnfFresh smallConf) (Ctl.init smallConf) (calls vnfSetup) ∧
      ∃ s, run (ctlStep smallConf) (Ctl.init smallConf) (calls vnfSetup) = some s ∧
        ∀ ul v, s.cfg.vnf.handleTbl ul = some v ↔ s.cfg.vnf.valueTbl v = some ul := by
  have hok : Along (ctlStep smallConf) (VnfFresh smallConf) (Ctl.init smallConf) (calls vnfSetup) := by decide +kernel
  refine ⟨hok, exists_some_of (by decide) ?_⟩
  intro s hs
  exact vnf_tables_inverse hok hs

/-- Two load balancers in VNI 100: the first one keeps its underlay address, but the value table has only the second. -/
theorem vnf_tables_second_lb :
    ∃ s, run (ctlStep smallConf) (Ctl.init smallConf)
        (calls [.createLb 1 100 (.v4 0x0a000005) [], .createLb 2 100 (.v4 0x0a000006) []]) = some s ∧
      ∃ ul v, s.cfg.vnf.handleTbl ul = some v ∧ s.cfg.vnf.valueTbl v ≠ some ul := by
  refine exists_some_imp (P := fun s => s.cfg.vnf.handleTbl 1 = some ⟨.lb, 100, 0, .v4 0, 0⟩ ∧
    s.cfg.vnf.valueTbl ⟨.lb, 100, 0, .v4 0, 0⟩ ≠ some 1) (by decide) ?_
  intro s _ h
  exact ⟨1, _, h⟩

end Dpservice
