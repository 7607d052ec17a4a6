import Dpservice.Underlay
import Dpservice.VniCount

/-!
# Interfaces that could not be created

A `CreateInterface` that fails takes its steps back. What it takes back is described by the state it finds and not by
what it did: host routes that lead over the port are deleted whoever entered them, and a VNI that is released with its
last user takes all neighbour-NAT entries of that VNI with it.

- `ifaceVnfs_run`: in every run, the VNFs of interfaces are those of the ready ports;
- `SameAway`, `Building`: the steps of a creation only touch the two host routes;
- `TakenBack`: exactly what a creation leaves that failed after its VNI was set up;
- `create_interface_atomic_iff`: when a failed creation leaves everything as it was.
-/

namespace Dpservice

/-! ## The VNFs of interfaces -/

def IfaceVnfs (c : Config) : Prop :=
  ∀ ul v, c.vnf.handleTbl ul = some v → v.type = .interfaceIp →
    (c.port v.portId).iface.ready = true ∧ (c.port v.portId).iface.ulIpv6 = ul

section Vnfs

variable {cf : Conf} {e : Env} {c c' : Config} {s : LbState} {r : Request} {o : Outcome}

/-- **Every request keeps the VNFs of interfaces in order.** -/
theorem IfaceVnfs.request (hc : PortsOk cf c) (h : IfaceVnfs c) (ho : dpProcessRequest cf e c s r = some o) :
    IfaceVnfs o.cfg := by
  have hother : r.placesIface = false → IfaceVnfs o.cfg := by
    intro hr ul v hul hv
    obtain hul | hmk := (dpProcessRequest_vnf hc ho).handle_old hul
    · obtain ⟨a, lo, hi, hp⟩ := (dpProcessRequest_kept hc hr ho).port v.portId
      rw [hp]
      exact h ul v hul hv
    · obtain ⟨hr', -⟩ | ⟨-, hty, -⟩ | ⟨-, hty, -⟩ := requestVnf_owner hmk
      · cases hr.symm.trans hr'
      · exact absurd hv hty
      · cases hty.symm.trans hv
  have hfree : ∀ {p}, (c.port p).allocated = false → ∀ {ul v}, c.vnf.handleTbl ul = some v → v.type = .interfaceIp →
      v.portId ≠ p := by
    rintro p hal ul v hul hv rfl
    have hready := (h ul v hul hv).1
    rw [hc.not_ready hal] at hready
    cases hready
  cases dpProcessRequest_cases ho with
  | refused => exact h
  | noVnf _ hok => exact fun ul v hul => h ul v (dpCreateVnfRoute_failed hok ▸ hul)
  | undone _ hok => exact fun ul v hul => h ul v ((dpCreateVnfRoute_undo hok).1 ▸ hul)
  | ifaceUndone _ hal hok hun =>
    have hun := hun hc.uses
    intro ul v hul hv
    rw [hun.vnf] at hul
    have hul := (congrFun (dpCreateVnfRoute_undo hok).1 ul).symm.trans hul
    rw [hun.other (hfree hal hul hv)]
    exact h ul v hul hv
  | @ifaceCreated _ id vni ip4 ip6 _ _ p _ _ hal hok hcr =>
    intro ul v hul hv
    rw [hcr.vnf] at hul
    obtain ⟨rfl, rfl⟩ | ⟨-, hul⟩ := Table.add_eq_some.mp ((congrFun (dpCreateVnfRoute_made hok).1 ul).symm.trans hul)
    · obtain ⟨a, b, hp⟩ := hcr.port
      rw [show (ifaceVnf p vni).portId = (newIfaceOf cf e c p id vni ip4 ip6).p from rfl, hp]
      exact ⟨rfl, rfl⟩
    · rw [hcr.other (hfree hal hul hv)]
      exact h ul v hul hv
  | @ifaceDeleted _ p _ _ hp hd =>
    intro ul v hul hv
    rw [hd.vnf, dpDelVnf_handle] at hul
    obtain ⟨hne, hold⟩ := Table.del_eq_some.mp hul
    have hvp : v.portId ≠ p := by
      rintro rfl
      exact hne (h ul v hold hv).2.symm
    rw [hd.other hvp]
    exact h ul v hold hv
  | _ => exact hother rfl

/-- **In every state of every run, the VNFs of interfaces are those of the ready ports, and the value table leads back
to the handle table.** -/
theorem ifaceVnfs_run {es : List Call} {s : Ctl} (h : run (ctlStep cf) (Ctl.init cf) es = some s) :
    IfaceVnfs s.cfg ∧ ValueOk s.cfg.vnf := by
  have hinv : PortsOk cf s.cfg ∧ IfaceVnfs s.cfg ∧ ValueOk s.cfg.vnf := by
    refine run_invariant (I := fun s => PortsOk cf s.cfg ∧ IfaceVnfs s.cfg ∧ ValueOk s.cfg.vnf)
      (P := fun _ _ => True) ?_ ⟨.init cf, fun ul v hul => (by cases hul), fun hv => (by cases hv)⟩ (along_true _ _) h
    rintro s a s' ⟨hports, hvnf, hval⟩ - hstep
    obtain ⟨o, ho, hcfg, -⟩ := ctlStep_eq hstep
    rw [hcfg]
    exact ⟨hports.request ho, hvnf.request hports ho, hval.change (dpProcessRequest_vnf hports ho)⟩
  exact hinv.2

/-- The value table has no VNF of an interface for a port that is not in use. -/
theorem valueTbl_ifaceVnf {p : PortId} {vni : Vni} (hc : PortsOk cf c) (h : IfaceVnfs c) (hval : ValueOk c.vnf)
    (hal : (c.port p).allocated = false) : c.vnf.valueTbl (ifaceVnf p vni) = none := by
  cases hul : c.vnf.valueTbl (ifaceVnf p vni) with
  | none => rfl
  | some ul =>
    have hready := (h ul _ (hval hul) rfl).1
    rw [show (c.port (ifaceVnf p vni).portId).iface.ready = false from hc.not_ready hal] at hready
    cases hready

end Vnfs

/-! ## The request -/

/-- Everything but the port itself is as before. -/
structure Unchanged (cf : Conf) (pciName : Id64) (c y : Config) : Prop where
  routes : ∀ v k, routeAt y.vniHandleTbl v k = routeAt c.vniHandleTbl v k
  refs : vniRefs y.vniHandleTbl = vniRefs c.vniHandleTbl
  headp : y.nat.natHeadp = c.nat.natHeadp
  dnat : y.nat.dnatTbl = c.nat.dnatTbl
  snat : y.nat.snatTbl = c.nat.snatTbl
  handles : y.vnf.handleTbl = c.vnf.handleTbl
  values : y.vnf.valueTbl = c.vnf.valueTbl
  ids : y.ifaceIdTable = c.ifaceIdTable
  ports : ∀ q, cf.dpGetPortByName pciName ≠ some q → y.port q = c.port q

/-- The request gets past the VNI: the port is free, the VNF and the id are accepted, and the VNI can be made. -/
def SetsUpVni (cf : Conf) (e : Env) (c : Config) (id : Id64) (vni : Vni) (p : PortId) : Prop :=
  (c.port p).allocated = false ∧ (dpCreateVnfRoute cf e c.vnf (ifaceVnf p vni)).1 = true ∧
    c.ifaceIdTable id = none ∧ e.ok .ifaceIdAdd = true ∧ (dpCreateVniRouteTables e c.vniHandleTbl vni).isSome = true

/-- Taking the creation back loses nothing: no host route of the addresses leads over the port, and a VNI that is new
has no neighbour-NAT entries (for VNI 0: there are none at all). -/
structure NothingToLose (c : Config) (p : PortId) (vni : Vni) (ip4 : Ip4) (ip6 : Ip6) : Prop where
  route4 : ∀ r, routeAt c.vniHandleTbl vni (pfxKey (.v4 ip4) 32) = some r → r.nh ≠ p
  route6 : ∀ r, routeAt c.vniHandleTbl vni (pfxKey (.v6 ip6) 128) = some r → r.nh ≠ p
  neighnat : c.vniHandleTbl vni = none → ∀ n ∈ c.nat.natHeadp, n.vni ≠ vni ∧ vni ≠ 0

section Request

variable {cf : Conf} {e : Env} {c : Config} {pciName id : Id64} {vni : Vni} {ip4 : Ip4} {ip6 : Ip6} {total pub : UInt64}
  {p : PortId} {er : Ret}

theorem setsUpVni_iff (ip4 : Ip4) (ip6 : Ip6) : SetsUpVni cf e c id vni p ↔ (c.port p).allocated = false ∧
    (dpCreateVnfRoute cf e c.vnf (ifaceVnf p vni)).1 = true ∧ (newIfaceOf cf e c p id vni ip4 ip6).made = true := by
  simp [SetsUpVni, newIfaceOf, and_assoc]

/-- A failure after the VNI was set up. -/
theorem dpProcessCreateInterface_takenBack (hname : cf.dpGetPortByName pciName = some p)
    (hset : SetsUpVni cf e c id vni p) (hpos : UsesPos c.vniHandleTbl)
    (herr : (dpProcessCreateInterface cf e c pciName id vni ip4 ip6 total pub).1 = .err er) :
    TakenBack c (newIfaceOf cf e c p id vni ip4 ip6)
      (dpProcessCreateInterface cf e c pciName id vni ip4 ip6 total pub).2 := by
  obtain ⟨hal, hv, hmade⟩ := (setsUpVni_iff ip4 ip6).mp hset
  have hcase := dpProcessCreateInterface_cases cf e c pciName id vni ip4 ip6 total pub
  generalize dpProcessCreateInterface cf e c pciName id vni ip4 ip6 total pub = r at hcase herr
  cases hcase with
  | refused hno => cases (hno p hname).symm.trans hal
  | noVnf hname' _ hno =>
    cases hname.symm.trans hname'
    cases hv.symm.trans hno
  | undone hname' _ _ hun =>
    cases hname.symm.trans hname'
    exact (hun hpos).late hmade
  | created => cases herr

/-- **When a failed creation leaves everything as it was.** -/
theorem create_interface_atomic_iff {es : List Call} {s : Ctl} (h : run (ctlStep cf) (Ctl.init cf) es = some s)
    (herr : (dpProcessCreateInterface cf e s.cfg pciName id vni ip4 ip6 total pub).1 = .err er) :
    Unchanged cf pciName s.cfg (dpProcessCreateInterface cf e s.cfg pciName id vni ip4 ip6 total pub).2 ↔
      ∀ p, cf.dpGetPortByName pciName = some p → SetsUpVni cf e s.cfg id vni p → NothingToLose s.cfg p vni ip4 ip6 := by
  have hports := portsOk_run h
  obtain ⟨hvnfs, hval⟩ := ifaceVnfs_run h
  generalize s.cfg = c at herr hports hvnfs hval
  have htaken : ∀ {p}, cf.dpGetPortByName pciName = some p → SetsUpVni cf e c id vni p → _ := fun hname hset =>
    dpProcessCreateInterface_takenBack hname hset hports.uses herr
  constructor
  · intro hun p hname hset
    have ht := htaken hname hset
    refine ⟨fun r hr => ?_, fun r hr => ?_, fun hnone n hn => ?_⟩
    · exact ht.gone (.inl rfl) ((hun.routes ..).trans hr)
    · exact ht.gone (.inr rfl) ((hun.routes ..).trans hr)
    · have hall : _ = if c.vniHandleTbl vni = none then dpDelAllNeighNatEntriesInVni c.nat.natHeadp vni else _ :=
        ht.headp
      rw [hun.headp, if_pos hnone, dpDelAllNeighNatEntriesInVni] at hall
      have hkeep := List.filter_eq_self.mp hall.symm n hn
      simpa using hkeep
  · intro hcond
    have hcase := dpProcessCreateInterface_cases cf e c pciName id vni ip4 ip6 total pub
    generalize dpProcessCreateInterface cf e c pciName id vni ip4 ip6 total pub = r at hcase herr htaken
    cases hcase with
    | refused => exact ⟨fun _ _ => rfl, rfl, rfl, rfl, rfl, rfl, rfl, rfl, fun _ _ => rfl⟩
    | @noVnf p _ hal hv =>
      have hnone : c.vnf.valueTbl (ifaceVnf p vni) = none := valueTbl_ifaceVnf hports hvnfs hval hal
      obtain ⟨-, -, hh, hvt⟩ | ⟨-, -, ht, -⟩ | ⟨-, -, -, hh, hvt⟩ :=
        dpCreateVnfRoute_cases cf e c.vnf (ifaceVnf p vni)
      · exact ⟨fun _ _ => rfl, rfl, rfl, rfl, rfl, hh, hvt, rfl, fun _ _ => rfl⟩
      · cases hv.symm.trans ht
      · exact ⟨fun _ _ => rfl, rfl, rfl, rfl, rfl, hh, hvt.trans (Table.del_of_none hnone), rfl, fun _ _ => rfl⟩
    | @undone p _ x hname hal hv hun =>
      have hun := hun hports.uses
      have hnone : c.vnf.valueTbl (ifaceVnf p vni) = none := valueTbl_ifaceVnf hports hvnfs hval hal
      obtain ⟨hh, hvt⟩ := dpCreateVnfRoute_undo hv
      have hrest : (∀ v k, routeAt x.vniHandleTbl v k = routeAt c.vniHandleTbl v k) ∧
          x.nat.natHeadp = c.nat.natHeadp := by
        by_cases hset : SetsUpVni cf e c id vni p
        · have ht := htaken hname hset
          have hlose := hcond p hname hset
          refine ⟨fun v k => ?_, ?_⟩
          · by_cases hk : v = vni ∧ (newIfaceOf cf e c p id vni ip4 ip6).IsHost k
            · obtain ⟨rfl, hk⟩ := hk
              refine Option.ext fun r => ⟨hun.fewer.less, fun hr => hun.fewer.kept hr ?_⟩
              obtain rfl | rfl := hk
              · exact hlose.route4 r hr
              · exact hlose.route6 r hr
            · exact ht.away v k hk
          · refine ht.headp.trans ?_
            split
            next hnew =>
              refine List.filter_eq_self.mpr fun n hn => ?_
              have hkeep := hlose.neighnat hnew n hn
              simpa [newIfaceOf] using hkeep
            · rfl
        · rw [setsUpVni_iff ip4 ip6] at hset
          obtain ⟨htbl, hnat⟩ := hun.early (Bool.eq_false_iff.mpr fun hmade => hset ⟨hal, hv, hmade⟩)
          rw [htbl, hnat]
          exact ⟨fun _ _ => rfl, rfl⟩
      refine ⟨hrest.1, hun.fewer.refs, hrest.2, hun.dnat, hun.snat, ?_, ?_, hun.ids, fun q hq => hun.other ?_⟩
      · exact (congrArg VnfState.handleTbl hun.vnf).trans hh
      · exact (congrArg VnfState.valueTbl hun.vnf).trans (hvt.trans (Table.del_of_none hnone))
      · rintro rfl
        exact hq hname
    | created => cases herr

end Request

/-- A second interface with the address of the first. -/
theorem create_interface_atomic_taken : ∃ s, run (ctlStep smallConf) (Ctl.init smallConf)
      (calls [.createInterface 2 1 100 0x0a000001 0 0 0]) = some s ∧
    (dpProcessCreateInterface smallConf {} s.cfg 3 2 100 0x0a000001 0 0 0).1 = .err .routeExists ∧
    Unchanged smallConf 3 s.cfg (dpProcessCreateInterface smallConf {} s.cfg 3 2 100 0x0a000001 0 0 0).2 := by
  refine exists_some_imp (P := fun s =>
    (dpProcessCreateInterface smallConf {} s.cfg 3 2 100 0x0a000001 0 0 0).1 = .err .routeExists ∧
      routeAt s.cfg.vniHandleTbl 100 (pfxKey (.v4 0x0a000001) 32) = some { nh := 2 } ∧
      routeAt s.cfg.vniHandleTbl 100 (pfxKey (.v6 0) 128) = none ∧ s.cfg.vniHandleTbl 100 ≠ none) (by decide +kernel) ?_
  rintro s hs ⟨herr, h4, h6, hvni⟩
  refine ⟨herr, (create_interface_atomic_iff hs herr).mpr fun p hname _ => ⟨?_, ?_, fun hnone => absurd hnone hvni⟩⟩
  · intro r hr
    have hthree : smallConf.dpGetPortByName 3 = some 3 := by decide +kernel
    have hport : p = 3 := Option.some.inj (hname.symm.trans hthree)
    rw [h4, Option.some.injEq] at hr
    rw [← hr, hport]
    decide
  · intro r hr
    rw [h6] at hr
    cases hr

/-- With rate limiting. -/
def meterConf : Conf := { smallConf with nicMellanox := true }

/-- A neighbour-NAT entry of a VNI that nobody uses yet, and an interface whose rates are refused. -/
theorem create_interface_atomic_neighnat : ∃ s, run (ctlStep meterConf) (Ctl.init meterConf)
      (calls [.createNeighnat (.v4 0x01020304) 200 100 200 9]) = some s ∧
    (dpProcessCreateInterface meterConf {} s.cfg 2 1 200 0x0a000001 0 1 2).1 = .err .portMeter ∧
    s.cfg.nat.natHeadp.length = 1 ∧
    (dpProcessCreateInterface meterConf {} s.cfg 2 1 200 0x0a000001 0 1 2).2.nat.natHeadp = [] := by
  decide +kernel

end Dpservice
