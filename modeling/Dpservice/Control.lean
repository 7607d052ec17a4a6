import Dpservice.Service
import Dpservice.GrpcCases

/-!
# The control plane

Requests are handled one after the other; each changes the configuration and the load balancers (`ctlStep`).

- `PortsOk` is what every request keeps of the port records: an interface is ready exactly while an id is mapped to its
  port, a port without an interface has an empty record, and every VNI that exists is in use (`portsOk_run`);
- `dpProcessRequest_ports` and `dpProcessRequest_refs` say which requests leave the port records and the use counts of
  VNIs alone, `PortCase` what the others do to the port records (`dpProcessRequest_portCase`).
-/

namespace Dpservice

/-- What requests change. -/
structure Ctl where
  cfg : Config
  lb : LbState := {}

def Ctl.init (cf : Conf) : Ctl := { cfg := Config.init cf }

/-- A request, and what its handler takes from outside. -/
abbrev Call := Request × Env

/-- A request is handled; `none` where its handler has no defined behaviour. -/
def ctlStep (cf : Conf) (s : Ctl) (a : Call) : Option Ctl :=
  (dpProcessRequest cf a.2 s.cfg s.lb a.1).map fun o => { cfg := o.cfg, lb := o.lb }

/-- Requests that are handled without failures. -/
def calls (rs : List Request) : List Call := rs.map fun r => (r, {})

/-- A step of the control plane is a request. -/
theorem ctlStep_eq {cf : Conf} {s s' : Ctl} {a : Call} (h : ctlStep cf s a = some s') :
    ∃ o, dpProcessRequest cf a.2 s.cfg s.lb a.1 = some o ∧ s'.cfg = o.cfg ∧ s'.lb = o.lb := by
  obtain ⟨o, ho, rfl⟩ := Option.map_eq_some_iff.mp h
  exact ⟨o, ho, rfl, rfl⟩

/-! ## Requests that leave something alone -/

def Request.writesPorts : Request → Bool
  | .createInterface .. | .deleteInterface _ | .createNat .. | .deleteNat _ => true
  | _ => false

/-- The request may change the use count of a VNI. -/
def Request.writesUses : Request → Bool
  | .createInterface .. | .deleteInterface _ | .createLb .. | .deleteLb _ => true
  | _ => false

def Request.placesIface : Request → Bool
  | .createInterface .. | .deleteInterface _ => true
  | _ => false

section Frames

variable {cf : Conf} {e : Env} {c : Config} {s : LbState} {r : Request} {o : Outcome}

/-- Which requests leave the ports alone. -/
theorem dpProcessRequest_ports (hr : r.writesPorts = false) (h : dpProcessRequest cf e c s r = some o) :
    o.cfg.port = c.port ∧ o.cfg.ifaceIdTable = c.ifaceIdTable := by
  cases dpProcessRequest_cases h with
  | ifaceUndone | ifaceCreated | ifaceDeleted | natCreated | natDeleted => cases hr
  | createLb hx =>
    obtain ⟨f, t, hcfg, -⟩ := hx.frame
    rw [hcfg]
    exact ⟨rfl, rfl⟩
  | _ => exact ⟨rfl, rfl⟩

/-- Which requests leave the use counts alone. -/
theorem dpProcessRequest_refs (hr : r.writesUses = false) (h : dpProcessRequest cf e c s r = some o) :
    vniRefs o.cfg.vniHandleTbl = vniRefs c.vniHandleTbl := by
  have hadd : ∀ {p vni tv addr ul len x t}, dpGrpcAddRoute cf e c.vniHandleTbl p vni tv addr ul len = (x, t) →
      vniRefs t = vniRefs c.vniHandleTbl :=
    fun ht => (congrArg (fun y => vniRefs y.2) ht).symm.trans dpGrpcAddRoute_refs
  cases dpProcessRequest_cases h with
  | ifaceUndone | ifaceCreated | ifaceDeleted | createLb | lbDeleted => cases hr
  | initialized ht =>
    unfold dpLpmResetAllRouteTables at ht
    split at ht <;> cases ht
    exact fillPorts_refs.trans vniRefs_resetAll
  | vniReset ht =>
    unfold dpLpmResetRouteTables at ht
    split at ht <;> cases ht
    exact fillPorts_refs.trans vniRefs_reset
  | prefixRefused _ ht | prefixCreated _ ht => exact hadd ht
  | prefixUndone _ ht => exact dpGrpcDelRoute_refs.trans (hadd ht)
  | prefixDeleted | routeDeleted => exact dpGrpcDelRoute_refs
  | routeCreated => exact dpGrpcAddRoute_refs
  | _ => rfl

end Frames

/-! ## Ports and their interfaces -/

/-- What the port records, the interface ids and the use counts have in common. -/
structure PortsOk (cf : Conf) (c : Config) : Prop where
  ready : ∀ {p}, (c.port p).iface.ready = true →
    (c.port p).allocated = true ∧ cf.isPf p = false ∧ cf.hasPort p = true
  idle : ∀ {p}, (c.port p).iface.ready = false → (c.port p).iface = { id := (c.port p).iface.id }
  mapped : ∀ {id p}, c.ifaceIdTable id = some p ↔ (c.port p).iface.ready = true ∧ (c.port p).iface.id = id
  pf : ∀ {p}, cf.isPf p = true → (c.port p).allocated = true
  uses : UsesPos c.vniHandleTbl

section PortsOk

variable {cf : Conf} {e : Env} {c c' : Config} {s : LbState} {r : Request} {o : Outcome} {t t' : VniTbl} {vni : Vni}
  {p : PortId} {id : Id64}

theorem UsesPos.create (h : UsesPos t) (ht : dpCreateVniRouteTables e t vni = some t') : UsesPos t' := by
  intro v m hm
  rw [(dpCreateVniRouteTables_spec ht).1 v] at hm
  split at hm
  · cases hu : vniRefs t vni with
    | none => simp [hu] at hm; omega
    | some k =>
      have := h vni k hu
      simp [hu] at hm
      omega
  · exact h v m hm

theorem UsesPos.delete (h : UsesPos t) (l : List NetworkNatEntry) (vni : Vni) :
    UsesPos (dpDeleteVniRouteTables t l vni).2.1 := by
  rcases dpDeleteVniRouteTables_spec t l vni with ⟨-, heq⟩ | ⟨-, heq⟩ | ⟨d, hd, hne, heq⟩
  · rw [heq]
    exact h
  · rw [heq]
    intro v m hm
    rw [vniRefs_del] at hm
    split at hm
    · cases hm
    · exact h v m hm
  · rw [heq]
    intro v m hm
    rw [vniRefs_add] at hm
    split at hm
    · have := h vni d.refCount (by simp [vniRefs, hd])
      simp at hm
      omega
    · exact h v m hm

theorem FewerVia.usesPos (hf : FewerVia p t t') (h : UsesPos t) : UsesPos t' := fun v m hm => h v m (hf.refs ▸ hm)

theorem PortsOk.init (cf : Conf) : PortsOk cf (Config.init cf) where
  ready h := by cases h
  idle _ := rfl
  mapped := ⟨fun h => (by cases h), fun h => (by cases h.1)⟩
  pf h := h
  uses v m h := by cases h

theorem PortsOk.not_ready_pf (h : PortsOk cf c) (hp : cf.isPf p = true) : (c.port p).iface.ready = false := by
  cases hr : (c.port p).iface.ready with
  | false => rfl
  | true =>
    rw [(h.ready hr).2.1] at hp
    cases hp

theorem PortsOk.not_ready (h : PortsOk cf c) (hal : (c.port p).allocated = false) :
    (c.port p).iface.ready = false := by
  cases hr : (c.port p).iface.ready with
  | false => rfl
  | true =>
    rw [(h.ready hr).1] at hal
    cases hal

/-- Of the port records only the NAT fields of interfaces change. -/
structure SamePorts (c x : Config) : Prop where
  port : ∀ q, ∃ a lo hi, x.port q = { c.port q with iface := (c.port q).iface.setNat a lo hi }
  idle : ∀ {q}, (c.port q).iface.ready = false → x.port q = c.port q
  ids : x.ifaceIdTable = c.ifaceIdTable
  uses : UsesPos x.vniHandleTbl

theorem SamePorts.refl (hport : c'.port = c.port) (hids : c'.ifaceIdTable = c.ifaceIdTable)
    (hu : UsesPos c'.vniHandleTbl) : SamePorts c c' where
  port q := ⟨(c.port q).iface.natIp, (c.port q).iface.natMinPort, (c.port q).iface.natMaxPort, congrFun hport q⟩
  idle _ := by rw [hport]
  ids := hids
  uses := hu

/-- The NAT fields of an interface are written. -/
theorem SamePorts.setNat (h : PortsOk cf c) (hp : c.ifaceIdTable id = some p) {a : Ip4} {lo hi : UInt16}
    (hport : c'.port = (c.setIface p ((c.port p).iface.setNat a lo hi)).port)
    (hids : c'.ifaceIdTable = c.ifaceIdTable) (hu : UsesPos c'.vniHandleTbl) : SamePorts c c' := by
  refine ⟨fun q => ?_, fun {q} hr => ?_, hids, hu⟩
  · by_cases hq : q = p
    · exact ⟨a, lo, hi, by rw [hport, hq, setIface_port_self]⟩
    · exact ⟨(c.port q).iface.natIp, (c.port q).iface.natMinPort, (c.port q).iface.natMaxPort,
        by rw [hport, setIface_port_ne hq]; rfl⟩
  · have hne : q ≠ p := by
      rintro rfl
      rw [(h.mapped.mp hp).1] at hr
      cases hr
    rw [hport, setIface_port_ne hne]

theorem PortsOk.same (h : PortsOk cf c) (hs : SamePorts c c') : PortsOk cf c' := by
  refine ⟨fun {q} hr => ?_, fun {q} hr => ?_, fun {i q} => ?_, fun {q} hq => ?_, hs.uses⟩
  all_goals obtain ⟨a, lo, hi, hp⟩ := hs.port q
  · rw [hp] at hr ⊢
    exact h.ready hr
  · rw [hp] at hr
    rw [hs.idle hr]
    exact h.idle hr
  · rw [hs.ids, hp]
    exact h.mapped
  · rw [hp]
    exact h.pf hq

/-- A creation that is taken back. -/
theorem PortsOk.undone {n : NewIface} (h : PortsOk cf c) (hal : (c.port n.p).allocated = false)
    (hu : Undone c n c') : PortsOk cf c' := by
  have hnr := h.not_ready hal
  obtain ⟨i, hi, hcases⟩ := hu.port
  have hidle : i.ready = false ∧ i = { id := i.id } := by
    have hold := h.idle hnr
    rcases hcases with rfl | rfl | rfl
    · exact ⟨rfl, rfl⟩
    · exact ⟨hnr, hold⟩
    · rw [hold]
      exact ⟨rfl, rfl⟩
  refine ⟨fun {q} hr => ?_, fun {q} hr => ?_, fun {j q} => ?_, fun {q} hq => ?_, hu.fewer.usesPos h.uses⟩
  all_goals by_cases hqp : q = n.p
  · subst hqp
    rw [hi, hidle.1] at hr
    cases hr
  · rw [hu.other hqp] at hr ⊢
    exact h.ready hr
  · subst hqp
    rw [hi]
    exact hidle.2
  · rw [hu.other hqp] at hr ⊢
    exact h.idle hr
  · subst hqp
    rw [hu.ids, h.mapped, hi, hidle.1, hnr]
    simp
  · rw [hu.ids, hu.other hqp]
    exact h.mapped
  · subst hqp
    rw [hi]
    exact h.pf hq
  · rw [hu.other hqp]
    exact h.pf hq

/-- A new interface. -/
theorem PortsOk.created {n : NewIface} (h : PortsOk cf c) (hal : (c.port n.p).allocated = false)
    (hport : cf.hasPort n.p = true) (hc : Created c n c') : PortsOk cf c' := by
  have hnr := h.not_ready hal
  have hpf : cf.isPf n.p = false := by
    cases hq : cf.isPf n.p with
    | false => rfl
    | true =>
      rw [h.pf hq] at hal
      cases hal
  obtain ⟨a, b, hi⟩ := hc.port
  refine ⟨fun {q} hr => ?_, fun {q} hr => ?_, fun {j q} => ?_, fun {q} hq => ?_, fun v m hm => ?_⟩
  · by_cases hqp : q = n.p
    · subst hqp
      rw [hi]
      exact ⟨rfl, hpf, hport⟩
    · rw [hc.other hqp] at hr ⊢
      exact h.ready hr
  · by_cases hqp : q = n.p
    · subst hqp
      rw [hi] at hr
      cases hr
    · rw [hc.other hqp] at hr ⊢
      exact h.idle hr
  · rw [hc.ids, Table.add_eq_some]
    by_cases hqp : q = n.p
    · subst hqp
      rw [h.mapped, hi, hnr]
      simp [newIface, eq_comm]
    · rw [hc.other hqp, h.mapped]
      constructor
      · rintro (⟨-, hq⟩ | ⟨-, hq⟩)
        · exact absurd hq hqp
        · exact hq
      · intro hq
        refine .inr ⟨?_, hq⟩
        rintro rfl
        have := h.mapped.mpr hq
        rw [hc.fresh] at this
        cases this
  · by_cases hqp : q = n.p
    · subst hqp
      rw [hi]
    · rw [hc.other hqp]
      exact h.pf hq
  · rw [hc.refs] at hm
    split at hm
    · cases hu : vniRefs c.vniHandleTbl n.vni with
      | none => simp [hu] at hm; omega
      | some k =>
        have := h.uses n.vni k hu
        simp [hu] at hm
        omega
    · exact h.uses v m hm

/-- An interface is deleted. -/
theorem PortsOk.deleted (h : PortsOk cf c) (hp : c.ifaceIdTable id = some p) (hd : Deleted c p id c') :
    PortsOk cf c' := by
  obtain ⟨hready, hid⟩ := h.mapped.mp hp
  obtain ⟨a, hi⟩ := hd.port
  refine ⟨fun {q} hr => ?_, fun {q} hr => ?_, fun {j q} => ?_, fun {q} hq => ?_, ?_⟩
  · by_cases hqp : q = p
    · subst hqp
      rw [hi] at hr
      cases hr
    · rw [hd.other hqp] at hr ⊢
      exact h.ready hr
  · by_cases hqp : q = p
    · subst hqp
      rw [hi]
    · rw [hd.other hqp] at hr ⊢
      exact h.idle hr
  · rw [hd.ids, Table.del_eq_some]
    by_cases hqp : q = p
    · subst hqp
      rw [h.mapped, hi, hid]
      constructor
      · rintro ⟨hne, -, rfl⟩
        exact absurd rfl hne
      · rintro ⟨hf, -⟩
        cases hf
    · rw [hd.other hqp, h.mapped]
      refine ⟨fun hq => hq.2, fun hq => ⟨?_, hq⟩⟩
      rintro rfl
      have := h.mapped.mpr hq
      rw [hp, Option.some.injEq] at this
      exact hqp this.symm
  · have hqp : q ≠ p := by
      rintro rfl
      rw [(h.ready hready).2.1] at hq
      cases hq
    rw [hd.other hqp]
    exact h.pf hq
  · rw [hd.tbl]
    exact ((vacatedTbl_fewer c p).usesPos h.uses).delete _ _

/-- A port that is found by its name exists. -/
theorem dpGetPortByName_hasPort {name : Id64} (h : cf.dpGetPortByName name = some p) : cf.hasPort p = true := by
  unfold Conf.dpGetPortByName at h
  split at h
  · cases h
  · exact (Option.filter_eq_some_iff.mp h).2

/-- What a request does to the port records and to the ids. -/
inductive PortCase (cf : Conf) (e : Env) (c : Config) : Request → Config → Prop
  | kept {r : Request} {x : Config} (h : SamePorts c x) : PortCase cf e c r x
  | undone {pci id : Id64} {vni : Vni} {ip4 : Ip4} {ip6 : Ip6} {total pub : UInt64} {p : PortId} {x : Config}
    (hname : cf.dpGetPortByName pci = some p) (hal : (c.port p).allocated = false)
    (hok : (dpCreateVnfRoute cf e c.vnf (ifaceVnf p vni)).1 = true)
    (hun : Undone c (newIfaceOf cf e c p id vni ip4 ip6) x) :
    PortCase cf e c (.createInterface pci id vni ip4 ip6 total pub) x
  | created {pci id : Id64} {vni : Vni} {ip4 : Ip4} {ip6 : Ip6} {total pub : UInt64} {p : PortId} {x : Config}
    (hname : cf.dpGetPortByName pci = some p) (hal : (c.port p).allocated = false)
    (hok : (dpCreateVnfRoute cf e c.vnf (ifaceVnf p vni)).1 = true)
    (hcr : Created c (newIfaceOf cf e c p id vni ip4 ip6) x) :
    PortCase cf e c (.createInterface pci id vni ip4 ip6 total pub) x
  | deleted {id : Id64} {p : PortId} {x : Config} (hp : c.ifaceIdTable id = some p) (hd : Deleted c p id x) :
    PortCase cf e c (.deleteInterface id) x

/-- What a request does to ports and ids. -/
theorem dpProcessRequest_portCase (hc : PortsOk cf c) (h : dpProcessRequest cf e c s r = some o) :
    PortCase cf e c r o.cfg := by
  have hu := hc.uses
  have hsame : r.writesUses = false → UsesPos o.cfg.vniHandleTbl := fun hr v m hm =>
    hu v m (dpProcessRequest_refs hr h ▸ hm)
  cases dpProcessRequest_cases h with
  | ifaceUndone hname hal hok hun => exact .undone hname hal hok (hun hu)
  | ifaceCreated hname hal hok hcr => exact .created hname hal hok hcr
  | ifaceDeleted hp hd => exact .deleted hp hd
  | natCreated hp | natDeleted hp => exact .kept (.setNat hc hp rfl rfl (hsame rfl))
  | createLb hx =>
    obtain ⟨f, t, hcfg, rfl | ht⟩ := hx.frame <;> rw [hcfg]
    · exact .kept (.refl rfl rfl hu)
    · exact .kept (.refl rfl rfl (hu.create ht))
  | lbDeleted => exact .kept (.refl rfl rfl (hu.delete _ _))
  | refused | noVnf | undone => exact .kept (.refl rfl rfl hu)
  | _ => exact .kept (.refl rfl rfl (hsame rfl))

/-- Requests that neither create nor delete an interface leave the port records but for NAT fields. -/
theorem dpProcessRequest_kept (hc : PortsOk cf c) (hr : r.placesIface = false)
    (h : dpProcessRequest cf e c s r = some o) : SamePorts c o.cfg := by
  have hcase := dpProcessRequest_portCase hc h
  generalize o.cfg = x at hcase
  cases hcase with
  | kept hs => exact hs
  | undone | created | deleted => cases hr

/-- **Every request keeps the port records in order.** -/
theorem PortsOk.request (h : PortsOk cf c) (ho : dpProcessRequest cf e c s r = some o) : PortsOk cf o.cfg := by
  have hcase := dpProcessRequest_portCase h ho
  generalize o.cfg = x at hcase
  cases hcase with
  | kept hs => exact h.same hs
  | undone hname hal _ hun => exact h.undone hal hun
  | created hname hal _ hcr => exact h.created hal (dpGetPortByName_hasPort hname) hcr
  | deleted hp hd => exact h.deleted hp hd

/-- The ports are in order in every run. -/
theorem portsOk_run {es : List Call} {s : Ctl} (h : run (ctlStep cf) (Ctl.init cf) es = some s) : PortsOk cf s.cfg := by
  refine run_invariant (I := fun s => PortsOk cf s.cfg) (P := fun _ _ => True) ?_ (.init cf) (along_true _ _) h
  intro s a s' hs _ hstep
  obtain ⟨o, ho, hcfg, -⟩ := ctlStep_eq hstep
  rw [hcfg]
  exact hs.request ho

end PortsOk

end Dpservice
