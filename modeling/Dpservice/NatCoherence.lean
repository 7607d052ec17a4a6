import Dpservice.NatView

/-!
# NAT configuration of interfaces

The NAT range of an interface is kept twice: in its port record, which NAT64 uses, and in the SNAT table under its
address and VNI. The record goes with the interface, the SNAT entry stays; and all interfaces of a VNI without an IPv4
address have one key.

- `NatCoherent`: both copies agree for every ready interface;
- `NatStepOk`: requests for one interface do not touch the others, and a new interface starts without VIP and NAT;
- `CoherentSafe`: nobody has the address of a new interface, not even a leftover SNAT entry;
- `nat_coherence`: along such runs the copies agree.
-/

namespace Dpservice

/-- The NAT fields of every ready interface are those of its SNAT entry. -/
def NatCoherent (c : Config) : Prop :=
  ∀ p, (c.port p).iface.ready = true → (c.port p).iface.natRange = c.nat.view.nat (c.port p).iface.natKey

/-- `GetVip` and `GetNat` answer as before for every other interface. -/
def OthersKept (id : Id64) (c c' : Config) : Prop :=
  ∀ id', id' ≠ id → dpProcessGetVip c' id' = dpProcessGetVip c id' ∧ dpProcessGetNat c' id' = dpProcessGetNat c id'

def NoNat (id : Id64) (c : Config) : Prop :=
  dpProcessGetVip c id = .err .snatNoData ∧ dpProcessGetNat c id = .err .snatNoData ∧
    ∀ p, c.ifaceIdTable id = some p → (c.port p).iface.natRange = .zero

def NatStepOk (c : Config) (r : Request) (c' : Config) : Prop :=
  match r with
  | .createVip id _ | .deleteVip id | .createNat id .. | .deleteNat id => OthersKept id c c'
  | .createInterface _ id .. => c.ifaceIdTable id = none → c'.ifaceIdTable id ≠ none → NoNat id c'
  | _ => True

/-- A new interface finds no SNAT entry under its address and shares it with no interface; a NAT address is not zero. -/
def CoherentSafe (cf : Conf) (s : Ctl) (a : Call) : Prop :=
  match a.1 with
  | .createInterface pciName _ vni ip4 .. =>
    ∀ p ∈ cf.dpGetPortByName pciName, (s.cfg.port p).allocated = false →
      s.cfg.nat.snatTbl ⟨ip4, vni⟩ = none ∧
        ∀ q ∈ cf.portList, (s.cfg.port q).iface.ready = true → (s.cfg.port q).iface.natKey ≠ ⟨ip4, vni⟩
  | .createNat _ (.v4 natIp) .. => natIp ≠ 0
  | _ => True

instance (cf : Conf) (s : Ctl) (a : Call) : Decidable (CoherentSafe cf s a) := by
  unfold CoherentSafe
  split <;> infer_instance

/-! ## One interface at a time -/

section Others

variable {cf : Conf} {e : Env} {c c' : Config} {s : LbState} {r : Request} {o : Outcome} {id : Id64}

/-- Interfaces are known by different keys. -/
def NatDistinct (c : Config) : Prop :=
  ∀ p q, (c.port p).iface.ready = true → (c.port q).iface.ready = true →
    (c.port p).iface.natKey = (c.port q).iface.natKey → p = q

/-- What is asked about an interface depends on its id, its key and its SNAT entry. -/
theorem dpProcessGet_congr {q : PortId} (hids : c'.ifaceIdTable = c.ifaceIdTable) (hq : c.ifaceIdTable id = some q)
    (hkey : (c'.port q).iface.natKey = (c.port q).iface.natKey)
    (hsnat : c'.nat.snatTbl (c.port q).iface.natKey = c.nat.snatTbl (c.port q).iface.natKey) :
    dpProcessGetVip c' id = dpProcessGetVip c id ∧ dpProcessGetNat c' id = dpProcessGetNat c id := by
  have hdata : dpGetIfaceSnatData c'.nat (c'.port q).iface.ownIp (c'.port q).iface.vni =
      dpGetIfaceSnatData c.nat (c.port q).iface.ownIp (c.port q).iface.vni := by
    show c'.nat.snatTbl (c'.port q).iface.natKey = _
    rw [hkey]
    exact hsnat
  simp only [dpProcessGetVip, dpProcessGetNat, hids, hq, hdata, and_self]

/-- A request that writes the SNAT entry of one interface keeps the others. -/
theorem othersKept_of (hports : PortsOk cf c) (hd : NatDistinct c) (hr : r.snatIface = some id)
    (ho : dpProcessRequest cf e c s r = some o) : OthersKept id c o.cfg := by
  have hsnat := fun {k} => dpProcessRequest_snat_other (k := k) hports ho
  obtain ⟨hids, hkey⟩ : o.cfg.ifaceIdTable = c.ifaceIdTable ∧
      ∀ q, (o.cfg.port q).iface.natKey = (c.port q).iface.natKey := by
    have hcase := dpProcessRequest_portCase hports ho
    generalize o.cfg = x at hcase
    cases hcase with
    | kept hs =>
      refine ⟨hs.ids, fun q => ?_⟩
      obtain ⟨a, lo, hi, hp⟩ := hs.port q
      rw [hp]
      rfl
    | _ => cases hr
  intro id' hne
  cases hq : c.ifaceIdTable id' with
  | none => simp [dpProcessGetVip, dpProcessGetNat, hids, hq]
  | some q =>
    refine dpProcessGet_congr hids hq (hkey q) (hsnat fun i p hi hp heq => ?_)
    obtain rfl := Option.some.inj (hr.symm.trans hi)
    obtain ⟨hqr, hqid⟩ := hports.mapped.mp hq
    obtain ⟨hpr, hpid⟩ := hports.mapped.mp hp
    obtain rfl := hd q p hqr hpr heq
    exact hne (hqid.symm.trans hpid)

end Others

/-! ## The invariant -/

/-- What safe requests keep: the two copies agree, interfaces have different keys, and no ports are stored without an
address. -/
structure NatInv (cf : Conf) (c : Config) : Prop where
  ports : PortsOk cf c
  coherent : NatCoherent c
  distinct : NatDistinct c
  ranges : ∀ k, (c.nat.view.nat k).natIp = 0 → c.nat.view.nat k = .zero

section Invariant

variable {cf : Conf} {e : Env} {c c' : Config} {s : LbState} {r : Request} {o : Outcome}

theorem NatInv.init (cf : Conf) : NatInv cf (Config.init cf) where
  ports := .init cf
  coherent p hp := by cases hp
  distinct p q hp := by cases hp
  ranges k _ := rfl

/-- No interface is new or changed, and the SNAT table has the same ranges. -/
theorem NatInv.congr (h : NatInv cf c) (hports : PortsOk cf c')
    (hiface : ∀ q, (c'.port q).iface.ready = true → (c'.port q).iface = (c.port q).iface)
    (hnat : c'.nat.view.nat = c.nat.view.nat) : NatInv cf c' where
  ports := hports
  coherent p hp := by
    rw [hiface p hp, hnat]
    exact h.coherent p (hiface p hp ▸ hp)
  distinct p q hp hq heq := by
    rw [hiface p hp, hiface q hq] at heq
    exact h.distinct p q (hiface p hp ▸ hp) (hiface q hq ▸ hq) heq
  ranges k hk := by
    rw [hnat] at hk ⊢
    exact h.ranges k hk

/-- An entry without NAT address that goes with its VIP has no ports to lose. -/
theorem NatInv.clearVip (h : NatInv cf c) (k : NatKey) : (c.nat.view.clearVip k).nat = c.nat.view.nat := by
  by_cases hzero : (c.nat.view.nat k).natIp = 0
  · rw [clearVip_zero hzero]
    exact (congrArg NatView.nat (setNat_self (c.nat.view.setVip k 0) k (h.ranges k hzero))).trans rfl
  · rw [clearVip_keep hzero]
    rfl

/-- The NAT range of an interface is written to both places. -/
theorem NatInv.setNat {p : PortId} {ip : Ip4} {lo hi : UInt16} (h : NatInv cf c) (hports : PortsOk cf c')
    (hport : c'.port = (c.setIface p ((c.port p).iface.setNat ip lo hi)).port)
    (hnat : c'.nat.view.nat = Function.update c.nat.view.nat (c.port p).iface.natKey ⟨ip, lo, hi⟩)
    (hready : (c.port p).iface.ready = true) (hrange : ip = 0 → lo = 0 ∧ hi = 0) : NatInv cf c' := by
  have hself : (c'.port p).iface = (c.port p).iface.setNat ip lo hi := by rw [hport, setIface_port_self]
  have hother : ∀ q, q ≠ p → c'.port q = c.port q := fun q hq => by rw [hport, setIface_port_ne hq]
  have hkey : ∀ q, (c'.port q).iface.natKey = (c.port q).iface.natKey ∧
      (c'.port q).iface.ready = (c.port q).iface.ready := by
    intro q
    by_cases hq : q = p
    · subst hq
      rw [hself]
      exact ⟨rfl, rfl⟩
    · rw [hother q hq]
      exact ⟨rfl, rfl⟩
  refine ⟨hports, fun q hq => ?_, fun q q' hq hq' heq => ?_, fun k hk => ?_⟩
  · by_cases hqp : q = p
    · subst hqp
      rw [hnat, (hkey q).1, Function.update_self, hself]
      rfl
    · rw [hother q hqp] at hq ⊢
      rw [hnat, Function.update_of_ne fun heq => hqp (h.distinct q p hq hready heq)]
      exact h.coherent q hq
  · rw [(hkey q).2] at hq
    rw [(hkey q').2] at hq'
    rw [(hkey q).1, (hkey q').1] at heq
    exact h.distinct q q' hq hq' heq
  · rw [hnat] at hk ⊢
    by_cases hkp : k = (c.port p).iface.natKey
    · subst hkp
      rw [Function.update_self] at hk ⊢
      obtain rfl : ip = 0 := hk
      obtain ⟨rfl, rfl⟩ := hrange rfl
      rfl
    · rw [Function.update_of_ne hkp] at hk ⊢
      exact h.ranges k hk

/-- A new interface finds no SNAT entry and no other interface under its key. -/
theorem NatInv.created {n : NewIface} (h : NatInv cf c) (hports : PortsOk cf c') (hal : (c.port n.p).allocated = false)
    (hc : Created c n c') (hnone : c.nat.snatTbl ⟨n.ip4, n.vni⟩ = none)
    (hfree : ∀ q, (c.port q).iface.ready = true → (c.port q).iface.natKey ≠ ⟨n.ip4, n.vni⟩) :
    NatInv cf c' ∧ (c'.port n.p).iface.natRange = .zero := by
  obtain ⟨a, b, hi⟩ := hc.port
  have hidle := h.ports.idle (h.ports.not_ready hal)
  have hkey : (c'.port n.p).iface.natKey = ⟨n.ip4, n.vni⟩ := by rw [hi]; rfl
  have hzero : (c'.port n.p).iface.natRange = .zero := by
    rw [hi]
    show (c.port n.p).iface.natRange = _
    rw [hidle]
    rfl
  refine ⟨⟨hports, fun q hq => ?_, fun q q' hq hq' heq => ?_, fun k hk => ?_⟩, hzero⟩
  · by_cases hqp : q = n.p
    · rw [hqp, hzero, hkey, hc.nat]
      exact (view_nat_none hnone).symm
    · rw [hc.other hqp] at hq ⊢
      rw [hc.nat]
      exact h.coherent q hq
  · by_cases hqp : q = n.p
    · by_cases hqp' : q' = n.p
      · rw [hqp, hqp']
      · rw [hc.other hqp'] at hq' heq
        rw [hqp, hkey] at heq
        exact absurd heq.symm (hfree q' hq')
    · rw [hc.other hqp] at hq heq
      by_cases hqp' : q' = n.p
      · rw [hqp', hkey] at heq
        exact absurd heq (hfree q hq)
      · rw [hc.other hqp'] at hq' heq
        exact h.distinct q q' hq hq' heq
  · rw [hc.nat] at hk ⊢
    exact h.ranges k hk

/-- A new interface without SNAT entry has neither VIP nor NAT. -/
theorem Created.noNat {n : NewIface} (hc : Created c n c') (hnone : c.nat.snatTbl ⟨n.ip4, n.vni⟩ = none)
    (hzero : (c'.port n.p).iface.natRange = .zero) : NoNat n.id c' := by
  have hid : c'.ifaceIdTable n.id = some n.p := by rw [hc.ids, Table.add_self]
  have hdata : dpGetIfaceSnatData c'.nat (c'.port n.p).iface.ownIp (c'.port n.p).iface.vni = none := by
    obtain ⟨a, b, hi⟩ := hc.port
    rw [hc.nat, hi]
    exact hnone
  refine ⟨?_, ?_, fun q hq => ?_⟩
  · simp only [dpProcessGetVip, hid, hdata]
  · simp only [dpProcessGetNat, hid, hdata]
  · obtain rfl := Option.some.inj (hid.symm.trans hq)
    exact hzero

/-- A port that is not ready after a creation was taken back. -/
theorem Undone.not_ready {n : NewIface} (hports : PortsOk cf c) (hal : (c.port n.p).allocated = false)
    (hu : Undone c n c') : (c'.port n.p).iface.ready = false := by
  have hnr := hports.not_ready hal
  obtain ⟨i, hi, rfl | rfl | rfl⟩ := hu.port
  · rw [hi]
  · rw [hi]
    exact hnr
  · rw [hi]
    exact hnr

theorem view_nat_congr {n n' : NatState} (h : n'.snatTbl = n.snatTbl) : n'.view.nat = n.view.nat := by
  unfold NatState.view
  rw [h]

/-- **Every safe request keeps the invariant.** -/
theorem NatInv.request (h : NatInv cf c) (hsafe : CoherentSafe cf { cfg := c, lb := s } (r, e))
    (ho : dpProcessRequest cf e c s r = some o) : NatInv cf o.cfg := by
  have hports := h.ports.request ho
  cases r with
  | createVip id addr =>
    refine h.congr hports (fun q _ => by rw [(dpProcessRequest_ports rfl ho).1]) ?_
    obtain hview | ⟨p, a, -, -, -, hview | ⟨-, hview⟩⟩ := createVip_view ho
    · rw [hview]
    · rw [hview, h.clearVip]
    · rw [hview]
      rfl
  | deleteVip id =>
    refine h.congr hports (fun q _ => by rw [(dpProcessRequest_ports rfl ho).1]) ?_
    obtain hview | ⟨p, -, -, hview⟩ := deleteVip_view ho
    · rw [hview]
    · rw [hview]
      exact h.clearVip _
  | createNat id addr lo hi =>
    obtain ⟨hview, hport⟩ | ⟨p, a, hp, rfl, hzero, ⟨hview, hport⟩ | ⟨hview, hport⟩⟩ := createNat_view ho
    · exact h.congr hports (fun q _ => congrArg Port.iface (congrFun hport q)) (congrArg NatView.nat hview)
    · refine h.congr hports (fun q _ => congrArg Port.iface (congrFun hport q)) ((congrArg NatView.nat hview).trans ?_)
      exact congrArg NatView.nat (setNat_self _ _ (h.ranges _ hzero))
    · refine h.setNat hports hport ((congrArg NatView.nat hview).trans ?_) (h.ports.mapped.mp hp).1
        fun ha => absurd ha hsafe
      unfold NatView.shareDnat
      split <;> rfl
  | deleteNat id =>
    obtain ⟨hview, hport⟩ | ⟨p, hp, -, hview, hport⟩ := deleteNat_view ho
    · exact h.congr hports (fun q _ => congrArg Port.iface (congrFun hport q)) (congrArg NatView.nat hview)
    · refine h.setNat hports hport ((congrArg NatView.nat hview).trans ?_) (h.ports.mapped.mp hp).1 fun _ => ⟨rfl, rfl⟩
      unfold NatView.unshareDnat
      split <;> rfl
  | createInterface pci id vni ip4 ip6 total pub =>
    have hnat := view_nat_congr (dpProcessRequest_snat h.ports rfl ho)
    cases dpProcessRequest_cases ho with
    | refused | noVnf | undone => exact h.congr hports (fun _ _ => rfl) hnat
    | @ifaceUndone _ _ _ _ _ _ _ p _ _ _ hal _ hun =>
      have hun := hun h.ports.uses
      refine h.congr hports (fun q hq => ?_) hnat
      by_cases hqp : q = p
      · subst hqp
        exact absurd (hq.symm.trans (hun.not_ready h.ports hal)) (by decide)
      · exact congrArg Port.iface (hun.other hqp)
    | ifaceCreated hname hal _ hcr =>
      obtain ⟨hnone, hfree⟩ := hsafe _ hname hal
      refine (h.created hports hal hcr hnone fun q hq => hfree q ?_ hq).1
      exact List.contains_iff_mem.mp (h.ports.ready hq).2.2
  | deleteInterface id =>
    have hnat := view_nat_congr (dpProcessRequest_snat h.ports rfl ho)
    cases dpProcessRequest_cases ho with
    | refused | noVnf | undone => exact h.congr hports (fun _ _ => rfl) hnat
    | @ifaceDeleted _ p _ _ _ hd =>
      refine h.congr hports (fun q hq => ?_) hnat
      by_cases hqp : q = p
      · subst hqp
        obtain ⟨a, ha⟩ := hd.port
        rw [ha] at hq
        cases hq
      · exact congrArg Port.iface (hd.other hqp)
  | _ =>
    refine h.congr hports (fun q _ => ?_) (view_nat_congr (dpProcessRequest_snat h.ports rfl ho))
    rw [(dpProcessRequest_ports rfl ho).1]

/-- What a safe request does to the answers about interfaces. -/
theorem NatInv.stepOk (h : NatInv cf c) (hsafe : CoherentSafe cf { cfg := c, lb := s } (r, e))
    (ho : dpProcessRequest cf e c s r = some o) : NatStepOk c r o.cfg := by
  cases r with
  | createVip | deleteVip | createNat | deleteNat => exact othersKept_of h.ports h.distinct rfl ho
  | createInterface pci id vni ip4 ip6 total pub =>
    intro hfresh hnew
    have hports := h.ports.request ho
    have hcase := dpProcessRequest_portCase h.ports ho
    generalize o.cfg = x at hcase hports hnew
    cases hcase with
    | kept hs => exact absurd ((congrFun hs.ids id).trans hfresh) hnew
    | undone _ _ _ hun => exact absurd ((congrFun hun.ids id).trans hfresh) hnew
    | created hname hal _ hcr =>
      obtain ⟨hnone, hfree⟩ := hsafe _ hname hal
      obtain ⟨-, hzero⟩ := h.created hports hal hcr hnone fun q hq =>
        hfree q (List.contains_iff_mem.mp (h.ports.ready hq).2.2) hq
      exact hcr.noNat hnone hzero
  | _ => trivial

theorem natInv_run {es : List Call} {s : Ctl} (hsafe : Along (ctlStep cf) (CoherentSafe cf) (Ctl.init cf) es)
    (hrun : run (ctlStep cf) (Ctl.init cf) es = some s) : NatInv cf s.cfg := by
  refine run_invariant (I := fun s => NatInv cf s.cfg) (P := CoherentSafe cf) ?_ (.init cf) hsafe hrun
  intro s a s' hs ha hstep
  obtain ⟨o, ho, hcfg, -⟩ := ctlStep_eq hstep
  rw [hcfg]
  exact hs.request ha ho

end Invariant

/-- **NAT configuration**: in every run in which no new interface meets a leftover SNAT entry or another interface under
its address, and no NAT address is zero, the two copies of the NAT range agree for every ready interface. A further such
request leaves the answers about other interfaces alone, and a new interface has neither VIP nor NAT. -/
theorem nat_coherence {cf : Conf} {es : List Call} {s : Ctl}
    (hsafe : Along (ctlStep cf) (CoherentSafe cf) (Ctl.init cf) es)
    (hrun : run (ctlStep cf) (Ctl.init cf) es = some s) :
    NatCoherent s.cfg ∧
      ∀ a s', CoherentSafe cf s a → ctlStep cf s a = some s' → NatStepOk s.cfg a.1 s'.cfg := by
  have h := natInv_run hsafe hrun
  refine ⟨h.coherent, fun a s' ha hstep => ?_⟩
  obtain ⟨o, ho, hcfg, -⟩ := ctlStep_eq hstep
  rw [hcfg]
  exact h.stepOk ha ho

/-- Two interfaces with NAT ranges of one address; the first one is deleted and comes back with another address. -/
theorem nat_coherence_two : ∃ s, run (ctlStep smallConf) (Ctl.init smallConf)
      (calls [.createInterface 2 1 100 0x0a000001 0 0 0, .createInterface 3 2 100 0x0a000002 0 0 0,
        .createNat 1 (.v4 0x01020304) 100 200, .createNat 2 (.v4 0x01020304) 200 300, .deleteInterface 1,
        .createInterface 2 1 100 0x0a000003 0 0 0]) = some s ∧ NatCoherent s.cfg := by
  refine exists_some_of (by decide) ?_
  intro s hs
  exact (nat_coherence (by decide +kernel) hs).1

/-- An interface with a NAT range is deleted, and another one gets its address: the SNAT table says that it has the
range, its record says that it has none. Two interfaces without an IPv4 address: a NAT range of the first shows at the
second. -/
theorem nat_coherence_leftover :
    (∃ s, run (ctlStep smallConf) (Ctl.init smallConf)
        (calls [.createInterface 2 1 100 0x0a000001 0 0 0, .createNat 1 (.v4 0x01020304) 100 200, .deleteInterface 1,
          .createInterface 3 2 100 0x0a000001 0 0 0]) = some s ∧ ¬ NatCoherent s.cfg ∧ ¬ NoNat 2 s.cfg) ∧
      ∃ s, run (ctlStep smallConf) (Ctl.init smallConf)
        (calls [.createInterface 2 1 100 0 1 0 0, .createInterface 3 2 100 0 2 0 0]) = some s ∧
        ¬ OthersKept 1 s.cfg (dpProcessCreateNat smallConf {} s.cfg 1 (.v4 0x01020304) 100 200).2 := by
  constructor
  · refine exists_some_imp (P := fun s => (s.cfg.port 3).iface.ready = true ∧ (s.cfg.port 3).iface.natRange = .zero ∧
      s.cfg.nat.view.nat (s.cfg.port 3).iface.natKey = ⟨0x01020304, 100, 200⟩ ∧
      dpProcessGetNat s.cfg 2 ≠ .err .snatNoData) (by decide +kernel) ?_
    rintro s - ⟨hready, hrecord, hentry, hget⟩
    refine ⟨fun hc => ?_, fun hn => hget hn.2.1⟩
    have heq := hc 3 hready
    rw [hrecord, hentry] at heq
    exact absurd heq (by decide)
  · refine exists_some_imp (P := fun s =>
      dpProcessGetNat (dpProcessCreateNat smallConf {} s.cfg 1 (.v4 0x01020304) 100 200).2 2 ≠ dpProcessGetNat s.cfg 2)
      (by decide +kernel) ?_
    intro s _ hne hk
    exact hne (hk 2 (by decide +kernel)).2

end Dpservice
