import Dpservice.NatView
import Dpservice.NatTable
import Dpservice.Nat64Undo
import Dpservice.FlowPasses
import Dpservice.ServiceConfig

/-!
# Translated flows stay in the configured range

A flow that network NAT has translated is meant to use the NAT address and a port of the range that the interface of its
creator has now. Allocation looks neither at the creator nor at the range for two packets: one whose source address has
a range of its own in the SNAT table, and one whose source is still in the portmap, with the port it got from an earlier
range.

- `LiveLocal`: a translated flow of the flow table, which only the `nat` effect makes (`Effect.liveLocal`);
- `request_natRange`: a request changes the range of an interface only where no translated flow of its port remains;
- `nat_range_confined`: translated flows stay in the range of their creator in every run without such packets.
-/

namespace Dpservice

open Relation (ReflTransGen)

/-- Replies to this key go to the address and to a port of the range. -/
structure NatRange.Serves (r : NatRange) (k : FlowKey) : Prop where
  natIp : k.l3Dst = .v4 r.natIp
  minPort : r.minPort ≤ k.portDst
  maxPort : k.portDst < r.maxPort

/-- A flow of the flow table that network NAT has translated. -/
structure LiveLocal (d : Dataplane) (fv : FlowValue) : Prop where
  isLocal : fv.natType = .networkLocal
  entry : ∃ k f, d.flowTbl k = some f ∧ d.flows f = some fv

/-- Every translated flow has the NAT address and a port of the range that is configured for the port of its creator. -/
def NatConfined (s : Service) : Prop :=
  ∀ fv, LiveLocal s.dpl fv → (s.cfg.port fv.createdPortId).iface.natRange.Serves fv.reply

/-! ## Where translated flows come from -/

section LiveLocal

variable {cf : Conf} {e : Env} {c : Config} {d d' : Dataplane} {n : Node} {m : Mbuf} {f : ℕ} {fv fv' : FlowValue}

/-- The flow `fv'` stands for a translated flow of `d`, with the same creator and reply key. -/
def WasLocal (d : Dataplane) (fv' : FlowValue) : Prop :=
  ∃ fv, LiveLocal d fv ∧ fv'.createdPortId = fv.createdPortId ∧ fv'.reply = fv.reply

theorem LiveLocal.wasLocal (h : LiveLocal d fv) : WasLocal d fv := ⟨fv, h, rfl, rfl⟩

theorem LiveLocal.quiet (hq : Quiet d d') (h : LiveLocal d' fv') : WasLocal d fv' := by
  obtain ⟨hl, k, f, hk, hf⟩ := h
  obtain ⟨fv, hfv, hu⟩ := hq.was_live hf
  exact ⟨fv, ⟨hu.isLocal.mp hl, k, f, hq.flowTbl ▸ hk, hfv⟩, hu.created, hu.reply⟩

theorem LiveLocal.frees (hf : Frees d d') (h : LiveLocal d' fv) : LiveLocal d fv := by
  obtain ⟨hl, k, f, hk, hfv⟩ := h
  exact ⟨hl, k, f, hf.tbl hk, hf.flows hfv⟩

theorem LiveLocal.maint (hm : ReflTransGen Maint d d') (h : LiveLocal d' fv') : WasLocal d fv' := by
  induction hm generalizing fv' with
  | refl => exact h.wasLocal
  | tail _ hstep ih =>
    cases hstep with
    | quiet hq =>
      obtain ⟨fv, hfv, hc, hr⟩ := h.quiet hq
      obtain ⟨fv₀, hfv₀, hc₀, hr₀⟩ := ih hfv
      exact ⟨fv₀, hfv₀, hc.trans hc₀, hr.trans hr₀⟩
    | free f hf => exact ih (h.frees (.single ⟨f, hf⟩))

/-- Giving a flow a new value makes at most that one a translated flow. -/
theorem LiveLocal.rekey {old : FlowKey} {added : Bool} (hr : Rekey d d' f fv fv' old added) {gv : FlowValue}
    (h : LiveLocal d' gv) : gv = fv' ∨ LiveLocal d gv := by
  obtain ⟨hl, k, g, hk, hg⟩ := h
  obtain ⟨-, rfl⟩ | ⟨hne, hg⟩ := hr.was_live hg
  · exact .inl rfl
  · have hold : d.flowTbl k = some g := by
      rw [hr.flowTbl] at hk
      split at hk
      · obtain ⟨-, rfl⟩ | ⟨-, hk⟩ := Table.add_eq_some.mp hk
        · exact absurd rfl hne
        · exact (Table.del_eq_some.mp hk).2
      · exact (Table.del_eq_some.mp hk).2
    exact .inr ⟨hl, k, g, hold, hg⟩

/-- **Only network NAT makes translated flows**, with a port that it allocates. -/
theorem Effect.liveLocal (he : Effect cf e c d n m d') (h : LiveLocal d' fv') :
    WasLocal d fv' ∨ ∃ f fv r p ports, natTurn cf e c d n m = some (f, fv, r) ∧
      Alloc e d.ports r m.df (ifaceVni c m) (some p) ports ∧ fv'.createdPortId = fv.createdPortId ∧
      fv'.reply = natReply m fv r.natIp p := by
  have hrekey : ∀ {f fv gv old added}, Rekey d d' f fv gv old added → gv.natType ≠ .networkLocal → WasLocal d fv' := by
    intro f fv gv old added hr hnl
    obtain rfl | hold := h.rekey hr
    · exact absurd h.isLocal hnl
    · exact hold.wasLocal
  cases he with
  | insert key fv _ hi =>
    obtain ⟨hl, k, g, hk, hg⟩ := h
    obtain ⟨-, rfl⟩ | ⟨hne, hg⟩ := hi.was_live hg
    · exact absurd hl hi.notLocal
    · rw [hi.flowTbl] at hk
      obtain ⟨-, rfl⟩ | ⟨-, hk⟩ := Table.add_eq_some.mp hk
      · exact absurd rfl hne
      · obtain ⟨-, rfl⟩ | ⟨-, hk⟩ := Table.add_eq_some.mp hk
        · exact absurd rfl hne
        · exact .inl (LiveLocal.wasLocal ⟨hl, k, g, hk, hg⟩)
  | relay f fv fv' _ hr _ _ _ hnl => exact .inl (hrekey hr hnl)
  | vip f fv fv' _ hr _ _ hnl _ => exact .inl (hrekey hr hnl)
  | natFail f fv r _ _ hq =>
    obtain ⟨gv, hgv, hc, hr⟩ := h.quiet hq
    exact .inl ⟨gv, ⟨hgv.isLocal, hgv.entry⟩, hc, hr⟩
  | nat64Fail f fv r p ports _ _ _ _ hd =>
    subst hd
    exact .inl (LiveLocal.wasLocal ⟨h.isLocal, h.entry⟩)
  | nat f fv gv r p ports turn _ halloc hr _ _ _ _ hreply _ =>
    obtain rfl | hold := h.rekey hr
    · exact .inr ⟨f, fv, r, p, ports, turn, halloc, hr.created, hreply⟩
    · exact .inl hold.wasLocal

end LiveLocal

/-! ## The range of an interface -/

section Requests

variable {cf : Conf} {e : Env} {c : Config} {l : LbState} {r : Request} {o : Outcome} {p : PortId}

/-- A pass of the request goes over all translated flows that the port has created. -/
def Purges (o : Outcome) (p : PortId) : Prop :=
  ∃ x ∈ o.removals, ∀ k fv, fv.natType = .networkLocal → fv.createdPortId = p → x.hits k fv = true

/-- **A request changes the range of a port** only if the port has no NAT address, if its translated flows are removed,
or if `CreateNat` finds no NAT address in the SNAT entry of its interface. -/
theorem request_natRange (hports : PortsOk cf c) (ho : dpProcessRequest cf e c l r = some o) (p : PortId) :
    (o.cfg.port p).iface.natRange = (c.port p).iface.natRange ∨ (c.port p).iface.natIp = 0 ∨ Purges o p ∨
      ∃ id addr lo hi, r = .createNat id addr lo hi ∧ c.ifaceIdTable id = some p ∧
        (c.nat.view.nat (c.port p).iface.natKey).natIp = 0 := by
  have hset : ∀ {q ip lo hi}, p ≠ q →
      ((c.setIface q ((c.port q).iface.setNat ip lo hi)).port p).iface.natRange = (c.port p).iface.natRange := by
    intro q ip lo hi hne
    rw [setIface_port_ne hne]
  have hidle : ∀ {q}, (c.port q).allocated = false → (c.port q).iface.natIp = 0 := by
    intro q hal
    rw [hports.idle (hports.not_ready hal)]
  cases dpProcessRequest_cases ho with
  | @ifaceUndone _ _ _ _ _ _ _ q _ _ _ hal _ hun =>
    by_cases hq : p = q
    · exact .inr (.inl (hidle (hq ▸ hal)))
    · exact .inl (by rw [(hun hports.uses).other hq])
  | @ifaceCreated _ _ _ _ _ _ _ q _ _ hal _ hcr =>
    by_cases hq : p = q
    · exact .inr (.inl (hidle (hq ▸ hal)))
    · exact .inl (by rw [hcr.other hq])
  | @ifaceDeleted _ q _ _ _ hd =>
    by_cases hq : p = q
    · refine .inr (.inr (.inl ⟨_, List.mem_singleton.mpr rfl, fun k fv _ hp => ?_⟩))
      simp [FlowRemoval.hits, hp, hq]
    · exact .inl (by rw [hd.other hq])
  | @natCreated id q a lo hi _ _ _ hq _ hset' =>
    by_cases hpq : p = q
    · subst hpq
      obtain ⟨hzero, -⟩ := dpSetIfaceNatIp_view hset'
      exact .inr (.inr (.inr ⟨id, .v4 a, lo, hi, rfl, hq, hzero⟩))
    · exact .inl (hset hpq)
  | @natDeleted _ q =>
    by_cases hpq : p = q
    · refine .inr (.inr (.inl ⟨_, List.mem_singleton.mpr rfl, fun k fv hl hp => ?_⟩))
      simp [FlowRemoval.hits, hp, hl, hpq]
    · exact .inl (hset hpq)
  | createLb hx =>
    obtain ⟨f, t, hcfg, -⟩ := hx.frame
    exact .inl (by rw [hcfg])
  | _ => exact .inl rfl

end Requests

/-! ## Runs -/

/-- The packet is translated with the range of the port that has created its flow, and if its source keeps a port, that
port is in this range. -/
def UsesOwnRange (cf : Conf) (s : Service) (e : Env) (n : Node) (m : Mbuf) : Prop :=
  ∀ t ∈ natTurn cf e s.cfg s.dpl n m,
    (s.cfg.port t.2.1.createdPortId).iface.natRange = t.2.2 ∧
      ∀ x ∈ s.dpl.ports.kept t.2.2 m.df (ifaceVni s.cfg m), t.2.2.minPort ≤ x.natPort ∧ x.natPort < t.2.2.maxPort

instance (cf : Conf) (s : Service) (e : Env) (n : Node) (m : Mbuf) : Decidable (UsesOwnRange cf s e n m) := by
  unfold UsesOwnRange
  infer_instance

/-- The interface that is to get a NAT range. -/
def Request.newNat : Request → Option Id64
  | .createNat id .. => some id
  | _ => none

/-- `CreateNat` for an interface without NAT address in the SNAT table finds none in the port record either. -/
def NoOldRange (s : Service) (r : Request) : Prop :=
  ∀ id ∈ r.newNat, ∀ p ∈ s.cfg.ifaceIdTable id,
    (s.cfg.nat.view.nat (s.cfg.port p).iface.natKey).natIp = 0 → (s.cfg.port p).iface.natIp = 0

instance (s : Service) (r : Request) : Decidable (NoOldRange s r) := by
  unfold NoOldRange
  infer_instance

/-- Passes see the whole flow table, packets are translated with the range of their creator, and a range is only set
where there is none. -/
def ConfinedSafe (cf : Conf) (s : Service) (ev : Event) : Prop :=
  Iterates s ev ∧ OnWalk (UsesOwnRange cf) s ev ∧ OnRequest NoOldRange s ev

/-- Translated flows are in the range of their creator, which has a NAT address. -/
def InRange (c : Config) (d : Dataplane) : Prop :=
  ∀ fv, LiveLocal d fv →
    (c.port fv.createdPortId).iface.natRange.Serves fv.reply ∧ (c.port fv.createdPortId).iface.natIp ≠ 0

section Runs

variable {cf : Conf} {e : Env} {c : Config} {d d' : Dataplane} {n : Node} {m : Mbuf} {f : ℕ} {fv : FlowValue}
  {r : NatRange} {s s' : Service} {ev : Event} {es : List Event}

theorem natTurn_natIp (h : natTurn cf e c d n m = some (f, fv, r)) : r.natIp ≠ 0 := by
  obtain ⟨-, -, -, -, -, hr⟩ := natTurn_inv h
  unfold natRangeOf at hr
  dsimp only at hr
  split at hr
  · obtain ⟨sd, hsd, rfl⟩ := Option.map_eq_some_iff.mp hr
    simpa using (Option.filter_eq_some_iff.mp hsd).2
  · split at hr
    next hi =>
      cases hr
      exact hi.1
    · cases hr
  · cases hr

/-- An allocated port is in the range if the port that the source keeps is. -/
theorem Alloc.inRange {ports ports' : NatPorts} {df : DpFlow} {vni : Vni} {p : UInt16}
    (h : Alloc e ports r df vni (some p) ports')
    (hkept : ∀ x ∈ ports.kept r df vni, r.minPort ≤ x.natPort ∧ x.natPort < r.maxPort) :
    r.minPort ≤ p ∧ p < r.maxPort := by
  obtain ⟨x, hx, rfl, -⟩ | ⟨-, hp, -⟩ := h.portmap
  · exact hkept x hx
  · exact hp

theorem InRange.maint (h : InRange c d) (hm : ReflTransGen Maint d d') : InRange c d' := by
  intro fv' hfv'
  obtain ⟨fv, hfv, hc, hr⟩ := hfv'.maint hm
  rw [hc, hr]
  exact h fv hfv

/-- A node keeps translated flows in range. -/
theorem InRange.nodeStep (h : InRange s.cfg s.dpl) (hP : UsesOwnRange cf s e n m)
    (hs : NodeStep cf e s.cfg s.dpl n m d') : InRange s.cfg d' := by
  cases hs with
  | maint hm => exact h.maint hm
  | effect he =>
    intro fv' hfv'
    obtain ⟨fv, hfv, hc, hr⟩ | ⟨f, fv, r, p, ports, turn, halloc, hc, hr⟩ := he.liveLocal hfv'
    · rw [hc, hr]
      exact h fv hfv
    · obtain ⟨hown, hkept⟩ := hP _ turn
      obtain ⟨hlo, hhi⟩ := halloc.inRange hkept
      obtain ⟨hdst, hport⟩ := natReply_dst m fv r.natIp p
      have hip : (s.cfg.port fv.createdPortId).iface.natIp = r.natIp := (congrArg NatRange.natIp hown :)
      rw [hc, hr, hown, hip]
      exact ⟨⟨hdst, hport.symm ▸ hlo, hport.symm ▸ hhi⟩, natTurn_natIp turn⟩

/-- A request keeps translated flows in range. -/
theorem InRange.request {r : Request} {order : List FlowKey} (hoff : cf.offloadEnabled = false)
    (h : InRange s.cfg s.dpl) (hports : PortsOk cf s.cfg) (hplain : Plain cf s)
    (hall : ∀ k f, s.dpl.flowTbl k = some f → k ∈ order) (hnew : NoOldRange s r)
    (hs : step cf s (.request r e order) = some s') : InRange s'.cfg s'.dpl := by
  obtain ⟨-, -, o, ho, hcfg, hd⟩ := step_request hs
  obtain ⟨hfrees, hdone⟩ := removals_spec hoff (hplain.fresh.lb o.lb) hd
  intro fv hfv
  obtain ⟨k, f, hk, hf⟩ := hfv.entry
  have hold : LiveLocal s.dpl fv := ⟨hfv.isLocal, k, f, hfrees.tbl hk, hfrees.flows hf⟩
  obtain ⟨hserves, hne⟩ := h fv hold
  rw [hcfg]
  obtain heq | hzero | ⟨x, hx, hhit⟩ | ⟨id, addr, lo, hi, rfl, hp, hzero⟩ :=
    request_natRange hports ho fv.createdPortId
  · refine ⟨heq ▸ hserves, ?_⟩
    have hip : (o.cfg.port fv.createdPortId).iface.natIp = (s.cfg.port fv.createdPortId).iface.natIp :=
      (congrArg NatRange.natIp heq :)
    rwa [hip]
  · exact absurd hzero hne
  · have hmiss := hdone x hx k (hall k f (hfrees.tbl hk)) f fv hk hf
    rw [hhit k fv hfv.isLocal rfl] at hmiss
    cases hmiss
  · exact absurd (hnew id rfl _ hp hzero) hne

theorem InRange.step (hoff : cf.offloadEnabled = false) (h : InRange s.cfg s.dpl) (hports : PortsOk cf s.cfg)
    (hplain : Plain cf s) (hP : ConfinedSafe cf s ev) (hs : step cf s ev = some s') : InRange s'.cfg s'.dpl := by
  obtain ⟨hall, hown, hnew⟩ := hP
  have hb := hplain.tracked.base
  obtain hcfg | ⟨r, e, order, o, rfl, -, -⟩ := step_config hs
  · rw [hcfg]
    obtain ⟨i, e, n, m, m', n', rfl, hi, -, heff, -⟩ | ⟨hm, -⟩ := step_dataplane hb hs
    · exact h.nodeStep (hown _ hi) heff
    · exact h.maint hm
  · exact h.request hoff hports hplain hall hnew hs

/-- **Translated flows stay in the range of the interface that created them** in every run in which packets are
translated with this range and ports are kept within it. -/
theorem nat_range_confined (hoff : cf.offloadEnabled = false)
    (hP : Along (step cf) (ConfinedSafe cf) (Service.init cf) es)
    (h : run (step cf) (Service.init cf) es = some s) : NatConfined s := by
  have hI : InRange s.cfg s.dpl ∧ PortsOk cf s.cfg ∧ Plain cf s := by
    refine run_invariant (I := fun s => InRange s.cfg s.dpl ∧ PortsOk cf s.cfg ∧ Plain cf s) ?_ ?_ hP h
    · rintro s ev s' ⟨hr, hports, hplain⟩ hP hs
      refine ⟨hr.step hoff hports hplain hP hs, ?_, hplain.step hoff hs⟩
      obtain heq | ⟨r, e, order, o, -, ho, heq⟩ := step_config hs
      · exact heq ▸ hports
      · exact heq ▸ hports.request ho
    · refine ⟨fun fv hfv => ?_, .init cf, .init cf⟩
      obtain ⟨k, f, hk, -⟩ := hfv.entry
      cases hk
  exact fun fv hfv => (hI.1 fv hfv).1

end Runs

/-- The keys of the flow of the TCP packet, behind NAT port 100. -/
def tcpNatKeys : List FlowKey :=
  [{ l3Dst := .v4 0x08080808, l3Src := .v4 0x0a000001, proto := ipprotoTcp, portDst := 80, src := 1000, vnfType := .nat,
      vni := 100 },
    { l3Dst := .v4 0x01020304, l3Src := .v4 0x08080808, proto := ipprotoTcp, portDst := 100, src := 80, vnfType := .nat,
      vni := 100 }]

/-- Interface 7 gets another NAT range between two packets of a connection. -/
def newRange : List Event :=
  requests (smallSetup ++ [.createNat 7 (.v4 0x01020304) 100 102]) ++ passes tcpPacket 8 ++
    [.request (.deleteNat 7) {} tcpNatKeys, .request (.createNat 7 (.v4 0x01020305) 300 302) {} []] ++
      passes tcpPacket 8

/-- The flow of the second packet has the new address. -/
theorem nat_range_confined_new :
    ∃ s fv, run (step smallConf) (Service.init smallConf) newRange = some s ∧ s.dpl.flows 1 = some fv ∧
      fv.natType = .networkLocal ∧ fv.reply.l3Dst = .v4 0x01020305 ∧ NatConfined s := by
  obtain ⟨s, hs, fv, hf, hnat, hdst⟩ : ∃ s, run (step smallConf) (Service.init smallConf) newRange = some s ∧
      ∃ fv, s.dpl.flows 1 = some fv ∧ fv.natType = .networkLocal ∧ fv.reply.l3Dst = .v4 0x01020305 := by decide +kernel
  exact ⟨s, fv, hs, hf, hnat, hdst, nat_range_confined rfl (along_iterates (by decide +kernel)) hs⟩

/-- Interface 8 on port 3: 10.0.0.2 in VNI 100, without NAT, which sends the TCP packet of interface 7. -/
def spoofed : List Event :=
  requests (natSetup ++ [.createInterface 3 8 100 0x0a000002 0 0 0]) ++ passes { tcpPacket with port := 3 } 8

/-- The keys of the flow of a message that NAT64 cannot convert. -/
def nat64UnreachableKeys : List FlowKey :=
  [{ l3Dst := .v6 0x0064ff9b000000000000000008080808, l3Src := .v6 0xfd00, proto := ipprotoIcmpv6, portDst := 1,
      src := 1, vnfType := .nat, vni := 100 },
    { l3Dst := .v6 0xfd00, l3Src := .v6 0x0064ff9b000000000000000008080808, proto := ipprotoIcmpv6, portDst := 1,
      src := 0, vnfType := .nat, vni := 100 }]

/-- The port that was taken for that message outlives the NAT range of interface 7; an echo request gets it again. -/
def leftoverPort : List Event :=
  requests natSetup ++ passes nat64Unreachable 5 ++ [.request (.deleteNat 7) {} nat64UnreachableKeys,
    .request (.createNat 7 (.v4 0x01020305) 300 310) {} nat64UnreachableKeys] ++ passes (nat64Ping 1) 8

/-- A flow in the table outside of the range of its creator. -/
def Service.escapes (s : Service) (f : ℕ) : Bool :=
  (s.dpl.flows f).any fun fv => s.dpl.flowTbl fv.org == some f && fv.natType == .networkLocal &&
    let i := (s.cfg.port fv.createdPortId).iface
    !(fv.reply.l3Dst == .v4 i.natIp && decide (i.natMinPort ≤ fv.reply.portDst) &&
      decide (fv.reply.portDst < i.natMaxPort))

theorem not_confined_of_escapes {s : Service} {f : ℕ} (h : s.escapes f = true) : ¬ NatConfined s := by
  intro hc
  obtain ⟨fv, hf, hfv⟩ := (Option.any_eq_true _ _).mp h
  simp only [Bool.and_eq_true, beq_iff_eq, Bool.not_eq_true', Bool.and_eq_false_iff, decide_eq_false_iff_not] at hfv
  obtain ⟨⟨htbl, hl⟩, hout⟩ := hfv
  obtain ⟨hip, hlo, hhi⟩ := hc fv ⟨hl, fv.org, f, htbl, hf⟩
  rcases hout with (hout | hout) | hout
  · rw [hip] at hout
    simp [Iface.natRange] at hout
  · exact hout hlo
  · exact hout hhi

/-- A packet with the source address of another interface is translated with the range of that interface; and a port of
an earlier range is used again. -/
theorem nat_range_left :
    (∃ s, run (step smallConf) (Service.init smallConf) spoofed = some s ∧ ¬ NatConfined s) ∧
      ∃ s, run (step smallConf) (Service.init smallConf) leftoverPort = some s ∧ ¬ NatConfined s := by
  constructor
  · exact exists_some_imp (P := fun s => s.escapes 0 = true) (by decide +kernel) fun s _ => not_confined_of_escapes
  · exact exists_some_imp (P := fun s => s.escapes 1 = true) (by decide +kernel) fun s _ => not_confined_of_escapes

end Dpservice
