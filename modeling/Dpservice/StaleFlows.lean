import Dpservice.FlowPasses
import Dpservice.NatView
import Dpservice.NatReply
import Dpservice.ServiceConfig
import Dpservice.VniFrame

/-!
# Flows that outlive their configuration

`DeleteVip`, `DeleteNat` and `DeleteInterface` remove flows by the port that created them and, for an interface, by its
IPv4 address as the first destination. This finds the flows that an interface opens itself. It misses the connections
that others open towards it over IPv6 or through its VIP, and those that others open with its address as their source.

- `Ours`: what has to be true of a flow for the passes to find it, with one lemma for each effect;
- `request_addresses`: only `CreateInterface` gives an interface addresses;
- `no_stale_flow`: the three requests leave no stale flow behind, in every run without such connections (`StaleSafe`).
-/

namespace Dpservice

open Relation (ReflTransGen)

/-! ## Stale flows -/

def Live (d : Dataplane) (fv : FlowValue) : Prop := ∃ k f, d.flowTbl k = some f ∧ d.flows f = some fv

/-- Packets of the interface on port `p` leave with the source `ip`, or packets to `ip` go to the interface. -/
def FlowValue.RewritesFor (fv : FlowValue) (p : PortId) (i : Iface) (ip : Ip4) : Prop :=
  (fv.reply.l3Dst = .v4 ip ∧ fv.org.l3Src ≠ .v4 ip ∧ (fv.createdPortId = p ∨ fv.org.l3Src = .v4 i.ownIp)) ∨
    (fv.org.l3Dst = .v4 ip ∧ fv.reply.l3Src ≠ .v4 ip ∧ fv.reply.l3Src = .v4 i.ownIp)

/-- The interface is the host that the flow was opened to, before or after translation. -/
def FlowValue.EndsAt (fv : FlowValue) (i : Iface) : Prop :=
  ∃ a, (a = .v4 i.ownIp ∨ a = .v6 i.dhcpIpv6) ∧ (fv.org.l3Dst = a ∨ fv.reply.l3Src = a)

/-- What a request that deletes something leaves of the flows:
  - after `DeleteVip` has answered with the VIP, no flow translates to or from it for the interface, network NAT apart;
  - after `DeleteNat` has answered with the NAT address, no flow translates to or from it for the interface, VIPs apart;
  - after `DeleteInterface`, no flow of its port is left, and none in its VNI that ends at it. -/
def NoStale (s : Service) (r : Request) (d' : Dataplane) : Prop :=
  match r with
  | .deleteVip id => ∀ p ip, s.cfg.ifaceIdTable id = some p → (dpProcessDeleteVip s.cfg id).1 = .addr ip →
    ∀ fv, Live d' fv → fv.org.vni = (s.cfg.port p).iface.vni → fv.natType ≠ .networkLocal →
      ¬ fv.RewritesFor p (s.cfg.port p).iface ip
  | .deleteNat id => ∀ p ip, s.cfg.ifaceIdTable id = some p → (dpProcessDeleteNat s.cfg id).1 = .addr ip →
    ∀ fv, Live d' fv → fv.org.vni = (s.cfg.port p).iface.vni → fv.natType ≠ .vip →
      ¬ fv.RewritesFor p (s.cfg.port p).iface ip
  | .deleteInterface id => ∀ p, s.cfg.ifaceIdTable id = some p → ∀ fv, Live d' fv →
    fv.createdPortId ≠ p ∧ (fv.org.vni = (s.cfg.port p).iface.vni → ¬ fv.EndsAt (s.cfg.port p).iface)
  | _ => True

/-! ## Flows that the passes find -/

def othersIn (cf : Conf) (c : Config) (p : PortId) (v : Vni) : List Iface :=
  (cf.portList.filter fun q => (c.port q).iface.ready && q != p && (c.port q).iface.vni == v).map fun q =>
    (c.port q).iface

/-- An interface with these addresses is not the source of a translated flow, and the flow does not end there unless it
was opened to the IPv4 address. -/
structure FlowValue.Spares (fv : FlowValue) (ip4 : Ip4) (ip6 : Ip6) : Prop where
  src : fv.reply.l3Dst ≠ fv.org.l3Src → fv.org.l3Src ≠ .v4 ip4
  dst6 : fv.org.l3Dst ≠ .v6 ip6
  dst4 : fv.reply.l3Src ≠ fv.org.l3Dst → fv.reply.l3Src ≠ .v4 ip4

instance (fv : FlowValue) (ip4 : Ip4) (ip6 : Ip6) : Decidable (fv.Spares ip4 ip6) :=
  decidable_of_iff ((fv.reply.l3Dst ≠ fv.org.l3Src → fv.org.l3Src ≠ .v4 ip4) ∧ fv.org.l3Dst ≠ .v6 ip6 ∧
    (fv.reply.l3Src ≠ fv.org.l3Dst → fv.reply.l3Src ≠ .v4 ip4))
    ⟨fun h => ⟨h.1, h.2.1, h.2.2⟩, fun h => ⟨h.src, h.dst6, h.dst4⟩⟩

/-- The flow spares the interfaces of other ports, its destination is translated by NAT64 only, and its NAT type tells
how its source is translated. -/
structure Ours (cf : Conf) (c : Config) (fv : FlowValue) : Prop where
  spares : ∀ i ∈ othersIn cf c fv.createdPortId fv.org.vni, fv.Spares i.ownIp i.dhcpIpv6
  dst : fv.reply.l3Src = fv.org.l3Dst ∨ ∃ a b, fv.org.l3Dst = .v6 a ∧ fv.reply.l3Src = .v4 b
  type : fv.reply.l3Dst = fv.org.l3Src ∨ fv.natType = .vip ∨ fv.natType = .networkLocal

/-- All live flows are such. -/
def AllOurs (cf : Conf) (c : Config) (d : Dataplane) : Prop := ∀ f fv, d.flows f = some fv → Ours cf c fv

/-- The packet opens no connection that the passes would miss:
  - a new flow does not go to the IPv6 address of an interface on another port;
  - `dnat` gives no flow a new destination;
  - a flow whose source is about to be translated does not come from the address of an interface on another port;
  - NAT64 does not translate to the address of an interface on another port. -/
def OpensOwn (cf : Conf) (s : Service) (e : Env) (n : Node) (m : Mbuf) : Prop :=
  (∀ k ∈ newFlowTurn cf e s.cfg s.dpl n m, ∀ i ∈ othersIn cf s.cfg m.port k.vni, k.l3Dst ≠ .v6 i.dhcpIpv6) ∧
  (n = .dnat → vipTurn cf e s.cfg s.dpl n m = none) ∧
  (∀ t ∈ vipTurn cf e s.cfg s.dpl n m, ∀ i ∈ othersIn cf s.cfg t.2.1.createdPortId t.2.1.org.vni,
    t.2.1.org.l3Src ≠ .v4 i.ownIp) ∧
  (∀ t ∈ natTurn cf e s.cfg s.dpl n m, ∀ i ∈ othersIn cf s.cfg t.2.1.createdPortId t.2.1.org.vni,
    t.2.1.org.l3Src ≠ .v4 i.ownIp ∧ (m.df.l3Type = .ipv6 → m.dst4 ≠ i.ownIp))

instance (cf : Conf) (s : Service) (e : Env) (n : Node) (m : Mbuf) : Decidable (OpensOwn cf s e n m) := by
  unfold OpensOwn
  infer_instance

def Request.newAddresses : Request → Option (Vni × Ip4 × Ip6)
  | .createInterface _ _ vni ip4 ip6 .. => some (vni, ip4, ip6)
  | _ => none

def NewSpared (s : Service) (r : Request) : Prop :=
  ∀ a ∈ r.newAddresses, ∀ f < s.dpl.nextFlow, ∀ fv ∈ s.dpl.flows f, fv.org.vni = a.1 → fv.Spares a.2.1 a.2.2

instance (s : Service) (r : Request) : Decidable (NewSpared s r) := by
  unfold NewSpared
  infer_instance

/-- Passes see the whole flow table, packets open no connection that they would miss, and no new interface becomes the
end of one. -/
def StaleSafe (cf : Conf) (s : Service) (ev : Event) : Prop :=
  Iterates s ev ∧ OnWalk (OpensOwn cf) s ev ∧ OnRequest NewSpared s ev

/-! ## Effects -/

section Effects

variable {cf : Conf} {e : Env} {c : Config} {d d' : Dataplane} {n : Node} {m : Mbuf} {f : ℕ} {fv fv' : FlowValue}

/-- A flow that no node has translated has opposite keys. -/
theorem Base.opposite (hb : Base d) (hf : d.flows f = some fv) (hp : fv.flags = {}) :
    fv.reply.l3Dst = fv.org.l3Src ∧ fv.reply.l3Src = fv.org.l3Dst := by
  rw [(hb.plain f fv hf hp).1]
  obtain ⟨hdst, hsrc, -⟩ := dpInvertFlowKey_eq fv.org
  exact ⟨hdst, hsrc⟩

/-- A flow with opposite keys needs to be looked at for its IPv6 destination only. -/
theorem Ours.of_opposite (hopp : fv.reply.l3Dst = fv.org.l3Src ∧ fv.reply.l3Src = fv.org.l3Dst)
    (h6 : ∀ i ∈ othersIn cf c fv.createdPortId fv.org.vni, fv.org.l3Dst ≠ .v6 i.dhcpIpv6) : Ours cf c fv where
  spares i hi := ⟨fun hne => absurd hopp.1 hne, h6 i hi, fun hne => absurd hopp.2 hne⟩
  dst := .inl hopp.2
  type := .inl hopp.1

theorem Ours.upd (h : Ours cf c fv) (hb : Base d) (hf : d.flows f = some fv) (hu : FlowUpd fv fv') : Ours cf c fv' where
  spares i hi := by
    rw [hu.created, hu.org] at hi
    obtain ⟨hsrc, h6, h4⟩ := h.spares i hi
    refine ⟨?_, ?_, ?_⟩
    · rwa [hu.reply, hu.org]
    · rwa [hu.org]
    · rwa [hu.reply, hu.org]
  dst := by
    rw [hu.reply, hu.org]
    exact h.dst
  type := by
    rw [hu.reply, hu.org]
    by_cases hp : fv.flags = {}
    · exact .inl (hb.opposite hf hp).1
    · rw [hu.type hp]
      exact h.type

theorem AllOurs.quiet (h : AllOurs cf c d) (hb : Base d) (hq : Quiet d d') : AllOurs cf c d' := by
  intro f fv' hf'
  obtain ⟨fv, hf, hu⟩ := hq.was_live hf'
  exact (h f fv hf).upd hb hf hu

theorem AllOurs.free (h : AllOurs cf c d) (hf : dpFreeFlow d f = some d') : AllOurs cf c d' := by
  obtain ⟨fv, -, hflows, -⟩ := dpFreeFlow_eq hf
  intro g gv hg
  rw [hflows, Table.del_eq_some] at hg
  exact h g gv hg.2

/-- A flow gets a new value. -/
theorem AllOurs.rekey {old : FlowKey} {added : Bool} (h : AllOurs cf c d) (hr : Rekey d d' f fv fv' old added)
    (hfv : Ours cf c fv') : AllOurs cf c d' := by
  intro g gv hg
  obtain ⟨-, rfl⟩ | ⟨-, hg⟩ := hr.was_live hg
  · exact hfv
  · exact h g gv hg

/-- A new source address, for a flow that does not come from the address of another interface. -/
theorem Ours.newSrc {old : FlowKey} {added : Bool} (h : Ours cf c fv) (hb : Base d) (hr : Rekey d d' f fv fv' old added)
    (hsrc : ∀ i ∈ othersIn cf c fv.createdPortId fv.org.vni, fv.org.l3Src ≠ .v4 i.ownIp)
    (hreply : fv'.reply.l3Src = fv.reply.l3Src) (htype : fv'.natType = .vip ∨ fv'.natType = .networkLocal) :
    Ours cf c fv' := by
  have hsame : fv'.reply.l3Src = fv'.org.l3Dst := by rw [hreply, hr.org, (hb.opposite hr.live hr.plain).2]
  refine ⟨fun i hi => ?_, .inl hsame, .inr htype⟩
  rw [hr.created, hr.org] at hi
  refine ⟨fun _ => ?_, ?_, fun hne => absurd hsame hne⟩
  · rw [hr.org]
    exact hsrc i hi
  · rw [hr.org]
    exact (h.spares i hi).dst6

theorem natReply_src4 (h : m.df.l3Type ≠ .ipv6) (natIp : Ip4) (p : UInt16) :
    (natReply m fv natIp p).l3Src = fv.reply.l3Src := by
  rw [natReply, if_neg h]
  rfl

theorem natReply_src6 (h : m.df.l3Type = .ipv6) (natIp : Ip4) (p : UInt16) :
    (natReply m fv natIp p).l3Src = .v4 m.dst4 := by
  rw [natReply, if_pos h]
  rfl

/-- Network NAT of a flow that the passes will find. -/
theorem Ours.nat {s : Service} {r : NatRange} {p : UInt16} {old : FlowKey} {added : Bool} (h : Ours cf s.cfg fv)
    (hb : Base s.dpl) (hm : NodeOk s.dpl m n) (hr : Rekey s.dpl d' f fv fv' old added)
    (turn : natTurn cf e s.cfg s.dpl n m = some (f, fv, r)) (hconv : m.df.l3Type = .ipv6 → nat64Converts m = true)
    (hP : OpensOwn cf s e n m) (hl : fv'.natType = .networkLocal) (hreply : fv'.reply = natReply m fv r.natIp p) :
    Ours cf s.cfg fv' := by
  have hothers := hP.2.2.2 _ turn
  by_cases h6 : m.df.l3Type = .ipv6
  swap
  · refine h.newSrc hb hr (fun i hi => (hothers i hi).1) ?_ (.inr hl)
    rw [hreply, natReply_src4 h6]
  -- NAT64 converts no ICMP error, so the flow has the destination of the packet
  have herr : m.df.isIcmpErr = false := by
    have hc := hconv h6
    unfold nat64Converts at hc
    simp only [Bool.and_eq_true, Bool.or_eq_true, beq_iff_eq] at hc
    obtain ⟨-, (htcp | hudp) | ⟨hicmp, -⟩⟩ := hc
    · simp +decide [DpFlow.isIcmpErr, htcp]
    · simp +decide [DpFlow.isIcmpErr, hudp]
    · simp +decide [DpFlow.isIcmpErr, hicmp]
  have hdst : fv.org.l3Dst = .v6 m.df.dstAddr6 := by
    rcases (keyOf_natTurn hm turn herr).2.l3 with ⟨h4, -⟩ | ⟨-, hdst, -⟩
    · rw [h4] at h6
      cases h6
    · exact hdst
  have hsrc : fv'.reply.l3Src = .v4 m.dst4 := by rw [hreply, natReply_src6 h6]
  refine ⟨fun i hi => ?_, .inr ⟨_, _, by rw [hr.org, hdst], hsrc⟩, .inr (.inr hl)⟩
  rw [hr.created, hr.org] at hi
  obtain ⟨hne, hne4⟩ := hothers i hi
  refine ⟨fun _ => ?_, ?_, fun _ => ?_⟩
  · rwa [hr.org]
  · rw [hr.org]
    exact (h.spares i hi).dst6
  · rw [hsrc]
    exact fun heq => hne4 h6 (IpAddr.v4.inj heq)

/-- **What packets do keeps flows such that the passes find them**, if they open connections of their own only. -/
theorem AllOurs.effect {s : Service} (h : AllOurs cf s.cfg s.dpl) (hb : Base s.dpl) (hm : NodeOk s.dpl m n)
    (hP : OpensOwn cf s e n m) (he : Effect cf e s.cfg s.dpl n m d') : AllOurs cf s.cfg d' := by
  cases he with
  | insert key fv turn hi =>
    intro g gv hg
    obtain ⟨-, rfl⟩ | ⟨-, hg⟩ := hi.was_live hg
    · obtain ⟨hdst, hsrc, -⟩ := dpInvertFlowKey_eq key
      refine .of_opposite ?_ ?_
      · rw [hi.reply, hi.org]
        exact ⟨hdst, hsrc⟩
      · rw [hi.created, hi.org]
        exact hP.1 key turn
    · exact h g gv hg
  | relay f fv fv' _ hr _ _ hreply _ =>
    have hopp := hb.opposite hr.live hr.plain
    refine h.rekey hr (.of_opposite ?_ fun i hi => ?_)
    · rw [hreply, hr.org]
      exact hopp
    · rw [hr.created, hr.org] at hi
      rw [hr.org]
      exact ((h f fv hr.live).spares i hi).dst6
  | vip f fv fv' turn hr _ _ _ _ htype =>
    obtain ⟨-, -, ⟨rfl, -⟩ | ⟨rfl, sd, -, -, -, hkey⟩⟩ := vipTurn_inv turn
    · rw [hP.2.1 rfl] at turn
      cases turn
    · refine h.rekey hr ((h f fv hr.live).newSrc hb hr (hP.2.2.1 _ turn) ?_ (.inl (htype rfl)))
      rw [hkey]
      rfl
  | natFail f fv r _ _ hq => exact AllOurs.quiet (d := { s.dpl with ports := d'.ports }) h (hb.setPorts _) hq
  | nat64Fail f fv r p ports _ _ _ _ hd =>
    subst hd
    exact h
  | nat f fv fv' r p ports turn hconv _ hr _ _ hl _ hreply _ =>
    exact h.rekey hr ((h f fv hr.live).nat hb hm hr turn hconv hP hl hreply)

end Effects

/-! ## Requests -/

section Requests

variable {cf : Conf} {e : Env} {c : Config} {l : LbState} {r : Request} {o : Outcome} {p q : PortId} {v : Vni}
  {i : Iface} {fv : FlowValue}

theorem mem_othersIn : i ∈ othersIn cf c p v ↔
    ∃ q ∈ cf.portList, (c.port q).iface = i ∧ i.ready = true ∧ q ≠ p ∧ i.vni = v := by
  simp only [othersIn, List.mem_map, List.mem_filter, Bool.and_eq_true, bne_iff_ne, beq_iff_eq]
  constructor
  · rintro ⟨q, ⟨hq, ⟨hr, hne⟩, hv⟩, rfl⟩
    exact ⟨q, hq, rfl, hr, hne, hv⟩
  · rintro ⟨q, hq, rfl, hr, hne, hv⟩
    exact ⟨q, ⟨hq, ⟨hr, hne⟩, hv⟩, rfl⟩

def Iface.addresses (i : Iface) : Vni × Ip4 × Ip6 := (i.vni, i.ownIp, i.dhcpIpv6)

/-- **Only `CreateInterface` gives an interface addresses.** -/
theorem request_addresses (hports : PortsOk cf c) (ho : dpProcessRequest cf e c l r = some o)
    (hr : (o.cfg.port q).iface.ready = true) :
    ((c.port q).iface.ready = true ∧ (o.cfg.port q).iface.addresses = (c.port q).iface.addresses) ∨
      r.newAddresses = some (o.cfg.port q).iface.addresses := by
  have hcase := dpProcessRequest_portCase hports ho
  generalize o.cfg = x at hcase hr
  cases hcase with
  | kept hs =>
    obtain ⟨a, lo, hi, hq⟩ := hs.port q
    rw [hq] at hr ⊢
    exact .inl ⟨hr, rfl⟩
  | @undone _ _ _ _ _ _ _ q' _ _ hal _ hun =>
    by_cases hq : q = q'
    · subst hq
      have hnr := (hports.undone hal hun).not_ready (p := q) ?_
      · rw [hnr] at hr
        cases hr
      · obtain ⟨i, hi, -⟩ := hun.port
        exact (congrArg Port.allocated hi :).trans hal
    · rw [hun.other hq] at hr ⊢
      exact .inl ⟨hr, rfl⟩
  | @created _ _ _ _ _ _ _ q' _ _ _ _ hcr =>
    by_cases hq : q = q'
    · subst hq
      obtain ⟨a, b, hi⟩ := hcr.port
      exact .inr (congrArg (some ∘ Iface.addresses ∘ Port.iface) hi.symm :)
    · rw [hcr.other hq] at hr ⊢
      exact .inl ⟨hr, rfl⟩
  | @deleted _ q' _ _ hd =>
    by_cases hq : q = q'
    · subst hq
      obtain ⟨a, hi⟩ := hd.port
      rw [hi] at hr
      cases hr
    · rw [hd.other hq] at hr ⊢
      exact .inl ⟨hr, rfl⟩

/-- A request keeps flows such that the passes find them. -/
theorem Ours.request {s : Service} {f : ℕ} (h : Ours cf s.cfg fv) (hb : Base s.dpl) (hf : s.dpl.flows f = some fv)
    (hports : PortsOk cf s.cfg) (ho : dpProcessRequest cf e s.cfg s.dpl.lb r = some o) (hnew : NewSpared s r) :
    Ours cf o.cfg fv := by
  refine ⟨fun i hi => ?_, h.dst, h.type⟩
  obtain ⟨q, hq, rfl, hr, hne, hv⟩ := mem_othersIn.mp hi
  obtain ⟨hold, haddr⟩ | haddr := request_addresses hports ho hr
  · rw [Iface.addresses, Iface.addresses, Prod.mk.injEq, Prod.mk.injEq] at haddr
    obtain ⟨hvni, hip4, hip6⟩ := haddr
    rw [hip4, hip6]
    exact h.spares _ (mem_othersIn.mpr ⟨q, hq, rfl, hold, hne, hvni.symm.trans hv⟩)
  · exact hnew _ haddr f (hb.live_lt f fv hf) fv hf hv.symm

end Requests

/-! ## Runs -/

section Runs

variable {cf : Conf} {e : Env} {r : Request} {order : List FlowKey} {s s' : Service} {ev : Event} {es : List Event}
  {p : PortId} {ip : Ip4} {fv : FlowValue}

theorem AllOurs.step (h : AllOurs cf s.cfg s.dpl) (ht : Tracked s) (hports : PortsOk cf s.cfg) (hP : StaleSafe cf s ev)
    (hs : step cf s ev = some s') : AllOurs cf s'.cfg s'.dpl := by
  have hb := ht.base
  have hmaint : ∀ {c}, AllOurs cf c s.dpl → ReflTransGen Maint s.dpl s'.dpl → AllOurs cf c s'.dpl := fun h hm =>
    maint_invariant (fun _ _ hb h hq => h.quiet hb hq) (fun _ _ _ _ h hf => h.free hf) hb h hm
  obtain hcfg | ⟨r, e, order, o, rfl, ho, hcfg⟩ := step_config hs
  · rw [hcfg]
    obtain ⟨i, e, n, m, m', n', rfl, hi, -, heff, -⟩ | ⟨hm, -⟩ := step_dataplane hb hs
    · cases heff with
      | maint hm => exact hmaint h hm
      | effect heff => exact h.effect hb (ht.pkts _ (List.mem_of_getElem? hi)) (hP.2.1 _ hi) heff
    · exact hmaint h hm
  · obtain ⟨i, e, n, m, m', n', hev, -⟩ | ⟨hm, -⟩ := step_dataplane hb hs
    · cases hev
    · rw [hcfg]
      exact hmaint (fun f fv hf => (h f fv hf).request hb hf hports ho hP.2.2) hm

/-- A flow that a pass of the last request applies to is gone. -/
theorem removed (hoff : cf.offloadEnabled = false) (hplain : Plain cf s)
    (hall : ∀ k f, s.dpl.flowTbl k = some f → k ∈ order) (hs : step cf s (.request r e order) = some s')
    (hfv : Live s'.dpl fv) : ∃ k f o, s.dpl.flowTbl k = some f ∧ s.dpl.flows f = some fv ∧
      dpProcessRequest cf e s.cfg s.dpl.lb r = some o ∧ ∀ x ∈ o.removals, x.hits k fv = false := by
  obtain ⟨-, -, o, ho, -, hd⟩ := step_request hs
  obtain ⟨hfrees, hdone⟩ := removals_spec hoff (hplain.fresh.lb o.lb) hd
  obtain ⟨k, f, hk, hf⟩ := hfv
  have hk₀ : s.dpl.flowTbl k = some f := hfrees.tbl hk
  exact ⟨k, f, o, hk₀, hfrees.flows hf, ho, fun x hx => hdone x hx k (hall k f hk₀) f fv hk hf⟩

/-- A flow spares the interface of another port in its VNI. -/
theorem Ours.spares_other (h : Ours cf s.cfg fv) (hports : PortsOk cf s.cfg)
    (hready : (s.cfg.port p).iface.ready = true) (hne : fv.createdPortId ≠ p)
    (hv : fv.org.vni = (s.cfg.port p).iface.vni) :
    fv.Spares (s.cfg.port p).iface.ownIp (s.cfg.port p).iface.dhcpIpv6 := by
  have hport : p ∈ cf.portList := by simpa [Conf.hasPort] using (hports.ready hready).2.2
  exact h.spares _ (mem_othersIn.mpr ⟨p, hport, rfl, hready, hne.symm, hv.symm⟩)

/-- A flow that translates for an interface was created by its port, and its NAT type tells how. -/
theorem Ours.rewritesFor (h : Ours cf s.cfg fv) (hports : PortsOk cf s.cfg)
    (hready : (s.cfg.port p).iface.ready = true) (hv : fv.org.vni = (s.cfg.port p).iface.vni)
    (hr : fv.RewritesFor p (s.cfg.port p).iface ip) :
    fv.createdPortId = p ∧ (fv.natType = .vip ∨ fv.natType = .networkLocal) := by
  obtain ⟨hdst, hne, hown⟩ | ⟨hdst, hne, -⟩ := hr
  · have htrans : fv.reply.l3Dst ≠ fv.org.l3Src := by
      rw [hdst]
      exact hne.symm
    refine ⟨?_, h.type.resolve_left htrans⟩
    by_contra hp
    exact (h.spares_other hports hready hp hv).src htrans (hown.resolve_left hp)
  · obtain heq | ⟨a, b, h6, -⟩ := h.dst
    · rw [heq] at hne
      exact absurd hdst hne
    · rw [h6] at hdst
      cases hdst

theorem dpProcessDeleteVip_removals {c : Config} {id : Id64} (hp : c.ifaceIdTable id = some p)
    (h : (dpProcessDeleteVip c id).1 = .addr ip) : (dpProcessDeleteVip c id).2.2 = [.nat p .vip] := by
  unfold dpProcessDeleteVip at h ⊢
  rw [hp] at h ⊢
  dsimp only at h ⊢
  split at h
  · cases h
  · split at h
    · cases h
    next hne => rw [if_neg hne]

theorem dpProcessDeleteNat_removals {c : Config} {id : Id64} (hp : c.ifaceIdTable id = some p)
    (h : (dpProcessDeleteNat c id).1 = .addr ip) : (dpProcessDeleteNat c id).2.2 = [.nat p .networkLocal] := by
  unfold dpProcessDeleteNat at h ⊢
  rw [hp] at h ⊢
  dsimp only at h ⊢
  split at h
  · cases h
  · split at h
    · cases h
    next hne => rw [if_neg hne]

/-- A flow of another port that ends at an interface was opened to its IPv4 address. -/
theorem Ours.endsAt (h : Ours cf s.cfg fv) (hports : PortsOk cf s.cfg) (hready : (s.cfg.port p).iface.ready = true)
    (hne : fv.createdPortId ≠ p) (hv : fv.org.vni = (s.cfg.port p).iface.vni) (he : fv.EndsAt (s.cfg.port p).iface) :
    fv.org.l3Dst = .v4 (s.cfg.port p).iface.ownIp := by
  obtain ⟨-, h6, h4⟩ := h.spares_other hports hready hne hv
  obtain ⟨a, rfl | rfl, horg | hreply⟩ := he
  · exact horg
  · by_contra hdst
    exact h4 (fun heq => hdst (heq ▸ hreply)) hreply
  · exact absurd horg h6
  · obtain heq | ⟨a, b, -, hb⟩ := h.dst
    · exact absurd (heq ▸ hreply) h6
    · rw [hb] at hreply
      cases hreply

/-- **Deletions leave no stale flow behind** in every run in which connections are opened by the interfaces that they
concern, or to their IPv4 addresses. -/
theorem no_stale_flow (hoff : cf.offloadEnabled = false)
    (hP : Along (step cf) (StaleSafe cf) (Service.init cf) (es ++ [.request r e order]))
    (h : run (step cf) (Service.init cf) es = some s) (hs : step cf s (.request r e order) = some s') :
    NoStale s r s'.dpl := by
  obtain ⟨hP, ⟨hall, -⟩, -⟩ := (along_append h).mp hP
  have hports : PortsOk cf s.cfg := portsOk_service h
  have hplain : Plain cf s := plain_run hoff h
  have hours : AllOurs cf s.cfg s.dpl := by
    refine (run_invariant (I := fun s => AllOurs cf s.cfg s.dpl ∧ Tracked s ∧ PortsOk cf s.cfg) ?_ ?_ hP h).1
    · rintro s ev s' ⟨ho, ht, hp⟩ hP hs
      refine ⟨ho.step ht hp hP hs, ht.step hs, ?_⟩
      obtain heq | ⟨r, e, order, o, -, ho, heq⟩ := step_config hs
      · exact heq ▸ hp
      · exact heq ▸ hp.request ho
    · exact ⟨fun f fv hf => (by cases hf), .init cf, .init cf⟩
  have hone := (oneVni_run h).tbl
  cases r with
  | deleteVip id =>
    intro p ip hp hresp fv hfv hv hnl hrew
    obtain ⟨k, f, o, -, hf, ho, hmiss⟩ := removed hoff hplain hall hs hfv
    obtain ⟨hcr, htype⟩ := (hours f fv hf).rewritesFor hports (hports.mapped.mp hp).1 hv hrew
    cases ho
    have hhit := hmiss (.nat p .vip) (dpProcessDeleteVip_removals hp hresp ▸ List.mem_singleton.mpr rfl)
    simp [FlowRemoval.hits, hcr, htype.resolve_right hnl] at hhit
  | deleteNat id =>
    intro p ip hp hresp fv hfv hv hnv hrew
    obtain ⟨k, f, o, -, hf, ho, hmiss⟩ := removed hoff hplain hall hs hfv
    obtain ⟨hcr, htype⟩ := (hours f fv hf).rewritesFor hports (hports.mapped.mp hp).1 hv hrew
    cases ho
    have hhit := hmiss (.nat p .networkLocal) (dpProcessDeleteNat_removals hp hresp ▸ List.mem_singleton.mpr rfl)
    simp [FlowRemoval.hits, hcr, htype.resolve_left hnv] at hhit
  | deleteInterface id =>
    intro p hp fv hfv
    obtain ⟨k, f, o, hk, hf, ho, hmiss⟩ := removed hoff hplain hall hs hfv
    cases ho
    obtain ⟨hnone, -⟩ | ⟨q, hq, -, hrem⟩ := dpProcessDeleteInterface_cases cf e s.cfg id
    · rw [hnone] at hp
      cases hp
    obtain rfl : q = p := Option.some.inj (hq.symm.trans hp)
    have hhit := hmiss _ (hrem ▸ List.mem_singleton.mpr rfl)
    rw [FlowRemoval.hits, Bool.or_eq_false_iff, beq_eq_false_iff_ne, ← hone k f fv hk hf] at hhit
    obtain ⟨hcr, hdst⟩ := hhit
    refine ⟨hcr, fun hv hends => ?_⟩
    have h4 := (hours f fv hf).endsAt hports (hports.mapped.mp hp).1 hcr hv hends
    simp [hv, h4] at hdst
  | _ => trivial

end Runs

def vipSetup : List Request := smallSetup ++ [.createVip 7 (.v4 0x01020304)]

def tcpVipKeys : List FlowKey :=
  [{ l3Dst := .v4 0x08080808, l3Src := .v4 0x0a000001, proto := ipprotoTcp, portDst := 80, src := 1000, vni := 100,
      vnfType := .undefined },
    { l3Dst := .v4 0x01020304, l3Src := .v4 0x08080808, proto := ipprotoTcp, portDst := 1000, src := 80, vni := 100,
      vnfType := .undefined }]

/-- A connection that interface 7 has opened through its VIP ends with the VIP. -/
theorem no_stale_flow_vip : ∃ s s',
    run (step smallConf) (Service.init smallConf) (requests vipSetup ++ passes tcpPacket 8) = some s ∧
      (∃ fv, s.dpl.flows 0 = some fv ∧ fv.RewritesFor 2 (s.cfg.port 2).iface 0x01020304) ∧
      step smallConf s (.request (.deleteVip 7) {} tcpVipKeys) = some s' ∧ NoStale s (.deleteVip 7) s'.dpl := by
  obtain ⟨s, hs, ⟨fv, hf, hdst, hsrc, hcr⟩, hnext⟩ : ∃ s,
      run (step smallConf) (Service.init smallConf) (requests vipSetup ++ passes tcpPacket 8) = some s ∧
      (∃ fv, s.dpl.flows 0 = some fv ∧ fv.reply.l3Dst = .v4 0x01020304 ∧ fv.org.l3Src = .v4 0x0a000001 ∧
        fv.createdPortId = 2) ∧
      (step smallConf s (.request (.deleteVip 7) {} tcpVipKeys)).isSome = true := by decide +kernel
  obtain ⟨s', hs'⟩ := Option.isSome_iff_exists.mp hnext
  refine ⟨s, s', hs, ⟨fv, hf, .inl ⟨hdst, ?_, .inl hcr⟩⟩, hs', ?_⟩
  · rw [hsrc]
    decide
  · exact no_stale_flow rfl (along_iterates (by decide +kernel)) hs hs'

/-- A TCP packet from 8.8.8.8 to the VIP. -/
def toVip : Mbuf where
  port := 0
  outer := some ⟨5, 2⟩
  l3 := .ipv4 0x08080808 0x01020304 ipprotoTcp
  l4 := { srcPort := 1000, dstPort := 80, tcpSyn := true }

def toVipKeys : List FlowKey :=
  [{ l3Dst := .v4 0x01020304, l3Src := .v4 0x08080808, proto := ipprotoTcp, portDst := 80, src := 1000, vni := 100,
      vnfType := .undefined },
    { l3Dst := .v4 0x08080808, l3Src := .v4 0x0a000001, proto := ipprotoTcp, portDst := 1000, src := 80, vni := 100,
      vnfType := .undefined }]

/-- A TCP packet to the IPv6 address of interface 7. -/
def toIface6 : Mbuf where
  port := 0
  outer := some ⟨5, 1⟩
  l3 := .ipv6 0xfe01 0xfd00 ipprotoTcp
  l4 := { srcPort := 1000, dstPort := 80, tcpSyn := true }

def toIface6Keys : List FlowKey :=
  [{ l3Dst := .v6 0xfd00, l3Src := .v6 0xfe01, proto := ipprotoTcp, portDst := 80, src := 1000, vni := 100,
      vnfType := .undefined },
    { l3Dst := .v6 0xfe01, l3Src := .v6 0xfd00, proto := ipprotoTcp, portDst := 1000, src := 80, vni := 100,
      vnfType := .undefined }]

/-- A connection to the VIP outlives it, and an IPv6 connection outlives the interface it goes to. -/
theorem no_stale_flow_inbound :
    (∃ s s', run (step smallConf) (Service.init smallConf) (requests vipSetup ++ passes toVip 8) = some s ∧
      step smallConf s (.request (.deleteVip 7) {} toVipKeys) = some s' ∧ ¬ NoStale s (.deleteVip 7) s'.dpl) ∧
    ∃ s s', run (step smallConf) (Service.init smallConf) (requests smallSetup ++ passes toIface6 5) = some s ∧
      step smallConf s (.request (.deleteInterface 7) {} toIface6Keys) = some s' ∧
        ¬ NoStale s (.deleteInterface 7) s'.dpl := by
  constructor
  · obtain ⟨s, hs, s', hs', hp, hresp, fv, hf, hk, hnl, hv, hdst, hsrc, hne⟩ : ∃ s,
        run (step smallConf) (Service.init smallConf) (requests vipSetup ++ passes toVip 8) = some s ∧
        ∃ s', step smallConf s (.request (.deleteVip 7) {} toVipKeys) = some s' ∧
          s.cfg.ifaceIdTable 7 = some 2 ∧ (dpProcessDeleteVip s.cfg 7).1 = .addr 0x01020304 ∧
          ∃ fv, s'.dpl.flows 0 = some fv ∧ s'.dpl.flowTbl fv.org = some 0 ∧ fv.natType ≠ .networkLocal ∧
            fv.org.vni = (s.cfg.port 2).iface.vni ∧ fv.org.l3Dst = .v4 0x01020304 ∧
            fv.reply.l3Src = .v4 (s.cfg.port 2).iface.ownIp ∧ fv.reply.l3Src ≠ .v4 0x01020304 := by decide +kernel
    exact ⟨s, s', hs, hs', fun hno => hno 2 _ hp hresp fv ⟨fv.org, 0, hk, hf⟩ hv hnl (.inr ⟨hdst, hne, hsrc⟩)⟩
  · obtain ⟨s, hs, s', hs', hp, fv, hf, hk, hv, hdst⟩ : ∃ s,
        run (step smallConf) (Service.init smallConf) (requests smallSetup ++ passes toIface6 5) = some s ∧
        ∃ s', step smallConf s (.request (.deleteInterface 7) {} toIface6Keys) = some s' ∧
          s.cfg.ifaceIdTable 7 = some 2 ∧ ∃ fv, s'.dpl.flows 0 = some fv ∧ s'.dpl.flowTbl fv.org = some 0 ∧
            fv.org.vni = (s.cfg.port 2).iface.vni ∧ fv.org.l3Dst = .v6 (s.cfg.port 2).iface.dhcpIpv6 := by
      decide +kernel
    exact ⟨s, s', hs, hs', fun hno => (hno 2 hp fv ⟨fv.org, 0, hk, hf⟩).2 hv ⟨_, .inr rfl, .inl hdst⟩⟩

end Dpservice
