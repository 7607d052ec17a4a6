import Mathlib.Data.List.Perm.Basic
import Dpservice.FlowRefs
import Dpservice.OffloadState

/-!
# Packets that ask for hardware rules

A packet reaches `dp_offload_handler` at the end of the graph if connection tracking found its direction of the flow in
state `install`. A packet from a physical port on which its flow is not offloaded yet always finds that state
(`otherPf`), and some flows are never noted as offloaded there.

- `icmp_nat_never_offloaded`: packets of ICMP flows behind network NAT are not handed over;
- `installs_once`: no two packets of one direction and port of a flow are handed over.
-/

namespace Dpservice

/-- The flow, direction and port for which a packet in flight will ask for a rule; a packet that goes round again is
classified anew. -/
def asks (p : Node × Mbuf) : Option (ℕ × FlowDir × PortId) :=
  if p.1 = .cls ∨ p.2.df.offloadState ≠ .install then none
  else p.2.df.conntrack.map fun f => (f, p.2.df.flowDir, p.2.port)

section Asks

variable {n n' : Node} {m m' : Mbuf} {k : ℕ × FlowDir × PortId}

theorem asks_eq_some : asks (n, m) = some k ↔
    n ≠ .cls ∧ m.df.offloadState = .install ∧ m.df.conntrack = some k.1 ∧ m.df.flowDir = k.2.1 ∧ m.port = k.2.2 := by
  obtain ⟨f, dir, p⟩ := k
  by_cases hn : n = .cls
  · simp [asks, hn]
  · by_cases ho : m.df.offloadState = .install
    · simp [asks, hn, ho]
    · simp [asks, ho]

theorem asks_none (h : m.df.conntrack = none) : asks (n, m) = none := by
  refine Option.eq_none_iff_forall_ne_some.mpr fun k hk => ?_
  rw [(asks_eq_some.mp hk).2.2.1] at h
  cases h

theorem SameFlow.asks (hs : SameFlow m m') (hn : n ≠ .cls) (h : asks (n', m') = some k) :
    Dpservice.asks (n, m) = some k := by
  obtain ⟨-, ho, hc, hd, hp⟩ := asks_eq_some.mp h
  exact asks_eq_some.mpr ⟨hn, hs.offload ho, hs.conntrack ▸ hc, hs.dir ▸ hd, hs.port ▸ hp⟩

end Asks

/-! ## ICMP behind network NAT -/

/-- The flow of ICMP packets, by the key of its first packet. -/
def FlowValue.IcmpFlow (fv : FlowValue) : Prop :=
  fv.org.proto = if fv.org.l3Src.isV6 then ipprotoIcmpv6 else ipprotoIcmp

/-- An ICMP flow behind network NAT: hardware cannot rewrite its identifier. -/
def FlowValue.IcmpNat (fv : FlowValue) : Prop := fv.natType = .networkLocal ∧ fv.IcmpFlow

instance (fv : FlowValue) : Decidable fv.IcmpFlow := inferInstanceAs (Decidable (_ = _))
instance (fv : FlowValue) : Decidable fv.IcmpNat := inferInstanceAs (Decidable (_ ∧ _))

/-- Connection tracking takes the flow for one that has to be offloaded on another physical port. -/
def reinstalls (cf : Conf) (m : Mbuf) (fv : FlowValue) (df : DpFlow) : Bool :=
  otherPf cf m.port fv && turns cf fv df m.l4 != 0

/-- Connection tracking does not reset the mark of an ICMP flow behind network NAT; and when such a flow is marked, no
other packet asks for its rules already. -/
def MarkKept (cf : Conf) (s : Service) : Event → Prop
  | .walk i e => ∀ p ∈ s.inflight[i]?,
      (∀ t ∈ knownTurn cf s.cfg s.dpl p.1 p.2, t.2.1.IcmpNat → reinstalls cf p.2 t.2.1 t.2.2 = false) ∧
      ∀ t ∈ natTurn cf e s.cfg s.dpl p.1 p.2, t.2.1.IcmpFlow →
        s.dpl.ports.CanTake e t.2.2 p.2.df (ifaceVni s.cfg p.2) → (p.2.df.l3Type = .ipv6 → nat64Converts p.2 = true) →
        ∀ q ∈ s.inflight.eraseIdx i, ∀ k ∈ asks q, k.1 ≠ t.1
  | _ => True

instance (cf : Conf) (s : Service) : ∀ ev, Decidable (MarkKept cf s ev)
  | .walk i e => inferInstanceAs (Decidable (∀ p ∈ s.inflight[i]?,
      (∀ t ∈ knownTurn cf s.cfg s.dpl p.1 p.2, t.2.1.IcmpNat → reinstalls cf p.2 t.2.1 t.2.2 = false) ∧
      ∀ t ∈ natTurn cf e s.cfg s.dpl p.1 p.2, t.2.1.IcmpFlow →
        s.dpl.ports.CanTake e t.2.2 p.2.df (ifaceVni s.cfg p.2) → (p.2.df.l3Type = .ipv6 → nat64Converts p.2 = true) →
        ∀ q ∈ s.inflight.eraseIdx i, ∀ k ∈ asks q, k.1 ≠ t.1))
  | .rx _ | .request .. | .flowAging .. => .isTrue trivial

/-- ICMP flows behind network NAT are marked, and no packet in flight asks for their rules. -/
structure IcmpMarked (s : Service) : Prop where
  marked : ∀ f fv, s.dpl.flows f = some fv → fv.IcmpNat → fv.offState = fun _ => .offloaded
  pkts : ∀ p ∈ s.inflight, ∀ k ∈ asks p, ∀ fv, s.dpl.flows k.1 = some fv → ¬ fv.IcmpNat

/-- No ICMP flow comes under network NAT. -/
def NatKept (d d' : Dataplane) : Prop :=
  ∀ f fv', d'.flows f = some fv' → fv'.IcmpNat → ∃ fv, d.flows f = some fv ∧ fv.IcmpNat

section Icmp

variable {cf : Conf} {e : Env} {c : Config} {d d' : Dataplane} {s s' : Service} {ev : Event} {es : List Event}
  {m m' : Mbuf} {f : ℕ} {fv fv' : FlowValue} {df : DpFlow}

theorem FlowValue.IcmpFlow.of_org (h : fv'.IcmpFlow) (ho : fv'.org = fv.org) : fv.IcmpFlow := by
  unfold FlowValue.IcmpFlow at h ⊢
  rwa [ho] at h

theorem OffKept.natKept (h : OffKept d d') : NatKept d d' := by
  intro f fv' hf' hi
  obtain ⟨fv, hf, hu⟩ := h f fv' hf'
  exact ⟨fv, hf, hu.isLocal hi.1, hi.2.of_org hu.org⟩

theorem OffKept.marked (h : OffKept s.dpl s'.dpl) (hi : IcmpMarked s) :
    ∀ f fv, s'.dpl.flows f = some fv → fv.IcmpNat → fv.offState = fun _ => .offloaded := by
  intro f fv' hf' hn
  obtain ⟨fv, hf, hu⟩ := h f fv' hf'
  rw [hu.state]
  exact hi.marked f fv hf ⟨hu.isLocal hn.1, hn.2.of_org hu.org⟩

/-- A packet that asks for nothing about ICMP flows behind network NAT goes on doing so. -/
theorem NatKept.pkt {p : Node × Mbuf} (h : NatKept d d')
    (hp : ∀ k ∈ asks p, ∀ fv, d.flows k.1 = some fv → ¬ fv.IcmpNat) :
    ∀ k ∈ asks p, ∀ fv, d'.flows k.1 = some fv → ¬ fv.IcmpNat := by
  intro k hk fv' hf' hn
  obtain ⟨fv, hf, hn⟩ := h k.1 fv' hf' hn
  exact hp k hk fv hf hn

theorem advance_icmpNat : (advance cf e m df fv).IcmpNat ↔ fv.IcmpNat := by
  have ho : (advance cf e m df fv).org = fv.org := (congrArg FlowValue.org advance_core :)
  have ht : (advance cf e m df fv).natType = fv.natType := (congrArg FlowValue.natType advance_core :)
  rw [FlowValue.IcmpNat, FlowValue.IcmpNat, FlowValue.IcmpFlow, FlowValue.IcmpFlow, ho, ht]

theorem iterate_offloaded (k : ℕ) : (nextOffloadState · false)^[k] .offloaded = .offloaded :=
  Function.iterate_fixed (by decide) k

/-- The mark stays where the flow is not taken for one that has to be offloaded elsewhere. -/
theorem advance_marked (h : fv.offState = fun _ => .offloaded) (hr : reinstalls cf m fv df = false) :
    (advance cf e m df fv).offState = fun _ => .offloaded := by
  have hturn : Turned (otherPf cf m.port fv) df.flowDir (turns cf fv df m.l4) fv (advance cf e m df fv) :=
    advance_turned
  funext dir
  by_cases hd : dir = df.flowDir
  · subst hd
    rw [hturn.here, h]
    unfold reinstalls at hr
    rw [Bool.and_eq_false_iff] at hr
    rcases hr with hr | hr
    · rw [hr]
      exact iterate_offloaded _
    · rw [bne_eq_false_iff_eq] at hr
      rw [hr]
      rfl
  · rw [hturn.there dir hd, h]

/-- An ICMP flow is translated as ICMP. -/
theorem natL4Type_of_icmpFlow {r : NatRange} (hm : PktOk d m) (ht : natTurn cf e c d .snat m = some (f, fv, r))
    (hi : fv.IcmpFlow) : natL4Type m = ipprotoIcmp := by
  obtain ⟨-, hc, hf, hp, hd, hr⟩ := natTurn_inv ht
  unfold natL4Type
  by_cases he : m.df.isIcmpErr = true
  · unfold DpFlow.isIcmpErr at he
    rw [Bool.and_eq_true, beq_iff_eq] at he
    rw [he.1, nat64L4Type]
    split <;> rfl
  · obtain ⟨hl3, hproto, -⟩ := hm.key f fv hc hf hp hd (by simpa using he)
    unfold FlowValue.IcmpFlow at hi
    rcases hl3 with ⟨ht, -, hsrc⟩ | ⟨ht, -, hsrc⟩
    · rw [hsrc, hproto] at hi
      rw [ht]
      exact hi
    · rw [hsrc, hproto] at hi
      rw [ht, if_pos rfl, hi]
      rfl

/-- What a node does with the flows and its packet keeps the marks. -/
theorem IcmpMarked.node {n n' : Node} {i : ℕ} (hi : IcmpMarked s) (hp : MarkKept cf s (.walk i e))
    (hat : s.inflight[i]? = some (n, m)) (h : NodeOff cf e s.cfg s.dpl n m s'.dpl m' n')
    (hfl : s'.inflight = if n'.leaves then s.inflight.eraseIdx i else s.inflight.set i (n', m')) : IcmpMarked s' := by
  obtain ⟨hknown, hnat⟩ := hp _ hat
  have hm := hi.pkts _ (List.mem_of_getElem? hat)
  have hpkts : (∀ q ∈ s.inflight.eraseIdx i, ∀ k ∈ asks q, ∀ fv, s'.dpl.flows k.1 = some fv → ¬ fv.IcmpNat) →
      (n'.leaves = false → ∀ k ∈ asks (n', m'), ∀ fv, s'.dpl.flows k.1 = some fv → ¬ fv.IcmpNat) →
      ∀ q ∈ s'.inflight, ∀ k ∈ asks q, ∀ fv, s'.dpl.flows k.1 = some fv → ¬ fv.IcmpNat := by
    intro hothers hthis q hq
    rw [hfl] at hq
    split at hq
    · exact hothers q hq
    next hl =>
      have hset := List.set_perm_cons_eraseIdx (List.getElem?_eq_some_iff.mp hat).1 (n', m')
      rcases List.mem_cons.mp (hset.mem_iff.mp hq) with rfl | hq
      · exact hthis (by simpa using hl)
      · exact hothers q hq
  have hothers : NatKept s.dpl s'.dpl →
      ∀ q ∈ s.inflight.eraseIdx i, ∀ k ∈ asks q, ∀ fv, s'.dpl.flows k.1 = some fv → ¬ fv.IcmpNat :=
    fun hk q hq => hk.pkt (hi.pkts q (List.mem_of_mem_eraseIdx hq))
  have hsame : NatKept s.dpl s'.dpl → SameFlow m m' → n ≠ .cls →
      ∀ k ∈ asks (n', m'), ∀ fv, s'.dpl.flows k.1 = some fv → ¬ fv.IcmpNat :=
    fun hk hs hn k hka => hk.pkt hm k (hs.asks hn hka)
  cases h with
  | cls _ hk hc =>
    refine ⟨hk.marked hi, hpkts (hothers hk.natKept) fun hl k hk => ?_⟩
    rw [asks_none (hc hl)] at hk
    cases hk
  | other hn _ hk hs => exact ⟨hk.marked hi, hpkts (hothers hk.natKept) fun _ => hsame hk.natKept hs hn⟩
  | conntrack hn hc h hport =>
    subst hn
    cases h with
    | kept hk hc' =>
      refine ⟨hk.marked hi, hpkts (hothers hk.natKept) fun _ k hk => ?_⟩
      rw [asks_none hc'] at hk
      cases hk
    | known f fv df turn hf hflows hc' hdir hoff =>
      have hstate : fv.IcmpNat → (advance cf e m df fv).offState = fun _ => .offloaded :=
        fun hn => advance_marked (hi.marked f fv hf hn) (hknown _ turn hn)
      have hk : NatKept s.dpl s'.dpl := by
        intro g gv hg hn
        rw [hflows, Table.add_eq_some] at hg
        obtain ⟨rfl, rfl⟩ | ⟨-, hg⟩ := hg
        · exact ⟨fv, hf, advance_icmpNat.mp hn⟩
        · exact ⟨gv, hg, hn⟩
      refine ⟨?_, hpkts (hothers hk) fun _ k hka fv' hf' hn => ?_⟩
      · intro g gv hg hn
        rw [hflows, Table.add_eq_some] at hg
        obtain ⟨rfl, rfl⟩ | ⟨-, hg⟩ := hg
        · exact hstate (advance_icmpNat.mp hn)
        · exact hi.marked g gv hg hn
      · obtain ⟨-, hins, hfl, -⟩ := asks_eq_some.mp hka
        rw [hc', Option.some.injEq] at hfl
        rw [← hfl, hflows, Table.add_self, Option.some.injEq] at hf'
        subst hf'
        rw [hoff, hstate (advance_icmpNat.mp hn)] at hins
        cases hins
    | made fv hflows hl hc' hoff =>
      have hk : NatKept s.dpl s'.dpl := by
        intro g gv hg hn
        rw [hflows, Table.add_eq_some] at hg
        obtain ⟨rfl, rfl⟩ | ⟨-, hg⟩ := hg
        · exact absurd hn.1 hl
        · exact ⟨gv, hg, hn⟩
      refine ⟨?_, hpkts (hothers hk) fun _ k hka fv' hf' hn => ?_⟩
      · intro g gv hg hn
        rw [hflows, Table.add_eq_some] at hg
        obtain ⟨rfl, rfl⟩ | ⟨-, hg⟩ := hg
        · exact absurd hn.1 hl
        · exact hi.marked g gv hg hn
      · obtain ⟨-, hins, hfl, -⟩ := asks_eq_some.mp hka
        rw [hc', Option.some.injEq] at hfl
        rw [← hfl, hflows, Table.add_self, Option.some.injEq] at hf'
        subst hf'
        exact hl hn.1
  | snat hn hpkt h hs =>
    subst hn
    cases h with
    | kept hk => exact ⟨hk.marked hi, hpkts (hothers hk.natKept) fun _ => hsame hk.natKept hs nofun⟩
    | nat f fv fv' r turn take conv hflows horg hicmp _ =>
      have hmark : fv'.IcmpNat → fv'.offState = (fun _ => .offloaded) ∧ m'.df.offloadState ≠ .install :=
        fun hn => hicmp (natL4Type_of_icmpFlow hpkt turn (hn.2.of_org horg))
      refine ⟨?_, hpkts ?_ fun _ k hka gv hg hn => ?_⟩
      · intro g gv hg hn
        rw [hflows, Table.add_eq_some] at hg
        obtain ⟨rfl, rfl⟩ | ⟨-, hg⟩ := hg
        · exact (hmark hn).1
        · exact hi.marked g gv hg hn
      · intro q hq k hka gv hg hn
        rw [hflows, Table.add_eq_some] at hg
        obtain ⟨hkf, rfl⟩ | ⟨-, hg⟩ := hg
        · exact hnat _ turn (hn.2.of_org horg) take conv q hq k hka hkf
        · exact hi.pkts q (List.mem_of_mem_eraseIdx hq) k hka gv hg hn
      · obtain ⟨-, hins, -⟩ := asks_eq_some.mp hka
        rw [hflows, Table.add_eq_some] at hg
        obtain ⟨-, rfl⟩ | ⟨-, hg⟩ := hg
        · exact (hmark hn).2 hins
        · exact hm k (hs.asks nofun hka) gv hg hn

theorem IcmpMarked.step (ht : Tracked s) (hi : IcmpMarked s) (hp : MarkKept cf s ev) (h : step cf s ev = some s') :
    IcmpMarked s' := by
  obtain ⟨i, e, n, m, m', n', rfl, hat, hnode, hfl⟩ | ⟨-, hk, hfl⟩ := step_off ht h
  · exact hi.node hp hat hnode hfl
  · refine ⟨hk.marked hi, fun q hq => ?_⟩
    obtain hfl | ⟨m, hfl⟩ := hfl
    · rw [hfl] at hq
      exact hk.natKept.pkt (hi.pkts q hq)
    · rw [hfl, List.mem_append, List.mem_singleton] at hq
      rcases hq with hq | rfl
      · exact hk.natKept.pkt (hi.pkts q hq)
      · exact fun k hk => absurd rfl (asks_eq_some.mp hk).1

theorem IcmpMarked.init (cf : Conf) : IcmpMarked (Service.init cf) where
  marked _ _ hf := absurd hf (Option.some_ne_none _).symm
  pkts _ hq := absurd hq List.not_mem_nil

/-- No packet of an ICMP flow behind network NAT that waits at the end of the graph will be handed to
`dp_offload_handler`. -/
def IcmpNatSpared (s : Service) : Prop :=
  ∀ m, (.tx, m) ∈ s.inflight → ∀ f fv, m.df.conntrack = some f → s.dpl.flows f = some fv → fv.IcmpNat →
    m.df.offloadState ≠ .install

/-- **ICMP behind network NAT is never offloaded**, in runs in which connection tracking does not reset the mark. -/
theorem icmp_nat_never_offloaded (hP : Along (step cf) (MarkKept cf) (Service.init cf) es)
    (h : run (step cf) (Service.init cf) es = some s) : IcmpNatSpared s := by
  have hinv : Tracked s ∧ IcmpMarked s := by
    refine run_invariant (I := fun s => Tracked s ∧ IcmpMarked s) ?_ ⟨.init cf, .init cf⟩ hP h
    rintro s ev s' ⟨ht, hi⟩ hp hs
    exact ⟨ht.step hs, hi.step ht hp hs⟩
  intro m hm f fv hc hf hn ho
  exact hinv.2.pkts _ hm (f, m.df.flowDir, m.port) (asks_eq_some.mpr ⟨nofun, ho, hc, rfl, rfl⟩) fv hf hn

end Icmp

/-- Two echo requests of one flow. -/
theorem icmp_nat_never_offloaded_requests :
    ∃ s, run (step offloadConf) (Service.init offloadConf)
        (requests natSetup ++ passes (ping 1) 8 ++ passes (ping 1) 7) = some s ∧
      s.inflight.map Prod.fst = [.tx] ∧ (∃ fv, s.dpl.flows 0 = some fv ∧ fv.IcmpNat) ∧ IcmpNatSpared s := by
  refine exists_some_imp (P := fun s => s.inflight.map Prod.fst = [.tx] ∧ ∃ fv, s.dpl.flows 0 = some fv ∧ fv.IcmpNat)
    (by decide +kernel) ?_
  rintro s hs ⟨htx, hflow⟩
  exact ⟨htx, hflow, icmp_nat_never_offloaded (by decide +kernel) hs⟩

/-- An answer to those echo requests, from the first physical port to the underlay address of the NAT. -/
def pong (ident : UInt16) : Mbuf where
  port := 0
  outer := some ⟨5, 2⟩
  l3 := .ipv4 0x08080808 0x01020304 ipprotoIcmp
  l4 := { icmpType := icmpEchoReply, icmpIdent := ident }

/-- The first answer to an echo request finds its flow not offloaded on the physical port it came from: the mark is
reset, and the answer is handed over. -/
theorem icmp_nat_reply_offloaded :
    ∃ s, run (step offloadConf) (Service.init offloadConf)
        (requests natSetup ++ passes (ping 1) 8 ++ passes (pong 100) 7) = some s ∧ ¬ IcmpNatSpared s := by
  refine exists_some_imp (P := fun s => (∃ p ∈ s.inflight, p.1 = .tx ∧ asks p = some (0, .reply, 0)) ∧
    ∃ fv, s.dpl.flows 0 = some fv ∧ fv.IcmpNat) (by decide +kernel) ?_
  rintro s - ⟨⟨⟨n, m⟩, hm, rfl, hask⟩, fv, hf, hn⟩ hspared
  obtain ⟨-, ho, hc, -⟩ := asks_eq_some.mp hask
  exact hspared m hm 0 fv hc hf hn ho

/-! ## One rule for each direction and port -/

/-- A service with the flow, direction and port of each packet that was handed to `dp_offload_handler`. -/
structure Watched where
  svc : Service
  handed : List (ℕ × FlowDir × PortId) := []

def handsOver (s : Service) : Event → List (ℕ × FlowDir × PortId)
  | .walk i _ => ((s.inflight[i]?.filter fun p => p.1 = .tx).bind asks).toList
  | _ => []

def watchStep (cf : Conf) (w : Watched) (ev : Event) : Option Watched :=
  (step cf w.svc ev).map fun s => ⟨s, w.handed ++ handsOver w.svc ev⟩

/-- What was handed over and what will be. -/
def Watched.given (w : Watched) : List (ℕ × FlowDir × PortId) := w.handed ++ w.svc.inflight.filterMap asks

/-- A packet of a flow that its direction and port have been given to already: where connection tracking advances the
state, its port is not a physical one on which the flow is not noted as offloaded, and where it does not, the state is
not `install`. -/
def GivenOnce (cf : Conf) (w : Watched) : Event → Prop
  | .walk i _ => ∀ p ∈ w.svc.inflight[i]?, ∀ t ∈ knownTurn cf w.svc.cfg w.svc.dpl p.1 p.2,
      (t.1, t.2.2.flowDir, p.2.port) ∈ w.given →
        if turns cf t.2.1 t.2.2 p.2.l4 = 0 then t.2.1.offState t.2.2.flowDir ≠ .install
        else otherPf cf p.2.port t.2.1 = false
  | _ => True

instance (cf : Conf) (w : Watched) : ∀ ev, Decidable (GivenOnce cf w ev)
  | .walk i _ => inferInstanceAs (Decidable (∀ p ∈ w.svc.inflight[i]?,
      ∀ t ∈ knownTurn cf w.svc.cfg w.svc.dpl p.1 p.2, (t.1, t.2.2.flowDir, p.2.port) ∈ w.given →
        if turns cf t.2.1 t.2.2 p.2.l4 = 0 then t.2.1.offState t.2.2.flowDir ≠ .install
        else otherPf cf p.2.port t.2.1 = false))
  | .rx _ | .request .. | .flowAging .. => .isTrue trivial

/-- The invariant: nothing is given twice, and what was given has left the first offload state. -/
structure Once (w : Watched) : Prop where
  nodup : w.given.Nodup
  lt : ∀ k ∈ w.given, k.1 < w.svc.dpl.nextFlow
  left : ∀ k ∈ w.given, ∀ fv, w.svc.dpl.flows k.1 = some fv → fv.offState k.2.1 ≠ .nonOffload

section Once

variable {cf : Conf} {e : Env} {c : Config} {d d' : Dataplane} {w w' : Watched} {s' : Service} {ev : Event}
  {es : List Event} {n n' : Node} {m m' : Mbuf} {f i : ℕ} {fv fv' : FlowValue} {df : DpFlow}
  {base : List (ℕ × FlowDir × PortId)} {o o' : Option (ℕ × FlowDir × PortId)}

/-- One packet goes on: what it asked for is replaced by what it asks for now. -/
theorem Once.next (ho : Once w) (h : w.given.Perm (o.toList ++ base)) (h' : w'.given.Perm (o'.toList ++ base))
    (hle : w.svc.dpl.nextFlow ≤ w'.svc.dpl.nextFlow)
    (hold : ∀ k ∈ w.given, ∀ fv, w'.svc.dpl.flows k.1 = some fv → fv.offState k.2.1 ≠ .nonOffload)
    (hnew : ∀ k, o' = some k → o = some k ∨ k ∉ w.given ∧ k.1 < w'.svc.dpl.nextFlow ∧
      ∀ fv, w'.svc.dpl.flows k.1 = some fv → fv.offState k.2.1 ≠ .nonOffload) : Once w' := by
  have hbase : ∀ k ∈ base, k ∈ w.given := fun k hk => h.mem_iff.mpr (List.mem_append_right _ hk)
  have hnodup : (o.toList ++ base).Nodup := h.nodup_iff.mp ho.nodup
  cases o' with
  | none =>
    have hsub : ∀ k ∈ w'.given, k ∈ w.given := fun k hk => hbase k (h'.mem_iff.mp hk)
    refine ⟨h'.nodup_iff.mpr (List.nodup_append.mp hnodup).2.1, fun k hk => ?_, fun k hk => hold k (hsub k hk)⟩
    exact Nat.lt_of_lt_of_le (ho.lt k (hsub k hk)) hle
  | some k₀ =>
    have hmem : ∀ {k}, k ∈ w'.given → k = k₀ ∨ k ∈ base := fun hk => List.mem_cons.mp (h'.mem_iff.mp hk)
    rcases hnew k₀ rfl with rfl | ⟨hfresh, hlt, hleft⟩
    · have hsub : ∀ k ∈ w'.given, k ∈ w.given := fun k hk => h.mem_iff.mpr (h'.mem_iff.mp hk)
      exact ⟨h'.nodup_iff.mpr hnodup, fun k hk => Nat.lt_of_lt_of_le (ho.lt k (hsub k hk)) hle,
        fun k hk => hold k (hsub k hk)⟩
    · refine ⟨h'.nodup_iff.mpr (List.nodup_cons.mpr ⟨fun hk => hfresh (hbase k₀ hk), ?_⟩), fun k hk => ?_,
        fun k hk => ?_⟩
      · exact (List.nodup_append.mp hnodup).2.1
      · rcases hmem hk with rfl | hk
        · exact hlt
        · exact Nat.lt_of_lt_of_le (ho.lt k (hbase k hk)) hle
      · rcases hmem hk with rfl | hk
        · exact hleft
        · exact hold k (hbase k hk)

theorem filterMap_asks_cons (p : Node × Mbuf) (l : List (Node × Mbuf)) :
    (p :: l).filterMap asks = (asks p).toList ++ l.filterMap asks := by
  rw [List.filterMap_cons]
  cases asks p <;> rfl

/-- Handing over counts once, whether it was done or is to come. -/
theorem given_perm {handed : List (ℕ × FlowDir × PortId)} {l l' : List (Node × Mbuf)} {p : Node × Mbuf}
    (h : l.Perm (p :: l')) :
    (handed ++ l.filterMap asks).Perm ((asks p).toList ++ (handed ++ l'.filterMap asks)) := by
  refine ((h.filterMap asks).append_left handed).trans ?_
  rw [filterMap_asks_cons]
  exact List.perm_append_comm_assoc ..

theorem OffKept.left (h : OffKept w.svc.dpl d') (ho : Once w) :
    ∀ k ∈ w.given, ∀ fv, d'.flows k.1 = some fv → fv.offState k.2.1 ≠ .nonOffload := by
  intro k hk fv' hf'
  obtain ⟨fv, hf, hu⟩ := h k.1 fv' hf'
  rw [hu.state]
  exact ho.left k hk fv hf

/-- Where the packet's port needs no rule of its own and the first state was left, the state found is not `install`. -/
theorem advance_ne_install (h : fv.offState df.flowDir ≠ .nonOffload)
    (hp : if turns cf fv df m.l4 = 0 then fv.offState df.flowDir ≠ .install else otherPf cf m.port fv = false) :
    (advance cf e m df fv).offState df.flowDir ≠ .install := by
  have hturn : Turned (otherPf cf m.port fv) df.flowDir (turns cf fv df m.l4) fv (advance cf e m df fv) :=
    advance_turned
  rw [hturn.here]
  cases hk : turns cf fv df m.l4 with
  | zero =>
    rw [hk, if_pos rfl] at hp
    exact hp
  | succ k =>
    rw [hk, if_neg (Nat.succ_ne_zero k)] at hp
    have hfirst : nextOffloadState (fv.offState df.flowDir) false = .offloaded := by
      generalize fv.offState df.flowDir = st at h ⊢
      cases st with
      | nonOffload => exact absurd rfl h
      | install => rfl
      | offloaded => rfl
    rw [hp, Function.iterate_succ_apply, hfirst, iterate_offloaded]
    nofun

/-- What a packet asks for after a node; at the end of the graph it is handed over. -/
def asksNext (n : Node) (m : Mbuf) (n' : Node) (m' : Mbuf) : Option (ℕ × FlowDir × PortId) :=
  if n = .tx then asks (n, m) else if n'.leaves then none else asks (n', m')

theorem asksNext_same {k : ℕ × FlowDir × PortId} (hs : SameFlow m m') (hn : n ≠ .cls)
    (h : asksNext n m n' m' = some k) : asks (n, m) = some k := by
  unfold asksNext at h
  split at h
  · exact h
  · split at h
    · cases h
    · exact hs.asks hn h

theorem asksNext_of_ne {k : ℕ × FlowDir × PortId} (h : asksNext n m n' m' = some k) (hn : n ≠ .tx) :
    n'.leaves = false ∧ asks (n', m') = some k := by
  unfold asksNext at h
  rw [if_neg hn] at h
  split at h
  · cases h
  next hl => exact ⟨by simpa using hl, h⟩

theorem given_next (hat : w.svc.inflight[i]? = some (n, m)) (hsent : n = .tx → n'.leaves = true)
    (hfl : s'.inflight = if n'.leaves then w.svc.inflight.eraseIdx i else w.svc.inflight.set i (n', m')) :
    (Watched.given ⟨s', w.handed ++ handsOver w.svc (.walk i e)⟩).Perm
      ((asksNext n m n' m').toList ++ (w.handed ++ (w.svc.inflight.eraseIdx i).filterMap asks)) := by
  unfold Watched.given asksNext
  dsimp only [handsOver]
  rw [hat, hfl]
  by_cases hn : n = .tx
  · simp only [Option.filter, hn, hsent hn, decide_true, if_true, Option.bind_some, List.append_assoc]
    exact List.perm_append_comm_assoc ..
  · simp only [Option.filter, hn, decide_false, Bool.false_eq_true, if_false, Option.bind_none, Option.toList_none,
      List.append_nil]
    split
    · exact .refl _
    · exact given_perm (List.set_perm_cons_eraseIdx (List.getElem?_eq_some_iff.mp hat).1 _)

/-- What a node does with the flows and its packet gives nothing twice. -/
theorem Once.node (ht : Tracked w.svc) (ho : Once w) (hp : GivenOnce cf w (.walk i e))
    (hat : w.svc.inflight[i]? = some (n, m)) (h : NodeOff cf e w.svc.cfg w.svc.dpl n m s'.dpl m' n')
    (hfl : s'.inflight = if n'.leaves then w.svc.inflight.eraseIdx i else w.svc.inflight.set i (n', m'))
    (hb : Base s'.dpl) (hle : w.svc.dpl.nextFlow ≤ s'.dpl.nextFlow) :
    Once ⟨s', w.handed ++ handsOver w.svc (.walk i e)⟩ := by
  obtain ⟨hi, hget⟩ := List.getElem?_eq_some_iff.mp hat
  have hgiven : w.given.Perm
      ((asks (n, m)).toList ++ (w.handed ++ (w.svc.inflight.eraseIdx i).filterMap asks)) :=
    given_perm (hget ▸ (List.getElem_cons_eraseIdx_perm hi).symm)
  cases h with
  | cls hn hk hc =>
    subst hn
    refine ho.next hgiven (given_next hat nofun hfl) hle (hk.left ho) fun k hka => ?_
    obtain ⟨hl, hka⟩ := asksNext_of_ne hka nofun
    rw [asks_none (hc hl)] at hka
    cases hka
  | other hn hsent hk hs =>
    exact ho.next hgiven (given_next hat hsent hfl) hle (hk.left ho) fun k hka => .inl (asksNext_same hs hn hka)
  | snat hn _ h hs =>
    subst hn
    refine ho.next hgiven (given_next hat nofun hfl) hle ?_ fun k hka => .inl (asksNext_same hs nofun hka)
    cases h with
    | kept hk => exact hk.left ho
    | nat f fv fv' r turn _ _ hflows _ hicmp hother =>
      intro k hk gv hg
      rw [hflows, Table.add_eq_some] at hg
      obtain ⟨hkf, rfl⟩ | ⟨-, hg⟩ := hg
      · by_cases hi : natL4Type m = ipprotoIcmp
        · rw [(hicmp hi).1]
          nofun
        · obtain ⟨-, -, hf, -⟩ := natTurn_inv turn
          rw [hother hi]
          exact ho.left k hk fv (hkf ▸ hf)
      · exact ho.left k hk gv hg
  | conntrack hn hc h hport =>
    subst hn
    cases h with
    | kept hk hc' =>
      refine ho.next hgiven (given_next hat nofun hfl) hle (hk.left ho) fun k hka => ?_
      obtain ⟨-, hka⟩ := asksNext_of_ne hka nofun
      rw [asks_none hc'] at hka
      cases hka
    | known f fv df turn hf hflows hc' hdir hoff =>
      have hturn : Turned (otherPf cf m.port fv) df.flowDir (turns cf fv df m.l4) fv (advance cf e m df fv) :=
        advance_turned
      have hleft : ∀ dir, fv.offState dir ≠ .nonOffload → (advance cf e m df fv).offState dir ≠ .nonOffload := by
        intro dir hne
        by_cases hd : dir = df.flowDir
        · subst hd
          rw [hturn.here]
          exact iterate_ne_nonOffload hne _
        · rw [hturn.there dir hd]
          exact hne
      refine ho.next hgiven (given_next hat nofun hfl) hle ?_ fun k hka => .inr ?_
      · intro k hk gv hg
        rw [hflows, Table.add_eq_some] at hg
        obtain ⟨hkf, rfl⟩ | ⟨-, hg⟩ := hg
        · exact hleft _ (ho.left k hk fv (hkf ▸ hf))
        · exact ho.left k hk gv hg
      · obtain ⟨-, hka⟩ := asksNext_of_ne hka nofun
        obtain ⟨-, hins, hcf, hkd, hkp⟩ := asks_eq_some.mp hka
        obtain rfl : k = (f, df.flowDir, m.port) :=
          Prod.ext (Option.some.inj (hcf.symm.trans hc')) (Prod.ext (hkd.symm.trans hdir) (hkp.symm.trans hport))
        rw [hdir] at hoff
        refine ⟨fun hk => ?_, Nat.lt_of_lt_of_le (ht.base.live_lt f fv hf) hle, fun gv hg => ?_⟩
        · have hcond := hp _ hat _ turn hk
          exact advance_ne_install (ho.left _ hk fv hf) hcond (hoff ▸ hins)
        · rw [hflows, Table.add_self, Option.some.injEq] at hg
          subst hg
          rw [← hoff, hins]
          nofun
    | made fv hflows _ hc' hoff =>
      refine ho.next hgiven (given_next hat nofun hfl) hle ?_ fun k hka => .inr ?_
      · intro k hk gv hg
        rw [hflows, Table.add_eq_some] at hg
        obtain ⟨hkf, -⟩ | ⟨-, hg⟩ := hg
        · exact absurd (ho.lt k hk) (by rw [hkf]; exact Nat.lt_irrefl _)
        · exact ho.left k hk gv hg
      · obtain ⟨-, hka⟩ := asksNext_of_ne hka nofun
        obtain ⟨-, hins, hcf, hkd, hkp⟩ := asks_eq_some.mp hka
        obtain rfl : k = (w.svc.dpl.nextFlow, m'.df.flowDir, m.port) :=
          Prod.ext (Option.some.inj (hcf.symm.trans hc')) (Prod.ext hkd.symm (hkp.symm.trans hport))
        refine ⟨fun hk => Nat.lt_irrefl _ (ho.lt _ hk), ?_, fun gv hg => ?_⟩
        · exact hb.live_lt _ fv (by rw [hflows]; exact Table.add_self ..)
        · rw [hflows, Table.add_self, Option.some.injEq] at hg
          subst hg
          rw [← hoff, hins]
          nofun

theorem Once.step (ht : Tracked w.svc) (ho : Once w) (hp : GivenOnce cf w ev) (h : watchStep cf w ev = some w') :
    Tracked w'.svc ∧ Once w' := by
  obtain ⟨s', hs, rfl⟩ := Option.map_eq_some_iff.mp h
  have ht' : Tracked s' := ht.step hs
  refine ⟨ht', ?_⟩
  obtain ⟨i, e, n, m, m', n', rfl, hat, hnode, hfl⟩ | ⟨hne, hk, hfl⟩ := step_off ht hs
  · exact ho.node ht hp hat hnode hfl ht'.base (step_nextFlow ht hs)
  · have hgiven : Watched.given ⟨s', w.handed ++ handsOver w.svc ev⟩ = w.given := by
      have hnone : handsOver w.svc ev = [] := by
        cases ev with
        | walk i e => exact absurd rfl (hne i e)
        | rx m => rfl
        | request r e order => rfl
        | flowAging e ctxs order => rfl
      unfold Watched.given
      dsimp only
      rw [hnone, List.append_nil]
      obtain hfl | ⟨m, hfl⟩ := hfl
      · rw [hfl]
      · rw [hfl, List.filterMap_append]
        exact congrArg (w.handed ++ ·) (List.append_nil _)
    refine ⟨hgiven ▸ ho.nodup, fun k hk' => ?_, fun k hk' => hk.left ho k (hgiven ▸ hk')⟩
    exact Nat.lt_of_lt_of_le (ho.lt k (hgiven ▸ hk')) (step_nextFlow ht hs)

theorem Once.init (cf : Conf) : Once ⟨Service.init cf, []⟩ where
  nodup := List.nodup_nil
  lt _ hk := absurd hk List.not_mem_nil
  left _ hk := absurd hk List.not_mem_nil

end Once

end Dpservice
