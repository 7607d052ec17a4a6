import Dpservice.Lib.Tally
import Dpservice.NatTable

/-!
# NAT accounting

Two 16-bit counters follow the flows that network NAT translates: the portmap counts them by source, and each port
counts those it created. Both are raised from the headers of a packet and lowered from the values stored in the flow.
They go wrong when these differ, when a port is taken but no flow gets it, when the remembered port of a source is
replaced while flows still use it, and when a counter wraps.

- `natCount d g a` is the number of translated flows whose `g` is `a`, with one lemma for each effect;
- `nat_accounted`: both counters are right in every run without such packets (`CountsFollow`).
-/

namespace Dpservice

def natCount {α : Type*} [DecidableEq α] (d : Dataplane) (g : FlowValue → α) (a : α) : ℕ :=
  d.flows.count d.nextFlow fun fv => decide (fv.natType = .networkLocal ∧ g fv = a)

section NatCount

variable {α : Type*} [DecidableEq α] {g : FlowValue → α} {d d' : Dataplane} {m : Mbuf} {f : ℕ} {fv fv' : FlowValue}

theorem natCount_quiet (hg : ∀ {fv fv'}, FlowUpd fv fv' → g fv' = g fv) (h : Quiet d d') :
    natCount d' g = natCount d g := by
  funext a
  unfold natCount
  rw [h.nextFlow]
  refine Table.count_congr fun j _ => ?_
  have hj := h.flows j
  cases hd : d.flows j with
  | none =>
    rw [hd] at hj
    cases hd' : d'.flows j with
    | none => rfl
    | some fv' => rw [hd'] at hj; cases hj
  | some fv =>
    obtain ⟨fv', hfv', hu⟩ := h.live hd
    rw [hfv']
    simp [hu.isLocal, hg hu]

theorem natCount_insert {key : FlowKey} (h : Inserts m d d' key fv) : natCount d' g = natCount d g := by
  funext a
  unfold natCount
  rw [h.flows, h.nextFlow, Table.count_new]
  simp [h.notLocal]

/-- Freeing a flow: one translated flow less, if it was one. -/
theorem natCount_free (hb : Base d) (hf : d.flows f = some fv) (h : dpFreeFlow d f = some d') (a : α) :
    (natCount d' g a + if fv.natType = .networkLocal ∧ g fv = a then 1 else 0) = natCount d g a := by
  obtain ⟨fv', hf', hflows, -, hnext, -⟩ := dpFreeFlow_eq h
  unfold natCount
  rw [hflows, hnext]
  simpa using Table.count_del (p := fun fv => decide (fv.natType = .networkLocal ∧ g fv = a)) (hb.live_lt f fv hf) hf

/-- A flow that no node had translated gets a new value. -/
theorem natCount_rekey {old : FlowKey} {added : Bool} (hb : Base d) (h : Rekey d d' f fv fv' old added) (a : α) :
    natCount d' g a = natCount d g a + if fv'.natType = .networkLocal ∧ g fv' = a then 1 else 0 := by
  have hplain := (hb.plain f fv h.live h.plain).2
  unfold natCount
  rw [h.flows, h.nextFlow]
  simpa [hplain] using Table.count_set (p := fun fv => decide (fv.natType = .networkLocal ∧ g fv = a)) (w := fv')
    (hb.live_lt f fv h.live) h.live

theorem natCount_rekey_not_local {old : FlowKey} {added : Bool} (hb : Base d) (h : Rekey d d' f fv fv' old added)
    (hl : fv'.natType ≠ .networkLocal) : natCount d' g = natCount d g := by
  funext a
  rw [natCount_rekey hb h]
  simp [hl]

theorem natCount_rekey_local {old : FlowKey} {added : Bool} (hb : Base d) (h : Rekey d d' f fv fv' old added)
    (hl : fv'.natType = .networkLocal) (a : α) :
    natCount d' g a = natCount d g a + if a = g fv' then 1 else 0 := by
  rw [natCount_rekey hb h]
  simp [hl, eq_comm]

end NatCount

/-! ## The counters -/

/-- The portmap has an entry for exactly the sources of translated flows, with their number, and every port has the
number of translated flows it created. -/
structure Accounted (d : Dataplane) : Prop where
  source : ∀ k, (d.ports.portmapTbl k).isSome = true ↔ 0 < natCount d FlowValue.portmapKey k
  flowCnt : ∀ k x, d.ports.portmapTbl k = some x → x.flowCnt.toNat = natCount d FlowValue.portmapKey k
  usedPortCnt : ∀ p, (d.ports.usedPortCnt p).toNat = natCount d FlowValue.createdPortId p

/-- The source under which a flow will be counted is the one that its packet counts. -/
def SameSource (fv : FlowValue) (m : Mbuf) (vni : Vni) : Prop :=
  { fv with nfVni := vni }.portmapKey = portmapKeyOf m.df vni

/-- The counters follow what happens to the flow of the packet:
  - the port that a source keeps can be registered, and its counter does not wrap;
  - the port of a source is not replaced;
  - if a port is taken, the flow is translated and counted where it will be given back: an ICMP error counts for the
    source of its flow, NAT64 can convert the packet, the packet came from the port that created the flow, and the
    counter of that port does not wrap. -/
def CountsFollow (cf : Conf) (s : Service) (e : Env) (n : Node) (m : Mbuf) : Prop :=
  ∀ t ∈ natTurn cf e s.cfg s.dpl n m,
    (∀ x ∈ s.dpl.ports.kept t.2.2 m.df (ifaceVni s.cfg m), e.ok .overloadAdd = true ∧ x.flowCnt ≠ 65535) ∧
    (s.dpl.ports.CanTake e t.2.2 m.df (ifaceVni s.cfg m) →
      (s.dpl.ports.kept t.2.2 m.df (ifaceVni s.cfg m) = none →
        s.dpl.ports.portmapTbl (portmapKeyOf m.df (ifaceVni s.cfg m)) = none) ∧
      (m.df.isIcmpErr = true → SameSource t.2.1 m (ifaceVni s.cfg m)) ∧
      (m.df.l3Type = .ipv6 → nat64Converts m = true) ∧
      t.2.1.createdPortId = m.port ∧ s.dpl.ports.usedPortCnt m.port ≠ 65535)

instance (fv : FlowValue) (m : Mbuf) (vni : Vni) : Decidable (SameSource fv m vni) :=
  inferInstanceAs (Decidable (_ = _))

instance (cf : Conf) (s : Service) (e : Env) (n : Node) (m : Mbuf) : Decidable (CountsFollow cf s e n m) := by
  unfold CountsFollow
  infer_instance

section Account

variable {cf : Conf} {e : Env} {c : Config} {d d' : Dataplane} {n : Node} {m : Mbuf} {f : ℕ} {fv fv' : FlowValue}
  {r : NatRange} {vni : Vni}

theorem FlowUpd.portmapKey (h : FlowUpd fv fv') : fv'.portmapKey = fv.portmapKey := by
  unfold FlowValue.portmapKey
  rw [h.org, h.vni]

/-- The source that a flow stands for is that of its packet. -/
theorem KeyOf.sameSource (hk : KeyOf m.df fv.org) : SameSource fv m vni := by
  unfold SameSource FlowValue.portmapKey portmapKeyOf
  have hport : (if isIcmp fv.org.proto then fv.org.portDst else fv.org.src) =
      if isIcmp m.df.l4Type then m.df.icmpIdent else m.df.srcPort := by
    rw [hk.proto]
    rcases hk.l4 with ⟨htu, -, hs⟩ | ⟨hi, hd, -⟩
    · have hni : isIcmp m.df.l4Type = false := by
        rcases htu with h | h <;> simp +decide [h, isIcmp]
      rw [hni, hs]
      rfl
    · rw [hi, hd]
      rfl
  rw [hport]
  rcases hk.l3 with ⟨ht, -, hs⟩ | ⟨ht, -, hs⟩
  · simp [ht, hs]
  · simp [ht, hs]

theorem SameSource.portmapKey (h : SameSource fv m vni) (ho : fv'.org = fv.org) (hv : fv'.nfVni = vni) :
    fv'.portmapKey = portmapKeyOf m.df vni := by
  rw [← h]
  unfold FlowValue.portmapKey
  rw [ho, hv]

structure CountersOk (d : Dataplane) : Prop where
  sources : Tallies PortmapData.flowCnt d.ports.portmapTbl (natCount d FlowValue.portmapKey)
  created : Counts d.ports.usedPortCnt (natCount d FlowValue.createdPortId)

theorem CountersOk.of_eq (h : CountersOk d) (hm : d'.ports.portmapTbl = d.ports.portmapTbl)
    (hu : d'.ports.usedPortCnt = d.ports.usedPortCnt)
    (hk : natCount d' FlowValue.portmapKey = natCount d FlowValue.portmapKey)
    (hc : natCount d' FlowValue.createdPortId = natCount d FlowValue.createdPortId) : CountersOk d' := by
  refine ⟨?_, ?_⟩
  · rw [hm, hk]
    exact h.sources
  · rw [hu, hc]
    exact h.created

theorem CountersOk.quiet (h : CountersOk d) (hq : Quiet d d') : CountersOk d' :=
  h.of_eq (by rw [hq.ports]) (by rw [hq.ports]) (natCount_quiet FlowUpd.portmapKey hq)
    (natCount_quiet FlowUpd.created hq)

/-- A translated flow gives back what it was counted for. -/
theorem CountersOk.free (h : CountersOk d) (hb : Base d) (hl : LocalHolds d) (hfree : dpFreeFlow d f = some d') :
    CountersOk d' := by
  obtain ⟨fv, hf, -, -, -, -, hports, -⟩ := dpFreeFlow_eq hfree
  have hcount : ∀ {α : Type} [DecidableEq α] {g : FlowValue → α} (a : α),
      (natCount d' g a + if fv.natType = .networkLocal ∧ g fv = a then 1 else 0) = natCount d g a :=
    fun a => natCount_free hb hf hfree a
  by_cases hloc : fv.natType = .networkLocal
  · obtain ⟨ip, hip⟩ : ∃ ip, fv.reply.l3Dst = .v4 ip := by
      have hkey := hl f fv hf hloc
      unfold FlowValue.natKey at hkey
      rw [if_neg (not_not.mpr hloc)] at hkey
      cases hdst : fv.reply.l3Dst with
      | v4 ip => exact ⟨ip, rfl⟩
      | v6 ip =>
        rw [hdst] at hkey
        exact absurd rfl hkey
    have hpos : 0 < natCount d FlowValue.portmapKey fv.portmapKey := by
      have := hcount (g := FlowValue.portmapKey) fv.portmapKey
      rw [if_pos ⟨hloc, rfl⟩] at this
      omega
    obtain ⟨x, hx⟩ := Option.isSome_iff_exists.mp ((h.sources.isSome _).mpr hpos)
    obtain ⟨hmap, hused⟩ := dpRemoveNetworkSnatPort_counts hip hx
    have hrem : d'.ports = dpRemoveNetworkSnatPort d.ports fv := by
      rw [hports, dpFreeNetworkNatPort, if_pos hloc]
    refine ⟨?_, ?_⟩
    · rw [hrem, hmap]
      exact h.sources.release hx rfl fun k => by simpa [hloc, eq_comm] using hcount (g := FlowValue.portmapKey) k
    · rw [hrem, hused]
      exact h.created.release fun p => by simpa [hloc, eq_comm] using hcount (g := FlowValue.createdPortId) p
  · have hsame : ∀ {α : Type} [DecidableEq α] {g : FlowValue → α}, natCount d' g = natCount d g := by
      intro α _ g
      funext a
      simpa [hloc] using hcount (g := g) a
    have hkeep : d'.ports = d.ports := by rw [hports, dpFreeNetworkNatPort, if_neg hloc]
    exact h.of_eq (by rw [hkeep]) (by rw [hkeep]) hsame hsame

/-- A translated flow is counted for its source and for the port that created it. -/
theorem CountersOk.nat {old : FlowKey} {added : Bool} {ports : NatPorts} {p : UInt16} (h : CountersOk d) (hb : Base d)
    (hre : Rekey d d' f fv fv' old added) (halloc : Alloc e d.ports r m.df vni (some p) ports)
    (hports : d'.ports = ports.incUsed m.port) (hl : fv'.natType = .networkLocal)
    (hkey : fv'.portmapKey = portmapKeyOf m.df vni) (hcr : fv'.createdPortId = m.port)
    (hkept : ∀ x ∈ d.ports.kept r m.df vni, x.flowCnt ≠ 65535)
    (hnew : d.ports.kept r m.df vni = none → d.ports.portmapTbl (portmapKeyOf m.df vni) = none)
    (hmax : d.ports.usedPortCnt m.port ≠ 65535) : CountersOk d' := by
  have hsource : ∀ k, natCount d' FlowValue.portmapKey k =
      natCount d FlowValue.portmapKey k + if k = portmapKeyOf m.df vni then 1 else 0 := by
    intro k
    rw [natCount_rekey_local hb hre hl, hkey]
  have hcreated : ∀ q, natCount d' FlowValue.createdPortId q =
      natCount d FlowValue.createdPortId q + if q = m.port then 1 else 0 := by
    intro q
    rw [natCount_rekey_local hb hre hl, hcr]
  have hmap : d'.ports.portmapTbl = ports.portmapTbl := by
    rw [hports]
    rfl
  have hused : d'.ports.usedPortCnt = Function.update d.ports.usedPortCnt m.port (d.ports.usedPortCnt m.port + 1) := by
    rw [hports, NatPorts.incUsed, halloc.usedPortCnt]
  refine ⟨?_, ?_⟩
  · rw [hmap]
    obtain ⟨x, hx, -, htbl⟩ | ⟨hnone, -, htbl⟩ := halloc.portmap
    · rw [htbl]
      exact h.sources.more (NatPorts.kept_eq_some.mp hx).1 rfl (hkept x hx) hsource
    · rw [htbl]
      exact h.sources.first (hnew hnone) rfl hsource
  · rw [hused]
    exact h.created.more hmax hcreated

theorem CountersOk.effect {s : Service} (h : CountersOk s.dpl) (hb : Base s.dpl) (hm : NodeOk s.dpl m n)
    (hP : CountsFollow cf s e n m) (he : Effect cf e s.cfg s.dpl n m d') : CountersOk d' := by
  cases he with
  | insert key fv _ hi =>
    exact h.of_eq (by rw [hi.ports]) (by rw [hi.ports]) (natCount_insert hi) (natCount_insert hi)
  | relay f fv fv' _ hre hp _ _ hnl =>
    exact h.of_eq (by rw [hp]) (by rw [hp]) (natCount_rekey_not_local hb hre hnl) (natCount_rekey_not_local hb hre hnl)
  | vip f fv fv' _ hre hp _ hnl _ =>
    exact h.of_eq (by rw [hp]) (by rw [hp]) (natCount_rekey_not_local hb hre hnl) (natCount_rekey_not_local hb hre hnl)
  | natFail f fv r turn halloc hq =>
    have hmap := halloc.portmap_none fun hk => by
      obtain ⟨x, hx⟩ := Option.ne_none_iff_exists'.mp hk
      exact ((hP _ turn).1 x hx).1
    exact h.of_eq hmap halloc.usedPortCnt (natCount_quiet FlowUpd.portmapKey hq :) (natCount_quiet FlowUpd.created hq :)
  | nat64Fail f fv r p ports turn h6 halloc hconv _ =>
    obtain ⟨-, -, hc, -⟩ := (hP _ turn).2 halloc.canTake
    rw [hc h6] at hconv
    cases hconv
  | nat f fv fv' r p ports turn _ halloc hre hports _ hl hv _ _ =>
    obtain ⟨hnew, herr, -, hcr, hmax⟩ := (hP _ turn).2 halloc.canTake
    have hsource : SameSource fv m (ifaceVni s.cfg m) := by
      cases hi : m.df.isIcmpErr with
      | true => exact herr hi
      | false => exact (keyOf_natTurn hm turn hi).2.sameSource
    exact h.nat hb hre halloc hports hl (hsource.portmapKey hre.org hv) (hre.created.trans hcr)
      (fun x hx => ((hP _ turn).1 x hx).2) hnew hmax

end Account

/-- **The NAT counters are right** in every run in which they follow the flow of every packet (`CountsFollow`). -/
theorem nat_accounted {cf : Conf} {es : List Event} {s : Service}
    (hP : Along (step cf) (OnWalk (CountsFollow cf)) (Service.init cf) es)
    (h : run (step cf) (Service.init cf) es = some s) : Accounted s.dpl := by
  have hJ : LocalHolds s.dpl ∧ CountersOk s.dpl := by
    refine dataplane_run (J := fun d => LocalHolds d ∧ CountersOk d) ?_ ?_ ?_ ?_ hP h
    · exact ⟨.init, ⟨.empty, fun _ => rfl⟩⟩
    · rintro d d' - ⟨hl, hc⟩ hq
      exact ⟨hl.quiet hq, hc.quiet hq⟩
    · rintro d d' f hb ⟨hl, hc⟩ hf
      exact ⟨hl.free hf, hc.free hb hl hf⟩
    · rintro s e n m d' hb hm ⟨hl, hc⟩ hp he
      exact ⟨hl.effect he, hc.effect hb hm hp he⟩
  exact ⟨hJ.2.sources.isSome, fun _ _ hx => hJ.2.sources.cnt hx, hJ.2.created⟩

/-- A TCP connection through NAT: its source and its port count one flow each. -/
theorem nat_accounted_tcp :
    ∃ s, run (step smallConf) (Service.init smallConf) (requests natSetup ++ passes tcpPacket 8) = some s ∧
      s.dpl.ports.usedPortCnt 2 = 1 ∧ Accounted s.dpl := by
  refine exists_some_imp (P := fun s => s.dpl.ports.usedPortCnt 2 = 1) (by decide +kernel) ?_
  intro s hs hone
  exact ⟨hone, nat_accounted (by decide +kernel) hs⟩

def tcpFromTo (srcPort : UInt16) (dst : Ip4) : Mbuf :=
  { tcpPacket with l3 := .ipv4 0x0a000001 dst ipprotoTcp, l4 := { tcpPacket.l4 with srcPort := srcPort } }

/-- Two sources use one port for different hosts; when the first one connects to the host of the second, its port is
replaced, and the portmap forgets its first connection. -/
theorem nat_account_replaced :
    ∃ s, run (step smallConf) (Service.init smallConf) (requests natSetup ++ passes (tcpFromTo 1000 0x08080808) 8 ++
      passes (tcpFromTo 2000 0x09090909) 8 ++ passes (tcpFromTo 1000 0x09090909) 8) = some s ∧ ¬ Accounted s.dpl := by
  refine exists_some_imp (P := fun s => ∃ x, s.dpl.ports.portmapTbl ⟨100, .v4 0x0a000001, 1000⟩ = some x ∧
    x.flowCnt = 1 ∧ natCount s.dpl FlowValue.portmapKey ⟨100, .v4 0x0a000001, 1000⟩ = 2) (by decide +kernel) ?_
  rintro s - ⟨x, hx, hone, htwo⟩ ha
  have heq := ha.flowCnt _ x hx
  rw [hone, htwo] at heq
  exact absurd heq (by decide)

end Dpservice
