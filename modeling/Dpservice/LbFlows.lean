import Dpservice.LbSelect
import Dpservice.ServiceConfig
import Dpservice.Tracking

/-!
# Load-balanced flows

The `lb` node chooses a target for the first packet of a flow and writes it into the flow.

- `LbCounted`: the number of load balancers that the node asks for is that of the entries of the address table. Only
  requests change them (`runNode_lb`), so this holds in every run (`lbCounted_run`).
- `Balanced`: the flow, while it lives, is balanced to this target. Bookkeeping keeps the target of a balanced flow
  (`FlowUpd.target`), and the effects of nodes concern new flows and flows that no node has translated
  (`Balanced.effect`).
- `lb_flow_sticks`: from the first packet on, every packet of the flow goes to the same target.

A flow to a load-balanced prefix of a VM of the same service is to be marked when it is made. The lookup for it asks the
value table for a port id that stands for all ports, and finds it nowhere: `lbprefix_lookup` says where it is right all
the same.
-/

namespace Dpservice

open Relation (ReflTransGen)

/-! ## Counting load balancers -/

/-- `rte_hash_count` of the address table is the number of its entries. -/
def LbCounted (s : LbState) : Prop :=
  ∃ keys : Finset LbKey, keys.card = s.count ∧ ∀ k, k ∈ keys ↔ (s.lbTbl k).isSome = true

section Counted

variable {cf : Conf} {e : Env} {c : Config} {s s' : LbState} {r : Request} {o : Outcome} {key : LbKey}
  {v : Option LbValue}

theorem LbCounted.init : LbCounted {} := ⟨∅, rfl, fun k => by simp [Table.empty]⟩

theorem LbCounted.enabled (h : LbCounted s) (hk : (s.lbTbl key).isSome = true) : dpIsLbEnabled s = true := by
  obtain ⟨keys, hcard, hmem⟩ := h
  have hpos : 0 < keys.card := Finset.card_pos.mpr ⟨key, (hmem key).mpr hk⟩
  rw [hcard] at hpos
  exact decide_eq_true hpos

/-- Only the number and the keys matter. -/
theorem LbCounted.of_keys (h : LbCounted s) (hcount : s'.count = s.count)
    (hkeys : ∀ k, (s'.lbTbl k).isSome = (s.lbTbl k).isSome) : LbCounted s' := by
  obtain ⟨keys, hcard, hmem⟩ := h
  refine ⟨keys, hcard.trans hcount.symm, fun k => ?_⟩
  rw [hmem, hkeys]

/-- A new value for an entry. -/
theorem LbCounted.write (h : LbCounted s) (hk : (s.lbTbl key).isSome = true) (hcount : s'.count = s.count)
    (htbl : s'.lbTbl = s.lbTbl.add key v) : LbCounted s' := by
  refine h.of_keys hcount fun k => ?_
  rw [htbl]
  by_cases heq : k = key
  · rw [heq, Table.add_self, hk, Option.isSome_some]
  · rw [Table.add_of_ne heq]

theorem LbCounted.enter (h : LbCounted s) (hk : s.lbTbl key = none) (hcount : s'.count = s.count + 1)
    (htbl : s'.lbTbl = s.lbTbl.add key v) : LbCounted s' := by
  obtain ⟨keys, hcard, hmem⟩ := h
  have hnew : key ∉ keys := fun hin => by
    have hsome := (hmem key).mp hin
    rw [hk] at hsome
    cases hsome
  refine ⟨insert key keys, by rw [Finset.card_insert_of_notMem hnew, hcard, hcount], fun k => ?_⟩
  rw [Finset.mem_insert, hmem, htbl]
  by_cases heq : k = key
  · simp [heq]
  · simp [heq, Table.add_of_ne heq]

theorem LbCounted.remove (h : LbCounted s) (hk : (s.lbTbl key).isSome = true) (hcount : s'.count = s.count - 1)
    (htbl : s'.lbTbl = s.lbTbl.del key) : LbCounted s' := by
  obtain ⟨keys, hcard, hmem⟩ := h
  refine ⟨keys.erase key, by rw [Finset.card_erase_of_mem ((hmem key).mpr hk), hcard, hcount], fun k => ?_⟩
  rw [Finset.mem_erase, hmem, htbl]
  by_cases heq : k = key
  · simp [heq]
  · simp [heq, Table.del_of_ne heq]

/-- Requests keep the count right. -/
theorem LbCounted.request (h : LbCounted s) (ho : dpProcessRequest cf e c s r = some o) : LbCounted o.lb := by
  cases dpProcessRequest_lb ho with
  | same _ heq => rw [heq]; exact h
  | create hcase =>
    cases hcase with
    | noVnf _ _ _ hlb => exact (show o.lb = s from hlb) ▸ h
    | refused _ _ _ _ hlb => exact (show o.lb = s from hlb) ▸ h
    | dead _ hacc _ _ _ hlb =>
      exact h.enter (lbAccepts_free hacc) (congrArg LbState.count hlb :) (congrArg LbState.lbTbl hlb :)
    | noVni _ _ _ _ _ _ hlb =>
      exact h.of_keys (congrArg LbState.count hlb :) fun k => by rw [(congrArg LbState.lbTbl hlb :)]
    | created _ hacc _ _ _ _ hlb =>
      exact h.enter (lbAccepts_free hacc) (congrArg LbState.count hlb :) (congrArg LbState.lbTbl hlb :)
  | delete _ hk _ heq => exact h.remove (by rw [hk]; rfl) (congrArg LbState.count heq :) (congrArg LbState.lbTbl heq :)
  | targets _ _ hset =>
    exact h.write (by rw [hset.val]; rfl) (congrArg LbState.count hset.eq :) (congrArg LbState.lbTbl hset.eq :)

/-- Choosing a target. -/
theorem LbCounted.backend (h : LbCounted s) (key : LbKey) (want : LbPort) {x : Option Ip6}
    (hb : dpLbGetBackendIp s key.ip want.port want.protocol key.vni = some (x, s')) : LbCounted s' := by
  rw [dpLbGetBackendIp_slot] at hb
  obtain ⟨⟨k, t⟩, hslot, heq⟩ := Option.map_eq_some_iff.mp hb
  cases heq
  unfold dpLbGetBackendSlot at hslot
  split at hslot
  · cases hslot
    exact h
  · cases hslot
  next v hv =>
    split at hslot
    · cases hslot
      exact h
    · cases hslot
      exact h.write (by rw [hv]; rfl) rfl rfl

end Counted

/-! ## What changes the load-balancer tables -/

section Frame

variable {cf : Conf} {e : Env} {c : Config} {d d' : Dataplane} {n n' : Node} {m m' : Mbuf} {f : ℕ} {fv : FlowValue}

theorem refSteps_lb (h : ReflTransGen RefStep d d') : d'.lb = d.lb := by
  induction h with
  | refl => rfl
  | tail _ hs ih =>
    rw [← ih]
    cases hs with
    | write _ _ => rfl
    | ctxs t n => rfl
    | free f hf =>
      unfold dpFreeFlow at hf
      split at hf
      · cases hf
      · cases hf
        rfl

theorem txNode_lb (h : txNode cf e c d m = some d') : d'.lb = d.lb := by
  obtain ⟨-, rfl⟩ | ⟨f, fv, -, -, h⟩ := txNode_refSteps h
  · rfl
  · rw [refSteps_lb h]
    rcases sentMark_eq d f fv with h | h <;> rw [h]
    rfl

theorem GetCase.lb {o : Option ℕ} {df : DpFlow} (h : GetCase cf e c d m o d' df) : d'.lb = d.lb := by
  cases h with
  | noKey | cached | found => rfl
  | failed _ _ hd => rcases hd with rfl | rfl <;> rfl
  | made _ _ _ _ _ hd => rw [hd]; rfl

theorem ConntrackCase.lb (h : ConntrackCase cf e c d m d' m' n') : d'.lb = d.lb := by
  cases h with
  | unread | skip => rfl
  | track _ _ _ h =>
    cases h with
    | fail h => exact h.lb
    | track f fv h => exact h.lb

theorem DnatCase.lb (h : DnatCase e c d m d' m' n') : d'.lb = d.lb := by
  cases h with
  | out | pass | echo | relay => rfl
  | known _ _ _ _ h => rw [h.state]
  | vip => exact rekeyed_lb

theorem SnatCase.lb (h : SnatCase cf e c d m d' m' n') : d'.lb = d.lb := by
  cases h with
  | known h => rw [h.state]
  | vip => exact rekeyed_lb
  | nat _ _ _ _ _ h =>
    cases h with
    | full _ _ hd => rw [hd]; rfl
    | unconverted => rfl
    | done => exact rekeyed_lb

/-- The `lb` node keeps the count right. -/
theorem LbCase.counted (hlb : LbCounted d.lb) (h : LbCase c d m d' m' n') : LbCounted d'.lb := by
  have hchoice : ∀ {fv : FlowValue} {x t},
      dpLbGetBackendIp d.lb fv.org.l3Dst fv.org.portDst fv.org.proto (pktVni c m) = some (x, t) → LbCounted t :=
    fun {fv} _ _ hb => hlb.backend ⟨pktVni c m, fv.org.l3Dst⟩ ⟨fv.org.proto, fv.org.portDst⟩ hb
  cases h with
  | pass | drop | relay | known => exact hlb
  | none _ _ _ hb => exact hchoice hb
  | recirc _ _ _ _ _ hb => exact hchoice hb
  | forward _ _ _ _ _ _ hb => exact hchoice hb

theorem runNode_counted (hlb : LbCounted d.lb) (h : runNode cf e c d m n = some (d', m', n')) : LbCounted d'.lb := by
  have hsame : d'.lb = d.lb → LbCounted d'.lb := fun heq => heq ▸ hlb
  have hstate : d' = d → LbCounted d'.lb := fun heq => heq ▸ hlb
  cases n with
  | cls => exact hstate (clsNode_cases h).1
  | ipipDecap => exact hstate (ipipDecapNode_cases h).1
  | conntrack => exact hsame (conntrackNode_cases h).lb
  | lb => exact (lbNode_cases h).counted hlb
  | dnat => exact hsame (dnatNode_cases h).lb
  | packetRelay => exact hstate (packetRelayNode_cases h).1
  | ipv4Lookup => exact hstate (lookup_cases (.inl h)).1
  | ipv6Lookup => exact hstate (lookup_cases (.inr h)).1
  | snat => exact hsame (snatNode_cases h).lb
  | firewall => obtain ⟨-, -, rfl | ⟨f, fv, -, -, rfl⟩⟩ := firewallNode_cases h <;> exact hlb
  | ipipEncap => exact hstate (ipipEncapNode_cases h).1
  | tx =>
    obtain ⟨d₁, hd, heq⟩ := Option.map_eq_some_iff.mp h
    cases heq
    exact hsame (txNode_lb hd)
  | drop | dhcp | dhcpv6 | arp | ipv6Nd => cases h

end Frame

section Run

variable {cf : Conf} {s s' : Service} {ev : Event} {es : List Event}

/-- So does every step. -/
theorem LbCounted.step (h : LbCounted s.dpl.lb) (hs : step cf s ev = some s') : LbCounted s'.dpl.lb := by
  cases step_cases hs with
  | rx => exact h
  | walk _ hr => exact runNode_counted h hr
  | @request _ _ _ o d _ ho hd =>
    have hlb : d.lb = o.lb := refSteps_lb (fadeSteps_refSteps (foldlM_steps (fun _ _ _ => dpRemoveFlows_fadeSteps) hd))
    exact hlb ▸ h.request ho
  | flowAging _ hd => exact refSteps_lb (fadeSteps_refSteps (dpProcessFlowAging_fadeSteps hd)) ▸ h

/-- **The load balancers are counted right in every run.** -/
theorem lbCounted_run (h : run (step cf) (Service.init cf) es = some s) : LbCounted s.dpl.lb :=
  run_invariant (I := fun s => LbCounted s.dpl.lb) (P := fun _ _ => True) (fun _ _ _ hi _ hs => hi.step hs)
    LbCounted.init (along_true _ _) h

end Run

/-! ## Balanced flows -/

/-- The flow has been made and, while it lives, is balanced to `b`. -/
structure Balanced (f : ℕ) (b : Ip6) (d : Dataplane) : Prop where
  made : f < d.nextFlow
  target : ∀ fv, d.flows f = some fv → fv.flags.dstLb = true ∧ fv.underlayDst = b

section Balanced

variable {cf : Conf} {e : Env} {c : Config} {d d' : Dataplane} {n n' : Node} {m m' : Mbuf} {f g : ℕ} {b : Ip6}
  {fv fv' : FlowValue}

theorem Balanced.quiet (h : Balanced f b d) (hq : Quiet d d') : Balanced f b d' where
  made := hq.nextFlow.symm ▸ h.made
  target fv' hf' := by
    obtain ⟨fv, hf, hu⟩ := hq.was_live hf'
    obtain ⟨hflag, htarget⟩ := h.target fv hf
    obtain ⟨hflag', htarget'⟩ := hu.target hflag
    exact ⟨hflag', htarget'.trans htarget⟩

theorem Balanced.free (h : Balanced f b d) (hfree : dpFreeFlow d g = some d') : Balanced f b d' := by
  obtain ⟨fv, hf, hflows, -, hnext, -⟩ := dpFreeFlow_eq hfree
  refine ⟨hnext.symm ▸ h.made, fun fv hf => h.target fv ?_⟩
  rw [hflows, Table.del_eq_some] at hf
  exact hf.2

/-- A flow that is translated now had no flags, so it is another one. -/
theorem Balanced.rekey {old : FlowKey} {added : Bool} (h : Balanced f b d) (hk : Rekey d d' g fv fv' old added) :
    Balanced f b d' := by
  refine ⟨hk.nextFlow.symm ▸ h.made, fun gv hg => ?_⟩
  obtain ⟨rfl, rfl⟩ | ⟨-, hg⟩ := hk.was_live hg
  · have hflag := (h.target fv hk.live).1
    rw [hk.plain] at hflag
    cases hflag
  · exact h.target gv hg

/-- No node takes the target away. -/
theorem Balanced.effect (h : Balanced f b d) (he : Effect cf e c d n m d') : Balanced f b d' := by
  cases he with
  | insert key fv _ hins =>
    refine ⟨by rw [hins.nextFlow]; exact Nat.lt_succ_of_lt h.made, fun gv hg => ?_⟩
    obtain ⟨rfl, -⟩ | ⟨-, hg⟩ := hins.was_live hg
    · exact absurd h.made (Nat.lt_irrefl _)
    · exact h.target gv hg
  | relay f fv fv' _ hk => exact h.rekey hk
  | vip f fv fv' _ hk => exact h.rekey hk
  | natFail f fv r _ _ hq => exact Balanced.quiet (d := { d with ports := d'.ports }) ⟨h.made, h.target⟩ hq
  | nat64Fail f fv r p ports _ _ _ _ hd =>
    subst hd
    exact ⟨h.made, h.target⟩
  | nat f fv fv' r p ports _ _ _ hk => exact h.rekey hk

/-- Nor does any run. -/
theorem Balanced.run {s s' : Service} {es : List Event} (ht : Tracked s) (h : Balanced f b s.dpl)
    (hr : run (step cf) s es = some s') : Balanced f b s'.dpl := by
  have hinv : Tracked s' ∧ Balanced f b s'.dpl := by
    refine run_invariant (I := fun s => Tracked s ∧ Balanced f b s.dpl) (P := fun _ _ => True) ?_ ⟨ht, h⟩
      (along_true _ _) hr
    rintro s ev s' ⟨ht, hb⟩ - hs
    refine ⟨ht.step hs, dataplane_step (P := fun _ _ _ _ => True) ?_ ?_ ht hb (onWalk_true s ev) hs⟩
    · exact fun _ _ => maint_invariant (fun _ _ _ hb hq => hb.quiet hq) (fun _ _ _ _ hb hf => hb.free hf)
    · exact fun _ _ _ _ _ _ _ hb _ he => hb.effect he
  exact hinv.2

/-! ## The `lb` node -/

@[simp] theorem lbRedirect_target : (lbRedirect c m b).df.ulDstAddr6 = b := by
  unfold lbRedirect
  dsimp only
  split <;> rfl

/-- A packet that the node sends to a target leaves its flow balanced to it. -/
theorem lbNode_forwards (hb : Base d) (hc : m.df.conntrack = some f) (h : lbNode c d m = some (d', m', .ipipEncap)) :
    Balanced f m'.df.ulDstAddr6 d' := by
  have hbal : ∀ {target fv fv'}, d.flows f = some fv → d'.nextFlow = d.nextFlow → d'.flows f = some fv' →
      fv'.flags.dstLb = true → fv'.underlayDst = target → Balanced f (lbRedirect c m target).df.ulDstAddr6 d' := by
    intro target fv fv' hf hnext hf' hflag htarget
    refine ⟨hnext ▸ hb.live_lt f fv hf, fun gv hg => ?_⟩
    cases hf'.symm.trans hg
    exact ⟨hflag, htarget.trans lbRedirect_target.symm⟩
  generalize hn : Node.ipipEncap = n' at h
  cases lbNode_cases h with
  | pass | drop | relay | none => cases hn
  | known g fv hg hf hflag =>
    cases hc.symm.trans hg
    exact hbal hf rfl hf hflag rfl
  | recirc g fv s target hp =>
    cases hc.symm.trans (plainFlow_live hp).1
    exact hbal (plainFlow_live hp).2.1 rfl (Table.add_self ..) rfl rfl
  | forward g fv s target hp =>
    cases hc.symm.trans (plainFlow_live hp).1
    exact hbal (plainFlow_live hp).2.1 rfl (Table.add_self ..) rfl rfl

/-- The node sends every packet in the direction of a balanced flow to its target. -/
theorem Balanced.lbNode (h : Balanced f b d) (hf : d.flows f = some fv) (hen : dpIsLbEnabled d.lb = true)
    (hc : m.df.conntrack = some f) (hd : m.df.flowDir = .org) :
    lbNode c d m = some (d, lbRedirect c m b, .ipipEncap) := by
  obtain ⟨hflag, rfl⟩ := h.target fv hf
  have hne : fv.flags ≠ {} := fun heq => by
    rw [heq] at hflag
    cases hflag
  simp [Dpservice.lbNode, hc, hen, hf, hd, hflag, hne]

end Balanced

/-- **A balanced flow keeps its target.** Whatever happens after the `lb` node has sent a packet of a flow to `b`, while
the flow lives and there is a load balancer, the node sends every packet in the direction of the flow to `b`. -/
theorem lb_flow_sticks {cf : Conf} {es es' : List Event} {s s₁ s₂ : Service} {i f : ℕ} {e : Env} {m m₁ : Mbuf}
    {d₁ : Dataplane} {key : LbKey} (e' : Env) (m' : Mbuf) (h : run (step cf) (Service.init cf) es = some s)
    (hm : s.inflight[i]? = some (.lb, m)) (hc : m.df.conntrack = some f)
    (hfwd : runNode cf e s.cfg s.dpl m .lb = some (d₁, m₁, .ipipEncap)) (hs : step cf s (.walk i e) = some s₁)
    (h' : run (step cf) s₁ es' = some s₂) (hlive : (s₂.dpl.flows f).isSome = true)
    (hlb : (s₂.dpl.lb.lbTbl key).isSome = true) (hc' : m'.df.conntrack = some f) (hd : m'.df.flowDir = .org) :
    runNode cf e' s₂.cfg s₂.dpl m' .lb = some (s₂.dpl, lbRedirect s₂.cfg m' m₁.df.ulDstAddr6, .ipipEncap) ∧
      (lbRedirect s₂.cfg m' m₁.df.ulDstAddr6).df.ulDstAddr6 = m₁.df.ulDstAddr6 := by
  have ht := tracked_run h
  have hall : run (step cf) (Service.init cf) (es ++ .walk i e :: es') = some s₂ := by
    rw [run_append, h]
    exact (run_cons hs).trans h'
  have hdpl : s₁.dpl = d₁ := by
    simp only [step, hm, hfwd] at hs
    cases hs
    rfl
  have hbal : Balanced f m₁.df.ulDstAddr6 s₁.dpl := hdpl ▸ lbNode_forwards ht.base hc hfwd
  obtain ⟨fv, hf⟩ := Option.isSome_iff_exists.mp hlive
  have hsticks := hbal.run (ht.step hs) h'
  exact ⟨hsticks.lbNode hf ((lbCounted_run hall).enabled hlb) hc' hd, lbRedirect_target⟩

/-- A tunnelled packet to 10.0.0.5, which load balancer 1 serves. -/
def webPacket : Mbuf where
  port := 0
  outer := some ⟨9, 1⟩
  l3 := .ipv4 0x08080808 0x0a000005 ipprotoTcp
  l4 := { srcPort := 1000, dstPort := 80, tcpSyn := true }

/-- Load balancer 1 gets a target, and a packet reaches the `lb` node. -/
def webStart : List Event :=
  requests [.createLb 1 100 (.v4 0x0a000005) [⟨ipprotoTcp, 80⟩],
    .createLbtarget 1 (.v6 0xfd000000000000000000000000000077)] ++ passes webPacket 3

/-- The packet leaves; the load balancer gets another target, loses the first, and is replaced. -/
def webLater : List Event :=
  [.walk 0 {}, .walk 0 {}] ++
    requests [.createLbtarget 1 (.v6 0xfd000000000000000000000000000078),
      .deleteLbtarget 1 (.v6 0xfd000000000000000000000000000077), .createLb 2 100 (.v4 0x0a000006) [], .deleteLb 1]

def webAgain : Mbuf := { webPacket with df := { conntrack := some 0, flowDir := .org } }

/-- A web client whose target and load balancer are deleted. -/
theorem lb_flow_sticks_web :
    ∃ s₁ s₂, run (step smallConf) (Service.init smallConf) (webStart ++ [.walk 0 {}]) = some s₁ ∧
    run (step smallConf) s₁ webLater = some s₂ ∧ runNode smallConf {} s₂.cfg s₂.dpl webAgain .lb =
      some (s₂.dpl, lbRedirect s₂.cfg webAgain 0xfd000000000000000000000000000077, .ipipEncap) := by
  obtain ⟨s, hs, ⟨n, m⟩, hm, rfl, hc, ⟨⟨d₁, m₁, n₁⟩, hr, rfl, htarget⟩, s₁, hs₁, s₂, hs₂, hflow, hlb⟩ : ∃ s,
      run (step smallConf) (Service.init smallConf) webStart = some s ∧
      ∃ p, s.inflight[0]? = some p ∧ p.1 = .lb ∧ p.2.df.conntrack = some 0 ∧
      (∃ r, runNode smallConf {} s.cfg s.dpl p.2 .lb = some r ∧ r.2.2 = .ipipEncap ∧
        r.2.1.df.ulDstAddr6 = 0xfd000000000000000000000000000077) ∧
      ∃ s₁, step smallConf s (.walk 0 {}) = some s₁ ∧ ∃ s₂, run (step smallConf) s₁ webLater = some s₂ ∧
        (s₂.dpl.flows 0).isSome = true ∧ (s₂.dpl.lb.lbTbl ⟨100, .v4 0x0a000006⟩).isSome = true := by decide +kernel
  have hsticks := lb_flow_sticks {} webAgain hs hm hc hr hs₁ hs₂ hflow hlb rfl rfl
  rw [show m₁.df.ulDstAddr6 = _ from htarget] at hsticks
  refine ⟨s₁, s₂, ?_, hs₂, hsticks.1⟩
  rw [run_append, hs]
  exact run_cons hs₁

/-! ## Flows to load-balanced prefixes -/

/-- `DP_VNF_MATCH_ALL_PORT_IDS`. -/
abbrev vnfMatchAllPortIds : PortId := 0xFFFF

/-- `DP_MAX_PORTS`: the port table has an entry for every smaller id, and no port has another one. -/
abbrev maxPorts : ℕ := 128

def HasLbPrefix (c : Config) (vni : Vni) (pfx : IpAddr) (length : UInt8) : Prop :=
  ∃ ul v, c.vnf.handleTbl ul = some v ∧ v.type = .lbAliasPfx ∧ v.vni = vni ∧ v.pfx = pfx ∧ v.length = length

/-- Every VNF in the value table but a load balancer belongs to a port. -/
def ValuePorts (cf : Conf) (c : Config) : Prop :=
  ∀ v, (c.vnf.valueTbl v).isSome = true → v.type ≠ .lb → cf.hasPort v.portId = true

section Prefixes

variable {cf : Conf} {e : Env} {c : Config} {l : LbState} {r : Request} {o : Outcome} {es : List Event} {s : Service}
  {vni : Vni} {pfx : IpAddr} {length : UInt8}

theorem ValuePorts.request (hc : PortsOk cf c) (hv : ValuePorts cf c) (ho : dpProcessRequest cf e c l r = some o) :
    ValuePorts cf o.cfg := by
  intro v hval hty
  obtain ⟨ul, hval⟩ := Option.isSome_iff_exists.mp hval
  obtain hold | hmk := (dpProcessRequest_vnf hc ho).value_old hval
  · exact hv v (by rw [hold]; rfl) hty
  · exact requestVnf_port hc hmk hty

/-- In every run VNFs other than load balancers are those of ports that exist. -/
theorem valuePorts_run (h : run (step cf) (Service.init cf) es = some s) : ValuePorts cf s.cfg :=
  (config_run (I := fun c => PortsOk cf c ∧ ValuePorts cf c) ⟨.init cf, fun _ h => by cases h⟩
    (fun hc ho => ⟨hc.1.request ho, hc.2.request hc.1 ho⟩) h).2

/-- The lookup for all ports never finds anything. -/
theorem dpVnfLbprefixExists_all (hports : ∀ p, cf.hasPort p = true → p.toNat < maxPorts) (h : ValuePorts cf c) :
    dpVnfLbprefixExists c.vnf vnfMatchAllPortIds vni pfx length = false := by
  rw [Bool.eq_false_iff]
  intro hfound
  have hp : vnfMatchAllPortIds.toNat < maxPorts := hports _ (h _ hfound nofun)
  exact absurd hp (by decide)

theorem flowTableInsertEntry_flow {key : FlowKey} {df : DpFlow} {p : PortId} {d d' : Dataplane} {f : ℕ}
    (h : flowTableInsertEntry cf e c d key df p = (some f, d')) : d'.flows f = some (newFlowValue cf c key df p) := by
  unfold flowTableInsertEntry at h
  split at h
  · cases h
  · split at h
    · cases h
    · cases h
      exact Table.add_self ..

/-- **The lookup for all ports is right for the prefixes that no port has, and for no others**; so is the mark of a flow
from a virtual function. -/
theorem lbprefix_lookup (hports : ∀ p, cf.hasPort p = true → p.toNat < maxPorts)
    (h : run (step cf) (Service.init cf) es = some s) :
    (∀ vni pfx length, (dpVnfLbprefixExists s.cfg.vnf vnfMatchAllPortIds vni pfx length = true ↔
        HasLbPrefix s.cfg vni pfx length) ↔ ¬HasLbPrefix s.cfg vni pfx length) ∧
      ∀ e key df p f d', cf.offloadEnabled = true → cf.isPf p = false → key.l3Dst.isV6 = false →
        flowTableInsertEntry cf e s.cfg s.dpl key df p = (some f, d') →
        (((d'.flows f).map (·.natType) = some .lbLocalNeigh ↔ HasLbPrefix s.cfg key.vni key.l3Dst 32) ↔
          ¬HasLbPrefix s.cfg key.vni key.l3Dst 32) := by
  have hnone : ∀ vni pfx length, dpVnfLbprefixExists s.cfg.vnf vnfMatchAllPortIds vni pfx length = false :=
    fun _ _ _ => dpVnfLbprefixExists_all hports (valuePorts_run h)
  refine ⟨fun vni pfx length => ?_, fun e key df p f d' _ _ _ hins => ?_⟩
  · simp [hnone]
  · have hmark : (newFlowValue cf s.cfg key df p).natType = .none := by
      simp [newFlowValue, hnone key.vni key.l3Dst 32]
    simp [flowTableInsertEntry_flow hins, hmark]

end Prefixes

/-- Interface 7 on port 2 and interface 8 on port 3, both in VNI 100; interface 7 has the prefix 10.0.0.9/32. A packet
of interface 8 to it is tracked. -/
def neighbours : List Event :=
  requests [.createInterface 2 7 100 0x0a000001 0xfd01 0 0, .createInterface 3 8 100 0x0a000002 0xfd02 0 0,
    .createLoadBalancerPrefix 7 (.v4 0x0a000009) 32] ++
  passes { port := 3, l3 := .ipv4 0x0a000002 0x0a000009 ipprotoTcp, l4 := { srcPort := 1000, dstPort := 80 } } 2

theorem offloadConf_ports : ∀ p, offloadConf.hasPort p = true → p.toNat < maxPorts := by
  intro p hp
  have hmem : p ∈ offloadConf.portList := by simpa [Conf.hasPort] using hp
  simp only [offloadConf, smallConf, List.mem_cons, List.not_mem_nil, or_false] at hmem
  rcases hmem with rfl | rfl | rfl | rfl <;> decide

theorem lbprefix_lookup_neighbours : ∃ s, run (step offloadConf) (Service.init offloadConf) neighbours = some s ∧
    ((dpVnfLbprefixExists s.cfg.vnf vnfMatchAllPortIds 100 (.v4 0x0a000008) 32 = true ↔
        HasLbPrefix s.cfg 100 (.v4 0x0a000008) 32) ↔ ¬HasLbPrefix s.cfg 100 (.v4 0x0a000008) 32) := by
  refine exists_some_of (by decide +kernel) ?_
  intro s hs
  exact (lbprefix_lookup offloadConf_ports hs).1 _ _ _

/-- Interface 7 has the prefix, but the lookup does not find it, and the flow of interface 8 to it is not marked. -/
theorem lbprefix_lookup_misses : ∃ s, run (step offloadConf) (Service.init offloadConf) neighbours = some s ∧
    HasLbPrefix s.cfg 100 (.v4 0x0a000009) 32 ∧
    dpVnfLbprefixExists s.cfg.vnf vnfMatchAllPortIds 100 (.v4 0x0a000009) 32 = false ∧
    (s.dpl.flows 0).map (fun fv => (fv.org.vni, fv.org.l3Dst, fv.createdPortId, fv.natType)) =
      some (100, .v4 0x0a000009, 3, .none) := by
  refine exists_some_imp (P := fun s => s.cfg.vnf.handleTbl 3 = some ⟨.lbAliasPfx, 100, 2, .v4 0x0a000009, 32⟩ ∧
    dpVnfLbprefixExists s.cfg.vnf vnfMatchAllPortIds 100 (.v4 0x0a000009) 32 = false ∧
    (s.dpl.flows 0).map (fun fv => (fv.org.vni, fv.org.l3Dst, fv.createdPortId, fv.natType)) =
      some (100, .v4 0x0a000009, 3, .none)) (by decide +kernel) ?_
  rintro s - ⟨hpfx, hmiss, hflow⟩
  exact ⟨⟨3, _, hpfx, rfl, rfl, rfl, rfl⟩, hmiss, hflow⟩

end Dpservice
