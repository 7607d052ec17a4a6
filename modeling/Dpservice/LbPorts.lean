import Dpservice.LbSelect

/-!
# The ports of a load balancer

- `CreateLoadBalancerRequest.fillRequest` is what the API takes from a request: at most 15 pairs of a port and a
  protocol.
- `lbPortServed_iff`: the loop of `dp_lb_rr_backend` stops at the first pair with port 0, whether it ends the list or
  was requested.
- `lb_port_filter`: which flows are treated as the request says, in every run of requests and choices.
-/

namespace Dpservice

/-! ## The ports of a request -/

/-- `enum Protocol` of the API. -/
inductive GrpcProtocol where
  | undefined | icmp | tcp | udp | icmpv6 | sctp
  /-- A number without a name. -/
  | other (n : ℕ)
  deriving DecidableEq, Repr

def GrpcProtocol.number : GrpcProtocol → ℕ
  | .undefined => 0
  | .icmp => 1
  | .tcp => 6
  | .udp => 17
  | .icmpv6 => 58
  | .sctp => 132
  | .other n => n

structure GrpcLbPort where
  port : UInt32
  protocol : GrpcProtocol
  deriving DecidableEq, Repr

/-- `message CreateLoadBalancerRequest`; `none` where the text of the id or of the address is refused. -/
structure CreateLoadBalancerRequest where
  loadbalancerId : Option Id64
  vni : Vni
  loadbalancedIp : Option IpAddr
  loadbalancedPorts : List GrpcLbPort

/-- What the API takes from one pair. -/
def fillLbPort (p : GrpcLbPort) : Except String LbPort :=
  if p.port > 0xFFFF then .error "Invalid loadbalanced_ports.port"
  else
    match p.protocol with
    | .tcp => .ok ⟨ipprotoTcp, p.port.toUInt16⟩
    | .udp => .ok ⟨ipprotoUdp, p.port.toUInt16⟩
    | _ => .error "Invalid loadbalanced_ports.protocol"

/-- The loop of `FillRequest` over the pairs. -/
def fillLbPorts : List GrpcLbPort → Except String (List LbPort)
  | [] => .ok []
  | p :: ps =>
    match fillLbPort p with
    | .error msg => .error msg
    | .ok q =>
      match fillLbPorts ps with
      | .error msg => .error msg
      | .ok qs => .ok (q :: qs)

/-- `CreateLoadBalancerCall::FillRequest`: the request, or the text of the error. -/
def CreateLoadBalancerRequest.fillRequest (r : CreateLoadBalancerRequest) : Except String Request :=
  match r.loadbalancerId with
  | none => .error "Invalid loadbalancer_id"
  | some id =>
    match r.loadbalancedIp with
    | none => .error "Invalid loadbalanced_ip"
    | some addr =>
      if lbMaxPorts ≤ r.loadbalancedPorts.length then .error "Too many loadbalanced_ports"
      else
        match fillLbPorts r.loadbalancedPorts with
        | .error msg => .error msg
        | .ok ports => .ok (.createLb id r.vni addr ports)

/-- The pair that a flow needs. -/
def GrpcLbPort.Is (p : GrpcLbPort) (want : LbPort) : Prop :=
  p.port.toNat = want.port.toNat ∧ p.protocol.number = want.protocol.toNat

instance (p : GrpcLbPort) (want : LbPort) : Decidable (p.Is want) := inferInstanceAs (Decidable (_ ∧ _))

/-- The pair is one of the requested ones. -/
def CreateLoadBalancerRequest.Asks (r : CreateLoadBalancerRequest) (want : LbPort) : Prop :=
  ∃ p ∈ r.loadbalancedPorts, p.Is want

/-- The pair, if requested, stands before all other pairs with port 0. The flow of no protocol to port 0, which looks
like the end of the list, needs a pair with port 0 to be refused. -/
def CreateLoadBalancerRequest.Reaches (r : CreateLoadBalancerRequest) (want : LbPort) : Prop :=
  (want = {} → ∃ p ∈ r.loadbalancedPorts, p.port = 0) ∧
    (r.Asks want → ∃ pre p post, r.loadbalancedPorts = pre ++ p :: post ∧ p.Is want ∧ ∀ q ∈ pre, q.port ≠ 0)

section Ports

variable {p : GrpcLbPort} {q want : LbPort} {ps : List GrpcLbPort} {qs : List LbPort} {r : CreateLoadBalancerRequest}

theorem fillLbPort_ok (want : LbPort) (h : fillLbPort p = .ok q) :
    (p.port = 0 ↔ q.port = 0) ∧ (p.Is want ↔ q = want) ∧ q ≠ {} := by
  unfold fillLbPort at h
  split at h
  · cases h
  next hle =>
    have hport : p.port.toUInt16.toNat = p.port.toNat := by
      have : p.port.toNat ≤ (0xFFFF : UInt32).toNat := UInt32.le_iff_toNat_le.mp (UInt32.not_lt.mp hle)
      rw [show (0xFFFF : UInt32).toNat = 65535 from rfl] at this
      rw [UInt32.toNat_toUInt16]
      omega
    have hzero : p.port = 0 ↔ p.port.toUInt16 = 0 := by
      rw [← UInt32.toNat_inj, ← UInt16.toNat_inj, hport]
      rfl
    have his : ∀ {proto : UInt8}, p.protocol.number = proto.toNat →
        (p.Is want ↔ (⟨proto, p.port.toUInt16⟩ : LbPort) = want) := by
      intro proto hproto
      obtain ⟨wproto, wport⟩ := want
      rw [GrpcLbPort.Is, LbPort.mk.injEq, ← hport, UInt16.toNat_inj, hproto, UInt8.toNat_inj]
      exact And.comm
    split at h
    next hproto =>
      cases h
      exact ⟨hzero, his (by rw [hproto]; rfl), fun h => by cases congrArg LbPort.protocol h⟩
    next hproto =>
      cases h
      exact ⟨hzero, his (by rw [hproto]; rfl), fun h => by cases congrArg LbPort.protocol h⟩
    · cases h

/-- Where the first loop of `dp_lb_rr_backend` accepts a flow, for a list that leaves room at the end of the array. -/
theorem lbPortServed_iff (n : ℕ) : lbPortServed want (qs ++ List.replicate (n + 1) ({} : LbPort)) = true ↔
    (∃ pre post, qs = pre ++ want :: post ∧ ∀ q ∈ pre, q.port ≠ 0) ∨ (want = {} ∧ ∀ q ∈ qs, q.port ≠ 0) := by
  induction qs with
  | nil =>
    rw [List.nil_append, List.replicate_succ, lbPortServed]
    by_cases h : ({} : LbPort) = want
    · simp [h]
    · simp [h, Ne.symm h]
  | cons q qs ih =>
    rw [List.cons_append, lbPortServed]
    by_cases hq : q = want
    · subst hq
      simp only [if_true, true_iff]
      exact .inl ⟨[], qs, rfl, by simp⟩
    · rw [if_neg hq]
      by_cases hz : q.port = 0
      · simp only [hz, if_true, Bool.false_eq_true, false_iff, not_or]
        refine ⟨?_, fun h => h.2 q List.mem_cons_self hz⟩
        rintro ⟨pre, post, heq, hpre⟩
        cases pre with
        | nil => exact hq (List.cons.inj heq).1
        | cons a pre =>
          rw [← (List.cons.inj heq).1] at hpre
          exact hpre q List.mem_cons_self hz
      · rw [if_neg hz, ih]
        refine or_congr ⟨?_, ?_⟩ ?_
        · rintro ⟨pre, post, rfl, hpre⟩
          exact ⟨q :: pre, post, rfl, by simpa [hz] using hpre⟩
        · rintro ⟨pre, post, heq, hpre⟩
          cases pre with
          | nil => exact absurd (List.cons.inj heq).1 hq
          | cons a pre =>
            obtain ⟨rfl, rfl⟩ := List.cons.inj heq
            exact ⟨pre, post, rfl, fun x hx => hpre x (List.mem_cons_of_mem _ hx)⟩
        · simp [hz]

/-- The array of a value whose list of ports leaves room. -/
theorem portArray_eq {v : LbValue} (h : v.ports.length < lbMaxPorts) :
    ∃ n, v.portArray = v.ports ++ List.replicate (n + 1) ({} : LbPort) := by
  refine ⟨lbMaxPorts - v.ports.length - 1, List.ext_getElem ?_ fun i hi _ => ?_⟩
  · simp [LbValue.portArray]
    omega
  · simp only [LbValue.portArray, List.length_map, List.length_range] at hi
    simp only [LbValue.portArray, List.getElem_map, List.getElem_range]
    rcases Nat.lt_or_ge i v.ports.length with hlt | hge
    · rw [List.getElem_append_left hlt]
      simp [hlt]
    · rw [List.getElem_append_right hge, List.getElem_replicate]
      simp [hge]

/-- What the API took from the pairs, pair by pair. -/
theorem fillLbPorts_forall (h : fillLbPorts ps = .ok qs) : List.Forall₂ (fun p q => fillLbPort p = .ok q) ps qs := by
  induction ps generalizing qs with
  | nil =>
    cases h
    exact .nil
  | cons p ps ih =>
    rw [fillLbPorts] at h
    split at h
    · cases h
    next q hq =>
      split at h
      · cases h
      next qs' hqs =>
        cases h
        exact .cons hq (ih hqs)

/-- The pairs before a place, on both sides. -/
theorem served_pairs (h : List.Forall₂ (fun p q => fillLbPort p = .ok q) ps qs) :
    (∃ pre post, qs = pre ++ want :: post ∧ ∀ q ∈ pre, q.port ≠ 0) ↔
      ∃ pre p post, ps = pre ++ p :: post ∧ p.Is want ∧ ∀ q ∈ pre, q.port ≠ 0 := by
  induction h with
  | nil => simp
  | @cons p q ps qs hpq _ ih =>
    obtain ⟨hzero, his, -⟩ := fillLbPort_ok want hpq
    constructor
    · rintro ⟨pre, post, heq, hpre⟩
      cases pre with
      | nil => exact ⟨[], p, ps, rfl, his.mpr (List.cons.inj heq).1, by simp⟩
      | cons a pre =>
        obtain ⟨rfl, hqs⟩ := List.cons.inj heq
        obtain ⟨pre', p', post', rfl, hp', hpre'⟩ :=
          ih.mp ⟨pre, post, hqs, fun x hx => hpre x (List.mem_cons_of_mem _ hx)⟩
        have hp : p.port ≠ 0 := fun h => hpre q List.mem_cons_self (hzero.mp h)
        exact ⟨p :: pre', p', post', rfl, hp', by simpa [hp] using hpre'⟩
    · rintro ⟨pre, p', post, heq, hp', hpre⟩
      cases pre with
      | nil =>
        obtain ⟨rfl, -⟩ := List.cons.inj heq
        exact ⟨[], qs, by rw [his.mp hp']; rfl, by simp⟩
      | cons a pre =>
        obtain ⟨rfl, hps⟩ := List.cons.inj heq
        obtain ⟨pre', post', rfl, hpre'⟩ :=
          ih.mpr ⟨pre, p', post, hps, hp', fun x hx => hpre x (List.mem_cons_of_mem _ hx)⟩
        have hq : q.port ≠ 0 := fun h => hpre p List.mem_cons_self (hzero.mpr h)
        exact ⟨q :: pre', post', rfl, by simpa [hq] using hpre'⟩

theorem no_zero_port (h : List.Forall₂ (fun p q => fillLbPort p = .ok q) ps qs) :
    (∀ q ∈ qs, q.port ≠ 0) ↔ ∀ p ∈ ps, p.port ≠ 0 := by
  induction h with
  | nil => simp
  | cons hpq _ ih =>
    have hzero := (fillLbPort_ok {} hpq).1
    simp only [List.forall_mem_cons, ih, ne_eq, hzero]

/-- No pair of an accepted request is the flow of no protocol. -/
theorem not_asks_empty (h : List.Forall₂ (fun p q => fillLbPort p = .ok q) ps qs) (hp : p ∈ ps) : ¬p.Is {} := by
  induction h with
  | nil => cases hp
  | cons hpq _ ih =>
    obtain ⟨-, his, hne⟩ := fillLbPort_ok {} hpq
    rcases List.mem_cons.mp hp with rfl | hp
    · exact fun h => hne (his.mp h)
    · exact ih hp

/-- **Which flows the port filter treats as the request says.** -/
theorem lbPortServed_asks {v : LbValue} {id : Id64} {addr : IpAddr}
    (hr : r.fillRequest = .ok (.createLb id r.vni addr v.ports)) :
    (lbPortServed want v.portArray = true ↔ r.Asks want) ↔ r.Reaches want := by
  obtain ⟨hlen, hports⟩ : r.loadbalancedPorts.length < lbMaxPorts ∧ fillLbPorts r.loadbalancedPorts = .ok v.ports := by
    unfold CreateLoadBalancerRequest.fillRequest at hr
    split at hr
    · cases hr
    · split at hr
      · cases hr
      · split at hr
        · cases hr
        next hlen =>
          split at hr
          · cases hr
          next hports =>
            cases hr
            exact ⟨not_le.mp hlen, hports⟩
  have hall := fillLbPorts_forall hports
  obtain ⟨n, harr⟩ := portArray_eq (v := v) (hall.length_eq ▸ hlen)
  rw [harr, lbPortServed_iff, served_pairs hall, no_zero_port hall]
  unfold CreateLoadBalancerRequest.Reaches CreateLoadBalancerRequest.Asks
  by_cases hw : want = {}
  · subst hw
    have hnone : ¬∃ p ∈ r.loadbalancedPorts, p.Is {} := fun ⟨p, hp, h⟩ => not_asks_empty hall hp h
    have hsplit : ¬∃ pre p post, r.loadbalancedPorts = pre ++ p :: post ∧ p.Is {} ∧ ∀ q ∈ pre, q.port ≠ 0 :=
      fun ⟨pre, p, post, heq, h, _⟩ => hnone ⟨p, by simp [heq], h⟩
    simp only [hnone, hsplit, false_or, true_and, iff_false, false_implies, and_true, true_implies]
    push Not
    rfl
  · simp only [hw, false_and, or_false, false_implies, true_and]
    constructor
    · exact fun h => h.mpr
    · refine fun h => ⟨?_, h⟩
      rintro ⟨pre, p, post, heq, hp, -⟩
      exact ⟨p, by simp [heq], hp⟩

end Ports

/-! ## Runs -/

/-- The control plane with the targets of each load balancer and the ports it was asked for. -/
structure LbRun extends TargetState where
  ports : Id64 → List LbPort := fun _ => []

/-- Keep account of the ports, by what the requests answer. -/
def trackPorts (S : Id64 → List LbPort) (r : Request) (resp : Resp) : Id64 → List LbPort :=
  match r, resp with
  | .createLb id _ _ ports, .ulAddr _ => Function.update S id ports
  | _, _ => S

/-- A request, or a packet that needs a target. -/
inductive LbEvent where
  | request (a : Call)
  | select (key : LbKey) (want : LbPort)

def lbStep (cf : Conf) (s : LbRun) : LbEvent → Option LbRun
  | .request a => (dpProcessRequest cf a.2 s.ctl.cfg s.ctl.lb a.1).map fun o =>
    { ctl := { cfg := o.cfg, lb := o.lb }
      targets := trackTargets s.targets a.1 o.resp
      ports := trackPorts s.ports a.1 o.resp }
  | .select key want => (dpLbGetBackendIp s.ctl.lb key.ip want.port want.protocol key.vni).map fun r =>
    { s with ctl := { s.ctl with lb := r.2 } }

def LbEvent.Safe (s : LbRun) : LbEvent → Prop
  | .request a => TargetSafe s.toTargetState a
  | .select .. => True

instance (s : LbRun) : ∀ ev, Decidable (LbEvent.Safe s ev)
  | .request a => inferInstanceAs (Decidable (TargetSafe s.toTargetState a))
  | .select .. => .isTrue trivial

/-- Every load balancer stores its targets and its ports. -/
structure LbRunOk (s : LbRun) : Prop where
  targets : TargetsOk s.toTargetState
  ports : ∀ {id key v}, s.ctl.lb.idMapTbl id = some key → s.ctl.lb.lbTbl key = some (some v) →
    v.ports = s.ports id ∧ v.lastSelPos.toNat < 64

/-- A flow gets a target. -/
def Selects (s : LbState) (key : LbKey) (want : LbPort) : Prop :=
  ∃ ip s', dpLbGetBackendIp s key.ip want.port want.protocol key.vni = some (some ip, s')

section Runs

variable {cf : Conf} {s s' : LbRun} {a : Call} {o : Outcome} {id : Id64} {key : LbKey} {v : LbValue} {want : LbPort}
  {S : Finset Ip6}

/-- The ports of a load balancer come with it and stay. -/
theorem LbRunOk.createLb {e : Env} (h : LbRunOk s) {vni : Vni} {addr : IpAddr} {ports : List LbPort}
    (hc : CreateLbCase cf e s.ctl.cfg s.ctl.lb id vni addr ports (o.resp, o.cfg, o.lb)) {i : Id64} {k : LbKey}
    {w : LbValue} (hi : o.lb.idMapTbl i = some k) (hk : o.lb.lbTbl k = some (some w)) :
    w.ports = trackPorts s.ports (.createLb id vni addr ports) o.resp i ∧ w.lastSelPos.toNat < 64 := by
  cases hc with
  | noVnf _ hresp _ hlb | refused _ _ hresp _ hlb =>
    rw [show o.resp = _ from hresp]
    rw [show o.lb = _ from hlb] at hi hk
    exact h.ports hi hk
  | dead _ _ _ hresp _ hlb =>
    rw [show o.resp = _ from hresp]
    rw [show o.lb = _ from hlb] at hi hk
    rcases Table.add_eq_some.mp hk with ⟨-, hw⟩ | ⟨-, hw⟩
    · cases hw
    · exact h.ports hi hw
  | noVni _ _ _ _ hresp _ hlb =>
    rw [show o.resp = _ from hresp]
    rw [show o.lb = _ from hlb] at hi hk
    exact h.ports (Table.del_eq_some.mp hi).2 hk
  | created _ hacc _ _ hresp _ hlb =>
    rw [show o.resp = _ from hresp]
    rw [show o.lb = _ from hlb] at hi hk
    show w.ports = Function.update s.ports id ports i ∧ _
    rcases Table.add_eq_some.mp hi with ⟨rfl, rfl⟩ | ⟨hne, hi'⟩
    · rw [show LbState.lbTbl _ _ = _ from Table.add_self ..] at hk
      cases hk
      rw [Function.update_self]
      exact ⟨rfl, show (0 : UInt16).toNat < 64 by decide⟩
    · rw [Function.update_of_ne hne]
      rcases Table.add_eq_some.mp hk with ⟨rfl, -⟩ | ⟨-, hw⟩
      · exact (h.targets.ids.ne_of_free (lbAccepts_free hacc) hi').elim
      · exact h.ports hi' hw

theorem LbRunOk.request (h : LbRunOk s) (hs : TargetSafe s.toTargetState a)
    (hstep : lbStep cf s (.request a) = some s') : LbRunOk s' := by
  obtain ⟨o, ho, rfl⟩ := Option.map_eq_some_iff.mp hstep
  refine ⟨h.targets.step hs (by rw [targetStep, ho]; rfl), fun {i k w} hi hk => ?_⟩
  obtain ⟨r, e⟩ := a
  dsimp only at ho hi hk ⊢
  cases dpProcessRequest_lb ho with
  | create hc => exact h.createLb hc hi hk
  | delete _ _ _ hlb =>
    rw [hlb] at hi hk
    exact h.ports (Table.del_eq_some.mp hi).2 (Table.del_eq_some.mp hk).2
  | same hr hlb =>
    rw [hlb] at hi hk
    have htrack : trackPorts s.ports r o.resp = s.ports := by
      unfold trackPorts
      split
      · exact absurd rfl (hr _ _ _ _)
      · rfl
    rw [htrack]
    exact h.ports hi hk
  | targets hr _ ht =>
    have htrack : trackPorts s.ports r o.resp = s.ports := by
      rcases hr with ⟨addr, rfl⟩ | ⟨addr, rfl⟩ <;> rfl
    rw [htrack]
    rw [ht.eq] at hi hk
    rcases Table.add_eq_some.mp hk with ⟨rfl, hw⟩ | ⟨-, hw⟩
    · cases hw
      rw [ht.ports, ht.lastSel]
      exact h.ports hi ht.val
    · exact h.ports hi hw

/-- A choice changes nothing but the last position. -/
theorem Stores.lastSel (h : Stores v S) (p : UInt16) : Stores { v with lastSelPos := p } S :=
  ⟨h.mem, h.free, h.inj, h.cnt⟩

theorem LbRunOk.select (h : LbRunOk s) (hstep : lbStep cf s (.select key want) = some s') : LbRunOk s' := by
  obtain ⟨r, hr, rfl⟩ := Option.map_eq_some_iff.mp hstep
  rw [dpLbGetBackendIp_slot] at hr
  obtain ⟨⟨o, t⟩, ht, rfl⟩ := Option.map_eq_some_iff.mp hr
  unfold dpLbGetBackendSlot at ht
  split at ht
  · cases ht
    exact h
  · cases ht
  next v hv =>
    split at ht
    · cases ht
      exact h
    next k hk =>
      cases ht
      have hlive : ∀ {i j w}, s.ctl.lb.idMapTbl i = some j →
          (s.ctl.lb.setValue key { v with lastSelPos := UInt16.ofNat k }).lbTbl j = some (some w) →
          Stores w (s.targets i) ∧ w.ports = s.ports i ∧ w.lastSelPos.toNat < 64 := by
        intro i j w hi hj
        rcases Table.add_eq_some.mp hj with ⟨rfl, hw⟩ | ⟨-, hw⟩
        · cases hw
          have hlt := k.isLt
          refine ⟨(h.targets.stores hi hv).lastSel _, (h.ports hi hv).1, ?_⟩
          simp only [UInt16.toNat_ofNat']
          omega
        · exact ⟨h.targets.stores hi hw, h.ports hi hw⟩
      refine ⟨⟨⟨fun {i j} hi => ?_, h.targets.ids.inj⟩, fun hi hj => (hlive hi hj).1⟩, fun hi hj => (hlive hi hj).2⟩
      by_cases hj : j = key
      · exact ⟨_, by rw [hj]; exact setValue_self ..⟩
      · obtain ⟨w, hw⟩ := h.targets.ids.live hi
        exact ⟨w, (Table.add_of_ne hj ..).trans hw⟩

theorem lbRunOk_run {es : List LbEvent} (hok : Along (lbStep cf) LbEvent.Safe { ctl := Ctl.init cf } es)
    (hrun : run (lbStep cf) { ctl := Ctl.init cf } es = some s) : LbRunOk s := by
  refine run_invariant (I := LbRunOk) (fun s ev s' h hs hstep => ?_) ?_ hok hrun
  · cases ev with
    | request a => exact h.request hs hstep
    | select key want => exact h.select hstep
  · exact ⟨⟨.empty, fun h => (by cases h)⟩, fun h => (by cases h)⟩

/-- A load balancer with targets chooses one for every flow its port filter accepts. -/
theorem selects_iff {t : LbState} (hv : t.lbTbl key = some (some v)) (hc : v.Counted) :
    Selects t key want ↔ lbPortServed want v.portArray = true := by
  unfold Selects
  rw [dpLbGetBackendIp_slot]
  rcases dpLbGetBackendSlot_cases hv hc want with ⟨hs, heq⟩ | ⟨k, l, hs, -, heq⟩
  · simp [heq, hs]
  · simp [heq, hs]

theorem Stores.counted (h : Stores v S) (hS : S.Nonempty) (hpos : v.lastSelPos.toNat < 64) : v.Counted where
  pos := hpos
  cnt := h.cnt.trans h.card_eq
  one := by
    have hcard := hS.card_pos
    rw [h.card_eq] at hcard
    exact hcard

/-- **The port filter of a load balancer.** In every run whose requests are `TargetSafe`, a load balancer with at least
one target that was created by the request `r` chooses a target for exactly the flows that `r` asks for, if and only if
`r` reaches the flow. -/
theorem lb_port_filter {es : List LbEvent} (hok : Along (lbStep cf) LbEvent.Safe { ctl := Ctl.init cf } es)
    (hrun : run (lbStep cf) { ctl := Ctl.init cf } es = some s) {r : CreateLoadBalancerRequest} {addr : IpAddr}
    (hr : r.fillRequest = .ok (.createLb id r.vni addr (s.ports id))) (hid : s.ctl.lb.idMapTbl id = some key)
    (htgt : (s.targets id).Nonempty) (want : LbPort) :
    (Selects s.ctl.lb key want ↔ r.Asks want) ↔ r.Reaches want := by
  have h := lbRunOk_run hok hrun
  obtain ⟨v, hv⟩ := h.targets.ids.live hid
  obtain ⟨hports, hpos⟩ := h.ports hid hv
  rw [selects_iff hv ((h.targets.stores hid hv).counted htgt hpos)]
  rw [← hports] at hr
  exact lbPortServed_asks hr

end Runs

/-- A load balancer for TCP port 80, and one that also has port 0 in front of it. -/
def webRequest (pairs : List GrpcLbPort) : CreateLoadBalancerRequest where
  loadbalancerId := some 1
  vni := 100
  loadbalancedIp := some (.v4 0x0a000005)
  loadbalancedPorts := pairs

/-- It is created and gets a target. -/
def webEvents (ports : List LbPort) : List LbEvent :=
  (calls [.createLb 1 100 (.v4 0x0a000005) ports,
    .createLbtarget 1 (.v6 0xfc000000000000000000000000000001)]).map .request

theorem lb_port_filter_web :
    ∃ s, run (lbStep smallConf) { ctl := Ctl.init smallConf } (webEvents [⟨ipprotoTcp, 80⟩]) = some s ∧
    ((Selects s.ctl.lb ⟨100, .v4 0x0a000005⟩ ⟨ipprotoTcp, 80⟩ ↔ (webRequest [⟨80, .tcp⟩]).Asks ⟨ipprotoTcp, 80⟩) ↔
      (webRequest [⟨80, .tcp⟩]).Reaches ⟨ipprotoTcp, 80⟩) := by
  refine exists_some_imp (P := fun s => s.ports 1 = [⟨ipprotoTcp, 80⟩] ∧
    s.ctl.lb.idMapTbl 1 = some ⟨100, .v4 0x0a000005⟩ ∧ s.targets 1 = {0xfc000000000000000000000000000001})
      (by decide +kernel) ?_
  rintro s hs ⟨hports, hid, htgt⟩
  have hr : (webRequest [⟨80, .tcp⟩]).fillRequest = .ok (.createLb 1 100 (.v4 0x0a000005) (s.ports 1)) := by
    rw [hports]
    rfl
  exact lb_port_filter (by decide +kernel) hs hr hid (by rw [htgt]; exact Finset.singleton_nonempty _) _

/-- TCP port 80 is requested, but not served: port 0 stands before it. -/
theorem lb_port_filter_zero :
    (webRequest [⟨0, .tcp⟩, ⟨80, .tcp⟩]).fillRequest =
        .ok (.createLb 1 100 (.v4 0x0a000005) [⟨ipprotoTcp, 0⟩, ⟨ipprotoTcp, 80⟩]) ∧
      (webRequest [⟨0, .tcp⟩, ⟨80, .tcp⟩]).Asks ⟨ipprotoTcp, 80⟩ ∧
      ∃ s, run (lbStep smallConf) { ctl := Ctl.init smallConf } (webEvents [⟨ipprotoTcp, 0⟩, ⟨ipprotoTcp, 80⟩]) =
      some s ∧ s.targets 1 = {0xfc000000000000000000000000000001} ∧
        ¬Selects s.ctl.lb ⟨100, .v4 0x0a000005⟩ ⟨ipprotoTcp, 80⟩ := by
  refine ⟨rfl, ⟨⟨80, .tcp⟩, by decide, by decide⟩, ?_⟩
  refine exists_some_imp (P := fun s => s.targets 1 = {0xfc000000000000000000000000000001} ∧
    (dpLbGetBackendIp s.ctl.lb (.v4 0x0a000005) 80 ipprotoTcp 100).map Prod.fst = some none) (by decide +kernel) ?_
  rintro s - ⟨htgt, hnone⟩
  refine ⟨htgt, ?_⟩
  rintro ⟨ip, s', h⟩
  rw [h] at hnone
  cases hnone

end Dpservice
