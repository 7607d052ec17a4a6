import Dpservice.Lib.Run
import Dpservice.Nodes

/-!
# The service

One worker thread walks the graph. The packets of a burst are interleaved node by node, so the state holds the packets
in flight with the node each one waits at, and any of them may move next. Requests and timers are handled at the
source of the graph, before a packet has passed its first node: they run when no packet is in flight.
-/

namespace Dpservice

structure Service where
  cfg : Config
  dpl : Dataplane := {}
  inflight : List (Node × Mbuf) := []

def Service.init (cf : Conf) : Service := { cfg := Config.init cf }

/-- What can happen. Passes over the flow table come with the order in which the table is iterated. -/
inductive Event where
  /-- A packet is received. -/
  | rx (m : Mbuf)
  /-- The `i`-th packet in flight is processed by its node. -/
  | walk (i : ℕ) (e : Env)
  /-- A request is handled. -/
  | request (r : Request) (e : Env) (order : List FlowKey)
  /-- The aging timer fires; the hardware reports `ctxs` as aged. -/
  | flowAging (e : Env) (ctxs : List ℕ) (order : List FlowKey)

/-- The packets that reach one of these nodes leave the model. -/
def Node.leaves : Node → Bool
  | .arp | .ipv6Nd | .dhcp | .dhcpv6 | .drop => true
  | _ => false

def runNode (cf : Conf) (e : Env) (c : Config) (d : Dataplane) (m : Mbuf) : Node → NodeRet
  | .cls => clsNode cf d m
  | .ipipDecap => ipipDecapNode cf c d m
  | .conntrack => conntrackNode cf e c d m
  | .lb => lbNode c d m
  | .dnat => dnatNode e c d m
  | .packetRelay => packetRelayNode d m
  | .ipv4Lookup => ipv4LookupNode cf e c d m
  | .ipv6Lookup => ipv6LookupNode cf e c d m
  | .snat => snatNode cf e c d m
  | .firewall => firewallNode cf d m
  | .ipipEncap => ipipEncapNode cf c d m
  | .tx => (txNode cf e c d m).map fun d => (d, m, .drop)
  | .arp | .ipv6Nd | .dhcp | .dhcpv6 | .drop => none

def dpProcessFlowAging (cf : Conf) (e : Env) (d : Dataplane) (ctxs : List ℕ) (order : List FlowKey) :
    Option Dataplane :=
  let r := if cf.offloadEnabled then dpProcessAgedFlows d ctxs else some d
  match r with
  | none => none
  | some d => dpProcessAgedFlowsNonOffload cf e d order

/-- One step of the service; `none` where the event cannot happen or the program has no defined behaviour. -/
def step (cf : Conf) (s : Service) : Event → Option Service
  | .rx m =>
    -- the `rx` node of a port reads nothing while the port is not started
    if (s.cfg.port m.port).allocated then
      some { s with inflight := s.inflight ++ [(.cls, { m with isRecirc := false })] }
    else none
  | .walk i e =>
    match s.inflight[i]? with
    | none => none
    | some (n, m) =>
      match runNode cf e s.cfg s.dpl m n with
      | none => none
      | some (d, m, n) =>
        let fl := if n.leaves then s.inflight.eraseIdx i else s.inflight.set i (n, m)
        some { s with dpl := d, inflight := fl }
  | .request r e order =>
    if !s.inflight.isEmpty then none
    else
      match dpProcessRequest cf e s.cfg s.dpl.lb r with
      | none => none
      | some o =>
        match o.removals.foldlM (fun d r => dpRemoveFlows cf r d order) { s.dpl with lb := o.lb } with
        | none => none
        | some d => some { s with cfg := o.cfg, dpl := d }
  | .flowAging e ctxs order =>
    if !s.inflight.isEmpty then none
    else
      match dpProcessFlowAging cf e s.dpl ctxs order with
      | none => none
      | some d => some { s with dpl := d }

inductive StepCase (cf : Conf) (s : Service) : Event → Service → Prop
  | rx (m : Mbuf) (ready : (s.cfg.port m.port).allocated = true) :
      StepCase cf s (.rx m) { s with inflight := s.inflight ++ [(.cls, { m with isRecirc := false })] }
  | walk {i : ℕ} {e : Env} {n n' : Node} {m m' : Mbuf} {d : Dataplane} (hi : s.inflight[i]? = some (n, m))
      (hr : runNode cf e s.cfg s.dpl m n = some (d, m', n')) : StepCase cf s (.walk i e) { s with
        dpl := d, inflight := if n'.leaves then s.inflight.eraseIdx i else s.inflight.set i (n', m') }
  | request {r : Request} {e : Env} {order : List FlowKey} {o : Outcome} {d : Dataplane} (idle : s.inflight = [])
      (ho : dpProcessRequest cf e s.cfg s.dpl.lb r = some o)
      (hd : o.removals.foldlM (fun d r => dpRemoveFlows cf r d order) { s.dpl with lb := o.lb } = some d) :
      StepCase cf s (.request r e order) { s with cfg := o.cfg, dpl := d }
  | flowAging {e : Env} {ctxs : List ℕ} {order : List FlowKey} {d : Dataplane} (idle : s.inflight = [])
      (hd : dpProcessFlowAging cf e s.dpl ctxs order = some d) :
      StepCase cf s (.flowAging e ctxs order) { s with dpl := d }

theorem step_cases {cf : Conf} {s s' : Service} {ev : Event} (h : step cf s ev = some s') : StepCase cf s ev s' := by
  cases ev with
  | rx m =>
    simp only [step] at h
    split at h
    next ready =>
      cases h
      exact .rx m ready
    · cases h
  | walk i e =>
    simp only [step] at h
    split at h
    · cases h
    next hi =>
      split at h
      · cases h
      next hr =>
        cases h
        exact .walk hi hr
  | request r e order =>
    simp only [step] at h
    split at h
    · cases h
    next hempty =>
      split at h
      · cases h
      next ho =>
        split at h <;> cases h
        next hd => exact .request (by simpa using hempty) ho hd
  | flowAging e ctxs order =>
    simp only [step] at h
    split at h
    · cases h
    next hempty =>
      split at h <;> cases h
      next hd => exact .flowAging (by simpa using hempty) hd

/-- The packets in flight after a node has worked on one. -/
theorem mem_inflight_walk {fl : List (Node × Mbuf)} {i : ℕ} {n' : Node} {m' : Mbuf} {q : Node × Mbuf}
    (h : q ∈ if n'.leaves then fl.eraseIdx i else fl.set i (n', m')) : q ∈ fl ∨ n'.leaves = false ∧ q = (n', m') := by
  split at h
  · exact .inl (List.mem_of_mem_eraseIdx h)
  next hl => exact (List.mem_or_eq_of_mem_set h).imp_right fun h => ⟨Bool.eq_false_iff.mpr hl, h⟩

/-! ## Runs of single packets -/

/-- A packet is received and passes `k` nodes before anything else happens. -/
def passes (m : Mbuf) (k : ℕ) : List Event := .rx m :: List.replicate k (.walk 0 {})

/-- A request, handled without failures while the flow table is empty. -/
def requests (rs : List Request) : List Event := rs.map fun r => .request r {} []

/-- Two physical and two virtual functions, without offloading. -/
def smallConf : Conf where
  pf0 := 0
  pf1 := 1
  portList := [0, 1, 2, 3]
  portByName n := if n = 2 then some 2 else if n = 3 then some 3 else none
  underlayIp := 1
  nicMellanox := false
  offloadEnabled := false
  conntrackEnabled := true
  flowTimeout := 30
  timerHz := 1
  portmapHash _ := 0

/-- Two physical and two virtual functions, with offloading. -/
def offloadConf : Conf := { smallConf with offloadEnabled := true }

/-- Interface 7 on port 2: 10.0.0.1 and an IPv6 address in VNI 100, with default routes for both families. -/
def smallSetup : List Request :=
  [.createInterface 2 7 100 0x0a000001 0xfd00 0 0, .createRoute 100 (.v4 0) 0 100 (.v6 5),
    .createRoute 100 (.v6 0) 0 100 (.v6 5)]

/-- Interface 7 also has the NAT address 1.2.3.4 with ten ports. -/
def natSetup : List Request := smallSetup ++ [.createNat 7 (.v4 0x01020304) 100 110]

/-- A TCP packet from interface 7 to 8.8.8.8. -/
def tcpPacket : Mbuf :=
  { port := 2, l3 := .ipv4 0x0a000001 0x08080808 ipprotoTcp, l4 := { srcPort := 1000, dstPort := 80, tcpSyn := true } }

/-- An echo request from interface 7 to 8.8.8.8. -/
def ping (ident : UInt16) : Mbuf :=
  { port := 2, l3 := .ipv4 0x0a000001 0x08080808 ipprotoIcmp,
    l4 := { icmpType := icmpEchoRequest, icmpIdent := ident } }

/-- An echo request from interface 7 to 64:ff9b::808:808. -/
def nat64Ping (ident : UInt16) : Mbuf where
  port := 2
  l3 := .ipv6 0xfd00 0x0064ff9b000000000000000008080808 ipprotoIcmpv6
  l4 := { icmpType := icmpv6EchoRequest, icmpIdent := ident }

end Dpservice
