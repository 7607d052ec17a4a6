import Dpservice.Flow

/-!
# Connection tracking

`dpCntrackHandle` finds the flow of a packet, or makes one, and notes it in the packet. The last flow is cached; the
key buffer of the current packet becomes the cached key, and the older of the two buffers is used for the next packet.
-/

namespace Dpservice

/-- The next index selects the other buffer, also where the index wraps around. -/
theorem keyCacheAt_succ (i : UInt32) : keyCacheAt (i + 1) ≠ keyCacheAt i := by
  have hsucc : (i + 1).toNat % 2 = (i.toNat + 1) % 2 := by
    rw [UInt32.toNat_add, UInt32.toNat_one]
    omega
  intro h
  have h' : (i + 1).toNat % 2 = i.toNat % 2 := congrArg Fin.val h
  omega

def dpCacheFlowVal (ch : FlowCache) (f : ℕ) : FlowCache where
  keyCache := ch.keyCache
  keyCacheIndex := ch.keyCacheIndex + 1
  prevKey := some ch.currKey
  currKey := keyCacheAt (ch.keyCacheIndex + 1)
  cachedFlowVal := some f
  aligned := rfl
  distinct h := keyCacheAt_succ ch.keyCacheIndex (by rw [← Option.some.inj h, ch.aligned])

/-- The cached key is that of the packet. -/
@[simp] theorem dpCacheFlowVal_prevBuf (ch : FlowCache) (f : ℕ) : (dpCacheFlowVal ch f).prevBuf = ch.currBuf := rfl

def dpCntrackTcpState (s : TcpState) (h : L4Hdr) : TcpState :=
  if h.tcpRst then .rstFin
  else if h.tcpFin then if s = .established then .finwait else .rstFin
  else
    match s with
    | .none | .rstFin => if h.tcpSyn then .newSyn else s
    | .newSyn => if h.tcpSyn && h.tcpAck then .newSynack else s
    | .newSynack => if h.tcpAck then .established else s
    | .established | .finwait => s

def nextOffloadState (s : OffloadState) (otherPf : Bool) : OffloadState :=
  if s = .nonOffload || otherPf then .install else if s = .install then .offloaded else s

/-- `dp_cntrack_change_flow_offload_flags`: a flow may have to be offloaded once for each physical port. -/
def dpCntrackChangeFlowOffloadFlags (cf : Conf) (p : PortId) (fv : FlowValue) (df : DpFlow) : FlowValue :=
  if !cf.offloadEnabled then fv
  else
    let otherPf := cf.isPf p && (if p = cf.pf0 then !fv.pf0Offloaded else !fv.pf1Offloaded)
    match df.flowDir with
    | .org => { fv with offloadOrig := nextOffloadState fv.offloadOrig otherPf }
    | .reply => { fv with offloadReply := nextOffloadState fv.offloadReply otherPf }

/-- `DP_FLOW_TCP_EXTENDED_TIMEOUT`, in seconds. -/
abbrev tcpExtendedTimeout : UInt32 := 86400

def dpCntrackSetTimeoutTcpFlow (cf : Conf) (p : PortId) (fv : FlowValue) (df : DpFlow) : FlowValue :=
  if fv.tcpState = .established then
    dpCntrackChangeFlowOffloadFlags cf p { fv with timeoutValue := tcpExtendedTimeout } df
  else
    let fv := { fv with timeoutValue := cf.flowTimeout }
    if fv.tcpState = .finwait || fv.tcpState = .rstFin then dpCntrackChangeFlowOffloadFlags cf p fv df else fv

/-- The flow value that `flow_table_insert_entry` makes for a key. -/
def newFlowValue (cf : Conf) (c : Config) (key : FlowKey) (df : DpFlow) (p : PortId) : FlowValue where
  org := key
  reply := dpInvertFlowKey key
  timeoutValue := cf.flowTimeout
  createdPortId := p
  -- traffic to a load-balanced prefix of a VM of this service has no reverse direction
  natType := if cf.offloadEnabled && !cf.isPf p && !key.l3Dst.isV6 &&
    dpVnfLbprefixExists c.vnf 0xFFFF key.vni key.l3Dst 32 then .lbLocalNeigh else .none
  offloadOrig := if cf.offloadEnabled && df.l4Type != ipprotoTcp then .install else .nonOffload

/-- `flow_table_insert_entry`: the flow is entered under its key and under the inverted key, whoever has that one
already. `none` in the first component is failure. -/
def flowTableInsertEntry (cf : Conf) (e : Env) (c : Config) (d : Dataplane) (key : FlowKey) (df : DpFlow) (p : PortId) :
    Option ℕ × Dataplane :=
  if !e.ok .flowAlloc || !e.ok .flowAddOrg then (none, d)
  else if !e.ok .flowAddInv then (none, dpDeleteFlow d key)
  else
    let fv := newFlowValue cf c key df p
    let f := d.nextFlow
    let d := { d with flows := d.flows.add f fv, nextFlow := f + 1 }
    (some f, dpAddFlow (dpAddFlow d key f) fv.reply f)

def dpSetPktFlowDirection (key : FlowKey) (fv : FlowValue) (df : DpFlow) : DpFlow :=
  if key = fv.org then { df with flowDir := .org }
  else if key = fv.reply then { df with flowDir := .reply }
  else df

def dpSetFlowOffloadFlag (cf : Conf) (p : PortId) (fv : FlowValue) (df : DpFlow) : FlowValue :=
  if fv.natType = .networkNeigh || fv.natType = .lbForward || fv.natType = .lbLocalNeigh then
    dpCntrackChangeFlowOffloadFlags cf p fv df
  else if df.vnfType = .lb then fv
  else if df.l4Type ≠ ipprotoTcp then dpCntrackChangeFlowOffloadFlags cf p fv df
  else fv

/-- A flow that is in the table already: the direction of the packet and the offload state of the flow. -/
def dpKnownFlow (cf : Conf) (d : Dataplane) (key : FlowKey) (f : ℕ) (df : DpFlow) (p : PortId) :
    Option (Dataplane × DpFlow) :=
  match d.flows f with
  | none => none
  | some fv =>
    let df := dpSetPktFlowDirection key fv df
    some (d.setFlow f (dpSetFlowOffloadFlag cf p fv df), df)

/-- `dp_get_flow_val`: the flow of a packet (`none` inside on failure), the new state and the packet's private data. -/
def dpGetFlowVal (cf : Conf) (e : Env) (c : Config) (d : Dataplane) (m : Mbuf) :
    Option (Option ℕ × Dataplane × DpFlow) :=
  let b := dpBuildFlowKey cf c d.cache.currBuf m
  let key := b.2
  let d := { d with cache := d.cache.setCurr key }
  if !b.1 then some (none, d, m.df)
  else if d.cache.prevValid && key == d.cache.prevBuf then
    match d.cache.cachedFlowVal with
    | none => none
    | some f => (dpKnownFlow cf d key f m.df m.port).map fun r => (some f, r.1, r.2)
  else
    match d.flowTbl key with
    | some f =>
      (dpKnownFlow cf d key f m.df m.port).map fun r =>
        (some f, { r.1 with cache := dpCacheFlowVal r.1.cache f }, r.2)
    | none =>
      match flowTableInsertEntry cf e c d key m.df m.port with
      | (none, d) => some (none, d, m.df)
      | (some f, d) => some (some f, { d with cache := dpCacheFlowVal d.cache f }, { m.df with flowDir := .org })

/-- The flow value after a packet: its time, and for TCP its state and timeout. -/
def trackFlow (cf : Conf) (e : Env) (m : Mbuf) (df : DpFlow) (fv : FlowValue) : FlowValue :=
  let fv := { fv with timestamp := e.now }
  if df.l4Type = ipprotoTcp && df.vnfType ≠ .lb then
    dpCntrackSetTimeoutTcpFlow cf m.port { fv with tcpState := dpCntrackTcpState fv.tcpState m.l4 } df
  else fv

/-- `dp_cntrack_handle`: `false` is failure. -/
def dpCntrackHandle (cf : Conf) (e : Env) (c : Config) (d : Dataplane) (m : Mbuf) : Option (Bool × Dataplane × Mbuf) :=
  match dpGetFlowVal cf e c d m with
  | none => none
  | some (none, d, df) => some (false, d, { m with df := df })
  | some (some f, d, df) =>
    match d.flows f with
    | none => none
    | some fv =>
      let fv := trackFlow cf e m df fv
      let off := if df.flowDir = .org then fv.offloadOrig else fv.offloadReply
      some (true, d.setFlow f fv, { m with df := { df with conntrack := some f, offloadState := off } })

/-! ## TCP -/

def FlowValue.tcp (fv : FlowValue) : TcpState × UInt32 := (fv.tcpState, fv.timeoutValue)

/-- They change with the TCP packets that do not come through a load balancer. -/
def tracksTcp (df : DpFlow) : Bool := df.l4Type == ipprotoTcp && df.vnfType != .lb

def tcpTimeout (cf : Conf) (s : TcpState) : UInt32 := if s = .established then tcpExtendedTimeout else cf.flowTimeout

def tcpAfter (cf : Conf) (df : DpFlow) (h : L4Hdr) (t : TcpState × UInt32) : TcpState × UInt32 :=
  if tracksTcp df then (dpCntrackTcpState t.1 h, tcpTimeout cf (dpCntrackTcpState t.1 h)) else t

section Tcp

variable {cf : Conf} {e : Env} {c : Config} {p : PortId} {fv : FlowValue} {df : DpFlow} {m : Mbuf}

theorem dpCntrackChangeFlowOffloadFlags_tcp : (dpCntrackChangeFlowOffloadFlags cf p fv df).tcp = fv.tcp := by
  unfold dpCntrackChangeFlowOffloadFlags
  split
  · rfl
  · dsimp only
    split <;> rfl

theorem dpSetFlowOffloadFlag_tcp : (dpSetFlowOffloadFlag cf p fv df).tcp = fv.tcp := by
  unfold dpSetFlowOffloadFlag
  split
  · exact dpCntrackChangeFlowOffloadFlags_tcp
  · split
    · rfl
    · split
      · exact dpCntrackChangeFlowOffloadFlags_tcp
      · rfl

/-- A packet changes TCP state and timeout as `tcpAfter` says. -/
theorem trackFlow_tcp : (trackFlow cf e m df fv).tcp = tcpAfter cf df m.l4 fv.tcp := by
  have htracks : (df.l4Type = ipprotoTcp && df.vnfType ≠ .lb) = tracksTcp df := by
    simp [tracksTcp, bne, beq_eq_decide]
  unfold trackFlow tcpAfter
  rw [htracks]
  split
  · unfold dpCntrackSetTimeoutTcpFlow
    dsimp only
    split
    next hest =>
      have htime : tcpTimeout cf (dpCntrackTcpState fv.tcpState m.l4) = tcpExtendedTimeout := if_pos hest
      exact dpCntrackChangeFlowOffloadFlags_tcp.trans (Prod.ext rfl htime.symm)
    next hest =>
      have htime : tcpTimeout cf (dpCntrackTcpState fv.tcpState m.l4) = cf.flowTimeout := if_neg hest
      split
      · exact dpCntrackChangeFlowOffloadFlags_tcp.trans (Prod.ext rfl htime.symm)
      · exact Prod.ext rfl htime.symm
  · rfl

end Tcp

/-! ## What tracking leaves alone -/

/-- A flow value without its times, its TCP state and its offload states. -/
def FlowValue.core (fv : FlowValue) : FlowValue :=
  { fv with
    timestamp := 0, timeoutValue := 0, tcpState := .none, offloadOrig := .nonOffload, offloadReply := .nonOffload }

section Core

variable {cf : Conf} {p : PortId} {fv : FlowValue} {df : DpFlow}

@[simp] theorem dpCntrackChangeFlowOffloadFlags_core : (dpCntrackChangeFlowOffloadFlags cf p fv df).core = fv.core := by
  unfold dpCntrackChangeFlowOffloadFlags
  split
  · rfl
  · dsimp only
    split <;> rfl

@[simp] theorem dpSetFlowOffloadFlag_core : (dpSetFlowOffloadFlag cf p fv df).core = fv.core := by
  unfold dpSetFlowOffloadFlag
  split
  · simp
  · split
    · rfl
    · split <;> simp

/-- Tracking changes only times, TCP state and offload states. -/
@[simp] theorem trackFlow_core {e : Env} {m : Mbuf} : (trackFlow cf e m df fv).core = fv.core := by
  unfold trackFlow dpCntrackSetTimeoutTcpFlow
  dsimp only
  split
  · split
    · rw [dpCntrackChangeFlowOffloadFlags_core]
      rfl
    · split
      · rw [dpCntrackChangeFlowOffloadFlags_core]
        rfl
      · rfl
  · rfl

end Core

end Dpservice
