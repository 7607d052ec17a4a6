import Dpservice.NatPort
import Dpservice.Lb
import Dpservice.Grpc

/-!
# The flow table

Flow values and age contexts are heap objects: a number stands for a pointer, and following a pointer to an object
that was freed has no result (`none`). A flow is released when its reference count reaches zero; the table holds one
reference, each hardware rule another.

The passes over the table take the order in which `rte_hash_iterate` visits the entries as an argument; an entry that
was deleted before its turn is not visited.
-/

namespace Dpservice

/-- `struct flow_age_ctx`: what the hardware rule of a flow refers to. -/
structure AgeCtx where
  cntrack : Option ℕ := none
  rteFlow : Bool := false
  refIndex : ℕ := 0
  portId : PortId := 0
  handle : Bool := false
  deriving DecidableEq, Repr

/-- The buffer that an index of the key cache selects. -/
def keyCacheAt (i : UInt32) : Fin 2 := Fin.ofNat 2 i.toNat

/-- The buffer that is written first. -/
def keyCacheFirst : Fin 2 := 0

theorem keyCacheFirst_eq : keyCacheFirst = keyCacheAt 0 := rfl

theorem none_ne_some_first : none ≠ some keyCacheFirst := (Option.some_ne_none _).symm

/-- The one-entry cache of the last flow. It has two key buffers: `curr_key` is written for every packet, `prev_key` has
the key of the cached flow or is `NULL`. -/
structure FlowCache where
  keyCache : Fin 2 → FlowKey := fun _ => {}
  keyCacheIndex : UInt32 := 0
  prevKey : Option (Fin 2) := none
  currKey : Fin 2 := keyCacheFirst
  cachedFlowVal : Option ℕ := none
  /-- The index selects `curr_key`, which is never the buffer of `prev_key`. -/
  aligned : currKey = keyCacheAt keyCacheIndex := by exact keyCacheFirst_eq
  distinct : prevKey ≠ some currKey := by exact none_ne_some_first

namespace FlowCache

def currBuf (ch : FlowCache) : FlowKey := ch.keyCache ch.currKey

/-- `prev_key` is not `NULL`. -/
def prevValid (ch : FlowCache) : Bool := ch.prevKey.isSome

def prevBuf (ch : FlowCache) : FlowKey := ch.keyCache (ch.prevKey.getD ch.currKey)

/-- A key is built in the buffer of the current packet. -/
def setCurr (ch : FlowCache) (k : FlowKey) : FlowCache :=
  { ch with keyCache := Function.update ch.keyCache ch.currKey k }

def flush (ch : FlowCache) : FlowCache := { ch with prevKey := none, cachedFlowVal := none, distinct := by simp }

variable {ch : FlowCache} {k : FlowKey}

@[simp] theorem setCurr_prevValid : (ch.setCurr k).prevValid = ch.prevValid := rfl

@[simp] theorem setCurr_cachedFlowVal : (ch.setCurr k).cachedFlowVal = ch.cachedFlowVal := rfl

/-- The key that is written is the current one. -/
@[simp] theorem setCurr_currBuf : (ch.setCurr k).currBuf = k := Function.update_self ..

/-- The key of the cached flow is not in the buffer that is written. -/
theorem setCurr_prevBuf (h : ch.prevValid = true) : (ch.setCurr k).prevBuf = ch.prevBuf := by
  obtain ⟨i, hi⟩ := Option.isSome_iff_exists.mp h
  have hne : i ≠ ch.currKey := fun heq => ch.distinct (heq ▸ hi)
  simp [setCurr, prevBuf, hi, hne]

/-- Writing the key of a packet does not change whether a key is the one of the cached flow. -/
@[simp] theorem setCurr_hit (k' : FlowKey) :
    (ch.prevValid && k' == (ch.setCurr k).prevBuf) = (ch.prevValid && k' == ch.prevBuf) := by
  cases h : ch.prevValid with
  | false => rfl
  | true => rw [setCurr_prevBuf h]

end FlowCache

/-- The state that packets change. -/
structure Dataplane where
  flowTbl : Table FlowKey ℕ := Table.empty
  flows : Table ℕ FlowValue := Table.empty
  nextFlow : ℕ := 0
  ageCtxs : Table ℕ AgeCtx := Table.empty
  nextCtx : ℕ := 0
  ports : NatPorts := {}
  cache : FlowCache := {}
  lb : LbState := {}
  /-- History, read by no function: the flows whose reply key the relaying code removed. -/
  relayed : ℕ → Bool := fun _ => false

def Dataplane.setFlow (d : Dataplane) (f : ℕ) (fv : FlowValue) : Dataplane := { d with flows := d.flows.add f fv }

def Dataplane.setCtx (d : Dataplane) (a : ℕ) (x : AgeCtx) : Dataplane := { d with ageCtxs := d.ageCtxs.add a x }

def dpCntrackFlushCache (d : Dataplane) : Dataplane :=
  { d with cache := d.cache.flush }

def dpDeleteFlow (d : Dataplane) (k : FlowKey) : Dataplane := dpCntrackFlushCache { d with flowTbl := d.flowTbl.del k }

/-- `dp_add_flow`, where it succeeds. -/
def dpAddFlow (d : Dataplane) (k : FlowKey) (f : ℕ) : Dataplane := { d with flowTbl := d.flowTbl.add k f }

/-- The relaying code removes the reply key of a flow. -/
def dpRelayFlow (d : Dataplane) (f : ℕ) (k : FlowKey) : Dataplane :=
  { dpDeleteFlow d k with relayed := Function.update d.relayed f true }

/-! ## Releasing flows -/

def dpFreeNetworkNatPort (n : NatPorts) (fv : FlowValue) : NatPorts :=
  if fv.natType = .networkLocal then dpRemoveNetworkSnatPort n fv else n

def dpFreeFlow (d : Dataplane) (f : ℕ) : Option Dataplane :=
  match d.flows f with
  | none => none
  | some fv =>
    some (dpCntrackFlushCache { d with
      ports := dpFreeNetworkNatPort d.ports fv
      flowTbl := (d.flowTbl.del fv.org).del fv.reply
      flows := d.flows.del f })

def dpRefDec (d : Dataplane) (f : ℕ) : Option Dataplane :=
  match d.flows f with
  | none => none
  | some fv =>
    let d := d.setFlow f { fv with refCount := fv.refCount - 1 }
    if fv.refCount - 1 = 0 then dpFreeFlow d f else some d

/-- `dp_ref_inc`: a zero count stops the service. -/
def dpRefInc (d : Dataplane) (f : ℕ) : Option Dataplane :=
  match d.flows f with
  | none => none
  | some fv => if fv.refCount = 0 then none else some (d.setFlow f { fv with refCount := fv.refCount + 1 })

def dpAgeOutFlow (d : Dataplane) (f : ℕ) : Option Dataplane :=
  match d.flows f with
  | none => none
  | some fv => dpRefDec (d.setFlow f { fv with aged := true }) f

def dpDelRteAgeCtx (fv : FlowValue) (x : AgeCtx) : FlowValue :=
  { fv with rteAgeCtxs := fv.rteAgeCtxs.set x.refIndex none }

/-- `dp_destroy_rte_flow_agectx` on a pointer that is not `NULL`. -/
def dpDestroyRteFlowAgectx (d : Dataplane) (a : ℕ) : Option Dataplane :=
  match d.ageCtxs a with
  | none => none
  | some x =>
    match x.cntrack with
    | none => some { d with ageCtxs := d.ageCtxs.del a }
    | some f =>
      match d.flows f with
      | none => none
      | some fv =>
        (dpRefDec (d.setFlow f (dpDelRteAgeCtx fv x)) f).map fun d => { d with ageCtxs := d.ageCtxs.del a }

/-! ## Aging -/

def dpProcessAgedFlows (d : Dataplane) (ctxs : List ℕ) : Option Dataplane := ctxs.foldlM dpDestroyRteFlowAgectx d

def dpRteFlowRemoveSlot (f : ℕ) (d : Dataplane) (i : ℕ) : Option Dataplane :=
  match d.flows f with
  | none => none
  | some fv =>
    match fv.rteAgeCtxs.getD i none with
    | none => some d
    | some a => dpDestroyRteFlowAgectx d a

def dpRteFlowRemove (d : Dataplane) (f : ℕ) : Option Dataplane := (List.range 6).foldlM (dpRteFlowRemoveSlot f) d

/-- `dp_rte_flow_query_and_remove` over the slots, with the answers `sec` of the hardware: it ends early where a query
fails. -/
def dpRteFlowQueryAndRemove (sec : ℕ → Option UInt32) (f : ℕ) : List ℕ → Dataplane → Option Dataplane
  | [], d => some d
  | i :: is, d =>
    match d.flows f with
    | none => none
    | some fv =>
      match fv.rteAgeCtxs.getD i none with
      | none => dpRteFlowQueryAndRemove sec f is d
      | some a =>
        match d.ageCtxs a with
        | none => none
        | some x =>
          if !x.handle then dpRteFlowQueryAndRemove sec f is d
          else
            match sec a with
            | none => some d
            | some age =>
              if age ≥ fv.timeoutValue then
                (dpDestroyRteFlowAgectx d a).bind (dpRteFlowQueryAndRemove sec f is)
              else dpRteFlowQueryAndRemove sec f is d

/-- The body of the loop of `dp_process_aged_flows_non_offload`, for the `i`-th entry visited. -/
def dpAgeEntry (cf : Conf) (e : Env) (d : Dataplane) (v : FlowKey × ℕ) : Option Dataplane :=
  match d.flowTbl v.1 with
  | none => some d
  | some f =>
    let r :=
      if cf.offloadEnabled && v.1.proto == ipprotoTcp then
        dpRteFlowQueryAndRemove (e.sinceLastHit v.2) f (List.range 6) d
      else some d
    match r with
    | none => none
    | some d =>
      match d.flows f with
      | none => none
      | some fv =>
        if (e.now - fv.timestamp) > cf.timerHz * fv.timeoutValue.toUInt64 && !fv.aged then dpAgeOutFlow d f else some d

def dpProcessAgedFlowsNonOffload (cf : Conf) (e : Env) (d : Dataplane) (order : List FlowKey) : Option Dataplane :=
  order.zipIdx.foldlM (dpAgeEntry cf e) d

/-! ## Removal passes -/

def dpRemoveFlow (cf : Conf) (d : Dataplane) (f : ℕ) : Option Dataplane :=
  if cf.offloadEnabled then (dpRteFlowRemove d f).bind fun d => dpAgeOutFlow d f else dpAgeOutFlow d f

/-- The entries a removal pass applies to. -/
def FlowRemoval.hits (r : FlowRemoval) (k : FlowKey) (fv : FlowValue) : Bool :=
  match r with
  | .nat p type => fv.createdPortId == p && fv.natType == type
  | .neighnat ip vni lo hi => k.vni == vni && k.l3Dst == .v4 ip && k.portDst ≥ lo && k.portDst < hi
  | .iface p ip vni => fv.createdPortId == p || (k.vni == vni && fv.org.l3Dst == .v4 ip)

/-- The body of the loops of `dp_remove_nat_flows`, `dp_remove_neighnat_flows` and `dp_remove_iface_flows`. -/
def dpRemoveEntry (cf : Conf) (r : FlowRemoval) (d : Dataplane) (k : FlowKey) : Option Dataplane :=
  match d.flowTbl k with
  | none => some d
  | some f =>
    match d.flows f with
    | none => none
    | some fv => if r.hits k fv then dpRemoveFlow cf d f else some d

def dpRemoveFlows (cf : Conf) (r : FlowRemoval) (d : Dataplane) (order : List FlowKey) : Option Dataplane :=
  order.foldlM (dpRemoveEntry cf r) d

end Dpservice
