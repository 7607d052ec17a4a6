import Dpservice.Cntrack

/-!
# Hardware offload

Installing the hardware rules of a flow. Each rule has an age context that counts as a reference to the flow; the
contexts of TCP flows are also stored in the flow. The rules themselves are not modelled, only whether installing them
succeeds.
-/

namespace Dpservice

/-- `dp_add_rte_age_ctx`: the first free slot, `none` when all are used. -/
def dpAddRteAgeCtx (fv : FlowValue) (a : ℕ) : Option (ℕ × FlowValue) :=
  match fv.rteAgeCtxs.findIdx? Option.isNone with
  | none => none
  | some i => some (i, { fv with rteAgeCtxs := fv.rteAgeCtxs.set i (some a) })

def allocateAgectx (e : Env) (d : Dataplane) (i : ℕ) : Option (ℕ × Dataplane) :=
  if e.ok (.agectxAlloc i) then
    some (d.nextCtx, { d with ageCtxs := d.ageCtxs.add d.nextCtx {}, nextCtx := d.nextCtx + 1 })
  else none

/-- `dp_install_rte_flow_with_age` for the flow `f` and the context `a`; the result says whether it succeeded. -/
def dpInstallRteFlowWithAge (e : Env) (d : Dataplane) (p : PortId) (f a i : ℕ) : Option (Bool × Dataplane) :=
  match d.ageCtxs a with
  | none => none
  | some x =>
    if !e.ok (.ruleInstall i) then some (false, d)
    else
      (dpRefInc (d.setCtx a { x with cntrack := some f, rteFlow := true, portId := p }) f).map fun d => (true, d)

def dpCreateAgeIndirectAction (e : Env) (d : Dataplane) (f a i : ℕ) : Option (Bool × Dataplane) :=
  if !e.ok (.handleCreate i) then some (false, d)
  else
    match d.flows f, d.ageCtxs a with
    | some fv, some x =>
      match dpAddRteAgeCtx fv a with
      | none => some (false, d)
      | some (slot, fv) => some (true, (d.setFlow f fv).setCtx a { x with refIndex := slot, handle := true })
    | _, _ => none

def dpInstallRteFlowWithIndirect (e : Env) (d : Dataplane) (p : PortId) (tcp : Bool) (f a i : ℕ) :
    Option (Bool × Dataplane) :=
  let r := if tcp then dpCreateAgeIndirectAction e d f a i else some (true, d)
  match r with
  | none => none
  | some (false, d) => some (false, d)
  | some (true, d) =>
    match dpInstallRteFlowWithAge e d p f a i with
    | none => none
    | some (true, d) => some (true, d)
    | some (false, d) =>
      if tcp then
        match d.flows f, d.ageCtxs a with
        | some fv, some x => some (false, d.setFlow f (dpDelRteAgeCtx fv x))
        | _, _ => none
      else some (false, d)

/-- Allocate a context and install rule `i` with it; `some none` is failure, after which the context is destroyed. -/
def installRule (e : Env) (d : Dataplane) (p : PortId) (tcp : Bool) (f i : ℕ) : Option (Option ℕ × Dataplane) :=
  match allocateAgectx e d i with
  | none => some (none, d)
  | some (a, d) =>
    match dpInstallRteFlowWithIndirect e d p tcp f a i with
    | none => none
    | some (true, d) => some (some a, d)
    | some (false, d) => (dpDestroyRteFlowAgectx d a).map fun d => (none, d)

/-- Install rule 0 where `first` asks for it, then rule 1; a failure of the second undoes the first. -/
def installRules (e : Env) (d : Dataplane) (first : Option PortId) (p : PortId) (tcp : Bool) (f : ℕ) :
    Option Dataplane :=
  match first with
  | none => (installRule e d p tcp f 1).map (·.2)
  | some p0 =>
    match installRule e d p0 tcp f 0 with
    | none => none
    | some (none, d) => some d
    | some (some a0, d) =>
      match installRule e d p tcp f 1 with
      | none => none
      | some (some _, d) => some d
      | some (none, d) => dpDestroyRteFlowAgectx d a0

/-- `dp_offload_handle_tunnel_encap_traffic`: egress over the second physical port needs a hairpin rule first. -/
def dpOffloadHandleTunnelEncapTraffic (cf : Conf) (e : Env) (d : Dataplane) (df : DpFlow) (inPort outPort : PortId)
    (f : ℕ) : Option Dataplane :=
  if !e.ok .l4Item then some d
  else if outPort ≠ cf.pf0 then installRules e d (some inPort) cf.pf1 (df.l4Type == ipprotoTcp) f
  else installRules e d none inPort (df.l4Type == ipprotoTcp) f

/-- `dp_offload_handle_tunnel_decap_traffic`: a captured physical port needs a capturing rule first. -/
def dpOffloadHandleTunnelDecapTraffic (cf : Conf) (e : Env) (c : Config) (d : Dataplane) (df : DpFlow)
    (inPort : PortId) (f : ℕ) : Option Dataplane :=
  match d.flows f with
  | none => none
  | some fv =>
    let cross := inPort ≠ cf.pf0
    let d := d.setFlow f (if cross then { fv with pf1Offloaded := true } else { fv with pf0Offloaded := true })
    if !e.ok .l4Item then some d
    else
      let first := if !cross && (c.port inPort).captured then some inPort else none
      installRules e d first inPort (df.l4Type == ipprotoTcp) f

def dpOffloadHandleLocalTraffic (e : Env) (d : Dataplane) (df : DpFlow) (inPort : PortId) (f : ℕ) : Option Dataplane :=
  if !e.ok .l4Item then some d else installRules e d none inPort (df.l4Type == ipprotoTcp) f

/-- `dp_offload_handle_in_network_traffic`: the context of a relayed flow is never stored in it. -/
def dpOffloadHandleInNetworkTraffic (e : Env) (d : Dataplane) (inPort : PortId) (f : ℕ) : Option Dataplane :=
  if !e.ok .l4Item then some d else installRules e d none inPort false f

def dpOffloadHandler (cf : Conf) (e : Env) (c : Config) (d : Dataplane) (m : Mbuf) (f : ℕ) : Option Dataplane :=
  match d.flows f with
  | none => none
  | some fv =>
    if !cf.isPf m.port && !cf.isPf m.df.nxtHop then dpOffloadHandleLocalTraffic e d m.df m.port f
    else if cf.isPf m.df.nxtHop then
      if fv.natType = .networkNeigh || fv.natType = .lbForward then
        if cf.isPf m.port then dpOffloadHandleInNetworkTraffic e d m.port f else some d
      else if cf.isPf m.port then some d
      else dpOffloadHandleTunnelEncapTraffic cf e d m.df m.port m.df.nxtHop f
    else dpOffloadHandleTunnelDecapTraffic cf e c d m.df m.port f

end Dpservice
