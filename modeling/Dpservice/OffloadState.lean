import Mathlib.Logic.Function.Iterate
import Dpservice.RefNodes

/-!
# The offload states of a flow

Each direction of a flow has an offload state. Connection tracking advances it, at most twice for a packet, and tells
the packet what it found; source NAT marks both directions of an ICMP flow as offloaded. Nothing else touches it.

- `OffKept` says that offloading sees no change of the flows; `knownTurn` is the flow that connection tracking will find
  for a packet, `turns` how often it will advance the state of its direction (`advance_offState`);
- `runNode_off` is the inversion lemma: what a node does to the offload states and to its packet.
-/

namespace Dpservice

open Relation (ReflTransGen)

/-! ## Steps that offloading does not see -/

def FlowValue.offState (fv : FlowValue) : FlowDir → OffloadState
  | .org => fv.offloadOrig
  | .reply => fv.offloadReply

/-- A change of a flow that leaves its first key, its offload states, its TCP state and its timeout alone, and does not
translate it by network NAT. -/
structure OffUpd (fv fv' : FlowValue) : Prop where
  org : fv'.org = fv.org
  state : fv'.offState = fv.offState
  isLocal : fv'.natType = .networkLocal → fv.natType = .networkLocal
  tcp : fv'.tcp = fv.tcp

/-- Every flow was there before, and offloading sees no change of it. -/
def OffKept (d d' : Dataplane) : Prop := ∀ f fv', d'.flows f = some fv' → ∃ fv, d.flows f = some fv ∧ OffUpd fv fv'

section Kept

variable {cf : Conf} {e : Env} {c : Config} {d d' : Dataplane} {n n' : Node} {m m' : Mbuf} {f : ℕ}
  {fv fv' : FlowValue}

theorem OffUpd.refl (fv : FlowValue) : OffUpd fv fv := ⟨rfl, rfl, id, rfl⟩

theorem OffUpd.trans {fv₁ fv₂ fv₃ : FlowValue} (h : OffUpd fv₁ fv₂) (h' : OffUpd fv₂ fv₃) : OffUpd fv₁ fv₃ :=
  ⟨h'.org.trans h.org, h'.state.trans h.state, h.isLocal ∘ h'.isLocal, h'.tcp.trans h.tcp⟩

theorem offState_eq (ho : fv'.offloadOrig = fv.offloadOrig) (hr : fv'.offloadReply = fv.offloadReply) :
    fv'.offState = fv.offState := by
  funext dir
  cases dir with
  | org => exact ho
  | reply => exact hr

theorem OffUpd.of_sansRefs (h : fv'.sansRefs = fv.sansRefs) : OffUpd fv fv' where
  org := (congrArg FlowValue.org h :)
  state := offState_eq (congrArg FlowValue.offloadOrig h :) (congrArg FlowValue.offloadReply h :)
  isLocal := (congrArg FlowValue.natType h :).symm.trans
  tcp := (congrArg FlowValue.tcp h :)

theorem OffKept.of_flows (h : d'.flows = d.flows) : OffKept d d' := fun _ fv hf => ⟨fv, h ▸ hf, .refl fv⟩

theorem OffKept.refl (d : Dataplane) : OffKept d d := .of_flows rfl

theorem OffKept.trans {d₁ d₂ d₃ : Dataplane} (h : OffKept d₁ d₂) (h' : OffKept d₂ d₃) : OffKept d₁ d₃ := by
  intro f fv₃ h₃
  obtain ⟨fv₂, h₂, hu'⟩ := h' f fv₃ h₃
  obtain ⟨fv₁, h₁, hu⟩ := h f fv₂ h₂
  exact ⟨fv₁, h₁, hu.trans hu'⟩

/-- A live flow is written back. -/
theorem OffKept.write (hf : d.flows f = some fv) (hflows : d'.flows = d.flows.add f fv') (hu : OffUpd fv fv') :
    OffKept d d' := by
  intro g gv hg
  rw [hflows, Table.add_eq_some] at hg
  obtain ⟨rfl, rfl⟩ | ⟨-, hg⟩ := hg
  · exact ⟨fv, hf, hu⟩
  · exact ⟨gv, hg, .refl gv⟩

/-- A write that keeps the states of a flow. -/
theorem OffKept.setFlow (hf : d.flows f = some fv) (hu : OffUpd fv fv') : OffKept d (d.setFlow f fv') :=
  .write hf rfl hu

/-- Handling references. -/
theorem OffKept.refSteps (h : ReflTransGen RefStep d d') : OffKept d d' := by
  induction h with
  | refl => exact .refl _
  | tail _ hs ih =>
    refine ih.trans ?_
    cases hs with
    | write hf h => exact .setFlow hf (.of_sansRefs h)
    | ctxs t n => exact .of_flows rfl
    | free f h =>
      obtain ⟨fv, -, hflows, -⟩ := dpFreeFlow_eq h
      intro g gv hg
      rw [hflows, Table.del_eq_some] at hg
      exact ⟨gv, hg.2, .refl gv⟩

/-! ## Nodes other than connection tracking and source NAT -/

theorem OffKept.same (h : d' = d) : OffKept d d' := .of_flows (by rw [h])

/-- The `lb` node keeps offload states. -/
theorem LbCase.off (h : LbCase c d m d' m' n') : OffKept d d' := by
  cases h with
  | pass | drop | relay | known => exact .refl d
  | none => exact .of_flows rfl
  | recirc f fv s target hp => exact .write (plainFlow_live hp).2.1 rfl ⟨rfl, rfl, nofun, rfl⟩
  | forward f fv s target hp => exact .write (plainFlow_live hp).2.1 rfl ⟨rfl, rfl, nofun, rfl⟩

/-- So does `dnat`. -/
theorem DnatCase.off (h : DnatCase e c d m d' m' n') : OffKept d d' := by
  cases h with
  | out | pass => exact .refl d
  | known _ _ _ _ h => exact .same h.state
  | echo f fv hp => exact .setFlow (plainFlow_live hp).2.1 ⟨rfl, rfl, nofun, rfl⟩
  | relay f fv ul hp => exact .write (plainFlow_live hp).2.1 rfl ⟨rfl, rfl, nofun, rfl⟩
  | vip f fv ip hp => exact .write (plainFlow_live hp).2.1 rekeyed_flows ⟨rfl, rfl, id, rfl⟩

/-- So does sending. -/
theorem txNode_off (h : txNode cf e c d m = some d') : OffKept d d' := by
  obtain ⟨-, hd⟩ | ⟨f, fv, -, hf, h⟩ := txNode_refSteps h
  · exact .same hd
  · refine .trans ?_ (.refSteps h)
    rcases sentMark_eq d f fv with h | h <;> rw [h]
    · exact .refl d
    · exact .setFlow hf ⟨rfl, rfl, id, rfl⟩

end Kept

/-! ## Source NAT -/

/-- What the `snat` node does to the offload states and to its packet. -/
inductive SnatOff (cf : Conf) (e : Env) (c : Config) (d : Dataplane) (m : Mbuf) (d' : Dataplane) (m' : Mbuf) : Prop
  | kept (h : OffKept d d') : SnatOff cf e c d m d' m'
  /-- A flow is translated by network NAT; an ICMP flow is marked. -/
  | nat (f : ℕ) (fv fv' : FlowValue) (r : NatRange) (turn : natTurn cf e c d .snat m = some (f, fv, r))
      (take : d.ports.CanTake e r m.df (ifaceVni c m)) (conv : m.df.l3Type = .ipv6 → nat64Converts m = true)
      (flows : d'.flows = d.flows.add f fv') (org : fv'.org = fv.org)
      (icmp : natL4Type m = ipprotoIcmp → fv'.offState = (fun _ => .offloaded) ∧ m'.df.offloadState ≠ .install)
      (other : natL4Type m ≠ ipprotoIcmp → fv'.offState = fv.offState) (tcp : fv'.tcp = fv.tcp) :
        SnatOff cf e c d m d' m'

section Snat

variable {cf : Conf} {e : Env} {c : Config} {d d' : Dataplane} {n n' : Node} {m m' m₁ : Mbuf} {f : ℕ}
  {fv fv' : FlowValue}

/-- What `snat` does to the offload states. -/
theorem SnatCase.off (h : SnatCase cf e c d m d' m' n') : SnatOff cf e c d m d' m' := by
  cases h with
  | known h => exact .kept (.same h.state)
  | vip f fv ip hp => exact .kept (.write (plainFlow_live hp).2.1 rekeyed_flows ⟨rfl, rfl, nofun, rfl⟩)
  | nat f fv r hp turn h hm =>
    have hf := (plainFlow_live hp).2.1
    cases h with
    | full _ ht hd =>
      subst hd
      refine .kept (.write hf rfl ⟨rfl, rfl, fun hl => ?_, rfl⟩)
      rcases ht with rfl | rfl
      · cases hl
      · exact hl
    | unconverted => exact .kept (.of_flows rfl)
    | @done m₁ _ _ fv' alloc conv value _ _ hpkt =>
      refine .nat f fv fv' r turn alloc.canTake conv rekeyed_flows value.org (fun hi => ?_) (fun hi => ?_) value.tcp
      · obtain ⟨ho, hr⟩ := value.marked (by simp [hi])
        refine ⟨?_, fun h => hpkt.icmp hi (hm.offload h)⟩
        funext dir
        cases dir <;> assumption
      · obtain ⟨ho, hr⟩ := value.unmarked (by simpa using hi)
        exact offState_eq ho hr

end Snat

/-! ## Connection tracking -/

/-- The packet came from a physical port on which the flow is not offloaded. -/
def otherPf (cf : Conf) (p : PortId) (fv : FlowValue) : Bool :=
  cf.isPf p && if p = cf.pf0 then !fv.pf0Offloaded else !fv.pf1Offloaded

/-- How often connection tracking advances the offload state for a packet: once for a flow that is relayed and for what
is not TCP, and once for TCP in a settled state. -/
def turns (cf : Conf) (fv : FlowValue) (df : DpFlow) (h : L4Hdr) : ℕ :=
  let st := dpCntrackTcpState fv.tcpState h
  if !cf.offloadEnabled then 0
  else
    (if fv.natType = .networkNeigh || fv.natType = .lbForward || fv.natType = .lbLocalNeigh then 1
      else if df.vnfType = .lb then 0
      else if df.l4Type ≠ ipprotoTcp then 1 else 0) +
    if df.l4Type = ipprotoTcp && df.vnfType ≠ .lb then
      if st = .established then 1 else if st = .finwait || st = .rstFin then 1 else 0
    else 0

/-- The value of a known flow after a packet. -/
def advance (cf : Conf) (e : Env) (m : Mbuf) (df : DpFlow) (fv : FlowValue) : FlowValue :=
  trackFlow cf e m df (dpSetFlowOffloadFlag cf m.port fv df)

/-- The offload state of one direction was advanced `k` times, that of the other one not. -/
structure Turned (b : Bool) (dir : FlowDir) (k : ℕ) (fv fv' : FlowValue) : Prop where
  here : fv'.offState dir = (nextOffloadState · b)^[k] (fv.offState dir)
  there : ∀ dir', dir' ≠ dir → fv'.offState dir' = fv.offState dir'

section Advance

variable {cf : Conf} {e : Env} {p : PortId} {df : DpFlow} {m : Mbuf} {fv fv' fv'' : FlowValue} {b : Bool}
  {dir : FlowDir} {k k' : ℕ}

theorem Turned.of_eq (h : fv'.offState = fv.offState) : Turned b dir 0 fv fv' :=
  ⟨congrFun h dir, fun d _ => congrFun h d⟩

/-- Turns one after the other. -/
theorem Turned.trans (h : Turned b dir k fv fv') (h' : Turned b dir k' fv' fv'') : Turned b dir (k + k') fv fv'' where
  here := by
    rw [h'.here, h.here, Nat.add_comm, Function.iterate_add_apply]
  there d hd := (h'.there d hd).trans (h.there d hd)

theorem dpCntrackChangeFlowOffloadFlags_turned (hen : cf.offloadEnabled = true) :
    Turned (otherPf cf p fv) df.flowDir 1 fv (dpCntrackChangeFlowOffloadFlags cf p fv df) := by
  unfold dpCntrackChangeFlowOffloadFlags
  rw [if_neg (by simp [hen])]
  dsimp only
  cases df.flowDir with
  | org => exact ⟨rfl, fun d hd => by cases d <;> [exact absurd rfl hd; rfl]⟩
  | reply => exact ⟨rfl, fun d hd => by cases d <;> [rfl; exact absurd rfl hd]⟩

theorem otherPf_of_core (h : fv'.core = fv.core) : otherPf cf p fv' = otherPf cf p fv := by
  have h₀ : fv'.pf0Offloaded = fv.pf0Offloaded := (congrArg FlowValue.pf0Offloaded h :)
  have h₁ : fv'.pf1Offloaded = fv.pf1Offloaded := (congrArg FlowValue.pf1Offloaded h :)
  rw [otherPf, otherPf, h₀, h₁]

/-- How often a packet of a known flow turns the state when the flow is found. -/
theorem dpSetFlowOffloadFlag_turned (hen : cf.offloadEnabled = true) :
    Turned (otherPf cf p fv) df.flowDir
      (if fv.natType = .networkNeigh || fv.natType = .lbForward || fv.natType = .lbLocalNeigh then 1
        else if df.vnfType = .lb then 0
        else if df.l4Type ≠ ipprotoTcp then 1 else 0) fv (dpSetFlowOffloadFlag cf p fv df) := by
  unfold dpSetFlowOffloadFlag
  split
  · exact dpCntrackChangeFlowOffloadFlags_turned hen
  · split
    · exact .of_eq rfl
    · split
      · exact dpCntrackChangeFlowOffloadFlags_turned hen
      · exact .of_eq rfl

/-- How often tracking a packet turns the state. -/
theorem trackFlow_turned (hen : cf.offloadEnabled = true) :
    Turned (otherPf cf m.port fv) df.flowDir
      (if df.l4Type = ipprotoTcp && df.vnfType ≠ .lb then
        if dpCntrackTcpState fv.tcpState m.l4 = .established then 1
        else if dpCntrackTcpState fv.tcpState m.l4 = .finwait || dpCntrackTcpState fv.tcpState m.l4 = .rstFin then 1
        else 0
      else 0) fv (trackFlow cf e m df fv) := by
  have hchange : ∀ fv', fv'.offState = fv.offState → otherPf cf m.port fv' = otherPf cf m.port fv →
      Turned (otherPf cf m.port fv) df.flowDir 1 fv (dpCntrackChangeFlowOffloadFlags cf m.port fv' df) := by
    intro fv' hst hpf
    rw [← hpf]
    exact (Turned.of_eq hst).trans (dpCntrackChangeFlowOffloadFlags_turned hen)
  unfold trackFlow dpCntrackSetTimeoutTcpFlow
  dsimp only
  split
  · split
    · exact hchange _ (offState_eq rfl rfl) rfl
    · split
      · exact hchange _ (offState_eq rfl rfl) rfl
      · exact .of_eq (offState_eq rfl rfl)
  · exact .of_eq (offState_eq rfl rfl)

/-- **A packet advances the offload state of its direction**, as often as `turns` says. -/
theorem advance_turned : Turned (otherPf cf m.port fv) df.flowDir (turns cf fv df m.l4) fv (advance cf e m df fv) := by
  unfold turns advance
  split
  next hoff =>
    rw [Bool.not_eq_true'] at hoff
    have h₁ : (dpSetFlowOffloadFlag cf m.port fv df).offState = fv.offState := by
      unfold dpSetFlowOffloadFlag
      simp only [dpCntrackChangeFlowOffloadFlags_off hoff, ite_self]
    have h₂ : ∀ fv, (trackFlow cf e m df fv).offState = fv.offState := by
      intro fv
      unfold trackFlow dpCntrackSetTimeoutTcpFlow
      simp only [dpCntrackChangeFlowOffloadFlags_off hoff, ite_self]
      split
      · split <;> exact offState_eq rfl rfl
      · exact offState_eq rfl rfl
    exact .of_eq ((h₂ _).trans h₁)
  next hoff =>
    have hen : cf.offloadEnabled = true := by simpa using hoff
    refine (dpSetFlowOffloadFlag_turned hen).trans ?_
    have htcp : (dpSetFlowOffloadFlag cf m.port fv df).tcpState = fv.tcpState :=
      congrArg Prod.fst dpSetFlowOffloadFlag_tcp
    rw [← otherPf_of_core dpSetFlowOffloadFlag_core, ← htcp]
    exact trackFlow_turned hen

theorem advance_tcp : (advance cf e m df fv).tcp = tcpAfter cf df m.l4 fv.tcp := by
  rw [advance, trackFlow_tcp, dpSetFlowOffloadFlag_tcp]

theorem advance_core : (advance cf e m df fv).core = fv.core := trackFlow_core.trans dpSetFlowOffloadFlag_core

/-- A state that was advanced is not `nonOffload` again. -/
theorem iterate_ne_nonOffload {s : OffloadState} (h : s ≠ .nonOffload) (k : ℕ) :
    (nextOffloadState · b)^[k] s ≠ .nonOffload := by
  refine Function.Iterate.rec (fun s => s ≠ OffloadState.nonOffload) h ?_ k
  intro s hs
  cases s <;> cases b <;> first | exact absurd rfl hs | decide

end Advance

/-- The flow that is found for a packet, its value, and the packet's private data with its direction. -/
def foundFlow (cf : Conf) (c : Config) (d : Dataplane) (m : Mbuf) : Option (ℕ × FlowValue × DpFlow) :=
  let b := dpBuildFlowKey cf c d.cache.currBuf m
  if !b.1 then none
  else
    (if d.cache.prevValid && b.2 == d.cache.prevBuf then d.cache.cachedFlowVal else d.flowTbl b.2).bind fun f =>
      (d.flows f).map fun fv => (f, fv, dpSetPktFlowDirection b.2 fv m.df)

/-- The flow that connection tracking will find for a packet. -/
def knownTurn (cf : Conf) (c : Config) (d : Dataplane) (n : Node) (m : Mbuf) : Option (ℕ × FlowValue × DpFlow) :=
  if n ≠ .conntrack ∨ !cf.conntrackEnabled then none
  else
    match (m.df.extractL3 m.frontHdr).extractL4 m.l4 with
    | none => none
    | some df =>
      let isDhcp := df.l4Type = ipprotoUdp ∧
        (df.l3Type = .ipv4 ∧ df.dstPort = bootpSrvPort ∨ df.l3Type = .ipv6 ∧ df.dstPort = dhcpv6ServerPort)
      if isDhcp then none else foundFlow cf c d { m with df := df }

/-- What the `conntrack` node does to the offload states and to its packet. -/
inductive ConntrackOff (cf : Conf) (e : Env) (c : Config) (d : Dataplane) (m : Mbuf) (d' : Dataplane) (m' : Mbuf) :
    Prop
  /-- The packet has no flow. -/
  | kept (h : OffKept d d') (conntrack : m'.df.conntrack = none) : ConntrackOff cf e c d m d' m'
  /-- A flow was found. -/
  | known (f : ℕ) (fv : FlowValue) (df : DpFlow) (turn : knownTurn cf c d .conntrack m = some (f, fv, df))
      (hf : d.flows f = some fv) (flows : d'.flows = d.flows.add f (advance cf e m df fv))
      (conntrack : m'.df.conntrack = some f) (dir : m'.df.flowDir = df.flowDir)
      (off : m'.df.offloadState = (advance cf e m df fv).offState m'.df.flowDir)
      (tcp : tracksTcp m'.df = tracksTcp df) : ConntrackOff cf e c d m d' m'
  /-- A flow was made. -/
  | made (fv : FlowValue) (flows : d'.flows = d.flows.add d.nextFlow fv) (notLocal : fv.natType ≠ .networkLocal)
      (conntrack : m'.df.conntrack = some d.nextFlow)
      (off : m'.df.offloadState = fv.offState m'.df.flowDir)
      (tcp : fv.tcp = tcpAfter cf m'.df m.l4 (.none, cf.flowTimeout)) : ConntrackOff cf e c d m d' m'

section Cntrack

variable {cf : Conf} {e : Env} {c : Config} {d d' : Dataplane} {m m' : Mbuf} {n' : Node} {f : ℕ} {fv : FlowValue}

theorem flows_add_add {fl : Table ℕ FlowValue} {fv fv' : FlowValue} : (fl.add f fv).add f fv' = fl.add f fv' :=
  Function.update_idem ..

theorem offState_ite (fv : FlowValue) (dir : FlowDir) :
    (if dir = .org then fv.offloadOrig else fv.offloadReply) = fv.offState dir := by
  cases dir <;> rfl

/-- The flow that is found, in the cache or in the table. -/
theorem foundFlow_eq {key : FlowKey} (hkey : dpBuildFlowKey cf c d.cache.currBuf m = (true, key))
    (hg : (if d.cache.prevValid && key == d.cache.prevBuf then d.cache.cachedFlowVal else d.flowTbl key) = some f)
    (hf : d.flows f = some fv) : foundFlow cf c d m = some (f, fv, dpSetPktFlowDirection key fv m.df) := by
  simp only [foundFlow, hkey, hg, hf, Bool.not_true, Bool.false_eq_true, if_false, Option.bind_some, Option.map_some]

theorem knownTurn_eq {df : DpFlow} (hdf : (m.df.extractL3 m.frontHdr).extractL4 m.l4 = some df)
    (hen : cf.conntrackEnabled = true) (hdhcp : ¬isDhcp df) :
    knownTurn cf c d .conntrack m = foundFlow cf c d { m with df := df } := by
  unfold knownTurn
  rw [if_neg (by simp [hen]), hdf]
  exact if_neg hdhcp

/-- What connection tracking does to the offload states. -/
theorem ConntrackCase.off (hm : m.df.conntrack = none) (h : ConntrackCase cf e c d m d' m' n') :
    ConntrackOff cf e c d m d' m' := by
  cases h with
  | unread => exact .kept (.refl d) hm
  | skip hdf => exact .kept (.refl d) ((extract_conntrack hdf).trans hm)
  | @track df _ _ _ hdf hen hdhcp h =>
    have hm' : df.conntrack = none := (extract_conntrack hdf).trans hm
    have hturn : knownTurn cf c d .conntrack m = foundFlow cf c d { m with df := df } := knownTurn_eq hdf hen hdhcp
    cases h with
    | fail h =>
      cases h with
      | noKey => exact .kept (.of_flows rfl) hm'
      | failed key _ hd => rcases hd with rfl | rfl <;> exact .kept (.of_flows rfl) hm'
    | track f fv₁ h hf₁ =>
      -- a flow is written twice: when it is found or made, and when the packet was tracked
      cases h with
      | cached key f fv hkey hit hc hf =>
        cases (Table.add_self ..).symm.trans hf₁
        exact .known f fv _ (hturn.trans (foundFlow_eq hkey (by rw [if_pos hit]; exact hc) hf)) hf flows_add_add rfl rfl
          (offState_ite ..) rfl
      | found key f fv hkey hit ht hf =>
        cases (Table.add_self ..).symm.trans hf₁
        exact .known f fv _ (hturn.trans (foundFlow_eq hkey (by rw [if_neg (by simp [hit])]; exact ht) hf)) hf
          flows_add_add rfl rfl (offState_ite ..) rfl
      | made key _ _ _ _ hd =>
        subst hd
        cases (Table.add_self ..).symm.trans hf₁
        refine .made _ flows_add_add ?_ rfl rfl trackFlow_tcp
        have hnat : ∀ m' df', (trackFlow cf e m' df' (newFlowValue cf c key df m.port)).natType =
            (newFlowValue cf c key df m.port).natType := fun m' df' => (congrArg FlowValue.natType trackFlow_core :)
        rw [hnat]
        dsimp only [newFlowValue]
        split <;> nofun

end Cntrack

/-! ## All nodes -/

/-- What a node does to the offload states and to its packet. -/
inductive NodeOff (cf : Conf) (e : Env) (c : Config) (d : Dataplane) (n : Node) (m : Mbuf) (d' : Dataplane) (m' : Mbuf)
    (n' : Node) : Prop
  /-- Entry: a packet that stays in the graph has no flow. -/
  | cls (node : n = .cls) (h : OffKept d d') (conntrack : n'.leaves = false → m'.df.conntrack = none) :
      NodeOff cf e c d n m d' m' n'
  | conntrack (node : n = .conntrack) (pkt : m.df.conntrack = none) (h : ConntrackOff cf e c d m d' m')
      (port : m'.port = m.port) : NodeOff cf e c d n m d' m' n'
  | snat (node : n = .snat) (pkt : PktOk d m) (h : SnatOff cf e c d m d' m') (same : SameFlow m m') :
      NodeOff cf e c d n m d' m' n'
  | other (node : n ≠ .cls) (sent : n = .tx → n'.leaves = true) (h : OffKept d d') (same : SameFlow m m') :
      NodeOff cf e c d n m d' m' n'

section Nodes

variable {cf : Conf} {e : Env} {c : Config} {d d' : Dataplane} {n n' : Node} {m m' : Mbuf} {r : NodeRet}

/-- **What the nodes do to offload states**: a packet that stays in the graph keeps its flow, direction and port, and
the offload states change in two nodes only. -/
theorem runNode_off (hm : NodeOk d m n) (h : runNode cf e c d m n = some (d', m', n')) :
    NodeOff cf e c d n m d' m' n' := by
  have hother : n ≠ .cls → n ≠ .conntrack → (n = .tx → n'.leaves = true) → OffKept d d' →
      NodeOff cf e c d n m d' m' n' :=
    fun hcls hcon htx hd => .other hcls htx hd (runNode_same hcls hcon h)
  cases n with
  | cls => exact .cls rfl (.same (clsNode_cases h).1) (clsNode_conntrack h)
  | ipipDecap => exact hother nofun nofun nofun (.same (ipipDecapNode_cases h).1)
  | conntrack => exact .conntrack rfl hm ((conntrackNode_cases h).off hm) (conntrackNode_cases h).port
  | lb => exact hother nofun nofun nofun (lbNode_cases h).off
  | dnat => exact hother nofun nofun nofun (dnatNode_cases h).off
  | packetRelay => exact hother nofun nofun nofun (.same (packetRelayNode_cases h).1)
  | ipv4Lookup => exact hother nofun nofun nofun (.same (lookup_cases (.inl h)).1)
  | ipv6Lookup => exact hother nofun nofun nofun (.same (lookup_cases (.inr h)).1)
  | snat => exact .snat rfl hm (snatNode_cases h).off (runNode_same (n := .snat) nofun nofun h)
  | firewall =>
    refine hother nofun nofun nofun ?_
    obtain ⟨-, -, hd | ⟨f, fv, -, hf, rfl⟩⟩ := firewallNode_cases h
    · exact .same hd
    · exact .setFlow hf ⟨rfl, rfl, id, rfl⟩
  | ipipEncap => exact hother nofun nofun nofun (.same (ipipEncapNode_cases h).1)
  | tx =>
    obtain ⟨d₁, hd, heq⟩ := Option.map_eq_some_iff.mp h
    cases heq
    exact .other nofun (fun _ => rfl) (txNode_off hd) (.refl m)
  | arp | ipv6Nd | dhcp | dhcpv6 | drop => cases h

end Nodes

/-! ## Steps -/

section Step

variable {cf : Conf} {s s' : Service} {ev : Event}

/-- **What a step does to offload states**: a node works on one packet, or nothing that offloading sees happens and at
most one packet comes in. -/
theorem step_off (ht : Tracked s) (h : step cf s ev = some s') :
    (∃ i e n m m' n', ev = .walk i e ∧ s.inflight[i]? = some (n, m) ∧
        NodeOff cf e s.cfg s.dpl n m s'.dpl m' n' ∧
        s'.inflight = if n'.leaves then s.inflight.eraseIdx i else s.inflight.set i (n', m')) ∨
      (∀ i e, ev ≠ .walk i e) ∧ OffKept s.dpl s'.dpl ∧
        (s'.inflight = s.inflight ∨ ∃ m, s'.inflight = s.inflight ++ [(.cls, m)]) := by
  cases step_cases h with
  | rx m => exact .inr ⟨nofun, .refl _, .inr ⟨_, rfl⟩⟩
  | walk hi hr => exact .inl ⟨_, _, _, _, _, _, rfl, hi, runNode_off (ht.pkts _ (List.mem_of_getElem? hi)) hr, rfl⟩
  | @request _ _ _ o _ _ _ hd =>
    have hlb : OffKept s.dpl { s.dpl with lb := o.lb } := .of_flows rfl
    exact .inr ⟨nofun, hlb.trans
      (.refSteps (fadeSteps_refSteps (foldlM_steps (fun _ _ _ => dpRemoveFlows_fadeSteps) hd))), .inl rfl⟩
  | flowAging _ hd => exact .inr ⟨nofun, .refSteps (fadeSteps_refSteps (dpProcessFlowAging_fadeSteps hd)), .inl rfl⟩

end Step

end Dpservice
