import Dpservice.RefOffload
import Dpservice.Tracking

/-!
# Nodes and references to flows

No node but `tx` touches the references of a flow, and none frees one. A node follows the pointer of its packet to a
flow, or one that connection tracking finds in the table or in the cache; where these lead to live flows, the node is
defined and the packet's pointer leads to a live flow again:

- `runNode_keeps` for all nodes but `tx`;
- `txNode_keeps` for `tx` and packets that ask for no hardware rule;
- `runNode_refs`: all nodes keep the reference counts right and free no flow.
-/

namespace Dpservice

/-! ## The packet and its flow -/

def PktLive (d : Dataplane) (m : Mbuf) : Prop := ∀ f, m.df.conntrack = some f → ∃ fv, d.flows f = some fv

/-- A packet with a flow does not ask for a hardware rule. -/
def NoRule (m : Mbuf) : Prop := m.df.conntrack ≠ none → m.df.offloadState ≠ .install

/-- Where offloading is disabled, no flow asks for a hardware rule. -/
def NoInstalls (cf : Conf) (d : Dataplane) : Prop :=
  cf.offloadEnabled = false → ∀ f fv, d.flows f = some fv → fv.NoInstall

section Nodes

variable {cf : Conf} {e : Env} {c : Config} {d d' : Dataplane} {n n' : Node} {m m' : Mbuf} {f : ℕ}
  {fv fv' : FlowValue} {r : NodeRet} {α : Type}

theorem SameFlow.noRule (h : SameFlow m m') (hm : NoRule m) : NoRule m' :=
  fun hc hi => hm (h.conntrack ▸ hc) (h.offload hi)

/-- The flow of a packet stays alive. -/
theorem PktLive.keeps (hm : PktLive d m) (h : KeepsRefs cf d d') (hs : SameFlow m m') : PktLive d' m' := by
  intro f hf
  obtain ⟨fv, hfv⟩ := hm f (hs.conntrack ▸ hf)
  obtain ⟨fv', hfv', -⟩ := h.live f fv hfv
  exact ⟨fv', hfv'⟩

theorem NoInstalls.keeps (hn : NoInstalls cf d) (h : KeepsRefs cf d d') : NoInstalls cf d' := by
  intro hoff f fv' hf'
  obtain ⟨fv, hf, hu⟩ | ⟨-, hfresh⟩ := h.was_live f fv' hf'
  · exact hu.noInstall hoff (hn hoff f fv hf)
  · exact hfresh.noInstall hoff

/-! ## Translation -/

/-- The `lb` node keeps all references. -/
theorem LbCase.keeps (h : LbCase c d m d' m' n') : KeepsRefs cf d d' := by
  cases h with
  | pass | drop | relay | known => exact .refl d
  | none => exact .of_eq rfl rfl rfl
  | recirc f fv s target hp => exact .write (plainFlow_live hp).2.1 rfl ⟨rfl, rfl, rfl, fun _ => id⟩ rfl rfl
  | forward f fv s target hp => exact .write (plainFlow_live hp).2.1 rfl ⟨rfl, rfl, rfl, fun _ => id⟩ rfl rfl

theorem rekeyed_keeps {old : FlowKey} {ports : NatPorts} (hf : d.flows f = some fv) (hu : RefUpd cf fv fv') :
    KeepsRefs cf d (rekeyed e { d with ports := ports } f fv' old) := by
  unfold rekeyed
  dsimp only
  split <;> exact .write hf rfl hu rfl rfl

/-- So does `dnat`. -/
theorem DnatCase.keeps (h : DnatCase e c d m d' m' n') : KeepsRefs cf d d' := by
  cases h with
  | out | pass => exact .refl d
  | known _ _ _ _ h => exact .same h.state
  | echo f fv hp => exact .write (plainFlow_live hp).2.1 rfl ⟨rfl, rfl, rfl, fun _ => id⟩ rfl rfl
  | relay f fv ul hp => exact .write (plainFlow_live hp).2.1 rfl ⟨rfl, rfl, rfl, fun _ => id⟩ rfl rfl
  | vip f fv ip hp => exact rekeyed_keeps (plainFlow_live hp).2.1 ⟨rfl, rfl, rfl, fun _ => id⟩

theorem NatValue.keeps {vni : Vni} {b : Bool} (h : NatValue vni b fv fv') : RefUpd cf fv fv' where
  refCount := h.refs.1
  aged := h.refs.2.1
  slots := h.refs.2.2
  noInstall _ hn := by
    cases b with
    | true => exact ⟨by rw [(h.marked rfl).1]; nofun, by rw [(h.marked rfl).2]; nofun⟩
    | false => exact ⟨by rw [(h.unmarked rfl).1]; exact hn.1, by rw [(h.unmarked rfl).2]; exact hn.2⟩

/-- So does `snat`. -/
theorem SnatCase.keeps (h : SnatCase cf e c d m d' m' n') : KeepsRefs cf d d' := by
  cases h with
  | known h => exact .same h.state
  | vip f fv ip hp => exact rekeyed_keeps (plainFlow_live hp).2.1 ⟨rfl, rfl, rfl, fun _ => id⟩
  | nat f fv r hp _ h =>
    have hf := (plainFlow_live hp).2.1
    cases h with
    | full _ _ hd => exact hd ▸ .write hf rfl ⟨rfl, rfl, rfl, fun _ => id⟩ rfl rfl
    | unconverted => exact .of_eq rfl rfl rfl
    | done _ _ value => exact rekeyed_keeps hf value.keeps

/-- Sending a packet that asks for no hardware rule. -/
theorem txNode_keeps (hoff : NoRule m) (h : txNode cf e c d m = some d') : KeepsRefs cf d d' := by
  obtain ⟨-, rfl⟩ | ⟨f, fv, hc, hf, ⟨-, rfl⟩ | ⟨hi, -⟩⟩ := txNode_cases h
  · exact .refl d'
  · rcases sentMark_eq d f fv with h | h <;> rw [h]
    · exact .refl d
    · exact .write hf rfl ⟨rfl, rfl, rfl, fun _ => id⟩ rfl rfl
  · exact absurd hi (hoff (by rw [hc]; nofun))

/-! ## Connection tracking -/

/-- The pointers that connection tracking follows lead to live flows. -/
structure TblLive (d : Dataplane) : Prop where
  entry : ∀ k f, d.flowTbl k = some f → ∃ fv, d.flows f = some fv
  cached : d.cache.prevValid = true → ∃ f fv, d.cache.cachedFlowVal = some f ∧ d.flows f = some fv

theorem RefUpd.of_core (h : fv'.core = fv.core) (hoff : cf.offloadEnabled = false →
    fv'.offloadOrig = fv.offloadOrig ∧ fv'.offloadReply = fv.offloadReply) : RefUpd cf fv fv' where
  refCount := (congrArg FlowValue.refCount h :)
  aged := (congrArg FlowValue.aged h :)
  slots := (congrArg FlowValue.rteAgeCtxs h :)
  noInstall hd hn := by
    unfold FlowValue.NoInstall
    rw [(hoff hd).1, (hoff hd).2]
    exact hn

theorem dpCntrackChangeFlowOffloadFlags_off {p : PortId} {df : DpFlow} (h : cf.offloadEnabled = false) :
    dpCntrackChangeFlowOffloadFlags cf p fv df = fv := by
  unfold dpCntrackChangeFlowOffloadFlags
  rw [h]
  rfl

theorem dpSetFlowOffloadFlag_keeps {p : PortId} {df : DpFlow} : RefUpd cf fv (dpSetFlowOffloadFlag cf p fv df) := by
  refine .of_core dpSetFlowOffloadFlag_core fun h => ?_
  unfold dpSetFlowOffloadFlag
  simp only [dpCntrackChangeFlowOffloadFlags_off h, ite_self, and_self]

theorem trackFlow_keeps {df : DpFlow} : RefUpd cf fv (trackFlow cf e m df fv) := by
  refine .of_core trackFlow_core fun h => ?_
  unfold trackFlow dpCntrackSetTimeoutTcpFlow
  simp only [dpCntrackChangeFlowOffloadFlags_off h, ite_self]
  split
  · split <;> exact ⟨rfl, rfl⟩
  · exact ⟨rfl, rfl⟩

/-- A new flow has one reference and no age context. -/
theorem newFlowValue_fresh {key : FlowKey} {df : DpFlow} {p : PortId} : (newFlowValue cf c key df p).Fresh cf where
  refCount := rfl
  aged := rfl
  slots i a h := by
    have hmem := List.mem_of_getElem? h
    simp [newFlowValue] at hmem
  noInstall h := by
    unfold FlowValue.NoInstall newFlowValue
    simp [h]

theorem GetCase.keeps {o : Option ℕ} {df : DpFlow} (hnew : d.flows d.nextFlow = none) (h : GetCase cf e c d m o d' df) :
    KeepsRefs cf d d' := by
  cases h with
  | noKey => exact .of_eq rfl rfl rfl
  | cached key f fv _ _ _ hf | found key f fv _ _ _ hf => exact .write hf rfl dpSetFlowOffloadFlag_keeps rfl rfl
  | failed key _ hd => rcases hd with rfl | rfl <;> exact .of_eq rfl rfl rfl
  | made key _ _ _ _ hd => exact hd ▸ .make hnew rfl newFlowValue_fresh rfl rfl

/-- So does connection tracking. -/
theorem ConntrackCase.keeps (hnew : d.flows d.nextFlow = none) (h : ConntrackCase cf e c d m d' m' n') :
    KeepsRefs cf d d' := by
  cases h with
  | unread | skip => exact .refl d
  | track _ _ _ h =>
    cases h with
    | fail h => exact h.keeps hnew
    | track f fv h hf => exact (h.keeps hnew).trans (.write hf rfl trackFlow_keeps rfl rfl)

/-- A packet that was tracked points to a live flow, and asks for a rule only if the flow does. -/
def Points (d : Dataplane) (m : Mbuf) : Prop :=
  ∀ f, m.df.conntrack = some f → ∃ fv, d.flows f = some fv ∧ (fv.NoInstall → m.df.offloadState ≠ .install)

theorem Points.of_none (h : m.df.conntrack = none) : Points d m := by
  intro f hf
  rw [h] at hf
  cases hf

/-- A tracked packet that has a flow has a live one. -/
theorem ConntrackCase.points (hc : m.df.conntrack = none) (h : ConntrackCase cf e c d m d' m' n') : Points d' m' := by
  cases h with
  | unread => exact .of_none hc
  | skip hdf => exact .of_none ((extract_conntrack hdf).trans hc)
  | track hdf _ _ h =>
    cases h with
    | fail h =>
      have hnone := (extract_conntrack hdf).trans hc
      cases h <;> exact .of_none hnone
    | track f fv h hf =>
      rintro _ ⟨⟩
      refine ⟨_, Table.add_self .., fun hn => ?_⟩
      dsimp only
      split
      · exact hn.1
      · exact hn.2

/-! ## All nodes -/

/-- What a node that touches no reference does to the state and to its packet. -/
structure NodeResult (cf : Conf) (d : Dataplane) (n : Node) (m : Mbuf) (d' : Dataplane) (m' : Mbuf) (n' : Node) :
    Prop where
  keeps : KeepsRefs cf d d'
  port : m'.port = m.port
  conntrack : n ≠ .conntrack → n'.leaves = false → m'.df.conntrack = if n = .cls then none else m.df.conntrack
  live : (n ≠ .cls → PktLive d m) → n'.leaves = false → PktLive d' m'
  noRule : n'.leaves = false → cf.offloadEnabled = false → NoInstalls cf d → (n ≠ .cls → NoRule m) → NoRule m'

/-- The state that a node leaves. -/
theorem runNode_keepsRefs (hb : Base d) (htx : n = .tx → NoRule m) (h : runNode cf e c d m n = some (d', m', n')) :
    KeepsRefs cf d d' := by
  cases n with
  | cls => exact .same (clsNode_cases h).1
  | ipipDecap => exact .same (ipipDecapNode_cases h).1
  | conntrack =>
    refine (conntrackNode_cases h).keeps (Option.eq_none_iff_forall_ne_some.mpr fun fv hf => ?_)
    exact absurd (hb.live_lt _ fv hf) (Nat.lt_irrefl _)
  | lb => exact (lbNode_cases h).keeps
  | dnat => exact (dnatNode_cases h).keeps
  | packetRelay => exact .same (packetRelayNode_cases h).1
  | ipv4Lookup => exact .same (lookup_cases (.inl h)).1
  | ipv6Lookup => exact .same (lookup_cases (.inr h)).1
  | snat => exact (snatNode_cases h).keeps
  | firewall =>
    obtain ⟨-, -, rfl | ⟨f, fv, -, hf, rfl⟩⟩ := firewallNode_cases h
    · exact .refl _
    · exact .write hf rfl ⟨rfl, rfl, rfl, fun _ => id⟩ rfl rfl
  | ipipEncap => exact .same (ipipEncapNode_cases h).1
  | tx =>
    obtain ⟨d₁, hd₁, heq⟩ := Option.map_eq_some_iff.mp h
    cases heq
    exact txNode_keeps (htx rfl) hd₁
  | arp | ipv6Nd | dhcp | dhcpv6 | drop => cases h

/-- **No node but `tx` touches references**, and neither does `tx` for a packet that asks for no rule. -/
theorem runNode_keeps (hb : Base d) (hm : NodeOk d m n) (htx : n = .tx → NoRule m)
    (h : runNode cf e c d m n = some (d', m', n')) : NodeResult cf d n m d' m' n' := by
  have hk := runNode_keepsRefs hb htx h
  by_cases hcls : n = .cls
  · subst hcls
    have hc : n'.leaves = false → m'.df.conntrack = none := clsNode_conntrack h
    refine ⟨hk, runNode_port h, fun _ => hc, fun _ hl f hf => ?_, fun hl _ _ _ hne => absurd (hc hl) hne⟩
    rw [hc hl] at hf
    cases hf
  · by_cases hcon : n = .conntrack
    · subst hcon
      have hp := (conntrackNode_cases h).points hm
      refine ⟨hk, runNode_port h, fun hn => absurd rfl hn, fun _ _ f hf => ?_, fun _ hoff hni _ hne hi => ?_⟩
      · obtain ⟨fv, hfv, -⟩ := hp f hf
        exact ⟨fv, hfv⟩
      · obtain ⟨f, hf⟩ := Option.ne_none_iff_exists'.mp hne
        obtain ⟨fv, hfv, hno⟩ := hp f hf
        exact hno (hni.keeps hk hoff f fv hfv) hi
    · have hs := runNode_same hcls hcon h
      refine ⟨hk, hs.port, fun _ _ => ?_, fun hm _ => (hm hcls).keeps hk hs, fun _ _ _ h => hs.noRule (h hcls)⟩
      rw [if_neg hcls, hs.conntrack]

/-! ## Nodes that have a result -/

/-- The pointers that a node follows lead somewhere. -/
structure Follows (d : Dataplane) (n : Node) (m : Mbuf) : Prop where
  tbl : TblLive d
  lb : ∀ k, d.lb.lbTbl k ≠ some none
  pkt : n ≠ .cls → PktLive d m

/-- A lookup finds no freed flow. -/
theorem dpGetFlowVal_isSome (cf : Conf) (e : Env) (c : Config) (m : Mbuf) (ht : TblLive d) :
    (dpGetFlowVal cf e c d m).isSome := by
  unfold dpGetFlowVal
  dsimp only
  split
  · rfl
  · split
    next hit =>
      obtain ⟨f, fv, hc, hf⟩ := ht.cached (by simp at hit; exact hit.1)
      simp [hc, dpKnownFlow, hf]
    · split
      next f htbl =>
        obtain ⟨fv, hf⟩ := ht.entry _ f htbl
        simp [dpKnownFlow, hf]
      · split <;> rfl

/-- A flow that connection tracking returns is live. -/
theorem GetCase.live {df : DpFlow} (h : GetCase cf e c d m (some f) d' df) : ∃ fv, d'.flows f = some fv := by
  cases h with
  | cached | found => exact ⟨_, Table.add_self ..⟩
  | made _ _ _ _ _ hd => exact ⟨newFlowValue cf c _ m.df m.port, by rw [hd]; exact Table.add_self ..⟩

/-- Connection tracking is defined. -/
theorem conntrackNode_isSome (cf : Conf) (e : Env) (c : Config) (m : Mbuf) (ht : TblLive d) :
    (conntrackNode cf e c d m).isSome := by
  have hhandle : ∀ m, ∃ r, dpCntrackHandle cf e c d m = some r := by
    intro m
    obtain ⟨⟨o, d₁, df⟩, hg⟩ := Option.isSome_iff_exists.mp (dpGetFlowVal_isSome cf e c m ht)
    unfold dpCntrackHandle
    rw [hg]
    cases o with
    | none => exact ⟨_, rfl⟩
    | some f =>
      obtain ⟨fv, hf⟩ := (dpGetFlowVal_cases hg).live
      simp only [hf]
      exact ⟨_, rfl⟩
  unfold conntrackNode
  split
  · rfl
  · dsimp only
    split
    · rfl
    · split
      · rfl
      · split
        · rfl
        · split
          next hn =>
            obtain ⟨r, hr⟩ := hhandle _
            rw [hn] at hr
            cases hr
          · rfl
          · rfl

/-- So is `lb`, if no freed value is in its table. -/
theorem lbNode_isSome (c : Config) (hlb : ∀ k, d.lb.lbTbl k ≠ some none) (hm : PktLive d m) :
    (lbNode c d m).isSome := by
  unfold lbNode lbNewFlow
  split
  · rfl
  next f hc =>
    obtain ⟨fv, hf⟩ := hm f hc
    rw [hf]
    dsimp only
    repeat' split
    all_goals try rfl
    next hb =>
      unfold dpLbGetBackendIp at hb
      split at hb
      · cases hb
      next h => exact absurd h (hlb _)
      · split at hb <;> cases hb

theorem dnatNode_isSome (e : Env) (c : Config) (hm : PktLive d m) : (dnatNode e c d m).isSome := by
  unfold dnatNode
  split
  · rfl
  next f hc =>
    obtain ⟨fv, hf⟩ := hm f hc
    rw [hf]
    dsimp only
    split
    · unfold dnatNewFlow
      repeat' split
      all_goals rfl
    · have h64 : ∀ m, (dnatReply64 d m fv).isSome := by
        intro m
        unfold dnatReply64
        dsimp only
        repeat' split
        all_goals rfl
      unfold dnatKnownFlow dnatReply
      repeat' split
      all_goals first | rfl | exact h64 _

theorem packetRelayNode_isSome (hm : PktLive d m) : (packetRelayNode d m).isSome := by
  unfold packetRelayNode
  split
  · rfl
  next f hc =>
    obtain ⟨fv, hf⟩ := hm f hc
    rw [hf]
    dsimp only
    repeat' split
    all_goals rfl

theorem lookup_isSome (cf : Conf) (e : Env) (c : Config) (d : Dataplane) (m : Mbuf) :
    (ipv4LookupNode cf e c d m).isSome ∧ (ipv6LookupNode cf e c d m).isSome := by
  unfold ipv4LookupNode ipv6LookupNode routePacket
  constructor
  · repeat' split
    all_goals rfl
  · dsimp only
    repeat' split
    all_goals rfl

theorem snatKnownFlow_isSome (c : Config) (d : Dataplane) (m : Mbuf) (fv : FlowValue) :
    (snatKnownFlow c d m fv).isSome := by
  unfold snatKnownFlow
  dsimp only
  split
  · rfl
  · split
    · rfl
    · split
      · split <;> rfl
      · rfl

/-- So is `snat`. -/
theorem snatNode_isSome (cf : Conf) (e : Env) (c : Config) (hm : PktLive d m) : (snatNode cf e c d m).isSome := by
  have hknown := snatKnownFlow_isSome c
  unfold snatNode
  dsimp only
  split
  · rfl
  · split
    · rfl
    next f hc =>
      obtain ⟨fv, hf⟩ := hm f hc
      rw [hf]
      dsimp only
      split
      · split
        next ht =>
          split
          · exact hknown ..
          · split
            · exact hknown ..
            · split
              · rfl
              next hs =>
                split
                next hn =>
                  exfalso
                  obtain ⟨-, -, -, rfl⟩ | ⟨-, hcase⟩ := dpProcessIpv4Snat_cases ht hs
                  · rw [rekeyed_flow] at hn
                    cases hn
                  · generalize hb : true = b at hcase
                    cases hcase with
                    | full | unconverted => cases hb
                    | done =>
                      rw [rekeyed_flow] at hn
                      cases hn
                · exact hknown ..
        · split
          · split <;> rfl
          · exact hknown ..
        · exact hknown ..
      · exact hknown ..

/-- **A node that follows live pointers has a result.** -/
theorem runNode_isSome (cf : Conf) (e : Env) (c : Config) (hf : Follows d n m) (hn : n.leaves = false) (htx : n ≠ .tx) :
    (runNode cf e c d m n).isSome := by
  cases n with
  | cls =>
    unfold runNode clsNode
    dsimp only
    repeat' split
    all_goals rfl
  | ipipDecap =>
    unfold runNode ipipDecapNode
    dsimp only
    repeat' split
    all_goals rfl
  | conntrack => exact conntrackNode_isSome cf e c m hf.tbl
  | lb => exact lbNode_isSome c hf.lb (hf.pkt nofun)
  | dnat => exact dnatNode_isSome e c (hf.pkt nofun)
  | packetRelay => exact packetRelayNode_isSome (hf.pkt nofun)
  | ipv4Lookup => exact (lookup_isSome cf e c d m).1
  | ipv6Lookup => exact (lookup_isSome cf e c d m).2
  | snat => exact snatNode_isSome cf e c (hf.pkt nofun)
  | firewall =>
    unfold runNode firewallNode
    dsimp only
    split
    · rfl
    next f hc =>
      obtain ⟨fv, hfv⟩ := hf.pkt nofun f hc
      rw [hfv]
      dsimp only
      split <;> rfl
  | ipipEncap =>
    unfold runNode ipipEncapNode
    dsimp only
    repeat' split
    all_goals rfl
  | tx => exact absurd rfl htx
  | arp | ipv6Nd | dhcp | dhcpv6 | drop => cases hn

/-- **Every node keeps the reference counts right and frees no flow.** -/
theorem runNode_refs (cf : Conf) (e : Env) (c : Config) (hr : Refs d) (hb : Base d) (ht : TblLive d)
    (hlb : (∀ k, d.lb.lbTbl k ≠ some none) ∨ runNode cf e c d m n ≠ none) (hm : NodeOk d m n) (hn : n.leaves = false)
    (hlive : n ≠ .cls → PktLive d m) :
    ∃ d' m' n', runNode cf e c d m n = some (d', m', n') ∧ Refs d' ∧ StaysLive d d' ∧
      (n'.leaves = false → PktLive d' m') := by
  by_cases htx : n = .tx
  · subst htx
    obtain ⟨d', hd', hr', hstays⟩ := txNode_refs cf e c hr (hlive nofun)
    exact ⟨d', m, .drop, by rw [runNode, hd']; rfl, hr', hstays, nofun⟩
  · have hdef : runNode cf e c d m n ≠ none := by
      rcases hlb with h | h
      · exact Option.isSome_iff_ne_none.mp (runNode_isSome cf e c ⟨ht, h, hlive⟩ hn htx)
      · exact h
    obtain ⟨⟨d', m', n'⟩, h⟩ := Option.ne_none_iff_exists'.mp hdef
    have hres := runNode_keeps hb hm (absurd · htx) h
    refine ⟨d', m', n', h, hr.keeps hres.keeps, fun f fv hf => ?_, hres.live hlive⟩
    obtain ⟨fv', hf', -⟩ := hres.keeps.live f fv hf
    exact ⟨fv', hf'⟩

end Nodes

end Dpservice
