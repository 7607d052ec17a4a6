import Dpservice.Effect
import Dpservice.NodeCases

/-!
# What a node changes in the flow state

A node that processes a packet does maintenance or one of six things to the flow state (`Effect`): making a flow,
removing the reply key of a relayed flow, giving a flow a new reply key for a VIP, or network NAT, which may fail before
or after a port was taken. `runNode_effect` is the inversion lemma from which the invariants are derived.
-/

namespace Dpservice

open Relation (ReflTransGen)

/-! ## The effects -/

/-- A flow that no node has translated gets the value `fv'`; the table loses the key `old` and, if `added`, gains the
reply key of `fv'`. -/
structure Rekey (d d' : Dataplane) (f : ℕ) (fv fv' : FlowValue) (old : FlowKey) (added : Bool) : Prop where
  live : d.flows f = some fv
  plain : fv.flags = {}
  flows : d'.flows = d.flows.add f fv'
  flowTbl : d'.flowTbl = if added then (d.flowTbl.del old).add fv'.reply f else d.flowTbl.del old
  nextFlow : d'.nextFlow = d.nextFlow
  flushed : d'.cache.prevValid = false
  org : fv'.org = fv.org
  created : fv'.createdPortId = fv.createdPortId

/-- A new flow is entered under `key` and the inverted key. -/
structure Inserts (m : Mbuf) (d d' : Dataplane) (key : FlowKey) (fv : FlowValue) : Prop where
  flows : d'.flows = d.flows.add d.nextFlow fv
  flowTbl : d'.flowTbl = (d.flowTbl.add key d.nextFlow).add (dpInvertFlowKey key) d.nextFlow
  nextFlow : d'.nextFlow = d.nextFlow + 1
  ports : d'.ports = d.ports
  relayed : d'.relayed = d.relayed
  cache : d'.cache.prevBuf = key ∧ d'.cache.cachedFlowVal = some d.nextFlow
  org : fv.org = key
  reply : fv.reply = dpInvertFlowKey key
  created : fv.createdPortId = m.port
  notLocal : fv.natType ≠ .networkLocal
  plain : fv.flags = {}

/-- The flows that are live after a new reply key. -/
theorem Rekey.was_live {d d' : Dataplane} {f g : ℕ} {fv fv' gv : FlowValue} {old : FlowKey} {added : Bool}
    (h : Rekey d d' f fv fv' old added) (hg : d'.flows g = some gv) :
    (g = f ∧ gv = fv') ∨ (g ≠ f ∧ d.flows g = some gv) := by
  rwa [h.flows, Table.add_eq_some] at hg

/-- The flows that are live after a new one. -/
theorem Inserts.was_live {m : Mbuf} {d d' : Dataplane} {key : FlowKey} {g : ℕ} {fv gv : FlowValue}
    (h : Inserts m d d' key fv) (hg : d'.flows g = some gv) :
    (g = d.nextFlow ∧ gv = fv) ∨ (g ≠ d.nextFlow ∧ d.flows g = some gv) := by
  rwa [h.flows, Table.add_eq_some] at hg

/-- What processing the packet `m` at node `n` does to the flow state, maintenance apart. -/
inductive Effect (cf : Conf) (e : Env) (c : Config) (d : Dataplane) (n : Node) (m : Mbuf) : Dataplane → Prop
  | insert {d' : Dataplane} (key : FlowKey) (fv : FlowValue) (turn : newFlowTurn cf e c d n m = some key)
      (h : Inserts m d d' key fv) : Effect cf e c d n m d'
  | relay {d' : Dataplane} (f : ℕ) (fv fv' : FlowValue) (turn : relayTurn c d n m = some (f, fv))
      (h : Rekey d d' f fv fv' fv.reply false)
      (ports : d'.ports = d.ports) (relayed : d'.relayed = Function.update d.relayed f true)
      (reply : fv'.reply = fv.reply) (notLocal : fv'.natType ≠ .networkLocal) : Effect cf e c d n m d'
  | vip {d' : Dataplane} (f : ℕ) (fv fv' : FlowValue) (turn : vipTurn cf e c d n m = some (f, fv, fv'.reply))
      (h : Rekey d d' f fv fv' fv.reply (e.ok .flowAddReply)) (ports : d'.ports = d.ports)
      (relayed : d'.relayed = d.relayed) (notLocal : fv'.natType ≠ .networkLocal) (flags : fv'.flags ≠ {})
      (type : n = .snat → fv'.natType = .vip) : Effect cf e c d n m d'
  | natFail {d' : Dataplane} (f : ℕ) (fv : FlowValue) (r : NatRange) (turn : natTurn cf e c d n m = some (f, fv, r))
      (alloc : Alloc e d.ports r m.df (ifaceVni c m) none d'.ports) (h : Quiet { d with ports := d'.ports } d') :
      Effect cf e c d n m d'
  | nat64Fail {d' : Dataplane} (f : ℕ) (fv : FlowValue) (r : NatRange) (p : UInt16) (ports : NatPorts)
      (turn : natTurn cf e c d n m = some (f, fv, r)) (l3Type : m.df.l3Type = .ipv6)
      (alloc : Alloc e d.ports r m.df (ifaceVni c m) (some p) ports) (conv : nat64Converts m = false)
      (h : d' = { d with ports := (dpRemoveNetworkSnatPort (ports.incUsed m.port) fv).decUsed m.port }) :
      Effect cf e c d n m d'
  | nat {d' : Dataplane} (f : ℕ) (fv fv' : FlowValue) (r : NatRange) (p : UInt16) (ports : NatPorts)
      (turn : natTurn cf e c d n m = some (f, fv, r)) (conv : m.df.l3Type = .ipv6 → nat64Converts m = true)
      (alloc : Alloc e d.ports r m.df (ifaceVni c m) (some p) ports)
      (h : Rekey d d' f fv fv' (natOldReply m fv) (e.ok .flowAddReply))
      (hports : d'.ports = ports.incUsed m.port) (relayed : d'.relayed = d.relayed)
      (isLocal : fv'.natType = .networkLocal) (vni : fv'.nfVni = ifaceVni c m)
      (reply : fv'.reply = natReply m fv r.natIp p) (flags : fv'.flags ≠ {}) : Effect cf e c d n m d'

/-- A node does maintenance or has one of the effects. -/
inductive NodeStep (cf : Conf) (e : Env) (c : Config) (d : Dataplane) (n : Node) (m : Mbuf) (d' : Dataplane) : Prop
  | maint (h : ReflTransGen Maint d d') : NodeStep cf e c d n m d'
  | effect (h : Effect cf e c d n m d') : NodeStep cf e c d n m d'

/-! ## Nodes that translate -/

section Translation

variable {cf : Conf} {e : Env} {c : Config} {d d' : Dataplane} {n n' : Node} {m m' : Mbuf} {f : ℕ}
  {fv fv' : FlowValue}

theorem rekeyed_rekey {old : FlowKey} {ports : NatPorts} (hf : d.flows f = some fv) (hp : fv.flags = {})
    (horg : fv'.org = fv.org) (hcr : fv'.createdPortId = fv.createdPortId) :
    Rekey d (rekeyed e { d with ports := ports } f fv' old) f fv fv' old (e.ok .flowAddReply) := by
  unfold rekeyed
  cases h : e.ok .flowAddReply with
  | false => exact ⟨hf, hp, rfl, rfl, rfl, rfl, horg, hcr⟩
  | true => exact ⟨hf, hp, rfl, rfl, rfl, rfl, horg, hcr⟩

/-- A change of the NAT type of a flow without flags that is not translated by network NAT before or after. -/
theorem FlowUpd.natType {t : FlowNatType} (hp : fv.flags = {}) (h : fv.natType ≠ .networkLocal)
    (ht : t ≠ .networkLocal) : FlowUpd fv { fv with natType := t } :=
  ⟨rfl, rfl, rfl, rfl, iff_of_false ht h, id, fun h => ⟨h, rfl⟩, fun hne => absurd hp hne⟩

/-- The effect of `dnat`. -/
theorem DnatCase.effect (hl : ∀ f fv, d.flows f = some fv → fv.flags = {} → fv.natType ≠ .networkLocal)
    (h : DnatCase e c d m d' m' n') : NodeStep cf e c d .dnat m d' := by
  cases h with
  | out | pass => exact .maint .refl
  | known f fv _ _ h =>
    rw [h.state]
    exact .maint .refl
  | echo f fv hp =>
    obtain ⟨-, hf, hflags, -⟩ := plainFlow_live hp
    exact .maint (Quiet.setFlow hf (.natType hflags (hl f fv hf hflags) (by decide))).maint
  | relay f fv ul hp turn =>
    obtain ⟨-, hf, hflags, -⟩ := plainFlow_live hp
    exact .effect (.relay f fv _ turn ⟨hf, hflags, rfl, rfl, rfl, rfl, rfl, rfl⟩ rfl rfl rfl (by simp))
  | vip f fv ip hp turn =>
    obtain ⟨-, hf, hflags, -⟩ := plainFlow_live hp
    exact .effect (.vip f fv _ (turn cf) (rekeyed_rekey hf hflags rfl rfl) (by simp) (by simp) (hl f fv hf hflags)
      (by simp) nofun)

theorem LbCase.effect (hl : ∀ f fv, d.flows f = some fv → fv.flags = {} → fv.natType ≠ .networkLocal)
    (h : LbCase c d m d' m' n') : NodeStep cf e c d .lb m d' := by
  cases h with
  | pass | drop | relay | known => exact .maint .refl
  | none _ _ s => exact .maint (Quiet.lb d s).maint
  | recirc f fv s target hp =>
    obtain ⟨-, hf, hflags, -⟩ := plainFlow_live hp
    have hu : FlowUpd fv { fv with
        underlayDst := target, flags := { fv.flags with dstLb := true }, natType := .lbRecirc } :=
      ⟨rfl, rfl, rfl, rfl, iff_of_false (by simp) (hl f fv hf hflags), fun h => by simp at h,
        fun h => by simp [show fv.flags = {} from hflags] at h, fun hne => absurd hflags hne⟩
    exact .maint (.head (.quiet (.lb d s)) (maint_setFlow hf hu .refl))
  | forward f fv s target hp turn =>
    obtain ⟨-, hf, hflags, -⟩ := plainFlow_live hp
    exact .effect (.relay f fv _ turn ⟨hf, hflags, rfl, rfl, rfl, rfl, rfl, rfl⟩ rfl rfl rfl (by simp))

/-- The effect of `snat`. -/
theorem SnatCase.effect (hl : ∀ f fv, d.flows f = some fv → fv.flags = {} → fv.natType ≠ .networkLocal)
    (h : SnatCase cf e c d m d' m' n') : NodeStep cf e c d .snat m d' := by
  cases h with
  | known h =>
    rw [h.state]
    exact .maint .refl
  | vip f fv ip hp turn =>
    obtain ⟨-, hf, hflags, -⟩ := plainFlow_live hp
    exact .effect (.vip f fv _ turn (rekeyed_rekey hf hflags rfl rfl) (by simp) (by simp) (by simp)
      (by simp) fun _ => rfl)
  | nat f fv r hp turn h =>
    obtain ⟨-, hf, hflags, -⟩ := plainFlow_live hp
    have hfl := hl f fv hf hflags
    cases h with
    | full alloc ht hd =>
      subst hd
      refine .effect (.natFail f fv r turn alloc (.setFlow hf (.natType hflags hfl ?_)))
      rcases ht with rfl | rfl
      · nofun
      · exact hfl
    | unconverted l3Type alloc conv => exact .effect (.nat64Fail f fv r _ _ turn l3Type alloc conv rfl)
    | done alloc conv value reply flags =>
      refine .effect (.nat f fv _ r _ _ turn conv alloc (rekeyed_rekey hf hflags value.org value.created) rekeyed_ports
        rekeyed_relayed value.isLocal value.vni reply ?_)
      rw [flags]
      split <;> simp

end Translation

/-! ## Connection tracking -/

section Conntrack

variable {cf : Conf} {e : Env} {c : Config} {d d' : Dataplane} {n n' : Node} {m m' : Mbuf} {f : ℕ}
  {fv fv' : FlowValue}

theorem FlowUpd.of_core (h : fv'.core = fv.core) : FlowUpd fv fv' where
  org := (congrArg FlowValue.org h :)
  reply := (congrArg FlowValue.reply h :)
  created := (congrArg FlowValue.createdPortId h :)
  vni := (congrArg FlowValue.nfVni h :)
  isLocal := by
    have ht : fv'.natType = fv.natType := (congrArg FlowValue.natType h :)
    rw [ht]
  plain hp := (congrArg FlowValue.flags h :).symm.trans hp
  target hlb :=
    have hflags : fv'.flags = fv.flags := (congrArg FlowValue.flags h :)
    ⟨by rw [hflags, hlb], (congrArg FlowValue.underlayDst h :)⟩
  type _ := (congrArg FlowValue.natType h :)

def pktDir (key : FlowKey) (fv : FlowValue) (df : DpFlow) : FlowDir := (dpSetPktFlowDirection key fv df).flowDir

/-- What finding or making the flow of a packet did to the flow state, with the flow and the packet's direction. -/
inductive CntrackEffect (cf : Conf) (e : Env) (c : Config) (d : Dataplane) (m : Mbuf) :
    Option (ℕ × FlowDir) → Dataplane → Prop
  /-- No key could be built, or no flow could be made. -/
  | fail {d' : Dataplane} (h : Quiet d d') : CntrackEffect cf e c d m none d'
  /-- The cached flow has this key. -/
  | cached {d' : Dataplane} (f : ℕ) (fv : FlowValue) (valid : d.cache.prevValid = true)
      (hc : d.cache.cachedFlowVal = some f) (hkey : dpBuildFlowKey cf c d.cache.currBuf m = (true, d.cache.prevBuf))
      (hf : d.flows f = some fv) (h : Quiet d d') :
        CntrackEffect cf e c d m (some (f, pktDir d.cache.prevBuf fv m.df)) d'
  /-- The table has a flow under this key. -/
  | found {d' : Dataplane} (f : ℕ) (fv : FlowValue) (key : FlowKey)
      (hkey : dpBuildFlowKey cf c d.cache.currBuf m = (true, key)) (ht : d.flowTbl key = some f)
      (hf : d.flows f = some fv) (h : Quiet d d') : CntrackEffect cf e c d m (some (f, pktDir key fv m.df)) d'
  /-- A flow was made for this key. -/
  | made {d' : Dataplane} (key : FlowKey) (fv : FlowValue)
      (hkey : dpBuildFlowKey cf c d.cache.currBuf m = (true, key))
      (ok : (e.ok .flowAlloc && e.ok .flowAddOrg && e.ok .flowAddInv) = true)
      (cache : (d.cache.prevValid && key == d.cache.prevBuf) = false) (miss : d.flowTbl key = none)
      (h : Inserts m d d' key fv) : CntrackEffect cf e c d m (some (d.nextFlow, .org)) d'

theorem dpSetPktFlowDirection_eq (key : FlowKey) (fv : FlowValue) (df : DpFlow) :
    dpSetPktFlowDirection key fv df = { df with flowDir := pktDir key fv df } := by
  unfold pktDir dpSetPktFlowDirection
  split
  · rfl
  · split <;> rfl

/-- The key buffer of the current packet is not part of what the cache says. -/
theorem Quiet.currKey (d : Dataplane) (k : FlowKey) : Quiet d { d with cache := d.cache.setCurr k } :=
  ⟨rfl, rfl, rfl, rfl, .refl .refl _, fun hv => .inl ⟨hv, FlowCache.setCurr_prevBuf hv, rfl⟩⟩

theorem GetCase.effect {o : Option ℕ} {df : DpFlow} (h : GetCase cf e c d m o d' df) :
    ∃ r, CntrackEffect cf e c d m r d' ∧ o = r.map Prod.fst ∧ ∀ t, r = some t → df = { m.df with flowDir := t.2 } := by
  cases h with
  | noKey key => exact ⟨none, .fail (.currKey d key), rfl, nofun⟩
  | cached key f fv hkey hit hc hf =>
    obtain ⟨hv, rfl⟩ : d.cache.prevValid = true ∧ key = d.cache.prevBuf := by simpa using hit
    refine ⟨_, .cached f fv hv hc hkey hf
      ((Quiet.currKey d _).trans (.setFlow hf (.of_core dpSetFlowOffloadFlag_core))), rfl, ?_⟩
    rintro _ ⟨⟩
    exact dpSetPktFlowDirection_eq ..
  | found key f fv hkey hit ht hf =>
    refine ⟨_, .found f fv key hkey ht hf
      ⟨rfl, rfl, rfl, rfl, .add .refl hf (.of_core dpSetFlowOffloadFlag_core), fun _ =>
      .inr ⟨f, rfl, ?_, _, Table.add_self ..⟩⟩, rfl, ?_⟩
    · rw [dpCacheFlowVal_prevBuf, FlowCache.setCurr_currBuf]
      exact ht
    · rintro _ ⟨⟩
      exact dpSetPktFlowDirection_eq ..
  | failed key miss hd =>
    refine ⟨none, .fail ?_, rfl, nofun⟩
    rcases hd with rfl | rfl
    · exact .currKey d key
    · exact ⟨Function.update_eq_self_iff.mpr miss.symm, rfl, rfl, rfl, .refl .refl _, fun hv => by cases hv⟩
  | made key hkey hit miss ok hd =>
    subst hd
    refine ⟨some (d.nextFlow, .org), .made key (newFlowValue cf c key m.df m.port) hkey ok hit miss
      ⟨rfl, rfl, rfl, rfl, rfl, ⟨FlowCache.setCurr_currBuf, rfl⟩, rfl, rfl, rfl, ?_, rfl⟩, rfl, ?_⟩
    · dsimp only [newFlowValue]
      split <;> decide
    · rintro _ ⟨⟩
      rfl

/-- Writing back the flow that was found or made. -/
theorem CntrackEffect.setFlow {f : ℕ} {dir : FlowDir} (h : CntrackEffect cf e c d m (some (f, dir)) d')
    (hf : d'.flows f = some fv) (hu : fv'.core = fv.core) :
    CntrackEffect cf e c d m (some (f, dir)) (d'.setFlow f fv') := by
  cases h with
  | cached f fv₀ hv hc hkey hf₀ hq => exact .cached f fv₀ hv hc hkey hf₀ (hq.trans (.setFlow hf (.of_core hu)))
  | found f fv₀ key hkey ht hf₀ hq => exact .found f fv₀ key hkey ht hf₀ (hq.trans (.setFlow hf (.of_core hu)))
  | made key fv₀ hkey ok cache miss h =>
    have hfv : fv₀ = fv := by
      rw [h.flows, Table.add_self] at hf
      exact Option.some.inj hf
    subst hfv
    have hu' : FlowUpd fv₀ fv' := .of_core hu
    refine .made key fv' hkey ok cache miss ⟨?_, h.flowTbl, h.nextFlow, h.ports, h.relayed, h.cache,
      hu'.org.trans h.org, hu'.reply.trans h.reply, hu'.created.trans h.created, ?_, ?_⟩
    · change d'.flows.add _ fv' = _
      rw [h.flows]
      exact Function.update_idem ..
    · rw [Ne, hu'.isLocal]
      exact h.notLocal
    · exact (congrArg FlowValue.flags hu :).trans h.plain

theorem HandleCase.effect {b : Bool} (h : HandleCase cf e c d m b d' m') :
    ∃ r, CntrackEffect cf e c d m r d' ∧ (b = true → ∃ f dir off, r = some (f, dir) ∧
      m' = { m with df := { m.df with flowDir := dir, conntrack := some f, offloadState := off } }) := by
  cases h with
  | fail h =>
    obtain ⟨r, hr, -⟩ := h.effect
    exact ⟨r, hr, nofun⟩
  | track f fv h hf =>
    obtain ⟨r, hr, ho, hdf⟩ := h.effect
    obtain ⟨⟨f', dir⟩, rfl, rfl⟩ := Option.map_eq_some_iff.mp ho.symm
    refine ⟨_, hr.setFlow hf trackFlow_core, fun _ => ⟨f', dir, ?_, rfl, ?_⟩⟩
    rotate_left
    · rw [hdf _ rfl]

/-- Connection tracking as an effect of its node. -/
theorem CntrackEffect.effect {r : Option (ℕ × FlowDir)} {df : DpFlow} (hen : cf.conntrackEnabled = true)
    (hdf : (m.df.extractL3 m.frontHdr).extractL4 m.l4 = some df)
    (hdhcp : ¬isDhcp df)
    (h : CntrackEffect cf e c d { m with df := df } r d') : NodeStep cf e c d .conntrack m d' := by
  cases h with
  | fail hq => exact .maint hq.maint
  | cached _ _ _ _ _ _ hq => exact .maint hq.maint
  | found _ _ _ _ _ _ hq => exact .maint hq.maint
  | made key fv hkey ok cache miss h =>
    refine .effect (.insert key fv ?_ ⟨h.flows, h.flowTbl, h.nextFlow, h.ports, h.relayed, h.cache, h.org, h.reply,
      h.created, h.notLocal, h.plain⟩)
    unfold newFlowTurn
    rw [if_neg (by simp [hen, ok]), hdf]
    dsimp only
    rw [hkey, if_neg]
    simpa [cache, miss, isDhcp] using hdhcp

/-- The effect of connection tracking. -/
theorem ConntrackCase.effect (h : ConntrackCase cf e c d m d' m' n') : NodeStep cf e c d .conntrack m d' := by
  cases h with
  | unread | skip => exact .maint .refl
  | track hdf hen hdhcp h =>
    obtain ⟨r, hr, -⟩ := h.effect
    exact hr.effect hen hdf hdhcp

end Conntrack

/-! ## All nodes -/

section Nodes

variable {cf : Conf} {e : Env} {c : Config} {d d' : Dataplane} {n n' : Node} {m m' : Mbuf}

theorem firewallNode_quiet (h : firewallNode cf d m = some (d', m', n')) : Quiet d d' := by
  obtain ⟨-, -, rfl | ⟨f, fv, -, hf, rfl⟩⟩ := firewallNode_cases h
  · exact .refl _
  · have hu : FlowUpd fv { fv with flags := { fv.flags with firewall := true } } :=
      ⟨rfl, rfl, rfl, rfl, Iff.rfl, fun h => by simp at h, fun h => ⟨h, rfl⟩, fun _ => rfl⟩
    exact .setFlow hf hu

/-- **Every node does one of the listed things to the flow state.** -/
theorem runNode_effect (hl : ∀ f fv, d.flows f = some fv → fv.flags = {} → fv.natType ≠ .networkLocal)
    (h : runNode cf e c d m n = some (d', m', n')) : NodeStep cf e c d n m d' := by
  have hsame : d' = d → NodeStep cf e c d n m d' := fun hd => hd ▸ .maint .refl
  cases n with
  | cls => exact hsame (clsNode_cases h).1
  | ipipDecap => exact hsame (ipipDecapNode_cases h).1
  | conntrack => exact (conntrackNode_cases h).effect
  | lb => exact (lbNode_cases h).effect hl
  | dnat => exact (dnatNode_cases h).effect hl
  | packetRelay => exact hsame (packetRelayNode_cases h).1
  | ipv4Lookup => exact hsame (lookup_cases (.inl h)).1
  | ipv6Lookup => exact hsame (lookup_cases (.inr h)).1
  | snat => exact (snatNode_cases h).effect hl
  | firewall => exact .maint (firewallNode_quiet h).maint
  | ipipEncap => exact hsame (ipipEncapNode_cases h).1
  | tx =>
    obtain ⟨d₁, hd, heq⟩ := Option.map_eq_some_iff.mp h
    cases heq
    exact .maint (txNode_maint hd)
  | arp | ipv6Nd | dhcp | dhcpv6 | drop => cases h

end Nodes

end Dpservice
