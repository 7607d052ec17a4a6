import Dpservice.NodeEffect

/-!
# Flows and the packets that belong to them

Invariants of every run that the results about translation build on. `Base` says what is always true of the flow
table and of flows that no node has translated yet; `NodeOk` says that a packet in flight, from connection tracking up
to source NAT, still carries the addresses and ports from which the key of its flow was built. The latter is what ties
the port that NAT takes, from the headers of the packet, to the port it gives back, from the stored keys.

- `tracked_run`: both hold in every state of every run;
- `dataplane_run`: the rule by which an invariant of the flow state is proved, effect by effect.
-/

namespace Dpservice

open Relation (ReflTransGen)

/-! ## The flow table -/

/-- What is always true of the flow table. -/
structure Base (d : Dataplane) : Prop where
  live_lt : ∀ f fv, d.flows f = some fv → f < d.nextFlow
  tbl_lt : ∀ k f, d.flowTbl k = some f → f < d.nextFlow
  /-- A flow that no node has translated. -/
  plain : ∀ f fv, d.flows f = some fv → fv.flags = {} →
    fv.reply = dpInvertFlowKey fv.org ∧ fv.natType ≠ .networkLocal
  tbl_key : ∀ k f fv, d.flowTbl k = some f → d.flows f = some fv → fv.flags = {} → k = fv.org ∨ k = fv.reply
  cache_lt : ∀ f, d.cache.prevValid = true → d.cache.cachedFlowVal = some f → f < d.nextFlow
  cache_key : ∀ f fv, d.cache.prevValid = true → d.cache.cachedFlowVal = some f → d.flows f = some fv →
    fv.flags = {} → d.cache.prevBuf = fv.org ∨ d.cache.prevBuf = fv.reply

section Base

variable {cf : Conf} {e : Env} {c : Config} {d d' : Dataplane} {n : Node} {m : Mbuf} {f : ℕ} {fv fv' : FlowValue}

theorem Base.init : Base {} where
  live_lt _ _ h := by cases h
  tbl_lt _ _ h := by cases h
  plain _ _ h := by cases h
  tbl_key _ _ _ h := by cases h
  cache_lt _ h := by cases h
  cache_key _ _ h := by cases h

theorem Base.quiet (hb : Base d) (h : Quiet d d') : Base d' where
  live_lt f fv' hf := by
    obtain ⟨fv, hf', -⟩ := h.was_live hf
    rw [h.nextFlow]
    exact hb.live_lt f fv hf'
  tbl_lt k f hk := by
    rw [h.flowTbl] at hk
    rw [h.nextFlow]
    exact hb.tbl_lt k f hk
  plain f fv' hf hp := by
    obtain ⟨fv, hf', hu⟩ := h.was_live hf
    rw [hu.reply, hu.org, Ne, hu.isLocal]
    exact hb.plain f fv hf' (hu.plain hp)
  tbl_key k f fv' hk hf hp := by
    obtain ⟨fv, hf', hu⟩ := h.was_live hf
    rw [h.flowTbl] at hk
    rw [hu.org, hu.reply]
    exact hb.tbl_key k f fv hk hf' (hu.plain hp)
  cache_lt f hv hc := by
    rw [h.nextFlow]
    obtain ⟨hv', -, hval⟩ | ⟨g, hg, ht, -⟩ := h.cache hv
    · exact hb.cache_lt f hv' (hval ▸ hc)
    · rw [hc, Option.some.injEq] at hg
      rw [h.flowTbl, ← hg] at ht
      exact hb.tbl_lt _ f ht
  cache_key f fv' hv hc hf hp := by
    obtain ⟨fv, hf', hu⟩ := h.was_live hf
    rw [hu.org, hu.reply]
    obtain ⟨hv', hbuf, hval⟩ | ⟨g, hg, ht, -⟩ := h.cache hv
    · rw [hbuf]
      exact hb.cache_key f fv hv' (hval ▸ hc) hf' (hu.plain hp)
    · rw [hc, Option.some.injEq] at hg
      rw [h.flowTbl, ← hg] at ht
      exact hb.tbl_key _ f fv ht hf' (hu.plain hp)

/-- What releasing a flow does. -/
theorem dpFreeFlow_eq (h : dpFreeFlow d f = some d') : ∃ fv, d.flows f = some fv ∧ d'.flows = d.flows.del f ∧
    d'.flowTbl = (d.flowTbl.del fv.org).del fv.reply ∧ d'.nextFlow = d.nextFlow ∧ d'.relayed = d.relayed ∧
    d'.ports = dpFreeNetworkNatPort d.ports fv ∧ d'.cache.prevValid = false := by
  unfold dpFreeFlow at h
  split at h
  · cases h
  next fv hf =>
    cases h
    exact ⟨fv, hf, rfl, rfl, rfl, rfl, rfl, rfl⟩

theorem Base.free (hb : Base d) (h : dpFreeFlow d f = some d') : Base d' := by
  obtain ⟨fv, hf, hflows, htbl, hnext, -, -, hcache⟩ := dpFreeFlow_eq h
  have hlive : ∀ {g gv}, d'.flows g = some gv → d.flows g = some gv := by
    intro g gv hg
    rw [hflows, Table.del_eq_some] at hg
    exact hg.2
  have hentry : ∀ {k g}, d'.flowTbl k = some g → d.flowTbl k = some g := by
    intro k g hk
    rw [htbl, Table.del_eq_some, Table.del_eq_some] at hk
    exact hk.2.2
  exact {
    live_lt := fun g gv hg => hnext ▸ hb.live_lt g gv (hlive hg)
    tbl_lt := fun k g hk => hnext ▸ hb.tbl_lt k g (hentry hk)
    plain := fun g gv hg => hb.plain g gv (hlive hg)
    tbl_key := fun k g gv hk hg => hb.tbl_key k g gv (hentry hk) (hlive hg)
    cache_lt := fun g hv => by rw [hcache] at hv; cases hv
    cache_key := fun g gv hv => by rw [hcache] at hv; cases hv }

theorem Base.maint (hb : Base d) (h : ReflTransGen Maint d d') : Base d' := by
  induction h with
  | refl => exact hb
  | tail _ hs ih =>
    cases hs with
    | quiet hq => exact ih.quiet hq
    | free f hf => exact ih.free hf

theorem Base.insert {key : FlowKey} (hb : Base d) (h : Inserts m d d' key fv) : Base d' := by
  have hentry : ∀ {k g}, d'.flowTbl k = some g →
      (g = d.nextFlow ∧ (k = fv.org ∨ k = fv.reply)) ∨ d.flowTbl k = some g := by
    intro k g hk
    rw [h.flowTbl, Table.add_eq_some, Table.add_eq_some] at hk
    rw [h.org, h.reply]
    tauto
  refine { live_lt := ?_, tbl_lt := ?_, plain := ?_, tbl_key := ?_, cache_lt := ?_, cache_key := ?_ }
  · intro g gv hg
    rw [h.nextFlow]
    obtain ⟨rfl, -⟩ | ⟨-, hg⟩ := h.was_live hg
    · omega
    · have := hb.live_lt g gv hg
      omega
  · intro k g hk
    rw [h.nextFlow]
    obtain ⟨rfl, -⟩ | hk := hentry hk
    · omega
    · have := hb.tbl_lt k g hk
      omega
  · intro g gv hg hp
    obtain ⟨-, rfl⟩ | ⟨-, hg⟩ := h.was_live hg
    · exact ⟨by rw [h.reply, h.org], h.notLocal⟩
    · exact hb.plain g gv hg hp
  · intro k g gv hk hg hp
    obtain ⟨rfl, rfl⟩ | ⟨hne, hg⟩ := h.was_live hg
    · obtain ⟨-, hk⟩ | hk := hentry hk
      · exact hk
      · exact absurd (hb.tbl_lt k _ hk) (Nat.lt_irrefl _)
    · obtain ⟨rfl, -⟩ | hk := hentry hk
      · exact absurd rfl hne
      · exact hb.tbl_key k g gv hk hg hp
  · intro g _ hc
    rw [h.cache.2, Option.some.injEq] at hc
    rw [h.nextFlow, ← hc]
    exact Nat.lt_succ_self _
  · intro g gv _ hc hg _
    rw [h.cache.2, Option.some.injEq] at hc
    subst hc
    rw [h.flows, Table.add_self, Option.some.injEq] at hg
    rw [h.cache.1, ← hg, h.org]
    exact .inl rfl

theorem Base.rekey {old : FlowKey} {added : Bool} (hb : Base d) (h : Rekey d d' f fv fv' old added)
    (hp : fv'.flags = {} → fv'.reply = fv.reply ∧ fv'.natType ≠ .networkLocal) : Base d' := by
  have hentry : ∀ {k g}, d'.flowTbl k = some g → (g = f ∧ k = fv'.reply) ∨ d.flowTbl k = some g := by
    intro k g hk
    rw [h.flowTbl] at hk
    cases added with
    | false =>
      simp only [Bool.false_eq_true, if_false, Table.del_eq_some] at hk
      exact .inr hk.2
    | true =>
      simp only [if_true, Table.add_eq_some, Table.del_eq_some] at hk
      tauto
  have hlt : f < d.nextFlow := hb.live_lt f fv h.live
  refine { live_lt := ?_, tbl_lt := ?_, plain := ?_, tbl_key := ?_, cache_lt := ?_, cache_key := ?_ }
  · intro g gv hg
    rw [h.nextFlow]
    obtain ⟨rfl, -⟩ | ⟨-, hg⟩ := h.was_live hg
    · exact hlt
    · exact hb.live_lt g gv hg
  · intro k g hk
    rw [h.nextFlow]
    obtain ⟨rfl, -⟩ | hk := hentry hk
    · exact hlt
    · exact hb.tbl_lt k g hk
  · intro g gv hg hgp
    obtain ⟨-, rfl⟩ | ⟨-, hg⟩ := h.was_live hg
    · obtain ⟨hr, hl⟩ := hp hgp
      rw [hr, h.org]
      exact ⟨(hb.plain f fv h.live h.plain).1, hl⟩
    · exact hb.plain g gv hg hgp
  · intro k g gv hk hg hgp
    obtain ⟨rfl, rfl⟩ | ⟨hne, hg⟩ := h.was_live hg
    · obtain ⟨-, hk⟩ | hk := hentry hk
      · exact .inr hk
      · rw [h.org, (hp hgp).1]
        exact hb.tbl_key k _ fv hk h.live h.plain
    · obtain ⟨rfl, -⟩ | hk := hentry hk
      · exact absurd rfl hne
      · exact hb.tbl_key k g gv hk hg hgp
  · intro g hv
    rw [h.flushed] at hv
    cases hv
  · intro g gv hv
    rw [h.flushed] at hv
    cases hv

/-- The NAT ports are not part of it. -/
theorem Base.setPorts (hb : Base d) (ports : NatPorts) : Base { d with ports := ports } :=
  ⟨hb.live_lt, hb.tbl_lt, hb.plain, hb.tbl_key, hb.cache_lt, hb.cache_key⟩

/-- The effects of nodes keep the basic facts. -/
theorem Base.effect (hb : Base d) (h : Effect cf e c d n m d') : Base d' := by
  cases h with
  | insert key fv _ h => exact hb.insert h
  | relay f fv fv' _ h _ _ hr hl => exact hb.rekey h fun _ => ⟨hr, hl⟩
  | vip f fv fv' _ h _ _ _ hflags => exact hb.rekey h fun hp => absurd hp hflags
  | natFail f fv r _ _ h => exact (hb.setPorts _).quiet h
  | nat64Fail f fv r p ports _ _ _ _ h => exact h ▸ hb.setPorts _
  | nat f fv fv' r p ports _ _ _ h _ _ _ _ _ hflags => exact hb.rekey h fun hp => absurd hp hflags

theorem Base.nodeStep (hb : Base d) (h : NodeStep cf e c d n m d') : Base d' := by
  cases h with
  | maint h => exact hb.maint h
  | effect h => exact hb.effect h

end Base

/-! ## Packets in flight -/

/-- A packet between connection tracking and source NAT. -/
structure PktOk (d : Dataplane) (m : Mbuf) : Prop where
  hdr6 : Hdr6 m
  flow_lt : ∀ f, m.df.conntrack = some f → f < d.nextFlow
  key : ∀ f fv, m.df.conntrack = some f → d.flows f = some fv → fv.flags = {} → m.df.flowDir = .org →
    m.df.isIcmpErr = false → KeyOf m.df fv.org

/-- What is true of a packet waiting at a node. -/
def NodeOk (d : Dataplane) (m : Mbuf) : Node → Prop
  | .ipipDecap | .conntrack => m.df.conntrack = none
  | .lb | .dnat | .ipv4Lookup | .ipv6Lookup | .snat => PktOk d m
  | _ => True

/-! ### Other packets -/

/-- No flow number is reused, keys of a flow's first direction stay, and flags are not taken back. -/
def Ext (d d' : Dataplane) : Prop :=
  d.nextFlow ≤ d'.nextFlow ∧ ∀ f < d.nextFlow, ∀ fv', d'.flows f = some fv' →
    ∃ fv, d.flows f = some fv ∧ fv'.org = fv.org ∧ (fv'.flags = {} → fv.flags = {})

section Ext

variable {cf : Conf} {e : Env} {c : Config} {d d' : Dataplane} {n n' : Node} {m m' : Mbuf} {f : ℕ}
  {fv fv' : FlowValue}

theorem Ext.refl (d : Dataplane) : Ext d d := ⟨Nat.le_refl _, fun _ _ fv hf => ⟨fv, hf, rfl, id⟩⟩

theorem Ext.trans {d₁ d₂ d₃ : Dataplane} (h : Ext d₁ d₂) (h' : Ext d₂ d₃) : Ext d₁ d₃ := by
  refine ⟨Nat.le_trans h.1 h'.1, fun f hf fv₃ h₃ => ?_⟩
  obtain ⟨fv₂, h₂, ho, hp⟩ := h'.2 f (Nat.lt_of_lt_of_le hf h.1) fv₃ h₃
  obtain ⟨fv₁, h₁, ho', hp'⟩ := h.2 f hf fv₂ h₂
  exact ⟨fv₁, h₁, ho.trans ho', hp' ∘ hp⟩

theorem Quiet.ext (h : Quiet d d') : Ext d d' := by
  refine ⟨h.nextFlow ▸ Nat.le_refl _, fun f _ fv' hf => ?_⟩
  obtain ⟨fv, hf', hu⟩ := h.was_live hf
  exact ⟨fv, hf', hu.org, hu.plain⟩

theorem ext_maint (h : ReflTransGen Maint d d') : Ext d d' := by
  induction h with
  | refl => exact .refl _
  | tail _ hs ih =>
    refine ih.trans ?_
    cases hs with
    | quiet hq => exact hq.ext
    | free f hf =>
      obtain ⟨fv, -, hflows, -, hnext, -⟩ := dpFreeFlow_eq hf
      refine ⟨hnext ▸ Nat.le_refl _, fun g _ gv hg => ?_⟩
      rw [hflows, Table.del_eq_some] at hg
      exact ⟨gv, hg.2, rfl, id⟩

theorem Rekey.ext {old : FlowKey} {added : Bool} (h : Rekey d d' f fv fv' old added) : Ext d d' := by
  refine ⟨h.nextFlow ▸ Nat.le_refl _, fun g _ gv hg => ?_⟩
  obtain ⟨rfl, rfl⟩ | ⟨-, hg⟩ := h.was_live hg
  · exact ⟨fv, h.live, h.org, fun _ => h.plain⟩
  · exact ⟨gv, hg, rfl, id⟩

/-- Nodes reuse no flow number and take no flag back. -/
theorem Effect.ext (h : Effect cf e c d n m d') : Ext d d' := by
  cases h with
  | insert key fv _ h =>
    refine ⟨by rw [h.nextFlow]; omega, fun g hg gv hgv => ?_⟩
    obtain ⟨rfl, -⟩ | ⟨-, hgv⟩ := h.was_live hgv
    · exact absurd hg (Nat.lt_irrefl _)
    · exact ⟨gv, hgv, rfl, id⟩
  | relay _ _ _ _ h => exact h.ext
  | vip _ _ _ _ h => exact h.ext
  | natFail _ _ _ _ _ h => exact h.ext
  | nat64Fail _ _ _ _ _ _ _ _ _ h =>
    subst h
    exact .refl d
  | nat _ _ _ _ _ _ _ _ _ h => exact h.ext

theorem NodeStep.ext (h : NodeStep cf e c d n m d') : Ext d d' := by
  cases h with
  | maint h => exact ext_maint h
  | effect h => exact h.ext

theorem PktOk.ext (h : PktOk d m) (hx : Ext d d') : PktOk d' m where
  hdr6 := h.hdr6
  flow_lt f hc := Nat.lt_of_lt_of_le (h.flow_lt f hc) hx.1
  key f fv' hc hf hp hd he := by
    obtain ⟨fv, hf', ho, hp'⟩ := hx.2 f (h.flow_lt f hc) fv' hf
    rw [ho]
    exact h.key f fv hc hf' (hp' hp) hd he

theorem NodeOk.ext (h : NodeOk d m n) (hx : Ext d d') : NodeOk d' m n := by
  cases n <;> first | exact PktOk.ext h hx | exact h

end Ext

/-! ### The packet itself -/

section Packet

variable {cf : Conf} {e : Env} {c : Config} {d d' : Dataplane} {n n' : Node} {m m' : Mbuf} {f : ℕ}
  {fv fv' : FlowValue}

/-- A packet that is still tunnelled has no layer-4 header that can be read. -/
theorem outer_of_extractL4 {df : DpFlow} (h : (m.df.extractL3 m.frontHdr).extractL4 m.l4 = some df) :
    m.outer = none := by
  cases ho : m.outer with
  | none => rfl
  | some o =>
    unfold Mbuf.frontHdr at h
    rw [ho] at h
    cases hl : m.l3 <;> simp +decide [hl, DpFlow.extractL3, DpFlow.extractL4, L3Hdr.tunProto, isIcmp] at h

theorem extractL4_eq {df df' : DpFlow} {h4 : L4Hdr} (h : df.extractL4 h4 = some df') :
    df'.conntrack = df.conntrack ∧ df'.l3Type = df.l3Type ∧ df'.dstAddr6 = df.dstAddr6 := by
  unfold DpFlow.extractL4 at h
  split at h
  · cases h
    exact ⟨rfl, rfl, rfl⟩
  · split at h
    · cases h
      exact ⟨rfl, rfl, rfl⟩
    · cases h

/-- Connection tracking sees the destination of an IPv6 packet. -/
theorem extract_hdr6 {df : DpFlow} (h : (m.df.extractL3 m.frontHdr).extractL4 m.l4 = some df) {src dst : Ip6}
    {proto : UInt8} (hl3 : m.l3 = .ipv6 src dst proto) : df.dstAddr6 = dst := by
  rw [(extractL4_eq h).2.2]
  simp [Mbuf.frontHdr, outer_of_extractL4 h, hl3, DpFlow.extractL3]

theorem extract_conntrack {df : DpFlow} (h : (m.df.extractL3 m.frontHdr).extractL4 m.l4 = some df) :
    df.conntrack = m.df.conntrack := by
  rw [(extractL4_eq h).1]
  unfold DpFlow.extractL3
  split <;> rfl

theorem PktOk.nodeOk (h : PktOk d m) (hn : n ≠ .ipipDecap ∧ n ≠ .conntrack) : NodeOk d m n := by
  cases n <;> first | exact h | trivial

/-- A packet of no flow. -/
theorem PktOk.of_none (h6 : Hdr6 m) (hc : m.df.conntrack = none) : PktOk d m where
  hdr6 := h6
  flow_lt f hf := by rw [hc] at hf; cases hf
  key f fv hf := by rw [hc] at hf; cases hf

/-- A key that belongs to an untranslated flow, for a packet in the direction of the flow. -/
theorem org_of_pktDir {key : FlowKey} {df : DpFlow} (hk : key = fv.org ∨ key = fv.reply)
    (hd : pktDir key fv df = .org) : key = fv.org := by
  unfold pktDir dpSetPktFlowDirection at hd
  rcases hk with h | h
  · exact h
  · by_contra hne
    rw [if_neg hne, if_pos h] at hd
    cases hd

/-- A packet that has just been assigned its flow. -/
theorem CntrackEffect.pktOk {dir : FlowDir} {off : OffloadState} (hb : Base d) (h6 : Hdr6 m)
    (h : CntrackEffect cf e c d m (some (f, dir)) d') :
    PktOk d' { m with df := { m.df with flowDir := dir, conntrack := some f, offloadState := off } } := by
  have hkey : ∀ {key k}, dpBuildFlowKey cf c d.cache.currBuf m = (true, key) → key = k → m.df.isIcmpErr = false →
      KeyOf { m.df with flowDir := dir, conntrack := some f, offloadState := off } k := by
    intro key k hkey hk he
    have hof := dpBuildFlowKey_keyOf hkey he
    exact hk ▸ ⟨hof.l3, hof.proto, hof.l4⟩
  have hknown : ∀ {fv key}, Quiet d d' → f < d.nextFlow → d.flows f = some fv →
      dpBuildFlowKey cf c d.cache.currBuf m = (true, key) → dir = pktDir key fv m.df →
      (fv.flags = {} → key = fv.org ∨ key = fv.reply) →
      PktOk d' { m with df := { m.df with flowDir := dir, conntrack := some f, offloadState := off } } := by
    intro fv key hq hlt hf hbuild hdir hown
    refine ⟨h6, ?_, ?_⟩
    · rintro _ ⟨⟩
      rwa [hq.nextFlow]
    · rintro _ fv' ⟨⟩ hf' hp hd he
      obtain ⟨fv₀, hf₀, hu⟩ := hq.was_live hf'
      rw [hf, Option.some.injEq] at hf₀
      subst hf₀
      rw [hu.org]
      exact hkey hbuild (org_of_pktDir (hown (hu.plain hp)) (hdir ▸ hd)) he
  cases h with
  | cached _ fv hv hc hk hf hq =>
    exact hknown hq (hb.cache_lt f hv hc) hf hk rfl (hb.cache_key f fv hv hc hf)
  | found _ fv key hk ht hf hq =>
    exact hknown hq (hb.tbl_lt key f ht) hf hk rfl (hb.tbl_key key f fv ht hf)
  | made key fv hk _ _ _ h =>
    refine ⟨h6, ?_, ?_⟩
    · rintro _ ⟨⟩
      rw [h.nextFlow]
      exact Nat.lt_succ_self _
    · rintro _ fv' ⟨⟩ hf' hp hd he
      rw [h.flows, Table.add_self, Option.some.injEq] at hf'
      subst hf'
      exact hkey hk h.org.symm he

/-- What holds of a packet behind connection tracking. -/
theorem ConntrackCase.pkt (hb : Base d) (hm : m.df.conntrack = none) (h : ConntrackCase cf e c d m d' m' n') :
    NodeOk d' m' n' := by
  have h6 : ∀ {df}, (m.df.extractL3 m.frontHdr).extractL4 m.l4 = some df → Hdr6 { m with df := df } :=
    fun hdf _ _ _ hl3 _ => extract_hdr6 hdf hl3
  cases h with
  | unread => trivial
  | skip hdf hn =>
    rcases hn with rfl | rfl
    · exact .of_none (h6 hdf) ((extract_conntrack hdf).trans hm)
    · trivial
  | @track df b d' m' hdf _ _ h =>
    obtain ⟨r, hr, hm'⟩ := h.effect
    cases b with
    | false => trivial
    | true =>
      obtain ⟨f, dir, off, rfl, rfl⟩ := hm' rfl
      refine PktOk.nodeOk (hr.pktOk hb (h6 hdf)) ?_
      rw [if_pos rfl]
      rcases conntrackNext_cases cf _ with h | h | h | h <;> rw [h] <;> decide

theorem LbCase.pkt (hm : PktOk d m) (h : LbCase c d m d' m' n') : NodeOk d' m' n' := by
  cases h with
  | pass => exact hm
  | drop | relay | known | none | recirc | forward => trivial

/-- A packet of a translated flow stays one when its headers are rewritten. -/
theorem PktOk.rewrite (h : PktOk d m) (hc : m.df.conntrack = some f) (hf : d'.flows f = some fv) (hp : fv.flags ≠ {})
    (hnext : d'.nextFlow = d.nextFlow) (hc' : m'.df.conntrack = m.df.conntrack) (h6 : Hdr6 m') : PktOk d' m' where
  hdr6 := h6
  flow_lt g hg := hnext ▸ h.flow_lt g (hc' ▸ hg)
  key g gv hg hgv hgp := by
    rw [hc', hc, Option.some.injEq] at hg
    subst hg
    rw [hf, Option.some.injEq] at hgv
    exact absurd (hgv ▸ hgp) hp

theorem DnatCase.pkt (hm : PktOk d m) (h : DnatCase e c d m d' m' n') : NodeOk d' m' n' := by
  cases h with
  | out => rcases dnatOut_next m with h | h | h <;> rw [h] <;> first | exact hm | trivial
  | pass hn => rcases hn with rfl | rfl <;> first | exact hm | trivial
  | echo | relay => trivial
  | vip f fv ip hp _ =>
    split
    next hok =>
      refine hm.rewrite (plainFlow_live hp).1 rekeyed_flow (by simp) ?_ (Carried.dnatRewrite m ip).conntrack
        (hm.hdr6.dnatRewrite ip)
      rw [rekeyed, if_pos hok]
      rfl
    · trivial
  | known f fv hc hf h =>
    obtain rfl := h.state
    have hgoes : n' ≠ .drop → n' ≠ .packetRelay → PktOk d' m' := by
      intro hd hr
      by_cases hp : fv.flags = {}
      · rw [h.same hd hr hp]
        exact hm
      · exact hm.rewrite hc hf hp rfl h.carried.conntrack (h.hdr6 hd hm.hdr6)
    rcases h.next with rfl | rfl | rfl | rfl
    · trivial
    · trivial
    · exact hgoes nofun nofun
    · exact hgoes nofun nofun

theorem lookup_pkt (hm : PktOk d m)
    (h : ipv4LookupNode cf e c d m = some (d', m', n') ∨ ipv6LookupNode cf e c d m = some (d', m', n')) :
    NodeOk d' m' n' := by
  obtain ⟨rfl, ⟨rfl | rfl, -⟩ | ⟨rfl, ul, vni, ft, nh, rfl⟩⟩ := lookup_cases h
  · trivial
  · trivial
  · refine ⟨hm.hdr6.of_eq rfl rfl rfl, hm.flow_lt, fun f fv hc hf hp hd he => ?_⟩
    have hof := hm.key f fv hc hf hp hd he
    exact ⟨hof.l3, hof.proto, hof.l4⟩

/-- What holds of a packet at the next node. -/
theorem runNode_pkt (hb : Base d) (hm : NodeOk d m n) (h : runNode cf e c d m n = some (d', m', n')) :
    NodeOk d' m' n' := by
  cases n with
  | cls =>
    obtain ⟨-, -, hl | ⟨rfl, rfl⟩ | ⟨rfl, -, hc⟩⟩ := clsNode_cases h
    · cases n' <;> trivial
    · rfl
    · exact hc
  | ipipDecap =>
    obtain ⟨-, hs, rfl | rfl⟩ := ipipDecapNode_cases h
    · trivial
    · exact hs.conntrack.trans hm
  | conntrack => exact (conntrackNode_cases h).pkt hb hm
  | lb => exact (lbNode_cases h).pkt hm
  | dnat => exact (dnatNode_cases h).pkt hm
  | packetRelay => obtain ⟨-, -, rfl | rfl⟩ := packetRelayNode_cases h <;> trivial
  | ipv4Lookup => exact lookup_pkt hm (.inl h)
  | ipv6Lookup => exact lookup_pkt hm (.inr h)
  | snat => obtain ⟨-, rfl | rfl⟩ := (snatNode_cases h).known_pkt <;> trivial
  | firewall =>
    rw [(firewallNode_cases h).2.1]
    split <;> trivial
  | ipipEncap => obtain ⟨-, ⟨rfl, -⟩ | ⟨⟨rfl, -⟩ | ⟨rfl, -⟩, -⟩⟩ := ipipEncapNode_cases h <;> trivial
  | tx =>
    obtain ⟨d₁, -, heq⟩ := Option.map_eq_some_iff.mp h
    cases heq
    trivial
  | arp | ipv6Nd | dhcp | dhcpv6 | drop => cases h

end Packet

/-! ## Runs -/

/-- A condition on the packet that a node is about to process. -/
def OnWalk (P : Service → Env → Node → Mbuf → Prop) (s : Service) : Event → Prop
  | .walk i e => ∀ p ∈ s.inflight[i]?, P s e p.1 p.2
  | _ => True

instance {P : Service → Env → Node → Mbuf → Prop} [∀ s e n m, Decidable (P s e n m)] (s : Service) :
    ∀ ev, Decidable (OnWalk P s ev)
  | .walk i e => inferInstanceAs (Decidable (∀ p ∈ s.inflight[i]?, P s e p.1 p.2))
  | .rx _ | .request .. | .flowAging .. => .isTrue trivial

theorem onWalk_true (s : Service) (ev : Event) : OnWalk (fun _ _ _ _ => True) s ev := by
  cases ev with
  | walk i e => exact fun _ _ => trivial
  | rx m => trivial
  | request r e order => trivial
  | flowAging e ctxs order => trivial

/-- The flow table and the packets in flight are in order. -/
structure Tracked (s : Service) : Prop where
  base : Base s.dpl
  pkts : ∀ p ∈ s.inflight, NodeOk s.dpl p.2 p.1

section Run

variable {cf : Conf} {s s' : Service} {ev : Event} {es : List Event}

/-- One node works on one packet. -/
theorem step_walk {i : ℕ} {e : Env} (h : step cf s (.walk i e) = some s') : ∃ n m m' n', s.inflight[i]? = some (n, m) ∧
    runNode cf e s.cfg s.dpl m n = some (s'.dpl, m', n') ∧ s'.cfg = s.cfg ∧
    s'.inflight = if n'.leaves then s.inflight.eraseIdx i else s.inflight.set i (n', m') := by
  cases step_cases h with
  | walk hi hr => exact ⟨_, _, _, _, hi, hr, rfl, rfl⟩

/-- What a request does: its handler changes the configuration, then its passes free flows. -/
theorem step_request {r : Request} {e : Env} {order : List FlowKey} (h : step cf s (.request r e order) = some s') :
    s.inflight = [] ∧ s'.inflight = [] ∧ ∃ o, dpProcessRequest cf e s.cfg s.dpl.lb r = some o ∧ s'.cfg = o.cfg ∧
      o.removals.foldlM (fun d r => dpRemoveFlows cf r d order) { s.dpl with lb := o.lb } = some s'.dpl := by
  cases step_cases h with
  | request idle ho hd => exact ⟨idle, idle, _, ho, rfl, hd⟩

/-- What a step does to the flow state: one node works on one packet, or there is maintenance. -/
theorem step_dataplane (hb : Base s.dpl) (h : step cf s ev = some s') :
    (∃ i e n m m' n', ev = .walk i e ∧ s.inflight[i]? = some (n, m) ∧
        runNode cf e s.cfg s.dpl m n = some (s'.dpl, m', n') ∧ NodeStep cf e s.cfg s.dpl n m s'.dpl ∧
        s'.inflight = if n'.leaves then s.inflight.eraseIdx i else s.inflight.set i (n', m')) ∨
      ReflTransGen Maint s.dpl s'.dpl ∧ ∀ p ∈ s'.inflight, p ∈ s.inflight ∨ p.1 = .cls := by
  cases step_cases h with
  | rx m =>
    refine .inr ⟨.refl, fun p hp => ?_⟩
    rcases List.mem_append.mp hp with hp | hp
    · exact .inl hp
    · rw [List.mem_singleton.mp hp]
      exact .inr rfl
  | walk hi hr =>
    exact .inl ⟨_, _, _, _, _, _, rfl, hi, hr, runNode_effect (fun f fv hf hp => (hb.plain f fv hf hp).2) hr, rfl⟩
  | @request _ _ _ o _ _ _ hd =>
    have hrem := refSteps_maint (fadeSteps_refSteps (foldlM_steps (fun _ _ _ => dpRemoveFlows_fadeSteps) hd))
    exact .inr ⟨.head (.quiet (.lb s.dpl o.lb)) hrem, fun p hp => .inl hp⟩
  | flowAging _ hd =>
    exact .inr ⟨refSteps_maint (fadeSteps_refSteps (dpProcessFlowAging_fadeSteps hd)), fun p hp => .inl hp⟩

/-- No flow number is given back. -/
theorem step_nextFlow (ht : Tracked s) (h : step cf s ev = some s') :
    s.dpl.nextFlow ≤ s'.dpl.nextFlow := by
  obtain ⟨i, e, n, m, m', n', -, -, -, heff, -⟩ | ⟨hm, -⟩ := step_dataplane ht.base h
  · exact heff.ext.1
  · exact (ext_maint hm).1

/-- A step of the service. -/
theorem Tracked.step (ht : Tracked s) (h : step cf s ev = some s') : Tracked s' := by
  obtain ⟨i, e, n, m, m', n', -, hi, hr, heff, hfl⟩ | ⟨hm, hfl⟩ := step_dataplane ht.base h
  · refine ⟨ht.base.nodeStep heff, fun p hp => ?_⟩
    have hold : ∀ p ∈ s.inflight, NodeOk s'.dpl p.2 p.1 := fun p hp => (ht.pkts p hp).ext heff.ext
    rcases mem_inflight_walk (hfl ▸ hp) with hp | ⟨-, rfl⟩
    · exact hold p hp
    · exact runNode_pkt ht.base (ht.pkts _ (List.mem_of_getElem? hi)) hr
  · refine ⟨ht.base.maint hm, fun p hp => ?_⟩
    rcases hfl p hp with hp | hp
    · exact (ht.pkts p hp).ext (ext_maint hm)
    · rw [hp]
      trivial

theorem Tracked.init (cf : Conf) : Tracked (Service.init cf) := ⟨.init, fun _ hp => absurd hp List.not_mem_nil⟩

/-- **Flows and packets are in order in every run.** -/
theorem tracked_run (h : run (step cf) (Service.init cf) es = some s) : Tracked s :=
  run_invariant (P := fun _ _ => True) (fun _ _ _ ht _ hs => ht.step hs) (.init cf) (along_true _ _) h

section Invariant

variable {J : Dataplane → Prop} {P : Service → Env → Node → Mbuf → Prop} {d d' : Dataplane}

/-- What quiet changes and releases of flows keep, maintenance keeps. -/
theorem maint_invariant (hquiet : ∀ d d', Base d → J d → Quiet d d' → J d')
    (hfree : ∀ d d' f, Base d → J d → dpFreeFlow d f = some d' → J d')
    (hb : Base d) (hj : J d) (hm : ReflTransGen Maint d d') : J d' := by
  induction hm with
  | refl => exact hj
  | tail hpre hs ih =>
    cases hs with
    | quiet hq => exact hquiet _ _ (hb.maint hpre) ih hq
    | free f hf => exact hfree _ _ f (hb.maint hpre) ih hf

/-- One step keeps an invariant of the flow state that maintenance and the effects of nodes keep. -/
theorem dataplane_step (hmaint : ∀ d d', Base d → J d → ReflTransGen Maint d d' → J d')
    (hnode : ∀ s e n m d', Base s.dpl → NodeOk s.dpl m n → J s.dpl → P s e n m → Effect cf e s.cfg s.dpl n m d' → J d')
    (ht : Tracked s) (hj : J s.dpl) (hp : OnWalk P s ev) (hs : step cf s ev = some s') : J s'.dpl := by
  obtain ⟨i, e, n, m, m', n', rfl, hi, -, heff, -⟩ | ⟨hm, -⟩ := step_dataplane ht.base hs
  · cases heff with
    | maint hm => exact hmaint _ _ ht.base hj hm
    | effect heff => exact hnode s e n m _ ht.base (ht.pkts _ (List.mem_of_getElem? hi)) hj (hp _ hi) heff
  · exact hmaint _ _ ht.base hj hm

/-- **An invariant of the flow state**, kept by maintenance and by the effects of nodes on packets that satisfy `P`,
holds in every run whose packets do. -/
theorem dataplane_run (hinit : J {})
    (hquiet : ∀ d d', Base d → J d → Quiet d d' → J d')
    (hfree : ∀ d d' f, Base d → J d → dpFreeFlow d f = some d' → J d')
    (hnode : ∀ s e n m d', Base s.dpl → NodeOk s.dpl m n → J s.dpl → P s e n m → Effect cf e s.cfg s.dpl n m d' → J d')
    (hP : Along (step cf) (OnWalk P) (Service.init cf) es) (h : run (step cf) (Service.init cf) es = some s) :
    J s.dpl := by
  have hinv : Tracked s ∧ J s.dpl := by
    refine run_invariant (I := fun s => Tracked s ∧ J s.dpl) ?_ ⟨.init cf, hinit⟩ hP h
    rintro s ev s' ⟨ht, hj⟩ hp hs
    exact ⟨ht.step hs, dataplane_step (fun _ _ => maint_invariant hquiet hfree) hnode ht hj hp hs⟩
  exact hinv.2

end Invariant

end Run

end Dpservice
