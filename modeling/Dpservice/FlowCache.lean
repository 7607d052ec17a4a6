import Dpservice.Tracking

/-!
# The flow cache

Connection tracking keeps the last flow with its key in one of two buffers, and builds the key of each packet in the
other one.

- `Coherent`: what the cache says, the table says too. Every writer of the table keeps this (`Coherent.effect`,
  `Coherent.free`), some because they drop the cached flow, the insertion of a flow because it caches the new one.
- `flow_cache_transparent`: connection tracking finds the flow that it would find without the cache, and leaves the
  two buffers with the same keys.
- `flow_key_of_packet`: which part of a key depends on the buffer it is built in.
-/

namespace Dpservice

/-! ## Coherence -/

/-- A cached flow is live, and the table has it under the cached key. -/
def Coherent (d : Dataplane) : Prop :=
  d.cache.prevValid = true →
    ∃ f fv, d.cache.cachedFlowVal = some f ∧ d.flowTbl d.cache.prevBuf = some f ∧ d.flows f = some fv

section Coherent

variable {cf : Conf} {e : Env} {c : Config} {d d' : Dataplane} {n : Node} {m : Mbuf} {f : ℕ} {fv fv' : FlowValue}

theorem Coherent.of_flushed (h : d.cache.prevValid = false) : Coherent d := fun hv => by
  rw [h] at hv
  cases hv

theorem Coherent.quiet (h : Coherent d) (hq : Quiet d d') : Coherent d' := by
  intro hv
  obtain ⟨hv', hbuf, hval⟩ | ⟨f, hc, ht, fv, hf⟩ := hq.cache hv
  · obtain ⟨f, fv, hc, ht, hf⟩ := h hv'
    obtain ⟨fv', hf', -⟩ := hq.live hf
    rw [hbuf, hval, hq.flowTbl]
    exact ⟨f, fv', hc, ht, hf'⟩
  · exact ⟨f, fv, hc, ht, hf⟩

theorem Coherent.free (h : dpFreeFlow d f = some d') : Coherent d' := by
  obtain ⟨fv, -, -, -, -, -, -, hcache⟩ := dpFreeFlow_eq h
  exact .of_flushed hcache

/-- The new flow is cached, so it does not matter whose entry the inverted key was. -/
theorem Coherent.insert {key : FlowKey} (h : Inserts m d d' key fv) : Coherent d' := by
  intro _
  refine ⟨d.nextFlow, fv, h.cache.2, ?_, ?_⟩
  · rw [h.cache.1, h.flowTbl]
    by_cases hk : key = dpInvertFlowKey key
    · rw [← hk, Table.add_self]
    · rw [Table.add_of_ne hk, Table.add_self]
  · rw [h.flows, Table.add_self]

theorem Coherent.effect (hd : Coherent d) (h : Effect cf e c d n m d') : Coherent d' := by
  cases h with
  | insert key fv _ h => exact .insert h
  | relay f fv fv' _ h => exact .of_flushed h.flushed
  | vip f fv fv' _ h => exact .of_flushed h.flushed
  | nat f fv fv' r p ports _ _ _ h => exact .of_flushed h.flushed
  | natFail f fv r _ _ h => exact Coherent.quiet (d := { d with ports := d'.ports }) hd h
  | nat64Fail f fv r p ports _ _ _ _ h =>
    subst h
    exact hd

/-- **The cache is coherent in every run.** -/
theorem coherent_run {es : List Event} {s : Service} (h : run (step cf) (Service.init cf) es = some s) :
    Coherent s.dpl :=
  dataplane_run (P := fun _ _ _ _ => True) (.of_flushed rfl) (fun _ _ _ hd hq => hd.quiet hq)
    (fun _ _ _ _ _ hf => .free hf) (fun _ _ _ _ _ _ _ hd _ he => hd.effect he)
    ((along_true _ _).mono fun s ev _ => onWalk_true s ev) h

end Coherent

/-! ## Transparency -/

/-- The key in the buffer that comes after the current one. -/
def FlowCache.nextBuf (ch : FlowCache) : FlowKey := ch.keyCache (keyCacheAt (ch.keyCacheIndex + 1))

/-- `dp_get_flow_val` as it would be without the cache: every packet is looked up in the table. -/
def dpGetFlowValUncached (cf : Conf) (e : Env) (c : Config) (d : Dataplane) (m : Mbuf) :
    Option (Option ℕ × Dataplane × DpFlow) :=
  let b := dpBuildFlowKey cf c d.cache.currBuf m
  let key := b.2
  let d := { d with cache := d.cache.setCurr key }
  if !b.1 then some (none, d, m.df)
  else
    match d.flowTbl key with
    | some f =>
      (dpKnownFlow cf d key f m.df m.port).map fun r =>
        (some f, { r.1 with cache := dpCacheFlowVal r.1.cache f }, r.2)
    | none =>
      match flowTableInsertEntry cf e c d key m.df m.port with
      | (none, d) => some (none, d, m.df)
      | (some f, d) => some (some f, { d with cache := dpCacheFlowVal d.cache f }, { m.df with flowDir := .org })

/-- All that the rest of the service sees of a lookup: the flow or the failure, the packet's private data with its
direction, the state apart from the cache, and the keys in the buffers for the next two packets. -/
def lookupResult (r : Option ℕ × Dataplane × DpFlow) : Option ℕ × DpFlow × Dataplane × FlowKey × FlowKey :=
  (r.1, r.2.2, { r.2.1 with cache := {} }, r.2.1.cache.currBuf, r.2.1.cache.nextBuf)

/-- With two buffers, the next one is whichever is not the current one. -/
theorem FlowCache.next_eq (ch : FlowCache) {i : Fin 2} (h : i ≠ ch.currKey) :
    keyCacheAt (ch.keyCacheIndex + 1) = i := by
  have hne : keyCacheAt (ch.keyCacheIndex + 1) ≠ ch.currKey := ch.aligned ▸ keyCacheAt_succ ch.keyCacheIndex
  omega

/-- When a packet has the cached key, both buffers hold it, and it does not matter whether they change places. -/
theorem lookupResult_hit {d : Dataplane} {f : ℕ} {o : Option ℕ} {df : DpFlow} (hv : d.cache.prevValid = true)
    (hbuf : d.cache.prevBuf = d.cache.currBuf) :
    lookupResult (o, { d with cache := dpCacheFlowVal d.cache f }, df) = lookupResult (o, d, df) := by
  obtain ⟨i, hi⟩ := Option.isSome_iff_exists.mp hv
  have hne : i ≠ d.cache.currKey := fun heq => d.cache.distinct (heq ▸ hi)
  have hnext : keyCacheAt (d.cache.keyCacheIndex + 1) = i := d.cache.next_eq hne
  -- the buffer after the next one is the current one again
  have hback : keyCacheAt (d.cache.keyCacheIndex + 1 + 1) = d.cache.currKey :=
    (dpCacheFlowVal d.cache f).next_eq fun heq => hne (hnext.symm.trans heq.symm)
  have hprev : d.cache.keyCache i = d.cache.currBuf := by
    rw [← hbuf, FlowCache.prevBuf, hi, Option.getD_some]
  have hcurr : (dpCacheFlowVal d.cache f).currBuf = d.cache.currBuf := (congrArg d.cache.keyCache hnext).trans hprev
  have hthen : (dpCacheFlowVal d.cache f).nextBuf = d.cache.nextBuf := by
    calc d.cache.keyCache (keyCacheAt (d.cache.keyCacheIndex + 1 + 1)) = d.cache.currBuf := by rw [hback]; rfl
      _ = d.cache.keyCache (keyCacheAt (d.cache.keyCacheIndex + 1)) := by rw [hnext, hprev]
  unfold lookupResult
  rw [hcurr, hthen]

theorem dpGetFlowVal_uncached {cf : Conf} {e : Env} {c : Config} {d : Dataplane} (hd : Coherent d) (m : Mbuf) :
    (dpGetFlowVal cf e c d m).map lookupResult = (dpGetFlowValUncached cf e c d m).map lookupResult := by
  unfold dpGetFlowVal dpGetFlowValUncached
  generalize dpBuildFlowKey cf c d.cache.currBuf m = b
  obtain ⟨ok, key⟩ := b
  dsimp only
  rw [FlowCache.setCurr_prevValid, FlowCache.setCurr_hit, FlowCache.setCurr_cachedFlowVal]
  cases ok with
  | false => rfl
  | true =>
    simp only [Bool.not_true, Bool.false_eq_true, if_false]
    cases hhit : d.cache.prevValid && key == d.cache.prevBuf with
    | false => rfl
    | true =>
      obtain ⟨hv, rfl⟩ : d.cache.prevValid = true ∧ key = d.cache.prevBuf := by simpa using hhit
      obtain ⟨f, fv, hc, ht, hf⟩ := hd hv
      rw [if_pos rfl, hc, ht]
      dsimp only
      unfold dpKnownFlow
      rw [hf]
      let d₁ := Dataplane.setFlow { d with cache := d.cache.setCurr d.cache.prevBuf } f
        (dpSetFlowOffloadFlag cf m.port fv (dpSetPktFlowDirection d.cache.prevBuf fv m.df))
      have hbuf : d₁.cache.prevBuf = d₁.cache.currBuf :=
        (FlowCache.setCurr_prevBuf hv).trans FlowCache.setCurr_currBuf.symm
      exact congrArg some (lookupResult_hit (d := d₁) hv hbuf).symm

/-- **The cache is transparent** in every run: what it holds is live and agrees with the table, the current packet has a
buffer of its own, and every packet is handled as by a lookup in the table. -/
theorem flow_cache_transparent {cf : Conf} {es : List Event} {s : Service}
    (h : run (step cf) (Service.init cf) es = some s) :
    Coherent s.dpl ∧ s.dpl.cache.prevKey ≠ some s.dpl.cache.currKey ∧
      ∀ e m, (dpGetFlowVal cf e s.cfg s.dpl m).map lookupResult =
        (dpGetFlowValUncached cf e s.cfg s.dpl m).map lookupResult :=
  ⟨coherent_run h, s.dpl.cache.distinct, fun _ m => dpGetFlowVal_uncached (coherent_run h) m⟩

/-- The second packet of a TCP connection finds its flow in the cache. -/
theorem flow_cache_transparent_tcp :
    ∃ s, run (step smallConf) (Service.init smallConf) (requests smallSetup ++ passes tcpPacket 2) = some s ∧
      s.dpl.cache.prevKey = some 0 ∧ s.dpl.cache.cachedFlowVal = some 0 ∧
      Coherent s.dpl ∧ s.dpl.cache.prevKey ≠ some s.dpl.cache.currKey ∧
      ∀ e m, (dpGetFlowVal smallConf e s.cfg s.dpl m).map lookupResult =
        (dpGetFlowValUncached smallConf e s.cfg s.dpl m).map lookupResult := by
  refine exists_some_imp (P := fun s => s.dpl.cache.prevKey = some 0 ∧ s.dpl.cache.cachedFlowVal = some 0)
    (by decide +kernel) ?_
  rintro s hs ⟨hprev, hcached⟩
  exact ⟨hprev, hcached, flow_cache_transparent hs⟩

/-! ## Reused buffers -/

/-- The key that connection tracking looks up for a packet, and whether one can be built. -/
def flowKeyOf (cf : Conf) (s : Service) (m : Mbuf) : Bool × FlowKey := dpBuildFlowKey cf s.cfg s.dpl.cache.currBuf m

/-- `dp_mark_vnf_type` writes the type: not for an IPv6 packet of a virtual function to an address outside the NAT64
range. -/
def MarksVnfType (cf : Conf) (m : Mbuf) : Prop :=
  cf.isPf m.port = true ∨ m.df.l3Type ≠ .ipv6 ∨ dpIsIp6InNat64Range m.df.dstAddr6 = true

instance (cf : Conf) (m : Mbuf) : Decidable (MarksVnfType cf m) := inferInstanceAs (Decidable (_ ∨ _ ∨ _))

section FlowKeys

variable {cf : Conf} {c : Config} {m : Mbuf} {k k' : FlowKey}

/-- A key buffer before `dp_mark_vnf_type`. -/
def l3Key (cf : Conf) (c : Config) (m : Mbuf) (k : FlowKey) : FlowKey :=
  { k.setL3 m.df with proto := m.df.l4Type, vni := flowKeyVni cf c m }

/-- The type is all that can be left of an earlier key. -/
theorem dpBuildFlowKey_buf (hok : (dpBuildFlowKey cf c k m).1 = true) (k' : FlowKey) :
    dpBuildFlowKey cf c k' m = (true, { (dpBuildFlowKey cf c k m).2 with
      vnfType := dpMarkVnfType cf c m.df m.port (l3Key cf c m k') }) := by
  unfold dpBuildFlowKey dpBuildIcmpFlowKey at hok ⊢
  unfold l3Key FlowKey.setL3 at *
  cases hl : m.df.l3Type with
  | other => simp [hl] at hok
  | ipv4 =>
    simp only [hl] at hok ⊢
    repeat' split
    all_goals first | rfl | simp_all
  | ipv6 =>
    simp only [hl] at hok ⊢
    repeat' split
    all_goals first | rfl | simp_all

theorem dpMarkVnfType_l3Key (hl3 : m.df.l3Type ≠ .other) (h : MarksVnfType cf m) (k k' : FlowKey) :
    dpMarkVnfType cf c m.df m.port (l3Key cf c m k) = dpMarkVnfType cf c m.df m.port (l3Key cf c m k') := by
  unfold dpMarkVnfType l3Key FlowKey.setL3
  cases hl : m.df.l3Type with
  | other => exact absurd hl hl3
  | ipv4 => rfl
  | ipv6 =>
    dsimp only
    split
    · rfl
    next hpf =>
      have hrange : dpIsIp6InNat64Range m.df.dstAddr6 = true := (h.resolve_left hpf).resolve_left (· hl)
      rw [if_pos hrange, if_pos hrange]

theorem dpMarkVnfType_kept (h : ¬ MarksVnfType cf m) (k : FlowKey) :
    dpMarkVnfType cf c m.df m.port (l3Key cf c m k) = k.vnfType := by
  obtain ⟨hpf, hl, hrange⟩ : cf.isPf m.port = false ∧ m.df.l3Type = .ipv6 ∧
      dpIsIp6InNat64Range m.df.dstAddr6 = false := by
    simpa [MarksVnfType] using h
  simp [dpMarkVnfType, l3Key, FlowKey.setL3, hpf, hl, hrange]

/-- **The key of a packet**, in two states with the same configuration, is the same exactly where the type is written or
the two key buffers have the same one. -/
theorem flow_key_of_packet {s₁ s₂ : Service} (hcfg : s₁.cfg = s₂.cfg) (hok : (flowKeyOf cf s₁ m).1 = true) :
    flowKeyOf cf s₁ m = flowKeyOf cf s₂ m ↔
      MarksVnfType cf m ∨ s₁.dpl.cache.currBuf.vnfType = s₂.dpl.cache.currBuf.vnfType := by
  have hl3 : m.df.l3Type ≠ .other := fun hl => by simp [flowKeyOf, dpBuildFlowKey, hl] at hok
  unfold flowKeyOf at hok ⊢
  rw [← hcfg, dpBuildFlowKey_buf hok s₁.dpl.cache.currBuf, dpBuildFlowKey_buf hok s₂.dpl.cache.currBuf]
  by_cases hm : MarksVnfType cf m
  · rw [dpMarkVnfType_l3Key hl3 hm s₁.dpl.cache.currBuf s₂.dpl.cache.currBuf]
    exact iff_of_true rfl (.inl hm)
  · simp [dpMarkVnfType_kept hm, hm]

end FlowKeys

/-- A TCP packet from interface 7 to an IPv6 address outside the NAT64 range, as connection tracking sees it. -/
def tcp6Packet : Mbuf where
  port := 2
  l3 := .ipv6 0xfd00 0x20010db8000000000000000000000001 ipprotoTcp
  l4 := { srcPort := 1000, dstPort := 80 }
  df := { l3Type := .ipv6, srcAddr6 := 0xfd00, dstAddr6 := 0x20010db8000000000000000000000001, l4Type := ipprotoTcp,
          srcPort := 1000, dstPort := 80 }

/-- An IPv4 packet has the same key, whatever was in the buffer. -/
theorem flow_key_of_packet_tcp :
    let m := { tcpPacket with df := { l3Type := .ipv4, srcAddr := 0x0a000001, l4Type := ipprotoTcp } }
    let s := Service.init smallConf
    let s' := { s with dpl := { cache := s.dpl.cache.setCurr { vnfType := .nat } } }
    (flowKeyOf smallConf s m = flowKeyOf smallConf s' m ↔
      MarksVnfType smallConf m ∨ s.dpl.cache.currBuf.vnfType = s'.dpl.cache.currBuf.vnfType) ∧
    MarksVnfType smallConf m :=
  ⟨flow_key_of_packet rfl (by decide), by decide⟩

/-- A packet is received or processed. -/
def Event.isPacket : Event → Bool
  | .rx _ | .walk .. => true
  | .request .. | .flowAging .. => false

/-- Packets do not change the configuration. -/
theorem run_packets_cfg {cf : Conf} {es : List Event} {s s' : Service} (hes : ∀ ev ∈ es, ev.isPacket = true)
    (h : run (step cf) s es = some s') : s.cfg = s'.cfg := by
  refine run_invariant (I := fun s' => s.cfg = s'.cfg) ?_ rfl (along_of_forall hes s) h
  intro s₁ ev s₂ heq hev hs
  rw [heq]
  cases step_cases hs with
  | rx | walk => rfl
  | request | flowAging => cases hev

/-- Two echo requests to the NAT64 range change the key of a later packet that has nothing to do with NAT. -/
theorem flow_key_stale_type :
    ∃ s₁ s₂, run (step smallConf) (Service.init smallConf) (requests smallSetup) = some s₁ ∧
      run (step smallConf) (Service.init smallConf)
        (requests smallSetup ++ (passes (nat64Ping 1) 2 ++ [.rx (nat64Ping 2), .walk 1 {}, .walk 1 {}])) = some s₂ ∧
      s₁.cfg = s₂.cfg ∧ (flowKeyOf smallConf s₁ tcp6Packet).1 = true ∧
      flowKeyOf smallConf s₁ tcp6Packet ≠ flowKeyOf smallConf s₂ tcp6Packet := by
  obtain ⟨s₁, hs₁, hkey, s₂, hs₂, hne⟩ : ∃ s₁,
      run (step smallConf) (Service.init smallConf) (requests smallSetup) = some s₁ ∧
      (flowKeyOf smallConf s₁ tcp6Packet).1 = true ∧ ∃ s₂,
      run (step smallConf) s₁ (passes (nat64Ping 1) 2 ++ [.rx (nat64Ping 2), .walk 1 {}, .walk 1 {}]) = some s₂ ∧
      flowKeyOf smallConf s₁ tcp6Packet ≠ flowKeyOf smallConf s₂ tcp6Packet := by decide +kernel
  refine ⟨s₁, s₂, hs₁, ?_, run_packets_cfg (by decide) hs₂, hkey, hne⟩
  rw [run_append, hs₁]
  exact hs₂

end Dpservice
