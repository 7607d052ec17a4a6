import Dpservice.Tracking

/-!
# The flow table and the flows agree

Every entry of the table is a key of the live flow it leads to, and every live flow is found under its own two keys,
unless the relaying code removed the second (`Consistent`). The table does not keep this by itself: a new flow is
entered under the inverted key whoever has it, translation enters a flow under its new reply key whoever has it, and
NAT64 deletes the wrong key for ICMP. The state is consistent in every run in which no node is about to do one of these
(`KeysFree`).
-/

namespace Dpservice

/-- `k` is one of the two keys of a flow. -/
def FlowValue.HasKey (fv : FlowValue) (k : FlowKey) : Prop := k = fv.org ∨ k = fv.reply

instance (fv : FlowValue) (k : FlowKey) : Decidable (fv.HasKey k) := inferInstanceAs (Decidable (_ ∨ _))

/-- The flow table and the live flows agree. -/
structure Consistent (d : Dataplane) : Prop where
  entry : ∀ k f, d.flowTbl k = some f → ∃ fv, d.flows f = some fv ∧ fv.HasKey k
  org : ∀ f fv, d.flows f = some fv → d.flowTbl fv.org = some f
  reply : ∀ f fv, d.flows f = some fv → d.relayed f = false → d.flowTbl fv.reply = some f

/-- `k` is not a key of a live flow other than `f`. -/
def Unowned (d : Dataplane) (f : ℕ) (k : FlowKey) : Prop :=
  ∀ g < d.nextFlow, g ≠ f → ∀ gv ∈ d.flows g, ¬ gv.HasKey k

instance (d : Dataplane) (f : ℕ) (k : FlowKey) : Decidable (Unowned d f k) := by
  unfold Unowned
  infer_instance

/-- No node takes a key from a live flow or deletes a key that is not the one it means:
  - the two keys of a new flow are unused;
  - a flow whose reply key is removed or replaced has two different keys;
  - the new reply key of a flow, for every port that NAT may choose, belongs to no other flow, and entering it succeeds;
  - NAT64 does not translate ICMP. -/
def KeysFree (cf : Conf) (s : Service) (e : Env) (n : Node) (m : Mbuf) : Prop :=
  (∀ k ∈ newFlowTurn cf e s.cfg s.dpl n m,
    Unowned s.dpl s.dpl.nextFlow k ∧ Unowned s.dpl s.dpl.nextFlow (dpInvertFlowKey k)) ∧
  (∀ t ∈ relayTurn s.cfg s.dpl n m, t.2.org ≠ t.2.reply) ∧
  (∀ t ∈ vipTurn cf e s.cfg s.dpl n m,
    e.ok .flowAddReply = true ∧ t.2.1.org ≠ t.2.1.reply ∧ Unowned s.dpl t.1 t.2.2) ∧
  (∀ t ∈ natTurn cf e s.cfg s.dpl n m, ∀ p ∈ s.dpl.ports.candidates t.2.2 m.df (ifaceVni s.cfg m),
    e.ok .flowAddReply = true ∧ t.2.1.org ≠ t.2.1.reply ∧ Unowned s.dpl t.1 (natReply m t.2.1 t.2.2.natIp p) ∧
      (m.df.l3Type = .ipv6 → m.df.l4Type ≠ ipprotoIcmpv6))

instance (cf : Conf) (s : Service) (e : Env) (n : Node) (m : Mbuf) : Decidable (KeysFree cf s e n m) := by
  unfold KeysFree
  infer_instance

/-- Consistent, and no two live flows share a key. -/
structure KeysOwned (d : Dataplane) : Prop extends Consistent d where
  unique : ∀ {f g fv gv k}, d.flows f = some fv → d.flows g = some gv → fv.HasKey k → gv.HasKey k → f = g

section Steps

variable {cf : Conf} {e : Env} {c : Config} {d d' : Dataplane} {n : Node} {m : Mbuf} {f g : ℕ}
  {fv fv' gv : FlowValue} {k : FlowKey}

theorem FlowUpd.hasKey (h : FlowUpd fv fv') : fv'.HasKey k ↔ fv.HasKey k := by
  unfold FlowValue.HasKey
  rw [h.org, h.reply]

theorem Unowned.not_hasKey (h : Unowned d f k) (hb : Base d) (hg : d.flows g = some gv) (hne : g ≠ f) :
    ¬ gv.HasKey k :=
  h g (hb.live_lt g gv hg) hne gv hg

theorem KeysOwned.init : KeysOwned {} where
  entry _ _ h := by cases h
  org _ _ h := by cases h
  reply _ _ h := by cases h
  unique h := by cases h

theorem KeysOwned.quiet (hk : KeysOwned d) (h : Quiet d d') : KeysOwned d' where
  entry k f hkf := by
    rw [h.flowTbl] at hkf
    obtain ⟨fv, hf, hkey⟩ := hk.entry k f hkf
    obtain ⟨fv', hf', hu⟩ := h.live hf
    exact ⟨fv', hf', hu.hasKey.mpr hkey⟩
  org f fv' hf' := by
    obtain ⟨fv, hf, hu⟩ := h.was_live hf'
    rw [h.flowTbl, hu.org]
    exact hk.org f fv hf
  reply f fv' hf' hr := by
    obtain ⟨fv, hf, hu⟩ := h.was_live hf'
    rw [h.flowTbl, hu.reply]
    exact hk.reply f fv hf (h.relayed ▸ hr)
  unique hf' hg' hkf hkg := by
    obtain ⟨fv, hf, hu⟩ := h.was_live hf'
    obtain ⟨gv, hg, hv⟩ := h.was_live hg'
    exact hk.unique hf hg (hu.hasKey.mp hkf) (hv.hasKey.mp hkg)

/-- Releasing a flow removes its own entries and no other. -/
theorem KeysOwned.free (hk : KeysOwned d) (h : dpFreeFlow d f = some d') : KeysOwned d' := by
  obtain ⟨fv, hf, hflows, htbl, -, hrel, -, -⟩ := dpFreeFlow_eq h
  have hlive : ∀ {g gv}, d'.flows g = some gv → g ≠ f ∧ d.flows g = some gv := by
    intro g gv hg
    rwa [hflows, Table.del_eq_some] at hg
  have hother : ∀ {g gv k}, d'.flows g = some gv → gv.HasKey k → d'.flowTbl k = d.flowTbl k := by
    intro g gv k hg hkey
    obtain ⟨hne, hg⟩ := hlive hg
    rw [htbl, Table.del_of_ne, Table.del_of_ne]
    · rintro rfl
      exact hne (hk.unique hg hf hkey (.inl rfl))
    · rintro rfl
      exact hne (hk.unique hg hf hkey (.inr rfl))
  refine { entry := ?_, org := ?_, reply := ?_, unique := ?_ }
  · intro k g hkg
    rw [htbl, Table.del_eq_some, Table.del_eq_some] at hkg
    obtain ⟨hr, ho, hkg⟩ := hkg
    obtain ⟨gv, hg, hkey⟩ := hk.entry k g hkg
    have hne : g ≠ f := by
      rintro rfl
      rw [hf, Option.some.injEq] at hg
      subst hg
      exact hkey.elim ho hr
    exact ⟨gv, by rw [hflows, Table.del_of_ne hne, hg], hkey⟩
  · intro g gv hg
    rw [hother hg (.inl rfl)]
    exact hk.org g gv (hlive hg).2
  · intro g gv hg hr
    rw [hother hg (.inr rfl)]
    exact hk.reply g gv (hlive hg).2 (hrel ▸ hr)
  · exact fun hg hg' => hk.unique (hlive hg).2 (hlive hg').2

/-- A new flow with two unused keys. -/
theorem KeysOwned.insert (hk : KeysOwned d) (hb : Base d) (h : Inserts m d d' k fv)
    (hfree : Unowned d d.nextFlow k ∧ Unowned d d.nextFlow (dpInvertFlowKey k)) : KeysOwned d' := by
  have hown : ∀ {k'}, fv.HasKey k' ↔ k' = k ∨ k' = dpInvertFlowKey k := by
    intro k'
    rw [FlowValue.HasKey, h.org, h.reply]
  have hforeign : ∀ {g gv k'}, g ≠ d.nextFlow → d.flows g = some gv → gv.HasKey k' → ¬ fv.HasKey k' := by
    intro g gv k' hne hg hgk hfk
    rcases hown.mp hfk with rfl | rfl
    · exact hfree.1.not_hasKey hb hg hne hgk
    · exact hfree.2.not_hasKey hb hg hne hgk
  have hnew : ∀ {k'}, fv.HasKey k' → d'.flowTbl k' = some d.nextFlow := by
    intro k' hk'
    rw [h.flowTbl, Table.add_eq_some, Table.add_eq_some]
    rcases hown.mp hk' with rfl | rfl
    · by_cases he : k' = dpInvertFlowKey k'
      · exact .inl ⟨he, rfl⟩
      · exact .inr ⟨he, .inl ⟨rfl, rfl⟩⟩
    · exact .inl ⟨rfl, rfl⟩
  have hold : ∀ {g gv k'}, g ≠ d.nextFlow → d.flows g = some gv → gv.HasKey k' → d'.flowTbl k' = d.flowTbl k' := by
    intro g gv k' hne hg hgk
    have hnot := mt hown.mpr (hforeign hne hg hgk)
    rw [h.flowTbl, Table.add_of_ne (fun he => hnot (.inr he)), Table.add_of_ne (fun he => hnot (.inl he))]
  refine { entry := ?_, org := ?_, reply := ?_, unique := ?_ }
  · intro k' g hkg
    rw [h.flowTbl, Table.add_eq_some, Table.add_eq_some] at hkg
    rcases hkg with ⟨hk', rfl⟩ | ⟨-, ⟨hk', rfl⟩ | ⟨-, hkg⟩⟩
    · exact ⟨fv, by rw [h.flows, Table.add_self], hown.mpr (.inr hk')⟩
    · exact ⟨fv, by rw [h.flows, Table.add_self], hown.mpr (.inl hk')⟩
    · obtain ⟨gv, hg, hkey⟩ := hk.entry k' g hkg
      have hne : g ≠ d.nextFlow := Nat.ne_of_lt (hb.live_lt g gv hg)
      exact ⟨gv, by rw [h.flows, Table.add_of_ne hne, hg], hkey⟩
  · intro g gv hg
    obtain ⟨rfl, rfl⟩ | ⟨hne, hg⟩ := h.was_live hg
    · exact hnew (.inl rfl)
    · rw [hold hne hg (.inl rfl)]
      exact hk.org g gv hg
  · intro g gv hg hr
    obtain ⟨rfl, rfl⟩ | ⟨hne, hg⟩ := h.was_live hg
    · exact hnew (.inr rfl)
    · rw [hold hne hg (.inr rfl)]
      exact hk.reply g gv hg (h.relayed ▸ hr)
  · intro g g' gv gv' k' hg hg' hkg hkg'
    obtain ⟨rfl, rfl⟩ | ⟨hne, hg⟩ := h.was_live hg
    · obtain ⟨rfl, rfl⟩ | ⟨hne', hg'⟩ := h.was_live hg'
      · rfl
      · exact absurd hkg (hforeign hne' hg' hkg')
    · obtain ⟨rfl, rfl⟩ | ⟨hne', hg'⟩ := h.was_live hg'
      · exact absurd hkg' (hforeign hne hg hkg)
      · exact hk.unique hg hg' hkg hkg'

/-- A flow loses its reply key; it gets a new one that belongs to no other flow, or is relayed. -/
theorem KeysOwned.rekey {added : Bool} (hk : KeysOwned d) (hb : Base d) (h : Rekey d d' f fv fv' fv.reply added)
    (hne : fv.org ≠ fv.reply) (hfree : fv'.reply = fv.reply ∨ Unowned d f fv'.reply)
    (hadd : added = true ∨ fv'.reply = fv.reply ∧ d'.relayed f = true)
    (hrel : ∀ g ≠ f, d'.relayed g = d.relayed g) : KeysOwned d' := by
  have hf' : d'.flows f = some fv' := by rw [h.flows, Table.add_self]
  have hold : ∀ {g gv}, g ≠ f → d.flows g = some gv → ¬ gv.HasKey fv.reply := by
    intro g gv hgf hg hkey
    exact hgf (hk.unique hg h.live hkey (.inr rfl))
  have hnew : ∀ {g gv}, g ≠ f → d.flows g = some gv → ¬ gv.HasKey fv'.reply := by
    intro g gv hgf hg
    rcases hfree with hr | hr
    · rw [hr]
      exact hold hgf hg
    · exact hr.not_hasKey hb hg hgf
  have hentry : ∀ {k g}, d'.flowTbl k = some g → (k = fv'.reply ∧ g = f) ∨ (k ≠ fv.reply ∧ d.flowTbl k = some g) := by
    intro k g hkg
    rw [h.flowTbl] at hkg
    cases added with
    | false =>
      simp only [Bool.false_eq_true, if_false, Table.del_eq_some] at hkg
      exact .inr hkg
    | true =>
      simp only [if_true, Table.add_eq_some, Table.del_eq_some] at hkg
      tauto
  have hkeep : ∀ {k g}, k ≠ fv.reply → (k = fv'.reply → g = f) → d.flowTbl k = some g → d'.flowTbl k = some g := by
    intro k g hr hr' hkg
    rw [h.flowTbl]
    cases added with
    | false => simpa only [Bool.false_eq_true, if_false, Table.del_of_ne hr] using hkg
    | true =>
      simp only [if_true, Table.add_eq_some, Table.del_eq_some]
      tauto
  refine { entry := ?_, org := ?_, reply := ?_, unique := ?_ }
  · intro k g hkg
    obtain ⟨rfl, rfl⟩ | ⟨hr, hkg⟩ := hentry hkg
    · exact ⟨fv', hf', .inr rfl⟩
    · obtain ⟨gv, hg, hkey⟩ := hk.entry k g hkg
      by_cases hgf : g = f
      · subst hgf
        rw [h.live, Option.some.injEq] at hg
        subst hg
        exact ⟨fv', hf', .inl ((hkey.resolve_right hr).trans h.org.symm)⟩
      · exact ⟨gv, by rw [h.flows, Table.add_of_ne hgf, hg], hkey⟩
  · intro g gv hg
    obtain ⟨rfl, rfl⟩ | ⟨hgf, hg⟩ := h.was_live hg
    · rw [h.org]
      exact hkeep hne (fun _ => rfl) (hk.org g fv h.live)
    · exact hkeep (fun he => hold hgf hg (.inl he.symm)) (fun he => absurd (.inl he.symm) (hnew hgf hg))
        (hk.org g gv hg)
  · intro g gv hg hr
    obtain ⟨rfl, rfl⟩ | ⟨hgf, hg⟩ := h.was_live hg
    · rcases hadd with rfl | ⟨-, hrt⟩
      · rw [h.flowTbl, if_pos rfl, Table.add_self]
      · rw [hrt] at hr
        cases hr
    · rw [hrel g hgf] at hr
      exact hkeep (fun he => hold hgf hg (.inr he.symm)) (fun he => absurd (.inr he.symm) (hnew hgf hg))
        (hk.reply g gv hg hr)
  · have hshared : ∀ {g gv k}, g ≠ f → d.flows g = some gv → gv.HasKey k → ¬ fv'.HasKey k := by
      intro g gv k hgf hg hkg hkf
      rcases hkf with rfl | rfl
      · rw [h.org] at hkg
        exact hgf (hk.unique hg h.live hkg (.inl rfl))
      · exact hnew hgf hg hkg
    intro g g' gv gv' k hg hg' hkg hkg'
    obtain ⟨rfl, rfl⟩ | ⟨hgf, hg⟩ := h.was_live hg
    · obtain ⟨rfl, rfl⟩ | ⟨hgf', hg'⟩ := h.was_live hg'
      · rfl
      · exact absurd hkg (hshared hgf' hg' hkg')
    · obtain ⟨rfl, rfl⟩ | ⟨hgf', hg'⟩ := h.was_live hg'
      · exact absurd hkg' (hshared hgf hg hkg)
      · exact hk.unique hg hg' hkg hkg'

theorem KeysOwned.setPorts (hk : KeysOwned d) (ports : NatPorts) : KeysOwned { d with ports := ports } :=
  ⟨⟨hk.entry, hk.org, hk.reply⟩, hk.unique⟩

/-- NAT64 of TCP and UDP deletes the reply key that the flow has. -/
theorem natOldReply_eq (hconv : m.df.l3Type = .ipv6 → nat64Converts m = true)
    (hicmp : m.df.l3Type = .ipv6 → m.df.l4Type ≠ ipprotoIcmpv6) : natOldReply m fv = fv.reply := by
  unfold natOldReply
  split
  next h6 =>
    have hc := hconv h6
    have hi := hicmp h6
    have htu : m.df.l4Type = ipprotoTcp ∨ m.df.l4Type = ipprotoUdp := by
      simp [nat64Converts, hi] at hc
      exact hc.2
    rcases htu with h | h <;> simp +decide [nat64OldReply, nat64L4Type, h]
  · rfl

theorem KeysOwned.effect {s : Service} (hk : KeysOwned s.dpl) (hb : Base s.dpl) (hP : KeysFree cf s e n m)
    (h : Effect cf e s.cfg s.dpl n m d') : KeysOwned d' := by
  obtain ⟨hnew, hrelay, hvip, hnat⟩ := hP
  cases h with
  | insert key fv turn h => exact hk.insert hb h (hnew key turn)
  | relay f fv fv' turn h _ hrel hr _ =>
    refine hk.rekey hb h (hrelay _ turn) (.inl hr) (.inr ⟨hr, ?_⟩) fun g hg => ?_
    · rw [hrel, Function.update_self]
    · rw [hrel, Function.update_of_ne hg]
  | vip f fv fv' turn h _ hrel _ _ =>
    obtain ⟨hok, hne, hfree⟩ := hvip _ turn
    exact hk.rekey hb h hne (.inr hfree) (.inl hok) fun g _ => by rw [hrel]
  | natFail f fv r _ _ h => exact (hk.setPorts _).quiet h
  | nat64Fail f fv r p ports _ _ _ _ h =>
    subst h
    exact hk.setPorts _
  | nat f fv fv' r p ports turn hconv halloc h _ hrel _ _ hr _ =>
    obtain ⟨hok, hne, hfree, hicmp⟩ := hnat _ turn p halloc.candidate.1
    rw [natOldReply_eq hconv hicmp] at h
    exact hk.rekey hb h hne (.inr (hr ▸ hfree)) (.inl hok) fun g _ => by rw [hrel]

/-- After a flow was released, no entry leads to it. -/
theorem Consistent.freed (hc : Consistent d) (h : dpFreeFlow d f = some d') (k : FlowKey) : d'.flowTbl k ≠ some f := by
  obtain ⟨fv, hf, -, htbl, -⟩ := dpFreeFlow_eq h
  intro hkf
  rw [htbl, Table.del_eq_some, Table.del_eq_some] at hkf
  obtain ⟨hr, ho, hkf⟩ := hkf
  obtain ⟨gv, hg, hkey⟩ := hc.entry k f hkf
  rw [hf, Option.some.injEq] at hg
  subst hg
  exact hkey.elim ho hr

end Steps

/-- **The flow table and the flows agree** in every run in which no node is about to take or delete a wrong key. -/
theorem flow_table_consistent {cf : Conf} {es : List Event} {s : Service}
    (hP : Along (step cf) (OnWalk (KeysFree cf)) (Service.init cf) es)
    (h : run (step cf) (Service.init cf) es = some s) :
    Consistent s.dpl ∧ ∀ f d', dpFreeFlow s.dpl f = some d' → ∀ k, d'.flowTbl k ≠ some f := by
  have hk : KeysOwned s.dpl := dataplane_run .init (fun _ _ _ hk hq => hk.quiet hq) (fun _ _ _ _ hk hf => hk.free hf)
    (fun _ _ _ _ _ hb _ hk hP he => hk.effect hb hP he) hP h
  exact ⟨hk.toConsistent, fun f d' hf k => hk.toConsistent.freed hf k⟩

/-- A TCP connection that leaves through NAT. -/
theorem flow_table_consistent_tcp :
    ∃ s, run (step smallConf) (Service.init smallConf) (requests natSetup ++ passes tcpPacket 8) = some s ∧
      (∃ fv, s.dpl.flows 0 = some fv ∧ fv.natType = .networkLocal) ∧
      Consistent s.dpl ∧ ∀ f d', dpFreeFlow s.dpl f = some d' → ∀ k, d'.flowTbl k ≠ some f := by
  refine exists_some_imp (P := fun s => ∃ fv, s.dpl.flows 0 = some fv ∧ fv.natType = .networkLocal)
    (by decide +kernel) ?_
  intro s hs hnat
  exact ⟨hnat, flow_table_consistent (by decide +kernel) hs⟩

/-- After the first echo request through NAT64, the table has an entry that is not a key of the flow it leads to. -/
theorem flow_table_stale_entry :
    ∃ s, run (step smallConf) (Service.init smallConf) (requests natSetup ++ passes (nat64Ping 1) 8) = some s ∧
      ¬ Consistent s.dpl := by
  refine exists_some_imp (P := fun s => ∃ fv, s.dpl.flows 0 = some fv ∧
    s.dpl.flowTbl (dpInvertFlowKey fv.org) = some 0 ∧ ¬ fv.HasKey (dpInvertFlowKey fv.org)) (by decide +kernel) ?_
  rintro s - ⟨fv, hf, hk, hkey⟩ hc
  obtain ⟨gv, hg, hown⟩ := hc.entry _ 0 hk
  cases hf.symm.trans hg
  exact hkey hown

end Dpservice
