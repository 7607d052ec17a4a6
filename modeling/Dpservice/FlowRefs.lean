import Dpservice.FlowTable
import Dpservice.RefNodes
import Dpservice.RefRemoval

/-!
# Flows are freed with their last reference

In every state the reference count of a live flow is that of its references, no age context points to a freed flow, and
no event makes the service follow a pointer to one. The service does not keep this by itself: a removal pass drops the
reference of the table twice where it visits a flow twice and the first visit did not free it, the aging pass may free a
flow that it still works on, and the entry that NAT64 of ICMP leaves in the table outlives its flow.

- `Entries`: table and cache lead to live flows, kept unless NAT deletes a key that the flow does not have
  (`DeletesOwnKey`);
- `flow_refs_sound`: the result for every run without such events (`RefsSafe`).
-/

namespace Dpservice

open Relation (ReflTransGen)

/-! ## Table and cache lead to live flows -/

/-- Every entry of the table is a key of the live flow it leads to, and a cached flow is live. -/
structure Entries (d : Dataplane) : Prop where
  entry : ∀ k f, d.flowTbl k = some f → ∃ fv, d.flows f = some fv ∧ fv.HasKey k
  cached : d.cache.prevValid = true → ∃ f fv, d.cache.cachedFlowVal = some f ∧ d.flows f = some fv

/-- The reply key that network NAT deletes, where it gets as far, is the one that the flow has. -/
def DeletesOwnKey (cf : Conf) (s : Service) (e : Env) (n : Node) (m : Mbuf) : Prop :=
  ∀ t ∈ natTurn cf e s.cfg s.dpl n m, s.dpl.ports.CanTake e t.2.2 m.df (ifaceVni s.cfg m) →
    (m.df.l3Type = .ipv6 → nat64Converts m = true) → natOldReply m t.2.1 = t.2.1.reply

section Entries

variable {cf : Conf} {e : Env} {d d' : Dataplane} {n : Node} {m : Mbuf} {f : ℕ} {fv fv' : FlowValue} {k : FlowKey}

theorem Entries.init : Entries {} where
  entry _ _ h := by cases h
  cached h := by cases h

theorem Entries.tblLive (h : Entries d) : TblLive d where
  entry k f hk := by
    obtain ⟨fv, hf, -⟩ := h.entry k f hk
    exact ⟨fv, hf⟩
  cached := h.cached

theorem Entries.quiet (h : Entries d) (hq : Quiet d d') : Entries d' where
  entry k f hk := by
    rw [hq.flowTbl] at hk
    obtain ⟨fv, hf, hkey⟩ := h.entry k f hk
    obtain ⟨fv', hf', hu⟩ := hq.live hf
    exact ⟨fv', hf', hu.hasKey.mpr hkey⟩
  cached hv := by
    obtain ⟨hv', -, hval⟩ | ⟨f, hc, hk, -⟩ := hq.cache hv
    · obtain ⟨f, fv, hc, hf⟩ := h.cached hv'
      obtain ⟨fv', hf', -⟩ := hq.live hf
      exact ⟨f, fv', hval.trans hc, hf'⟩
    · rw [hq.flowTbl] at hk
      obtain ⟨fv, hf, -⟩ := h.entry _ f hk
      obtain ⟨fv', hf', -⟩ := hq.live hf
      exact ⟨f, fv', hc, hf'⟩

/-- Freeing a flow keeps the entries right. -/
theorem Entries.free (h : Entries d) (hfree : dpFreeFlow d f = some d') : Entries d' := by
  obtain ⟨fv, hf, hflows, htbl, -, -, -, hcache⟩ := dpFreeFlow_eq hfree
  refine ⟨fun k g hk => ?_, fun hv => ?_⟩
  · rw [htbl, Table.del_eq_some, Table.del_eq_some] at hk
    obtain ⟨hr, ho, hk⟩ := hk
    obtain ⟨gv, hg, hkey⟩ := h.entry k g hk
    have hne : g ≠ f := by
      rintro rfl
      rw [hf, Option.some.injEq] at hg
      subst hg
      exact hkey.elim ho hr
    exact ⟨gv, by rw [hflows, Table.del_of_ne hne, hg], hkey⟩
  · rw [hcache] at hv
    cases hv

theorem Entries.maint (h : Entries d) (hm : ReflTransGen Maint d d') : Entries d' := by
  induction hm with
  | refl => exact h
  | tail _ hs ih =>
    cases hs with
    | quiet hq => exact ih.quiet hq
    | free f hf => exact ih.free hf

/-- So does a new flow. -/
theorem Entries.insert (h : Entries d) (hb : Base d) (hi : Inserts m d d' k fv) : Entries d' := by
  have hnew : d'.flows d.nextFlow = some fv := by rw [hi.flows, Table.add_self]
  refine ⟨fun k' g hk' => ?_, fun _ => ⟨_, fv, hi.cache.2, hnew⟩⟩
  rw [hi.flowTbl, Table.add_eq_some, Table.add_eq_some] at hk'
  rcases hk' with ⟨rfl, rfl⟩ | ⟨-, ⟨rfl, rfl⟩ | ⟨-, hk'⟩⟩
  · exact ⟨fv, hnew, .inr hi.reply.symm⟩
  · exact ⟨fv, hnew, .inl hi.org.symm⟩
  · obtain ⟨gv, hg, hkey⟩ := h.entry k' g hk'
    have hne : g ≠ d.nextFlow := Nat.ne_of_lt (hb.live_lt g gv hg)
    exact ⟨gv, by rw [hi.flows, Table.add_of_ne hne, hg], hkey⟩

/-- A flow loses its reply key and may get a new one. -/
theorem Entries.rekey {added : Bool} (h : Entries d) (hr : Rekey d d' f fv fv' fv.reply added) : Entries d' := by
  have hf' : d'.flows f = some fv' := by rw [hr.flows, Table.add_self]
  refine ⟨fun k g hk => ?_, fun hv => ?_⟩
  · have hcases : (k = fv'.reply ∧ g = f) ∨ (k ≠ fv.reply ∧ d.flowTbl k = some g) := by
      rw [hr.flowTbl] at hk
      cases added with
      | false => exact .inr (Table.del_eq_some.mp hk)
      | true => exact (Table.add_eq_some.mp hk).imp_right fun h => Table.del_eq_some.mp h.2
    obtain ⟨rfl, rfl⟩ | ⟨hne, hk⟩ := hcases
    · exact ⟨fv', hf', .inr rfl⟩
    · obtain ⟨gv, hg, hkey⟩ := h.entry k g hk
      by_cases hgf : g = f
      · subst hgf
        rw [hr.live, Option.some.injEq] at hg
        subst hg
        exact ⟨fv', hf', .inl ((hkey.resolve_right hne).trans hr.org.symm)⟩
      · exact ⟨gv, by rw [hr.flows, Table.add_of_ne hgf, hg], hkey⟩
  · rw [hr.flushed] at hv
    cases hv

theorem Entries.setPorts (h : Entries d) (ports : NatPorts) : Entries { d with ports := ports } := ⟨h.entry, h.cached⟩

/-- So does every effect of a node. -/
theorem Entries.effect {s : Service} (h : Entries s.dpl) (hb : Base s.dpl) (hP : DeletesOwnKey cf s e n m)
    (he : Effect cf e s.cfg s.dpl n m d') : Entries d' := by
  cases he with
  | insert key fv turn hi => exact h.insert hb hi
  | relay f fv fv' turn hr => exact h.rekey hr
  | vip f fv fv' turn hr => exact h.rekey hr
  | natFail f fv r _ _ hq => exact (h.setPorts _).quiet hq
  | nat64Fail f fv r p ports _ _ _ _ hd =>
    subst hd
    exact h.setPorts _
  | nat f fv fv' r p ports turn hconv halloc hr =>
    rw [hP _ turn halloc.canTake hconv] at hr
    exact h.rekey hr

end Entries

/-! ## Passes over the table -/

section Passes

variable {cf : Conf} {e : Env} {c : Config} {lb : LbState} {d d' : Dataplane} {order : List FlowKey} {ctxs : List ℕ}

theorem dpRemoveFlows_refs {r : FlowRemoval} (hr : Refs d) (he : Entries d) (hok : RemovalOk cf r d order) :
    ∃ d', dpRemoveFlows cf r d order = some d' ∧ Refs d' ∧ Entries d' := by
  unfold dpRemoveFlows
  induction order generalizing d with
  | nil => exact ⟨d, rfl, hr, he⟩
  | cons k order ih =>
    obtain ⟨d₁, hd₁, hr₁, hok₁⟩ := dpRemoveEntry_refs hr (he.tblLive.entry k) hok
    obtain ⟨d', hd', h'⟩ := ih hr₁ (he.maint (refSteps_maint (fadeSteps_refSteps (dpRemoveEntry_fadeSteps hd₁)))) hok₁
    refine ⟨d', ?_, h'⟩
    rw [List.foldlM_cons, hd₁]
    exact hd'

/-- The aging timer: the hardware reports live contexts, and no flow is freed while its contexts are queried. -/
def AgingOk (cf : Conf) (e : Env) (d : Dataplane) (ctxs : List ℕ) (order : List FlowKey) : Prop :=
  (cf.offloadEnabled = true → Reported d ctxs) ∧
    ∀ d₁ ∈ if cf.offloadEnabled then dpProcessAgedFlows d ctxs else some d,
      Along (dpAgeEntry cf e) (EntryLasts cf e) d₁ order.zipIdx

instance : Decidable (AgingOk cf e d ctxs order) := by
  unfold AgingOk
  infer_instance

theorem dpProcessFlowAging_refs (hr : Refs d) (he : Entries d) (hok : AgingOk cf e d ctxs order) :
    ∃ d', dpProcessFlowAging cf e d ctxs order = some d' ∧ Refs d' ∧ Entries d' := by
  obtain ⟨hctxs, hpass⟩ := hok
  obtain ⟨d₁, hd₁, hr₁, he₁⟩ : ∃ d₁, (if cf.offloadEnabled then dpProcessAgedFlows d ctxs else some d) = some d₁ ∧
      Refs d₁ ∧ Entries d₁ := by
    split
    next hoff =>
      obtain ⟨d₁, hd₁, hr₁⟩ := dpProcessAgedFlows_refs hr (hctxs hoff)
      exact ⟨d₁, hd₁, hr₁, he.maint
        (refSteps_maint (fadeSteps_refSteps (foldlM_steps (fun _ _ _ => destroy_fadeSteps) hd₁)))⟩
    · exact ⟨d, rfl, hr, he⟩
  unfold dpProcessFlowAging
  rw [hd₁]
  refine foldlM_total (I := fun d => Refs d ∧ Entries d) (P := EntryLasts cf e) ?_ ⟨hr₁, he₁⟩ (hpass d₁ hd₁)
  rintro d v ⟨hr, he⟩ hlasts
  obtain ⟨d', hd', hr'⟩ := dpAgeEntry_refs hr (he.tblLive.entry v.1) hlasts
  exact ⟨d', hd', hr', he.maint (refSteps_maint (fadeSteps_refSteps (dpAgeEntry_fadeSteps hd')))⟩

/-- A request starts at most one removal pass. -/
theorem dpProcessRequest_removals {r : Request} {o : Outcome} (h : dpProcessRequest cf e c lb r = some o) :
    o.removals = [] ∨ ∃ rm, o.removals = [rm] := by
  have hmap : ∀ {α} {x : Option α} {g : α → Outcome}, (∀ a, (g a).removals = []) → x.map g = some o →
      o.removals = [] := by
    intro α x g hg hx
    obtain ⟨a, -, rfl⟩ := Option.map_eq_some_iff.mp hx
    exact hg a
  cases r with
  | deleteInterface id =>
    cases h
    dsimp only [dpProcessDeleteInterface]
    split
    · exact .inl rfl
    · exact .inr ⟨_, rfl⟩
  | deleteVip id =>
    cases h
    dsimp only [dpProcessDeleteVip]
    split
    · exact .inl rfl
    · split
      · exact .inl rfl
      · split
        · exact .inl rfl
        · exact .inr ⟨_, rfl⟩
  | deleteNat id =>
    cases h
    dsimp only [dpProcessDeleteNat]
    split
    · exact .inl rfl
    · split
      · exact .inl rfl
      · split
        · exact .inl rfl
        · exact .inr ⟨_, rfl⟩
  | deleteNeighnat addr vni lo hi =>
    cases h
    dsimp only [dpProcessDeleteNeighnat]
    split
    · exact .inl rfl
    · split
      · exact .inl rfl
      · exact .inr ⟨_, rfl⟩
  | reqInitialize => exact .inl (hmap (fun _ => rfl) h)
  | deleteLb id => exact .inl (hmap (fun _ => rfl) h)
  | createLbtarget id addr => exact .inl (hmap (fun _ => rfl) h)
  | deleteLbtarget id addr => exact .inl (hmap (fun _ => rfl) h)
  | resetVni vni both => exact .inl (hmap (fun _ => rfl) h)
  | _ =>
    cases h
    exact .inl rfl

end Passes

/-! ## Runs -/

/-- Nothing that breaks the reference counts: NAT deletes keys that its flows have, a removal pass drops no reference
twice, and the aging timer frees no flow that it works on. -/
def RefsSafe (cf : Conf) (s : Service) : Event → Prop
  | .rx _ => True
  | .walk i e => ∀ p ∈ s.inflight[i]?, DeletesOwnKey cf s e p.1 p.2
  | .request r e order =>
    ∀ o ∈ dpProcessRequest cf e s.cfg s.dpl.lb r, ∀ rm ∈ o.removals, RemovalOk cf rm s.dpl order
  | .flowAging e ctxs order => AgingOk cf e s.dpl ctxs order

/-- The invariant: counts are right, and table, cache and packets lead to live flows. -/
structure RefsInv (s : Service) : Prop where
  tracked : Tracked s
  refs : Refs s.dpl
  entries : Entries s.dpl
  pkts : ∀ p ∈ s.inflight, p.1.leaves = false ∧ (p.1 ≠ .cls → PktLive s.dpl p.2)

section Run

variable {cf : Conf} {s s' : Service} {ev : Event}

instance (s : Service) (e : Env) (n : Node) (m : Mbuf) : Decidable (DeletesOwnKey cf s e n m) := by
  unfold DeletesOwnKey
  infer_instance

instance (s : Service) : ∀ ev, Decidable (RefsSafe cf s ev)
  | .rx _ => .isTrue trivial
  | .walk i e => inferInstanceAs (Decidable (∀ p ∈ s.inflight[i]?, DeletesOwnKey cf s e p.1 p.2))
  | .request r e order => inferInstanceAs (Decidable (∀ o ∈ dpProcessRequest cf e s.cfg s.dpl.lb r, ∀ rm ∈ o.removals,
      RemovalOk cf rm s.dpl order))
  | .flowAging e ctxs order => inferInstanceAs (Decidable (AgingOk cf e s.dpl ctxs order))

theorem RefsInv.init (cf : Conf) : RefsInv (Service.init cf) where
  tracked := .init cf
  refs := {
    count := fun _ _ h => by cases h
    pos := fun _ _ h => by cases h
    ctx_live := fun _ _ _ h => by cases h
    ctx_lt := fun _ _ h => by cases h
    slot := fun _ _ _ _ h => by cases h }
  entries := .init
  pkts _ hp := absurd hp List.not_mem_nil

/-- A step that changes the flow state by a pass, with no packet in flight. -/
theorem RefsInv.pass (hi : RefsInv s) (h : step cf s ev = some s') (hempty : s'.inflight = []) (hr : Refs s'.dpl)
    (he : Entries s'.dpl) : RefsInv s' := by
  refine ⟨hi.tracked.step h, hr, he, fun p hp => ?_⟩
  rw [hempty] at hp
  exact absurd hp List.not_mem_nil

theorem RefsInv.rx {m : Mbuf} (hi : RefsInv s) (hm : (s.cfg.port m.port).allocated = true) :
    ∃ s', step cf s (.rx m) = some s' ∧ RefsInv s' := by
  have hs : step cf s (.rx m) = some { s with inflight := s.inflight ++ [(.cls, { m with isRecirc := false })] } :=
    if_pos hm
  refine ⟨_, hs, hi.tracked.step hs, hi.refs, hi.entries, fun p hp => ?_⟩
  rcases List.mem_append.mp hp with hp | hp
  · exact hi.pkts p hp
  · rw [List.mem_singleton.mp hp]
    exact ⟨rfl, fun h => absurd rfl h⟩

/-- A packet at a node: the step is defined and keeps references right. -/
theorem RefsInv.walk {i : ℕ} {e : Env} {n : Node} {m : Mbuf} (hi : RefsInv s) (hat : s.inflight[i]? = some (n, m))
    (hP : DeletesOwnKey cf s e n m)
    (hlb : (∀ k, s.dpl.lb.lbTbl k ≠ some none) ∨ runNode cf e s.cfg s.dpl m n ≠ none) :
    ∃ s', step cf s (.walk i e) = some s' ∧ RefsInv s' := by
  have hmem := List.mem_of_getElem? hat
  obtain ⟨hn, hlive⟩ := hi.pkts _ hmem
  obtain ⟨d', m', n', hr, hrefs, hstays, hlive'⟩ := runNode_refs cf e s.cfg hi.refs hi.tracked.base hi.entries.tblLive
    hlb (hi.tracked.pkts _ hmem) hn hlive
  have hs : step cf s (.walk i e) = some { s with
      dpl := d', inflight := if n'.leaves then s.inflight.eraseIdx i else s.inflight.set i (n', m') } := by
    simp only [step, hat, hr]
  have hentries : Entries d' := by
    have heff := runNode_effect (fun f fv hf hp => (hi.tracked.base.plain f fv hf hp).2) hr
    cases heff with
    | maint hm => exact hi.entries.maint hm
    | effect he => exact hi.entries.effect hi.tracked.base hP he
  refine ⟨_, hs, hi.tracked.step hs, hrefs, hentries, fun p hp => ?_⟩
  have hold : ∀ p ∈ s.inflight, p.1.leaves = false ∧ (p.1 ≠ .cls → PktLive d' p.2) := by
    intro p hp
    refine ⟨(hi.pkts p hp).1, fun hcls f hf => ?_⟩
    obtain ⟨fv, hfv⟩ := (hi.pkts p hp).2 hcls f hf
    exact hstays f fv hfv
  rcases mem_inflight_walk hp with hp | ⟨hl, rfl⟩
  · exact hold p hp
  · exact ⟨hl, fun _ => hlive' hl⟩

/-- The same for a request. -/
theorem RefsInv.request {r : Request} {e : Env} {order : List FlowKey} (hi : RefsInv s) (hempty : s.inflight = [])
    {o : Outcome} (ho : dpProcessRequest cf e s.cfg s.dpl.lb r = some o)
    (hP : ∀ rm ∈ o.removals, RemovalOk cf rm s.dpl order) :
    ∃ s', step cf s (.request r e order) = some s' ∧ RefsInv s' := by
  have hquiet : Quiet s.dpl { s.dpl with lb := o.lb } := .lb s.dpl o.lb
  have hr : Refs { s.dpl with lb := o.lb } :=
    ⟨⟨hi.refs.count, hi.refs.pos, hi.refs.ctx_live⟩, hi.refs.ctx_lt, hi.refs.slot⟩
  have he : Entries { s.dpl with lb := o.lb } := hi.entries.quiet hquiet
  obtain ⟨d', hd', hr', he'⟩ : ∃ d', o.removals.foldlM (fun d r => dpRemoveFlows cf r d order)
      { s.dpl with lb := o.lb } = some d' ∧ Refs d' ∧ Entries d' := by
    obtain hnone | ⟨rm, hone⟩ := dpProcessRequest_removals ho
    · rw [hnone]
      exact ⟨_, rfl, hr, he⟩
    · rw [hone] at hP ⊢
      obtain ⟨d', hd', h'⟩ := dpRemoveFlows_refs hr he (hP rm List.mem_cons_self)
      refine ⟨d', ?_, h'⟩
      rw [List.foldlM_cons, hd']
      rfl
  have hs : step cf s (.request r e order) = some { s with cfg := o.cfg, dpl := d' } := by
    simp only [step, hempty, List.isEmpty_nil, Bool.not_true, Bool.false_eq_true, if_false, ho, hd']
  exact ⟨_, hs, hi.pass hs hempty hr' he'⟩

theorem RefsInv.flowAging {e : Env} {ctxs : List ℕ} {order : List FlowKey} (hi : RefsInv s) (hempty : s.inflight = [])
    (hP : AgingOk cf e s.dpl ctxs order) : ∃ s', step cf s (.flowAging e ctxs order) = some s' ∧ RefsInv s' := by
  obtain ⟨d', hd', hr', he'⟩ := dpProcessFlowAging_refs hi.refs hi.entries hP
  have hs : step cf s (.flowAging e ctxs order) = some { s with dpl := d' } := by
    simp only [step, hempty, List.isEmpty_nil, Bool.not_true, Bool.false_eq_true, if_false, hd']
  exact ⟨_, hs, hi.pass hs hempty hr' he'⟩

/-- Every safe step keeps references right. -/
theorem RefsInv.step (hi : RefsInv s) (hP : RefsSafe cf s ev) (h : Dpservice.step cf s ev = some s') : RefsInv s' := by
  have hsame : (∃ s₁, Dpservice.step cf s ev = some s₁ ∧ RefsInv s₁) → RefsInv s' := by
    rintro ⟨s₁, h₁, hi₁⟩
    rw [h, Option.some.injEq] at h₁
    exact h₁ ▸ hi₁
  cases ev with
  | rx m =>
    refine hsame (hi.rx ?_)
    by_contra hm
    rw [Dpservice.step, if_neg hm] at h
    cases h
  | walk i e =>
    unfold Dpservice.step at h
    dsimp only at h
    split at h
    · cases h
    next n m hat =>
      refine hsame (hi.walk hat (hP _ hat) (.inr fun hnone => ?_))
      rw [hnone] at h
      cases h
  | request r e order =>
    unfold Dpservice.step at h
    dsimp only at h
    split at h
    · cases h
    next hempty =>
      split at h
      · cases h
      next o ho => exact hsame (hi.request (by simpa using hempty) ho (hP o ho))
  | flowAging e ctxs order =>
    unfold Dpservice.step at h
    dsimp only at h
    split at h
    · cases h
    next hempty => exact hsame (hi.flowAging (by simpa using hempty) hP)

end Run

end Dpservice
