import Dpservice.RefNodes

/-!
# Flows of a service without offloading

Where offloading is disabled, the table holds the only reference to a flow, so that a flow is freed as soon as that
reference is dropped.

- `Frees`: the passes over the flow table free flows and do nothing else, and a removal pass leaves none of the entries
  it visits that it applies to (`dpRemoveFlows_spec`, `dpProcessFlowAging_frees`);
- `Plain`: in every state of a run, flows have one reference, and packets in flight lead to live flows (`plain_run`).
-/

namespace Dpservice

open Relation (ReflTransGen)

/-! ## Passes free flows -/

def FreeStep (d d' : Dataplane) : Prop := ∃ f, dpFreeFlow d f = some d'

/-- Some flows are freed, nothing else happens. -/
abbrev Frees : Dataplane → Dataplane → Prop := ReflTransGen FreeStep

/-- Every flow has the reference of the table only. -/
def AllFresh (cf : Conf) (d : Dataplane) : Prop := ∀ f fv, d.flows f = some fv → fv.Fresh cf

section Frees

variable {cf : Conf} {e : Env} {d d' : Dataplane} {f : ℕ} {fv : FlowValue} {k : FlowKey} {r : FlowRemoval}
  {order : List FlowKey}

theorem Frees.flows (h : Frees d d') : d'.flows f = some fv → d.flows f = some fv := by
  induction h with
  | refl => exact id
  | tail _ hstep ih =>
    obtain ⟨g, hg⟩ := hstep
    obtain ⟨gv, -, hflows, -⟩ := dpFreeFlow_eq hg
    intro hf
    rw [hflows] at hf
    exact ih (Table.del_eq_some.mp hf).2

theorem Frees.tbl (h : Frees d d') : d'.flowTbl k = some f → d.flowTbl k = some f := by
  induction h with
  | refl => exact id
  | tail _ hstep ih =>
    obtain ⟨g, hg⟩ := hstep
    obtain ⟨gv, -, -, htbl, -⟩ := dpFreeFlow_eq hg
    intro hk
    rw [htbl] at hk
    exact ih (Table.del_eq_some.mp (Table.del_eq_some.mp hk).2).2

theorem AllFresh.frees (hd : AllFresh cf d) (h : Frees d d') : AllFresh cf d' := fun f fv hf => hd f fv (h.flows hf)

theorem AllFresh.keeps (hd : AllFresh cf d) (h : KeepsRefs cf d d') : AllFresh cf d' := by
  intro f fv' hf'
  obtain ⟨fv, hf, hu⟩ | ⟨-, hnew⟩ := h.was_live f fv' hf'
  · exact (hd f fv hf).upd hu
  · exact hnew

/-- Without offloading no flow asks for a rule. -/
theorem AllFresh.noInstalls (hd : AllFresh cf d) : NoInstalls cf d := fun hoff f fv hf => (hd f fv hf).noInstall hoff

/-- Dropping the only reference frees the flow. -/
theorem dpAgeOutFlow_fresh (hd : AllFresh cf d) (hf : d.flows f = some fv) : dpAgeOutFlow d f = dpFreeFlow d f := by
  have hone : fv.refCount - 1 = 0 := by
    rw [(hd f fv hf).refCount]
    rfl
  simp only [dpAgeOutFlow, hf, dpRefDec, Dataplane.setFlow, Table.add_self, if_pos hone, dpFreeFlow, Table.del_add]
  rfl

/-- Without offloading a removed flow is freed. -/
theorem dpRemoveFlow_off (hoff : cf.offloadEnabled = false) (hd : AllFresh cf d) (hf : d.flows f = some fv) :
    dpRemoveFlow cf d f = dpFreeFlow d f := by
  unfold dpRemoveFlow
  rw [hoff]
  exact dpAgeOutFlow_fresh hd hf

/-- A visit frees the flow of the entry, if the pass applies to it. -/
theorem dpRemoveEntry_frees (hoff : cf.offloadEnabled = false) (hd : AllFresh cf d)
    (h : dpRemoveEntry cf r d k = some d') : Frees d d' ∧
      ∀ f fv, d'.flowTbl k = some f → d'.flows f = some fv → r.hits k fv = false := by
  unfold dpRemoveEntry at h
  cases hk : d.flowTbl k with
  | none =>
    rw [hk] at h
    cases h
    exact ⟨.refl, fun f fv hk' => by rw [hk] at hk'; cases hk'⟩
  | some f =>
    rw [hk] at h
    dsimp only at h
    split at h
    · cases h
    next fv hf =>
      split at h
      next hhit =>
        rw [dpRemoveFlow_off hoff hd hf] at h
        have hfree : Frees d d' := .single ⟨f, h⟩
        refine ⟨hfree, fun g gv hg hgv => ?_⟩
        have hgf : g = f := Option.some.inj ((hfree.tbl hg).symm.trans hk)
        obtain ⟨_, -, hflows, -⟩ := dpFreeFlow_eq h
        rw [hgf, hflows, Table.del_self] at hgv
        cases hgv
      next hmiss =>
        cases h
        refine ⟨.refl, fun g gv hg hgv => ?_⟩
        rw [hk, Option.some.injEq] at hg
        subst hg
        rw [hf, Option.some.injEq] at hgv
        exact hgv ▸ Bool.eq_false_iff.mpr hmiss

/-- A pass only frees flows, and leaves none of those it is for. -/
theorem dpRemoveFlows_spec (hoff : cf.offloadEnabled = false) (hd : AllFresh cf d)
    (h : dpRemoveFlows cf r d order = some d') : Frees d d' ∧
      ∀ k ∈ order, ∀ f fv, d'.flowTbl k = some f → d'.flows f = some fv → r.hits k fv = false := by
  induction order generalizing d with
  | nil =>
    cases h
    exact ⟨.refl, fun k hk => absurd hk List.not_mem_nil⟩
  | cons k order ih =>
    obtain ⟨d₁, h₁, h₂⟩ := Option.bind_eq_some_iff.mp h
    obtain ⟨hfree₁, hdone₁⟩ := dpRemoveEntry_frees hoff hd h₁
    obtain ⟨hfree₂, hdone₂⟩ := ih (hd.frees hfree₁) h₂
    refine ⟨hfree₁.trans hfree₂, fun k' hk' => ?_⟩
    rcases List.mem_cons.mp hk' with rfl | hk'
    · exact fun f fv hk hf => hdone₁ f fv (hfree₂.tbl hk) (hfree₂.flows hf)
    · exact hdone₂ k' hk'

/-- The passes of a request, one after the other. -/
theorem removals_spec {rs : List FlowRemoval} (hoff : cf.offloadEnabled = false) (hd : AllFresh cf d)
    (h : rs.foldlM (fun d r => dpRemoveFlows cf r d order) d = some d') : Frees d d' ∧
      ∀ r ∈ rs, ∀ k ∈ order, ∀ f fv, d'.flowTbl k = some f → d'.flows f = some fv → r.hits k fv = false := by
  induction rs generalizing d with
  | nil =>
    cases h
    exact ⟨.refl, fun r hr => absurd hr List.not_mem_nil⟩
  | cons r rs ih =>
    obtain ⟨d₁, h₁, h₂⟩ := Option.bind_eq_some_iff.mp h
    obtain ⟨hfree₁, hdone₁⟩ := dpRemoveFlows_spec hoff hd h₁
    obtain ⟨hfree₂, hdone₂⟩ := ih (hd.frees hfree₁) h₂
    refine ⟨hfree₁.trans hfree₂, fun r' hr' => ?_⟩
    rcases List.mem_cons.mp hr' with rfl | hr'
    · exact fun k hk f fv hkf hf => hdone₁ k hk f fv (hfree₂.tbl hkf) (hfree₂.flows hf)
    · exact hdone₂ r' hr'

theorem dpProcessFlowAging_frees {ctxs : List ℕ} (hoff : cf.offloadEnabled = false) (hd : AllFresh cf d)
    (h : dpProcessFlowAging cf e d ctxs order = some d') : Frees d d' := by
  unfold dpProcessFlowAging at h
  simp only [hoff, Bool.false_eq_true, if_false] at h
  refine foldlM_invariant (I := fun d' => Frees d d') (fun v _ d₁ d₂ h₁ hstep => ?_) .refl h
  unfold dpAgeEntry at hstep
  split at hstep
  · cases hstep
    exact h₁
  next f hk =>
    simp only [hoff, Bool.false_and, Bool.false_eq_true, if_false] at hstep
    split at hstep
    · cases hstep
    next fv hf =>
      split at hstep
      · rw [dpAgeOutFlow_fresh (hd.frees h₁) hf] at hstep
        exact h₁.tail ⟨f, hstep⟩
      · cases hstep
        exact h₁

end Frees

/-! ## Runs -/

/-- Flows have one reference; packets in flight come from started ports, lead to live flows and ask for no rule. -/
structure Plain (cf : Conf) (s : Service) : Prop where
  tracked : Tracked s
  fresh : AllFresh cf s.dpl
  pkts : ∀ p ∈ s.inflight, p.1.leaves = false ∧ (s.cfg.port p.2.port).allocated = true ∧
    (p.1 ≠ .cls → PktLive s.dpl p.2 ∧ NoRule p.2)

/-- A condition on the request that is about to be handled. -/
def OnRequest (P : Service → Request → Prop) (s : Service) : Event → Prop
  | .request r _ _ => P s r
  | _ => True

instance {P : Service → Request → Prop} [∀ s r, Decidable (P s r)] (s : Service) : ∀ ev, Decidable (OnRequest P s ev)
  | .request r _ _ => inferInstanceAs (Decidable (P s r))
  | .rx _ | .walk .. | .flowAging .. => .isTrue trivial

/-- The passes of a request or timer see every entry of the flow table, as `rte_hash_iterate` does. -/
def Iterates (s : Service) : Event → Prop
  | .request _ _ order | .flowAging _ _ order => ∀ k f, s.dpl.flowTbl k = some f → k ∈ order
  | _ => True

section Runs

variable {cf : Conf} {s s' : Service} {ev : Event} {es : List Event}

theorem Plain.init (cf : Conf) : Plain cf (Service.init cf) where
  tracked := .init cf
  fresh _ _ h := by cases h
  pkts _ hp := absurd hp List.not_mem_nil

theorem AllFresh.lb {d : Dataplane} (h : AllFresh cf d) (l : LbState) : AllFresh cf { d with lb := l } := h

/-- A step without offloading. -/
theorem Plain.step (hoff : cf.offloadEnabled = false) (h : Plain cf s) (hs : step cf s ev = some s') : Plain cf s' := by
  have ht := h.tracked.step hs
  cases step_cases hs with
  | rx m hal =>
    refine ⟨ht, h.fresh, fun p hp => ?_⟩
    rcases List.mem_append.mp hp with hp | hp
    · exact h.pkts p hp
    · rw [List.mem_singleton.mp hp]
      exact ⟨rfl, hal, fun hne => absurd rfl hne⟩
  | walk hi hr =>
    have hmem := List.mem_of_getElem? hi
    obtain ⟨-, hal, hpkt⟩ := h.pkts _ hmem
    have hres := runNode_keeps h.tracked.base (h.tracked.pkts _ hmem) (fun htx => (hpkt (htx ▸ nofun)).2) hr
    refine ⟨ht, h.fresh.keeps hres.keeps, fun p hp => ?_⟩
    rcases mem_inflight_walk hp with hp | ⟨hstays, rfl⟩
    · obtain ⟨hl, ha, hk⟩ := h.pkts p hp
      exact ⟨hl, ha, fun hne => ⟨(hk hne).1.keeps hres.keeps (.refl _), (hk hne).2⟩⟩
    · refine ⟨hstays, by rw [hres.port]; exact hal, fun _ => ⟨?_, ?_⟩⟩
      · exact hres.live (fun hne => (hpkt hne).1) hstays
      · exact hres.noRule hstays hoff h.fresh.noInstalls fun hne => (hpkt hne).2
  | @request _ _ _ o _ hnil _ hd =>
    refine ⟨ht, (h.fresh.lb o.lb).frees (removals_spec hoff (h.fresh.lb o.lb) hd).1, fun p hp => ?_⟩
    rw [hnil] at hp
    exact absurd hp List.not_mem_nil
  | flowAging hnil hd =>
    refine ⟨ht, h.fresh.frees (dpProcessFlowAging_frees hoff h.fresh hd), fun p hp => ?_⟩
    rw [hnil] at hp
    exact absurd hp List.not_mem_nil

/-- **Without offloading, every flow has one reference** and packets in flight lead to live flows. -/
theorem plain_run (hoff : cf.offloadEnabled = false) (h : run (step cf) (Service.init cf) es = some s) : Plain cf s :=
  run_invariant (P := fun _ _ => True) (fun _ _ _ hp _ hs => hp.step hoff hs) (.init cf) (along_true _ _) h

end Runs

end Dpservice
