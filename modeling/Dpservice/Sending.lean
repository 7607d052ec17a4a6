import Dpservice.RefNodes

/-!
# Sending a packet

The `tx` node marks the flow of a packet and, where connection tracking asked for it, hands the packet to the offload
handler. Neither touches the flow table or the translation of a flow: only references change (`txNode_only`,
`txNode_natType`).
-/

namespace Dpservice

/-- Only references changed, and those of the flow `f` are not fewer. -/
structure OnlyRefs (d d' : Dataplane) (f : ℕ) (fv fv' : FlowValue) : Prop where
  flowTbl : d'.flowTbl = d.flowTbl
  cache : d'.cache = d.cache
  live : d'.flows f = some fv'
  same : fv'.sansRefs = fv.sansRefs
  more : fv.refCount ≤ fv'.refCount

section Sending

variable {cf : Conf} {e : Env} {c : Config} {d d' : Dataplane} {m : Mbuf} {f a i : ℕ} {fv fv' : FlowValue}
  {p : PortId} {tcp : Bool} {x : AgeCtx}

theorem OnlyRefs.refl (hf : d.flows f = some fv) : OnlyRefs d d f fv fv := ⟨rfl, rfl, hf, rfl, Int.le_refl _⟩

theorem OnlyRefs.trans {d₁ d₂ d₃ : Dataplane} {fv₁ fv₂ fv₃ : FlowValue} (h : OnlyRefs d₁ d₂ f fv₁ fv₂)
    (h' : OnlyRefs d₂ d₃ f fv₂ fv₃) : OnlyRefs d₁ d₃ f fv₁ fv₃ where
  flowTbl := h'.flowTbl.trans h.flowTbl
  cache := h'.cache.trans h.cache
  live := h'.live
  same := h'.same.trans h.same
  more := Int.le_trans h.more h'.more

/-- Handling references changes nothing else of a flow that is still there. -/
theorem refSteps_sansRefs (h : Relation.ReflTransGen RefStep d d') (hf' : d'.flows f = some fv') :
    ∃ fv, d.flows f = some fv ∧ fv'.sansRefs = fv.sansRefs := by
  induction h generalizing fv' with
  | refl => exact ⟨fv', hf', rfl⟩
  | tail _ hs ih =>
    cases hs with
    | write hg hsame =>
      obtain ⟨rfl, rfl⟩ | ⟨-, hf⟩ := Table.add_eq_some.mp hf'
      · obtain ⟨fv, hfv, heq⟩ := ih hg
        exact ⟨fv, hfv, hsame.trans heq⟩
      · exact ih hf
    | ctxs t n => exact ih hf'
    | free g hfree =>
      obtain ⟨-, -, hflows, -⟩ := dpFreeFlow_eq hfree
      rw [hflows] at hf'
      exact ih (Table.del_eq_some.mp hf').2

/-- Installing a rule changes only references. -/
theorem InstallCase.only {o : Option ℕ} (hf : d.flows f = some fv) (h : InstallCase d f fv (some (o, d'))) :
    ∃ fv', OnlyRefs d d' f fv fv' := by
  cases h with
  | nothing => exact ⟨fv, .refl hf⟩
  | skipped => exact ⟨fv, rfl, rfl, hf, rfl, Int.le_refl _⟩
  | installed => exact ⟨_, rfl, rfl, Table.add_self .., rfl, by dsimp only; omega⟩

/-- Destroying one of several references of a flow. -/
theorem dpDestroyRteFlowAgectx_only (ha : d.ageCtxs a = some x) (hx : x.cntrack = some f) (hf : d.flows f = some fv)
    (hone : fv.refCount ≠ 1) (h : dpDestroyRteFlowAgectx d a = some d') :
    d'.flowTbl = d.flowTbl ∧ d'.cache = d.cache ∧
      d'.flows f = some { dpDelRteAgeCtx fv x with refCount := fv.refCount - 1 } := by
  have hset : (d.setFlow f (dpDelRteAgeCtx fv x)).flows f = some (dpDelRteAgeCtx fv x) := Table.add_self ..
  have hne : ¬ (dpDelRteAgeCtx fv x).refCount - 1 = 0 := fun h0 => hone (by
    have : fv.refCount - 1 = 0 := h0
    omega)
  simp only [dpDestroyRteFlowAgectx, ha, hx, hf, dpRefDec, hset, if_neg hne, Option.map_some, Option.some.injEq] at h
  subst h
  exact ⟨rfl, rfl, Table.add_self ..⟩

theorem installRules_only {first : Option PortId} (hf : d.flows f = some fv) (hpos : 0 < fv.refCount)
    (h : installRules e d first p tcp f = some d') : ∃ fv', OnlyRefs d d' f fv fv' := by
  have hcase := installRules_cases e first p tcp hf
  generalize installRules e d first p tcp f = r at hcase h
  cases hcase with
  | noRef => cases h
  | one h₁ =>
    cases h
    exact h₁.only hf
  | two h₁ hf₁ h₂ =>
    cases h
    obtain ⟨fv₁, hr₁⟩ := h₁.only hf
    cases hr₁.live.symm.trans hf₁
    obtain ⟨fv₂, hr₂⟩ := h₂.only hf₁
    exact ⟨fv₂, hr₁.trans hr₂⟩
  | undone h₁ hf₁ h₂ =>
    obtain ⟨fv₁, hr₁⟩ := h₁.only hf
    cases hr₁.live.symm.trans hf₁
    obtain ⟨fv₂, hr₂⟩ := h₂.only hf₁
    have hr := hr₁.trans hr₂
    obtain ⟨hf₂, hcnt, x, ha, hx⟩ := h₁.undo hf₁ h₂
    cases hr₂.live.symm.trans hf₂
    obtain ⟨htbl, hcache, hf'⟩ := dpDestroyRteFlowAgectx_only ha hx hf₂ (by omega) h
    refine ⟨_, htbl.trans hr.flowTbl, hcache.trans hr.cache, hf', hr.same, ?_⟩
    dsimp only
    omega

theorem dpOffloadHandler_only (hf : d.flows f = some fv) (hpos : 0 < fv.refCount)
    (h : dpOffloadHandler cf e c d m f = some d') : ∃ fv', OnlyRefs d d' f fv fv' := by
  obtain ⟨pf0, pf1, heq⟩ := dpOffloadHandler_eq cf e c m hf
  have hset : (d.setFlow f (offloadMark fv pf0 pf1)).flows f = some (offloadMark fv pf0 pf1) := Table.add_self ..
  have hr : OnlyRefs d (d.setFlow f (offloadMark fv pf0 pf1)) f fv (offloadMark fv pf0 pf1) :=
    ⟨rfl, rfl, hset, rfl, Int.le_refl _⟩
  obtain heq | ⟨first, p, tcp, heq⟩ := heq <;> rw [heq] at h
  · cases h
    exact ⟨_, hr⟩
  · obtain ⟨fv', hr'⟩ := installRules_only hset hpos h
    exact ⟨fv', hr.trans hr'⟩

/-- Sending a packet of a flow with a translation. -/
theorem txNode_only (hc : m.df.conntrack = some f) (hf : d.flows f = some fv) (hnf : fv.flags.nf = true)
    (hpos : 0 < fv.refCount) (h : txNode cf e c d m = some d') : ∃ fv', OnlyRefs d d' f fv fv' := by
  obtain ⟨hn, -⟩ | ⟨g, gv, hg, hgv, h⟩ := txNode_cases h
  · rw [hc] at hn
    cases hn
  · cases hc.symm.trans hg
    cases hf.symm.trans hgv
    rw [sentMark, if_pos hnf] at h
    obtain ⟨-, rfl⟩ | ⟨-, h⟩ := h
    · exact ⟨fv, .refl hf⟩
    · exact dpOffloadHandler_only hf hpos h

/-- Sending does not change how a flow is translated. -/
theorem txNode_natType (hc : m.df.conntrack = some f) (h : txNode cf e c d m = some d') (hf' : d'.flows f = some fv') :
    ∃ fv, d.flows f = some fv ∧ fv.natType = fv'.natType := by
  obtain ⟨hn, -⟩ | ⟨g, fv, hg, hf, hsteps⟩ := txNode_refSteps h
  · rw [hc] at hn
    cases hn
  · rw [hc, Option.some.injEq] at hg
    subst hg
    refine ⟨fv, hf, ?_⟩
    obtain ⟨fv₁, hf₁, hsame⟩ := refSteps_sansRefs hsteps hf'
    have ht₁ : fv₁.natType = fv.natType := by
      rcases sentMark_eq d f fv with h | h <;> rw [h] at hf₁
      · rw [Option.some.inj (hf₁.symm.trans hf)]
      · cases (Table.add_self ..).symm.trans hf₁
        rfl
    exact ht₁.symm.trans (congrArg FlowValue.natType hsame :).symm

end Sending

end Dpservice
