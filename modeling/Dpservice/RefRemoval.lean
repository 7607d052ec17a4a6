import Dpservice.Refs

/-!
# Removal passes and references to flows

A removal pass visits a flow under each of its keys. It destroys the age contexts that the flow stores, then drops the
reference of the table, without looking whether that was done before. A flow that stores all its contexts is freed by
the first visit; another one stays, and a second visit drops a reference that is not there.

- `RemovalOk`: no flow that the pass applies to was aged out before, and a flow that is visited twice stores all its
  contexts;
- `dpRemoveEntry_refs`: a visit of such a pass is defined and keeps the counts right.
-/

namespace Dpservice

/-! ## Changes of one flow -/

/-- What a removal pass looks at stays. -/
structure SameHits (fv fv' : FlowValue) : Prop where
  created : fv'.createdPortId = fv.createdPortId
  natType : fv'.natType = fv.natType
  org : fv'.org = fv.org

/-- Only the flow `f` changes; contexts and entries of the table are only removed. -/
structure OnlyFlow (f : ℕ) (d d' : Dataplane) : Prop where
  others : ∀ g, g ≠ f → d'.flows g = d.flows g
  flow : ∀ fv', d'.flows f = some fv' → ∃ fv, d.flows f = some fv ∧ SameHits fv fv'
  ageCtxs : ∀ a x, d'.ageCtxs a = some x → d.ageCtxs a = some x
  nextCtx : d'.nextCtx = d.nextCtx
  flowTbl : ∀ k g, d'.flowTbl k = some g → d.flowTbl k = some g

/-- The context `a` is in one of the slots of a flow. -/
def FlowValue.Stores (fv : FlowValue) (a : ℕ) : Prop := ∃ i < 6, fv.rteAgeCtxs.getD i none = some a

instance (fv : FlowValue) (a : ℕ) : Decidable (fv.Stores a) := inferInstanceAs (Decidable (∃ i < 6, _))

/-- The pass will destroy every context of the flow. -/
def AllStored (cf : Conf) (d : Dataplane) (f : ℕ) (fv : FlowValue) : Prop :=
  ∀ a < d.nextCtx, ∀ x ∈ d.ageCtxs a, x.cntrack = some f → cf.offloadEnabled = true ∧ fv.Stores a

instance (cf : Conf) (d : Dataplane) (f : ℕ) (fv : FlowValue) : Decidable (AllStored cf d f fv) :=
  inferInstanceAs (Decidable (∀ a < d.nextCtx, ∀ x ∈ d.ageCtxs a, _))

section OnlyFlow

variable {cf : Conf} {d d' : Dataplane} {f a i : ℕ} {fv fv' : FlowValue} {x : AgeCtx}

theorem SameHits.hits (h : SameHits fv fv') (r : FlowRemoval) (k : FlowKey) : r.hits k fv' = r.hits k fv := by
  unfold FlowRemoval.hits
  rw [h.created, h.natType, h.org]

theorem OnlyFlow.refl (f : ℕ) (d : Dataplane) : OnlyFlow f d d where
  others _ _ := rfl
  flow fv hf := ⟨fv, hf, rfl, rfl, rfl⟩
  ageCtxs _ _ := id
  nextCtx := rfl
  flowTbl _ _ := id

theorem OnlyFlow.trans {d₁ d₂ d₃ : Dataplane} (h : OnlyFlow f d₁ d₂) (h' : OnlyFlow f d₂ d₃) : OnlyFlow f d₁ d₃ where
  others g hg := (h'.others g hg).trans (h.others g hg)
  flow fv₃ hf₃ := by
    obtain ⟨fv₂, hf₂, hs'⟩ := h'.flow fv₃ hf₃
    obtain ⟨fv₁, hf₁, hs⟩ := h.flow fv₂ hf₂
    exact ⟨fv₁, hf₁, hs'.created.trans hs.created, hs'.natType.trans hs.natType, hs'.org.trans hs.org⟩
  ageCtxs a x := h.ageCtxs a x ∘ h'.ageCtxs a x
  nextCtx := h'.nextCtx.trans h.nextCtx
  flowTbl k g := h.flowTbl k g ∘ h'.flowTbl k g

theorem SetsFlow.only {o : Option FlowValue} (h : SetsFlow d d' f o) (hf : d.flows f = some fv)
    (ho : ∀ fv', o = some fv' → SameHits fv fv') (hctx : ∀ a x, d'.ageCtxs a = some x → d.ageCtxs a = some x) :
    OnlyFlow f d d' where
  others g hg := by rw [h.flows, Function.update_of_ne hg]
  flow fv' hf' := ⟨fv, hf, ho fv' (h.flow.symm.trans hf')⟩
  ageCtxs := hctx
  nextCtx := h.nextCtx
  flowTbl := h.flowTbl

/-- One round of `dp_rte_flow_remove`, on a flow that the table still refers to: the slot is cleared, and a context that
was stored elsewhere still is. -/
theorem dpRteFlowRemoveSlot_refs (cf : Conf) (i : ℕ) (hr : Refs d) (hf : d.flows f = some fv)
    (haged : fv.aged = false) :
    ∃ d' fv', dpRteFlowRemoveSlot f d i = some d' ∧ Refs d' ∧ OnlyFlow f d d' ∧ d'.flows f = some fv' ∧
      fv'.aged = false ∧ fv'.rteAgeCtxs.getD i none = none ∧
      (∀ j, fv.rteAgeCtxs.getD j none = none → fv'.rteAgeCtxs.getD j none = none) ∧
      (AllStored cf d f fv → AllStored cf d' f fv') := by
  unfold dpRteFlowRemoveSlot
  rw [hf]
  dsimp only
  cases hi : fv.rteAgeCtxs.getD i none with
  | none => exact ⟨d, fv, rfl, hr, .refl f d, hf, haged, hi, fun _ => id, id⟩
  | some a =>
    obtain ⟨x, ha, hx, hix⟩ := hr.slot f fv i a hf (getD_slot hi)
    obtain ⟨d', hd', hr', hctx, hset⟩ := destroy_live hr ha hx hf (refCount_ne_one hr ha hx hf haged)
    have hdel : ∀ b y, d'.ageCtxs b = some y → b ≠ a ∧ d.ageCtxs b = some y := by
      intro b y hb
      rwa [hctx, Table.del_eq_some] at hb
    have hslot : ∀ j, (fv.rteAgeCtxs.set i none).getD j none = if i = j then none else fv.rteAgeCtxs.getD j none := by
      intro j
      rw [List.getD_eq_getElem?_getD, List.getD_eq_getElem?_getD, List.getElem?_set]
      split
      · split <;> rfl
      · rfl
    refine ⟨d', _, hd', hr', hset.only hf (by rintro _ ⟨⟩; exact ⟨rfl, rfl, rfl⟩) fun b y hb => (hdel b y hb).2,
      hset.flow, haged, ?_, fun j hj => ?_, fun hall b hb y hy hyf => ?_⟩
    · simp only [dpDelRteAgeCtx, hix, hslot, if_true]
    · simp only [dpDelRteAgeCtx, hix, hslot, hj, ite_self]
    · obtain ⟨hne, hy⟩ := hdel b y hy
      obtain ⟨hoff, j, hj, hjb⟩ := hall b (hset.nextCtx ▸ hb) y hy hyf
      refine ⟨hoff, j, hj, ?_⟩
      have hij : i ≠ j := by
        rintro rfl
        rw [hi, Option.some.injEq] at hjb
        exact hne hjb.symm
      simpa only [dpDelRteAgeCtx, hix, hslot, if_neg hij] using hjb

/-- `dp_rte_flow_remove` on a flow that the table still refers to, for any slots. -/
theorem removeSlots_refs (cf : Conf) (is : List ℕ) (hr : Refs d) (hf : d.flows f = some fv) (haged : fv.aged = false) :
    ∃ d' fv', is.foldlM (dpRteFlowRemoveSlot f) d = some d' ∧ Refs d' ∧ OnlyFlow f d d' ∧ d'.flows f = some fv' ∧
      fv'.aged = false ∧ (∀ i ∈ is, fv'.rteAgeCtxs.getD i none = none) ∧
      (∀ j, fv.rteAgeCtxs.getD j none = none → fv'.rteAgeCtxs.getD j none = none) ∧
      (AllStored cf d f fv → AllStored cf d' f fv') := by
  induction is generalizing d fv with
  | nil => exact ⟨d, fv, rfl, hr, .refl f d, hf, haged, nofun, fun _ => id, id⟩
  | cons i is ih =>
    obtain ⟨d₁, fv₁, hd₁, hr₁, ho₁, hf₁, haged₁, hi, hclear₁, hall₁⟩ := dpRteFlowRemoveSlot_refs cf i hr hf haged
    obtain ⟨d', fv', hd', hr', ho', hf', haged', his, hclear', hall'⟩ := ih hr₁ hf₁ haged₁
    refine ⟨d', fv', ?_, hr', ho₁.trans ho', hf', haged', ?_, fun j => hclear' j ∘ hclear₁ j, hall' ∘ hall₁⟩
    · rw [List.foldlM_cons, hd₁]
      exact hd'
    · rintro j (_ | ⟨_, hj⟩)
      · exact hclear' i hi
      · exact his j hj

/-- **Removing a flow that the table still refers to**; it is freed if the pass destroys all its contexts. -/
theorem dpRemoveFlow_refs (cf : Conf) (hr : Refs d) (hf : d.flows f = some fv) (haged : fv.aged = false) :
    ∃ d', dpRemoveFlow cf d f = some d' ∧ Refs d' ∧ OnlyFlow f d d' ∧ (AllStored cf d f fv → d'.flows f = none) := by
  have hdrop : ∀ {d₁ fv₁}, Refs d₁ → OnlyFlow f d d₁ → d₁.flows f = some fv₁ → fv₁.aged = false →
      (AllStored cf d f fv → ctxCount d₁ f = 0) →
      ∃ d', dpAgeOutFlow d₁ f = some d' ∧ Refs d' ∧ OnlyFlow f d d' ∧ (AllStored cf d f fv → d'.flows f = none) := by
    intro d₁ fv₁ hr₁ ho₁ hf₁ haged₁ hnone
    obtain ⟨d', hd', hctx, hset⟩ := dpAgeOutFlow_eq hf₁
    refine ⟨d', hd', hr₁.ageOut hf₁ haged₁ hctx hset, ho₁.trans (hset.only hf₁ ?_ fun a x ha => hctx ▸ ha),
      fun hall => ?_⟩
    · intro fv' hfv'
      split at hfv'
      · cases hfv'
      · cases hfv'
        exact ⟨rfl, rfl, rfl⟩
    · have hone : fv₁.refCount = 1 := by
        rw [hr₁.count f fv₁ hf₁, refsOf, haged₁, hnone hall]
        rfl
      rw [hset.flow, if_pos hone]
  unfold dpRemoveFlow
  split
  next hoff =>
    obtain ⟨d₁, fv₁, hd₁, hr₁, ho₁, hf₁, haged₁, hslots, -, hall₁⟩ := removeSlots_refs cf (List.range 6) hr hf haged
    rw [dpRteFlowRemove, hd₁]
    refine hdrop hr₁ ho₁ hf₁ haged₁ fun hall => Nat.eq_zero_of_not_pos fun hpos => ?_
    -- every context of the flow is in a slot, and all slots are empty
    obtain ⟨a, ha, x, hx, hxf⟩ := Table.count_pos.mp hpos
    obtain ⟨-, i, hi, hia⟩ := hall₁ hall a ha x hx (by simpa using hxf)
    rw [hslots i (List.mem_range.mpr hi)] at hia
    cases hia
  next hoff =>
    refine hdrop hr (.refl f d) hf haged fun hall => Nat.eq_zero_of_not_pos fun hpos => ?_
    obtain ⟨a, ha, x, hx, hxf⟩ := Table.count_pos.mp hpos
    exact hoff (hall a ha x hx (by simpa using hxf)).1

end OnlyFlow

/-! ## Passes -/

/-- How often a removal pass applies to a flow. -/
def visits (r : FlowRemoval) (d : Dataplane) (f : ℕ) (fv : FlowValue) (order : List FlowKey) : ℕ :=
  order.countP fun k => d.flowTbl k == some f && r.hits k fv

/-- The flows that a removal pass applies to were not aged out before, and those that it visits more than once store all
their contexts. -/
def RemovalOk (cf : Conf) (r : FlowRemoval) (d : Dataplane) (order : List FlowKey) : Prop :=
  ∀ k ∈ order, ∀ f ∈ d.flowTbl k, ∀ fv ∈ d.flows f, r.hits k fv = true →
    fv.aged = false ∧ (AllStored cf d f fv ∨ visits r d f fv order ≤ 1)

instance (cf : Conf) (r : FlowRemoval) (d : Dataplane) (order : List FlowKey) : Decidable (RemovalOk cf r d order) := by
  unfold RemovalOk
  infer_instance

section Pass

variable {cf : Conf} {r : FlowRemoval} {d d' : Dataplane} {f g : ℕ} {fv gv : FlowValue} {k : FlowKey}
  {order : List FlowKey}

theorem visits_cons_le : visits r d f fv order ≤ visits r d f fv (k :: order) :=
  (List.sublist_cons_self k order).countP_le

theorem visits_mono (h : ∀ k, d'.flowTbl k = some f → d.flowTbl k = some f) :
    visits r d' f fv order ≤ visits r d f fv order := by
  refine List.countP_mono_left fun k _ hk => ?_
  rw [Bool.and_eq_true, beq_iff_eq] at hk ⊢
  exact ⟨h k hk.1, hk.2⟩

theorem RemovalOk.tail (h : RemovalOk cf r d (k :: order)) : RemovalOk cf r d order := by
  intro k' hk' f hf fv hfv hh
  obtain ⟨haged, hall⟩ := h k' (List.mem_cons_of_mem _ hk') f hf fv hfv hh
  exact ⟨haged, hall.imp_right (Nat.le_trans visits_cons_le)⟩

/-- The rest of a pass after a flow was removed. -/
theorem RemovalOk.removed (h : RemovalOk cf r d (k :: order)) (hk : d.flowTbl k = some f) (hf : d.flows f = some fv)
    (hh : r.hits k fv = true) (ho : OnlyFlow f d d') (hfree : AllStored cf d f fv → d'.flows f = none) :
    RemovalOk cf r d' order := by
  intro k' hk' g hg gv hgv hh'
  have hg' : d.flowTbl k' = some g := ho.flowTbl k' g hg
  by_cases hgf : g = f
  · subst hgf
    obtain ⟨fv', hf', hs⟩ := ho.flow gv hgv
    rw [hf, Option.some.injEq] at hf'
    subst hf'
    rw [hs.hits] at hh'
    obtain ⟨-, hall | hone⟩ := h k List.mem_cons_self g hk fv hf hh
    · rw [Option.mem_def, hfree hall] at hgv
      cases hgv
    · have hmore : 0 < visits r d g fv order := List.countP_pos_iff.mpr ⟨k', hk', by simp [hg', hh']⟩
      have htwo : visits r d g fv (k :: order) = visits r d g fv order + 1 := List.countP_cons_of_pos (by simp [hk, hh])
      omega
  · have hgv' : d.flows g = some gv := (ho.others g hgf).symm.trans hgv
    obtain ⟨haged, hall⟩ := h k' (List.mem_cons_of_mem _ hk') g hg' gv hgv' hh'
    refine ⟨haged, hall.imp (fun hall a ha x hx => ?_) fun hone => ?_⟩
    · exact hall a (ho.nextCtx ▸ ha) x (ho.ageCtxs a x hx)
    · exact Nat.le_trans (Nat.le_trans (visits_mono fun k => ho.flowTbl k g) visits_cons_le) hone

/-- **The visit of an entry** keeps the counts right, and the rest of the pass in order. -/
theorem dpRemoveEntry_refs (hr : Refs d) (hlive : ∀ f, d.flowTbl k = some f → ∃ fv, d.flows f = some fv)
    (hok : RemovalOk cf r d (k :: order)) :
    ∃ d', dpRemoveEntry cf r d k = some d' ∧ Refs d' ∧ RemovalOk cf r d' order := by
  unfold dpRemoveEntry
  cases hk : d.flowTbl k with
  | none => exact ⟨d, rfl, hr, hok.tail⟩
  | some f =>
    obtain ⟨fv, hf⟩ := hlive f hk
    dsimp only
    rw [hf]
    dsimp only
    split
    next hh =>
      obtain ⟨haged, -⟩ := hok k List.mem_cons_self f hk fv hf hh
      obtain ⟨d', hd', hr', ho, hfree⟩ := dpRemoveFlow_refs cf hr hf haged
      exact ⟨d', hd', hr', hok.removed hk hf hh ho hfree⟩
    · exact ⟨d, rfl, hr, hok.tail⟩

end Pass

end Dpservice
