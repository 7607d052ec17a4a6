import Mathlib.Logic.Relation
import Dpservice.Service

/-!
# What happens to flows apart from translation

Most code that touches a flow only does bookkeeping on it: time stamps, offload states, flags, references
(`FlowUpd`). A state change that does nothing else is `Quiet`; quiet changes and releases of flows are maintenance
(`Maint`). The passes over the flow table, hardware aging and offloading only handle the references of flows
(`RefStep`), which is maintenance of a special kind:

- `dpProcessFlowAging_refSteps` for the aging timer;
- `dpRemoveFlows_refSteps` for the removal passes;
- `dpOffloadHandler_refSteps` for installing rules, and `txNode_maint` for sending a packet.
-/

namespace Dpservice

open Relation (ReflTransGen)

/-! ## Quiet changes -/

/-- Bookkeeping on a flow value: its keys, its creator and its NAT stay, a flow with flags keeps some and its NAT type,
and a balanced flow keeps its target. -/
structure FlowUpd (fv fv' : FlowValue) : Prop where
  org : fv'.org = fv.org
  reply : fv'.reply = fv.reply
  created : fv'.createdPortId = fv.createdPortId
  vni : fv'.nfVni = fv.nfVni
  isLocal : fv'.natType = .networkLocal ↔ fv.natType = .networkLocal
  plain : fv'.flags = {} → fv.flags = {}
  target : fv.flags.dstLb = true → fv'.flags.dstLb = true ∧ fv'.underlayDst = fv.underlayDst
  type : fv.flags ≠ {} → fv'.natType = fv.natType

theorem FlowUpd.refl (fv : FlowValue) : FlowUpd fv fv :=
  ⟨rfl, rfl, rfl, rfl, Iff.rfl, id, fun h => ⟨h, rfl⟩, fun _ => rfl⟩

theorem FlowUpd.trans {fv₁ fv₂ fv₃ : FlowValue} (h : FlowUpd fv₁ fv₂) (h' : FlowUpd fv₂ fv₃) : FlowUpd fv₁ fv₃ where
  org := h'.org.trans h.org
  reply := h'.reply.trans h.reply
  created := h'.created.trans h.created
  vni := h'.vni.trans h.vni
  isLocal := h'.isLocal.trans h.isLocal
  plain := h.plain ∘ h'.plain
  target hlb :=
    have ht := h.target hlb
    ⟨(h'.target ht.1).1, (h'.target ht.1).2.trans ht.2⟩
  type hne := (h'.type fun hp => hne (h.plain hp)).trans (h.type hne)

/-- A cached flow was cached before, or is the live flow that the table has for the cached key. -/
def CacheFrom (d d' : Dataplane) : Prop :=
  d'.cache.prevValid = true →
    (d.cache.prevValid = true ∧ d'.cache.prevBuf = d.cache.prevBuf ∧
      d'.cache.cachedFlowVal = d.cache.cachedFlowVal) ∨
    ∃ f, d'.cache.cachedFlowVal = some f ∧ d'.flowTbl d'.cache.prevBuf = some f ∧ ∃ fv, d'.flows f = some fv

/-- Nothing but bookkeeping. -/
structure Quiet (d d' : Dataplane) : Prop where
  flowTbl : d'.flowTbl = d.flowTbl
  nextFlow : d'.nextFlow = d.nextFlow
  ports : d'.ports = d.ports
  relayed : d'.relayed = d.relayed
  flows : Table.Rel FlowUpd d.flows d'.flows
  cache : CacheFrom d d'

section Quiet

variable {d d' : Dataplane} {f : ℕ} {fv fv' : FlowValue}

theorem CacheFrom.of_eq (h : d'.cache = d.cache) : CacheFrom d d' := fun hv => by
  rw [h] at hv ⊢
  exact .inl ⟨hv, rfl, rfl⟩

theorem Quiet.refl (d : Dataplane) : Quiet d d := ⟨rfl, rfl, rfl, rfl, .refl .refl _, .of_eq rfl⟩

theorem Quiet.setFlow (hf : d.flows f = some fv) (hu : FlowUpd fv fv') : Quiet d (d.setFlow f fv') :=
  ⟨rfl, rfl, rfl, rfl, .add .refl hf hu, .of_eq rfl⟩

theorem Quiet.lb (d : Dataplane) (s : LbState) : Quiet d { d with lb := s } :=
  ⟨rfl, rfl, rfl, rfl, .refl .refl _, .of_eq rfl⟩

/-- Age contexts are made, written and freed without touching flows. -/
theorem Quiet.ageCtxs (d : Dataplane) (t : Table ℕ AgeCtx) (n : ℕ) : Quiet d { d with ageCtxs := t, nextCtx := n } :=
  ⟨rfl, rfl, rfl, rfl, .refl .refl _, .of_eq rfl⟩

/-- One quiet change after the other. -/
theorem Quiet.trans {d₁ d₂ d₃ : Dataplane} (h : Quiet d₁ d₂) (h' : Quiet d₂ d₃) : Quiet d₁ d₃ where
  flowTbl := h'.flowTbl.trans h.flowTbl
  nextFlow := h'.nextFlow.trans h.nextFlow
  ports := h'.ports.trans h.ports
  relayed := h'.relayed.trans h.relayed
  flows := h.flows.trans .trans h'.flows
  cache := by
    intro hv
    obtain ⟨hv', hbuf, hval⟩ | hnew := h'.cache hv
    · rw [hbuf, hval, h'.flowTbl]
      refine (h.cache hv').imp_right fun ⟨f, hc, ht, fv, hf⟩ => ?_
      obtain ⟨fv', hf', -⟩ := h'.flows.live hf
      exact ⟨f, hc, ht, fv', hf'⟩
    · exact .inr hnew

/-- A live flow stays live. -/
theorem Quiet.live (h : Quiet d d') (hf : d.flows f = some fv) : ∃ fv', d'.flows f = some fv' ∧ FlowUpd fv fv' :=
  h.flows.live hf

theorem Quiet.was_live (h : Quiet d d') (hf : d'.flows f = some fv') : ∃ fv, d.flows f = some fv ∧ FlowUpd fv fv' :=
  h.flows.was_live hf

end Quiet

/-! ## Maintenance: quiet changes and releases -/

/-- One step of a pass over the flow table. -/
inductive Maint (d : Dataplane) : Dataplane → Prop
  | quiet {d' : Dataplane} (h : Quiet d d') : Maint d d'
  | free {d' : Dataplane} (f : ℕ) (h : dpFreeFlow d f = some d') : Maint d d'

/-- A flow value without its references and the marks of the ports it is offloaded on. -/
def FlowValue.sansRefs (fv : FlowValue) : FlowValue :=
  { fv with refCount := 0, aged := false, rteAgeCtxs := [], pf0Offloaded := false, pf1Offloaded := false }

/-- One step of the code that handles references: a flow changes in nothing else, age contexts change, or a flow is
released. -/
inductive RefStep (d : Dataplane) : Dataplane → Prop
  | write {f : ℕ} {fv fv' : FlowValue} (hf : d.flows f = some fv) (h : fv'.sansRefs = fv.sansRefs) :
      RefStep d (d.setFlow f fv')
  | ctxs (t : Table ℕ AgeCtx) (n : ℕ) : RefStep d { d with ageCtxs := t, nextCtx := n }
  | free {d' : Dataplane} (f : ℕ) (h : dpFreeFlow d f = some d') : RefStep d d'

/-- A flow value that has lost references and contexts. -/
structure Faded (fv fv' : FlowValue) : Prop where
  same : fv'.sansRefs = fv.sansRefs
  refCount : fv'.refCount ≤ fv.refCount
  slots : ∀ i a : ℕ, fv'.rteAgeCtxs[i]? = some (some a) → fv.rteAgeCtxs[i]? = some (some a)

/-- One step of the code that gives up references to flows with `P`: such a flow loses some, an age context is freed, or
such a flow is released. -/
inductive FadeStep (P : ℕ → Prop) (d : Dataplane) : Dataplane → Prop
  | write {f : ℕ} {fv fv' : FlowValue} (hP : P f) (hf : d.flows f = some fv) (h : Faded fv fv') :
      FadeStep P d (d.setFlow f fv')
  | delCtx (a : ℕ) : FadeStep P d { d with ageCtxs := d.ageCtxs.del a }
  | free {d' : Dataplane} {f : ℕ} (hP : P f) (h : dpFreeFlow d f = some d') : FadeStep P d d'

section Maint

variable {P : ℕ → Prop} {d d' : Dataplane} {f a i : ℕ} {fv fv' : FlowValue} {e : Env} {cf : Conf} {c : Config}

/-- A quiet change is maintenance. -/
theorem Quiet.maint (h : Quiet d d') : ReflTransGen Maint d d' := .single (.quiet h)

/-- A quiet write of a live flow, then more maintenance. -/
theorem maint_setFlow (hf : d.flows f = some fv) (hu : FlowUpd fv fv')
    (h : ReflTransGen Maint (d.setFlow f fv') d') : ReflTransGen Maint d d' :=
  .head (.quiet (.setFlow hf hu)) h

theorem FlowUpd.of_sansRefs (h : fv'.sansRefs = fv.sansRefs) : FlowUpd fv fv' where
  org := (congrArg FlowValue.org h :)
  reply := (congrArg FlowValue.reply h :)
  created := (congrArg FlowValue.createdPortId h :)
  vni := (congrArg FlowValue.nfVni h :)
  isLocal := by
    have ht : fv'.natType = fv.natType := (congrArg FlowValue.natType h :)
    rw [ht]
  plain hp := (congrArg FlowValue.flags h :).symm.trans hp
  target hlb :=
    have hflags : fv'.flags = fv.flags := (congrArg FlowValue.flags h :)
    ⟨by rw [hflags, hlb], (congrArg FlowValue.underlayDst h :)⟩
  type _ := (congrArg FlowValue.natType h :)

/-- Handling references is maintenance. -/
theorem refSteps_maint (h : ReflTransGen RefStep d d') : ReflTransGen Maint d d' := by
  refine ReflTransGen.mono (fun d d' hs => ?_) _ _ h
  cases hs with
  | write hf h => exact .quiet (.setFlow hf (.of_sansRefs h))
  | ctxs t n => exact .quiet (.ageCtxs _ t n)
  | free f h => exact .free f h

theorem fadeSteps_refSteps (h : ReflTransGen (FadeStep P) d d') : ReflTransGen RefStep d d' := by
  refine ReflTransGen.mono (fun d d' hs => ?_) _ _ h
  cases hs with
  | write _ hf h => exact .write hf h.same
  | delCtx a => exact .ctxs _ d.nextCtx
  | @free _ f _ h => exact .free f h

theorem Faded.refl (fv : FlowValue) : Faded fv fv := ⟨rfl, Int.le_refl _, fun _ _ => id⟩

theorem Faded.trans {fv₁ fv₂ fv₃ : FlowValue} (h : Faded fv₁ fv₂) (h' : Faded fv₂ fv₃) : Faded fv₁ fv₃ where
  same := h'.same.trans h.same
  refCount := Int.le_trans h'.refCount h.refCount
  slots i a := h.slots i a ∘ h'.slots i a

/-- Clearing a slot. -/
theorem Faded.delCtx (fv : FlowValue) (x : AgeCtx) : Faded fv (dpDelRteAgeCtx fv x) where
  same := rfl
  refCount := Int.le_refl _
  slots i a h := by
    rw [dpDelRteAgeCtx, List.getElem?_set] at h
    split at h
    · split at h <;> simp at h
    · exact h

/-- A reference is dropped. -/
theorem dpRefDec_fadeSteps (hP : P f) (h : dpRefDec d f = some d') : ReflTransGen (FadeStep P) d d' := by
  unfold dpRefDec at h
  split at h
  · cases h
  next fv hf =>
    have hu : Faded fv { fv with refCount := fv.refCount - 1 } := ⟨rfl, by dsimp only; omega, fun _ _ => id⟩
    refine .head (.write hP hf hu) ?_
    split at h
    · exact .single (.free hP h)
    · cases h
      exact .refl

/-- A flow ages out. -/
theorem dpAgeOutFlow_fadeSteps (hP : P f) (h : dpAgeOutFlow d f = some d') : ReflTransGen (FadeStep P) d d' := by
  unfold dpAgeOutFlow at h
  split at h
  · cases h
  next fv hf =>
    have hu : Faded fv { fv with aged := true } := ⟨rfl, Int.le_refl _, fun _ _ => id⟩
    exact .head (.write hP hf hu) (dpRefDec_fadeSteps hP h)

theorem dpDestroyRteFlowAgectx_fadeSteps (hP : ∀ x g, d.ageCtxs a = some x → x.cntrack = some g → P g)
    (h : dpDestroyRteFlowAgectx d a = some d') : ReflTransGen (FadeStep P) d d' := by
  unfold dpDestroyRteFlowAgectx at h
  split at h
  · cases h
  next x ha =>
    split at h
    · cases h
      exact .single (.delCtx a)
    next g hx =>
      split at h
      · cases h
      next fv hf =>
        obtain ⟨d₁, hd, rfl⟩ := Option.map_eq_some_iff.mp h
        have hP := hP x g ha hx
        exact .head (.write hP hf (.delCtx fv x)) ((dpRefDec_fadeSteps hP hd).tail (.delCtx a))

/-- Steps of one kind in every round of a loop. -/
theorem foldlM_steps {α : Type*} {R : Dataplane → Dataplane → Prop} {g : Dataplane → α → Option Dataplane} {l : List α}
    (hg : ∀ d x d', g d x = some d' → ReflTransGen R d d') (h : l.foldlM g d = some d') : ReflTransGen R d d' :=
  foldlM_invariant (fun x _ d₁ d₂ h₁ h₂ => h₁.trans (hg d₁ x d₂ h₂)) .refl h

/-- Steps on any flow. -/
abbrev FadeSteps : Dataplane → Dataplane → Prop := ReflTransGen (FadeStep fun _ => True)

theorem destroy_fadeSteps (h : dpDestroyRteFlowAgectx d a = some d') : FadeSteps d d' :=
  dpDestroyRteFlowAgectx_fadeSteps (fun _ _ _ _ => trivial) h

theorem dpRteFlowRemoveSlot_fadeSteps (h : dpRteFlowRemoveSlot f d i = some d') : FadeSteps d d' := by
  unfold dpRteFlowRemoveSlot at h
  split at h
  · cases h
  · split at h
    · cases h
      exact .refl
    · exact destroy_fadeSteps h

/-- The rules of a flow are removed. -/
theorem dpRteFlowRemove_fadeSteps (h : dpRteFlowRemove d f = some d') : FadeSteps d d' :=
  foldlM_steps (fun _ _ _ => dpRteFlowRemoveSlot_fadeSteps) h

theorem dpRteFlowQueryAndRemove_fadeSteps {sec : ℕ → Option UInt32} {is : List ℕ}
    (h : dpRteFlowQueryAndRemove sec f is d = some d') : FadeSteps d d' := by
  induction is generalizing d with
  | nil =>
    cases h
    exact .refl
  | cons i is ih =>
    unfold dpRteFlowQueryAndRemove at h
    split at h
    · cases h
    next fv hf =>
      split at h
      · exact ih h
      next a ha =>
        split at h
        · cases h
        next x hx =>
          split at h
          · exact ih h
          · split at h
            · cases h
              exact .refl
            · split at h
              · obtain ⟨d₁, hd, h⟩ := Option.bind_eq_some_iff.mp h
                exact (destroy_fadeSteps hd).trans (ih h)
              · exact ih h

/-- The timer comes to an entry. -/
theorem dpAgeEntry_fadeSteps {v : FlowKey × ℕ} (h : dpAgeEntry cf e d v = some d') : FadeSteps d d' := by
  unfold dpAgeEntry at h
  split at h
  · cases h
    exact .refl
  next f hk =>
    dsimp only at h
    split at h
    · cases h
    next d₁ hr =>
      have h₁ : FadeSteps d d₁ := by
        split at hr
        · exact dpRteFlowQueryAndRemove_fadeSteps hr
        · cases hr
          exact .refl
      split at h
      · cases h
      · split at h
        · exact h₁.trans (dpAgeOutFlow_fadeSteps trivial h)
        · cases h
          exact h₁

/-- The aging timer. -/
theorem dpProcessFlowAging_fadeSteps {ctxs : List ℕ} {order : List FlowKey}
    (h : dpProcessFlowAging cf e d ctxs order = some d') : FadeSteps d d' := by
  unfold dpProcessFlowAging at h
  dsimp only at h
  split at h
  · cases h
  next d₁ hr =>
    have h₁ : FadeSteps d d₁ := by
      split at hr
      · exact foldlM_steps (fun _ _ _ => destroy_fadeSteps) hr
      · cases hr
        exact .refl
    exact h₁.trans (foldlM_steps (fun _ _ _ => dpAgeEntry_fadeSteps) h)

/-- A flow is removed. -/
theorem dpRemoveFlow_fadeSteps (h : dpRemoveFlow cf d f = some d') : FadeSteps d d' := by
  unfold dpRemoveFlow at h
  split at h
  · obtain ⟨d₁, hd, h⟩ := Option.bind_eq_some_iff.mp h
    exact (dpRteFlowRemove_fadeSteps hd).trans (dpAgeOutFlow_fadeSteps trivial h)
  · exact dpAgeOutFlow_fadeSteps trivial h

theorem dpRemoveEntry_fadeSteps {r : FlowRemoval} {k : FlowKey} (h : dpRemoveEntry cf r d k = some d') :
    FadeSteps d d' := by
  unfold dpRemoveEntry at h
  split at h
  · cases h
    exact .refl
  · split at h
    · cases h
    · split at h
      · exact dpRemoveFlow_fadeSteps h
      · cases h
        exact .refl

/-- A removal pass. -/
theorem dpRemoveFlows_fadeSteps {r : FlowRemoval} {order : List FlowKey} (h : dpRemoveFlows cf r d order = some d') :
    FadeSteps d d' := foldlM_steps (fun _ _ _ => dpRemoveEntry_fadeSteps) h

end Maint

/-! ## Offloading -/

section Offload

variable {d d' : Dataplane} {f a i : ℕ} {fv : FlowValue} {e : Env} {cf : Conf} {c : Config} {p : PortId} {b tcp : Bool}

def Dataplane.newCtx (d : Dataplane) (x : AgeCtx) : Dataplane :=
  { d with
    ageCtxs := d.ageCtxs.add d.nextCtx x
    nextCtx := d.nextCtx + 1 }

/-- What `dp_install_rte_flow_with_indirect` makes of a new context: it refers to the flow, which may have it in a slot,
or to nothing. A flow without references stops the program. -/
inductive IndirectCase (d : Dataplane) (f : ℕ) (fv : FlowValue) : Option (Bool × Dataplane) → Prop
  | noRef (hz : fv.refCount ≤ 0) : IndirectCase d f fv none
  | failed {x : AgeCtx} (hx : x.cntrack = none) : IndirectCase d f fv (some (false, d.newCtx x))
  | made {x : AgeCtx} {l : List (Option ℕ)} (hx : x.cntrack = some f)
      (hl : l = fv.rteAgeCtxs ∨ l = fv.rteAgeCtxs.set x.refIndex (some d.nextCtx)) : IndirectCase d f fv
        (some (true, (d.newCtx x).setFlow f { fv with refCount := fv.refCount + 1, rteAgeCtxs := l }))

theorem dpInstallRteFlowWithAge_eq {x : AgeCtx} (ha : d.ageCtxs a = some x) (hf : d.flows f = some fv) :
    dpInstallRteFlowWithAge e d p f a i = if !e.ok (.ruleInstall i) then some (false, d)
      else if fv.refCount = 0 then none
      else some (true, (d.setCtx a { x with cntrack := some f, rteFlow := true, portId := p }).setFlow f
        { fv with refCount := fv.refCount + 1 }) := by
  unfold dpInstallRteFlowWithAge dpRefInc
  rw [ha]
  dsimp only [Dataplane.setCtx]
  rw [hf]
  dsimp only
  by_cases hz : fv.refCount = 0 <;> simp [hz, Dataplane.setFlow]

theorem slot_cases {l l' : List (Option ℕ)} {i j n b : ℕ} (h : l' = l ∨ l' = l.set j (some n))
    (hi : l'[i]? = some (some b)) : (i = j ∧ b = n) ∨ l[i]? = some (some b) := by
  obtain rfl | rfl := h
  · exact .inr hi
  · rw [List.getElem?_set] at hi
    split at hi
    next hij =>
      split at hi
      · simp only [Option.some.injEq] at hi
        exact .inl ⟨hij.symm, hi.symm⟩
      · cases hi
    · exact .inr hi

/-- The first free slot of a flow. -/
theorem dpAddRteAgeCtx_eq {slot : ℕ} {fv' : FlowValue} (h : dpAddRteAgeCtx fv a = some (slot, fv')) :
    fv' = { fv with rteAgeCtxs := fv.rteAgeCtxs.set slot (some a) } ∧ fv.rteAgeCtxs.set slot none = fv.rteAgeCtxs := by
  unfold dpAddRteAgeCtx at h
  split at h
  · cases h
  next i hi =>
    cases h
    refine ⟨rfl, ?_⟩
    obtain ⟨hlt, hnone, -⟩ := List.findIdx?_eq_some_iff_getElem.mp hi
    rw [Option.isNone_iff_eq_none] at hnone
    rw [← hnone]
    exact List.set_getElem_self hlt

theorem newCtx_setCtx (d : Dataplane) (x y : AgeCtx) : (d.newCtx x).setCtx d.nextCtx y = d.newCtx y := by
  unfold Dataplane.newCtx Dataplane.setCtx
  rw [Table.add_add]

theorem dpInstallRteFlowWithIndirect_cases (e : Env) (p : PortId) (tcp : Bool) (i : ℕ) (hf : d.flows f = some fv) :
    IndirectCase d f fv (dpInstallRteFlowWithIndirect e (d.newCtx {}) p tcp f d.nextCtx i) := by
  have ha : ∀ x, (d.newCtx x).ageCtxs d.nextCtx = some x := fun x => Table.add_self ..
  have hf₁ : (d.newCtx {}).flows f = some fv := hf
  have hnothing : IndirectCase d f fv (some (false, d.newCtx {})) := .failed rfl
  unfold dpInstallRteFlowWithIndirect
  cases tcp with
  | false =>
    simp only [Bool.false_eq_true, if_false]
    rw [dpInstallRteFlowWithAge_eq (ha {}) hf₁, newCtx_setCtx]
    cases e.ok (.ruleInstall i) with
    | false => exact hnothing
    | true =>
      simp only [Bool.not_true, Bool.false_eq_true, if_false]
      by_cases hz : fv.refCount = 0
      · rw [if_pos hz]
        exact .noRef (by omega)
      · rw [if_neg hz]
        exact .made rfl (.inl rfl)
  | true =>
    simp only [if_true]
    unfold dpCreateAgeIndirectAction
    cases e.ok (.handleCreate i) with
    | false => exact hnothing
    | true =>
      simp only [Bool.not_true, Bool.false_eq_true, if_false]
      rw [hf₁, ha]
      dsimp only
      cases hs : dpAddRteAgeCtx fv d.nextCtx with
      | none => exact hnothing
      | some r =>
        obtain ⟨slot, fv₂⟩ := r
        obtain ⟨hfv₂, hfree⟩ := dpAddRteAgeCtx_eq hs
        dsimp only
        have hd₂ : ((d.newCtx {}).setFlow f fv₂).setCtx d.nextCtx { refIndex := slot, handle := true } =
            (d.newCtx { refIndex := slot, handle := true }).setFlow f fv₂ :=
          congrArg (Dataplane.setFlow · f fv₂) (newCtx_setCtx d {} { refIndex := slot, handle := true })
        have hf₂ : ((d.newCtx { refIndex := slot, handle := true }).setFlow f fv₂).flows f = some fv₂ :=
          Table.add_self ..
        have ha₂ : ((d.newCtx { refIndex := slot, handle := true }).setFlow f fv₂).ageCtxs d.nextCtx =
          some { refIndex := slot, handle := true } := ha _
        rw [hd₂, dpInstallRteFlowWithAge_eq ha₂ hf₂]
        cases e.ok (.ruleInstall i) with
        | false =>
          simp only [Bool.not_false, if_true]
          rw [hf₂, ha₂]
          -- the slot was free, so clearing it gives back the old flow value
          have hval : dpDelRteAgeCtx fv₂ { refIndex := slot, handle := true } = fv := by
            simp only [dpDelRteAgeCtx, hfv₂, List.set_set, hfree]
          have hback : ((d.newCtx { refIndex := slot, handle := true }).setFlow f fv₂).setFlow f fv =
              d.newCtx { refIndex := slot, handle := true } := by
            simp only [Dataplane.setFlow, Dataplane.newCtx, Table.add_add, Table.add_same hf]
          dsimp only
          rw [hval, hback]
          exact .failed rfl
        | true =>
          simp only [Bool.not_true, Bool.false_eq_true, if_false]
          subst hfv₂
          by_cases hz : fv.refCount = 0
          · rw [if_pos hz]
            exact .noRef (by omega)
          · rw [if_neg hz]
            simp only [Dataplane.setFlow, Dataplane.setCtx, Dataplane.newCtx, Table.add_add]
            exact .made (x := { refIndex := slot, handle := true, cntrack := some f, rteFlow := true, portId := p }) rfl
              (.inr rfl)

/-- What installing a rule leaves behind: nothing, a context number that is used up, or a context of the flow. -/
inductive InstallCase (d : Dataplane) (f : ℕ) (fv : FlowValue) : Option (Option ℕ × Dataplane) → Prop
  | noRef (hz : fv.refCount ≤ 0) : InstallCase d f fv none
  | nothing : InstallCase d f fv (some (none, d))
  | skipped : InstallCase d f fv
      (some (none, { d with ageCtxs := d.ageCtxs.del d.nextCtx, nextCtx := d.nextCtx + 1 }))
  | installed {x : AgeCtx} {l : List (Option ℕ)} (hx : x.cntrack = some f)
      (hl : l = fv.rteAgeCtxs ∨ l = fv.rteAgeCtxs.set x.refIndex (some d.nextCtx)) : InstallCase d f fv
        (some (some d.nextCtx, (d.newCtx x).setFlow f { fv with refCount := fv.refCount + 1, rteAgeCtxs := l }))

/-- **What one rule does.** -/
theorem installRule_cases (e : Env) (p : PortId) (tcp : Bool) (i : ℕ) (hf : d.flows f = some fv) :
    InstallCase d f fv (installRule e d p tcp f i) := by
  unfold installRule allocateAgectx
  cases e.ok (.agectxAlloc i) with
  | false => exact .nothing
  | true =>
    have hcase := dpInstallRteFlowWithIndirect_cases e p tcp i hf
    rw [Dataplane.newCtx] at hcase
    simp only [if_true]
    generalize dpInstallRteFlowWithIndirect e _ p tcp f d.nextCtx i = r at hcase ⊢
    cases hcase with
    | noRef hz => exact .noRef hz
    | @failed x hx =>
      have hdel : dpDestroyRteFlowAgectx (d.newCtx x) d.nextCtx =
          some { d with ageCtxs := d.ageCtxs.del d.nextCtx, nextCtx := d.nextCtx + 1 } := by
        simp [dpDestroyRteFlowAgectx, Dataplane.newCtx, hx, Table.del_add]
      dsimp only
      rw [hdel]
      exact .skipped
    | made hx hl => exact .installed hx hl

/-- What the rules of a packet leave behind: those of one rule, or of two, or the first rule is undone again. -/
inductive RulesCase (d : Dataplane) (f : ℕ) (fv : FlowValue) : Option Dataplane → Prop
  | noRef (hz : fv.refCount ≤ 0) : RulesCase d f fv none
  | one {o : Option ℕ} {d' : Dataplane} (h : InstallCase d f fv (some (o, d'))) : RulesCase d f fv (some d')
  | two {a₀ a : ℕ} {d₁ d' : Dataplane} {fv₁ : FlowValue} (h : InstallCase d f fv (some (some a₀, d₁)))
      (hf : d₁.flows f = some fv₁) (h' : InstallCase d₁ f fv₁ (some (some a, d'))) : RulesCase d f fv (some d')
  | undone {a₀ : ℕ} {d₁ d₂ : Dataplane} {fv₁ : FlowValue} (h : InstallCase d f fv (some (some a₀, d₁)))
      (hf : d₁.flows f = some fv₁) (h' : InstallCase d₁ f fv₁ (some (none, d₂))) :
      RulesCase d f fv (dpDestroyRteFlowAgectx d₂ a₀)

/-- How the installation of rules ends. -/
theorem installRules_cases (e : Env) (first : Option PortId) (p : PortId) (tcp : Bool) (hf : d.flows f = some fv) :
    RulesCase d f fv (installRules e d first p tcp f) := by
  unfold installRules
  cases first with
  | none =>
    have hcase := installRule_cases e p tcp 1 hf
    dsimp only
    generalize installRule e d p tcp f 1 = r at hcase
    cases r with
    | none =>
      cases hcase with
      | noRef hz => exact .noRef hz
    | some r => exact .one hcase
  | some p₀ =>
    have hcase := installRule_cases e p₀ tcp 0 hf
    dsimp only
    generalize installRule e d p₀ tcp f 0 = r at hcase
    rcases r with _ | ⟨_ | a₀, d₁⟩
    · cases hcase with
      | noRef hz => exact .noRef hz
    · exact .one hcase
    · obtain ⟨fv₁, hf₁, hcnt⟩ : ∃ fv₁, d₁.flows f = some fv₁ ∧ fv₁.refCount = fv.refCount + 1 := by
        cases hcase with
        | installed => exact ⟨_, Table.add_self .., rfl⟩
      have hcase₂ := installRule_cases e p tcp 1 hf₁
      dsimp only
      generalize installRule e d₁ p tcp f 1 = r at hcase₂
      rcases r with _ | ⟨_ | a, d₂⟩
      · cases hcase₂ with
        | noRef hz => exact .noRef (by omega)
      · exact .undone hcase hf₁ hcase₂
      · exact .two hcase hf₁ hcase₂

/-- Where the first of two rules is undone, the flow still has its reference, which is not its only one. -/
theorem InstallCase.undo {a₀ : ℕ} {d₁ d₂ : Dataplane} {fv₁ : FlowValue} (h : InstallCase d f fv (some (some a₀, d₁)))
    (hf : d₁.flows f = some fv₁) (h' : InstallCase d₁ f fv₁ (some (none, d₂))) : d₂.flows f = some fv₁ ∧
      fv₁.refCount = fv.refCount + 1 ∧ ∃ x, d₂.ageCtxs a₀ = some x ∧ x.cntrack = some f := by
  cases h with
  | @installed x l hx hl =>
    have hcnt : fv₁.refCount = fv.refCount + 1 := by rw [← Option.some.inj ((Table.add_self ..).symm.trans hf)]
    cases h' with
    | nothing => exact ⟨hf, hcnt, x, Table.add_self .., hx⟩
    | skipped =>
      exact ⟨hf, hcnt, x, (Table.del_of_ne (Nat.ne_of_lt (Nat.lt_succ_self _)) _).trans (Table.add_self ..), hx⟩

theorem InstallCase.refSteps {o : Option ℕ} (hf : d.flows f = some fv) (h : InstallCase d f fv (some (o, d'))) :
    ReflTransGen RefStep d d' := by
  cases h with
  | nothing => exact .refl
  | skipped => exact .single (.ctxs _ _)
  | @installed x l => exact .head (.ctxs _ _) (.single (.write hf rfl))

theorem installRules_refSteps {first : Option PortId} (hf : d.flows f = some fv)
    (h : installRules e d first p tcp f = some d') : ReflTransGen RefStep d d' := by
  have hcase := installRules_cases e first p tcp hf
  generalize installRules e d first p tcp f = r at hcase h
  cases hcase with
  | noRef => cases h
  | one h₁ =>
    cases h
    exact h₁.refSteps hf
  | two h₁ hf₁ h₂ =>
    cases h
    exact (h₁.refSteps hf).trans (h₂.refSteps hf₁)
  | undone h₁ hf₁ h₂ =>
    exact ((h₁.refSteps hf).trans (h₂.refSteps hf₁)).trans (fadeSteps_refSteps (destroy_fadeSteps h))

/-- The flow remembers which physical ports it was offloaded for. -/
def offloadMark (fv : FlowValue) (pf0 pf1 : Bool) : FlowValue := { fv with pf0Offloaded := pf0, pf1Offloaded := pf1 }

/-- Every handler of offloading marks the flow, or leaves it as it is, and then installs rules or does not. -/
theorem dpOffloadHandler_eq (cf : Conf) (e : Env) (c : Config) (m : Mbuf) (hf : d.flows f = some fv) : ∃ pf0 pf1,
    dpOffloadHandler cf e c d m f = some (d.setFlow f (offloadMark fv pf0 pf1)) ∨ ∃ first p tcp,
      dpOffloadHandler cf e c d m f = installRules e (d.setFlow f (offloadMark fv pf0 pf1)) first p tcp f := by
  have hsame : d.setFlow f (offloadMark fv fv.pf0Offloaded fv.pf1Offloaded) = d := by
    have hflows : d.flows.add f fv = d.flows := Function.update_eq_self_iff.mpr hf.symm
    unfold Dataplane.setFlow offloadMark
    rw [hflows]
  unfold dpOffloadHandler dpOffloadHandleLocalTraffic dpOffloadHandleInNetworkTraffic dpOffloadHandleTunnelEncapTraffic
    dpOffloadHandleTunnelDecapTraffic
  rw [hf]
  dsimp only
  by_cases hdecap : (!cf.isPf m.port && !cf.isPf m.df.nxtHop) = false ∧ cf.isPf m.df.nxtHop = false
  · rw [if_neg (by simp [hdecap.1]), if_neg (by simp [hdecap.2])]
    by_cases hcross : m.port ≠ cf.pf0
    · refine ⟨fv.pf0Offloaded, true, ?_⟩
      rw [if_pos hcross]
      split
      · exact .inl rfl
      · exact .inr ⟨_, _, _, rfl⟩
    · refine ⟨true, fv.pf1Offloaded, ?_⟩
      rw [if_neg hcross]
      split
      · exact .inl rfl
      · exact .inr ⟨_, _, _, rfl⟩
  · refine ⟨fv.pf0Offloaded, fv.pf1Offloaded, ?_⟩
    rw [hsame]
    repeat' split
    all_goals first | exact .inl rfl | exact .inr ⟨_, _, _, rfl⟩ | simp_all

/-- Offloading only handles references. -/
theorem dpOffloadHandler_refSteps {m : Mbuf} (h : dpOffloadHandler cf e c d m f = some d') :
    ReflTransGen RefStep d d' := by
  cases hf : d.flows f with
  | none => simp [dpOffloadHandler, hf] at h
  | some fv =>
    obtain ⟨pf0, pf1, heq⟩ := dpOffloadHandler_eq cf e c m hf
    have hmark : (offloadMark fv pf0 pf1).sansRefs = fv.sansRefs := rfl
    refine .head (.write hf hmark) ?_
    obtain heq | ⟨first, p, tcp, heq⟩ := heq <;> rw [heq] at h
    · cases h
      exact .refl
    · exact installRules_refSteps (Table.add_self ..) h

/-- The state in which a packet of the flow `f` is sent: a flow without translation is marked. -/
def sentMark (d : Dataplane) (f : ℕ) (fv : FlowValue) : Dataplane :=
  if fv.flags.nf then d else d.setFlow f { fv with flags := { fv.flags with dflt := true } }

theorem sentMark_eq (d : Dataplane) (f : ℕ) (fv : FlowValue) : sentMark d f fv = d ∨
    sentMark d f fv = d.setFlow f { fv with flags := { fv.flags with dflt := true } } := by
  unfold sentMark
  split
  · exact .inl rfl
  · exact .inr rfl

/-- What the `tx` node does. -/
theorem txNode_cases {m : Mbuf} (h : txNode cf e c d m = some d') : m.df.conntrack = none ∧ d' = d ∨ ∃ f fv,
    m.df.conntrack = some f ∧ d.flows f = some fv ∧ (m.df.offloadState ≠ .install ∧ d' = sentMark d f fv ∨
      m.df.offloadState = .install ∧ dpOffloadHandler cf e c (sentMark d f fv) m f = some d') := by
  unfold txNode at h
  split at h
  next hc =>
    cases h
    exact .inl ⟨hc, rfl⟩
  next f hc =>
    split at h
    · cases h
    next fv hf =>
      refine .inr ⟨f, fv, hc, hf, ?_⟩
      dsimp only at h
      split at h
      next hi => exact .inr ⟨hi, h⟩
      next hi =>
        cases h
        exact .inl ⟨hi, rfl⟩

/-- Sending marks a flow and then handles references only. -/
theorem txNode_refSteps {m : Mbuf} (h : txNode cf e c d m = some d') : m.df.conntrack = none ∧ d' = d ∨ ∃ f fv,
    m.df.conntrack = some f ∧ d.flows f = some fv ∧ ReflTransGen RefStep (sentMark d f fv) d' := by
  obtain h | ⟨f, fv, hc, hf, ⟨-, rfl⟩ | ⟨-, h⟩⟩ := txNode_cases h
  · exact .inl h
  · exact .inr ⟨f, fv, hc, hf, .refl⟩
  · exact .inr ⟨f, fv, hc, hf, dpOffloadHandler_refSteps h⟩

/-- Sending a packet. -/
theorem txNode_maint {m : Mbuf} (h : txNode cf e c d m = some d') : ReflTransGen Maint d d' := by
  obtain ⟨-, rfl⟩ | ⟨f, fv, -, hf, h⟩ := txNode_refSteps h
  · exact .refl
  · have hu : FlowUpd fv { fv with flags := { fv.flags with dflt := true } } :=
      ⟨rfl, rfl, rfl, rfl, Iff.rfl, fun h => by simp at h, fun h => ⟨h, rfl⟩, fun _ => rfl⟩
    refine .trans ?_ (refSteps_maint h)
    rcases sentMark_eq d f fv with h | h <;> rw [h]
    exact (Quiet.setFlow hf hu).maint

end Offload

end Dpservice
