import Dpservice.Service

/-!
# References to flows

A flow counts one reference of the flow table, until it is aged out, and one for each age context that points to it
(`refsOf`). `Refs` is the invariant: the counts are right, no live flow has count zero, every live context points to a
live flow, and what a flow stores in its slots are its own contexts.

Dropping a reference keeps the invariant and frees the flow exactly when the last one goes (`Refs.drop`):

- `Refs.destroy`: an age context is destroyed;
- `Refs.ageOut`: the reference of the table is dropped, if it has not been dropped before.
-/

namespace Dpservice

/-- The number of live age contexts of a flow. -/
def ctxCount (d : Dataplane) (f : ℕ) : ℕ := d.ageCtxs.count d.nextCtx fun x => x.cntrack == some f

/-- The references to a flow: that of the table, until it is dropped, and one for each context. -/
def refsOf (d : Dataplane) (f : ℕ) (fv : FlowValue) : Int := (if fv.aged then 0 else 1) + ctxCount d f

structure RefsRight (d : Dataplane) : Prop where
  count : ∀ f fv, d.flows f = some fv → fv.refCount = refsOf d f fv
  pos : ∀ f fv, d.flows f = some fv → 0 < fv.refCount
  ctx_live : ∀ a x f, d.ageCtxs a = some x → x.cntrack = some f → ∃ fv, d.flows f = some fv

/-- The invariant of the reference counts. -/
structure Refs (d : Dataplane) : Prop extends RefsRight d where
  ctx_lt : ∀ a x, d.ageCtxs a = some x → a < d.nextCtx
  slot : ∀ f fv i a, d.flows f = some fv → fv.rteAgeCtxs[i]? = some (some a) →
    ∃ x, d.ageCtxs a = some x ∧ x.cntrack = some f ∧ x.refIndex = i

/-- One flow changes, or is freed where `o` is `none`; entries of the table are only removed. -/
structure SetsFlow (d d' : Dataplane) (f : ℕ) (o : Option FlowValue) : Prop where
  flows : d'.flows = Function.update d.flows f o
  nextCtx : d'.nextCtx = d.nextCtx
  flowTbl : ∀ k g, d'.flowTbl k = some g → d.flowTbl k = some g

section Drop

variable {d d' : Dataplane} {f g a i : ℕ} {fv fv' gv : FlowValue} {x : AgeCtx}

theorem ctxCount_pos (hr : Refs d) (ha : d.ageCtxs a = some x) (hx : x.cntrack = some f) : 0 < ctxCount d f :=
  Table.count_pos.mpr ⟨a, hr.ctx_lt a x ha, x, ha, by simp [hx]⟩

/-- Two contexts of a flow count twice. -/
theorem ctxCount_two {b : ℕ} {y : AgeCtx} (hr : Refs d) (ha : d.ageCtxs a = some x) (hx : x.cntrack = some f)
    (hb : d.ageCtxs b = some y) (hy : y.cntrack = some f) (hab : a ≠ b) : 2 ≤ ctxCount d f := by
  have hdel := Table.count_del (p := fun x => x.cntrack == some f) (hr.ctx_lt a x ha) ha
  have hleft : 0 < Table.count (d.ageCtxs.del a) d.nextCtx fun x => x.cntrack == some f :=
    Table.count_pos.mpr ⟨b, hr.ctx_lt b y hb, y, by rw [Table.del_of_ne (Ne.symm hab), hb], by simp [hy]⟩
  simp only [hx, beq_self_eq_true, if_true] at hdel
  unfold ctxCount
  omega

/-- A flow loses a reference, and is freed with its last one. -/
theorem Refs.drop (hr : Refs d) (hf : d.flows f = some fv)
    (hset : SetsFlow d d' f (if fv.refCount = 1 then none else some fv'))
    (hcnt : fv'.refCount = fv.refCount - 1) (hrefs : fv'.refCount = refsOf d' f fv')
    (hctx : ∀ a x, d'.ageCtxs a = some x → d.ageCtxs a = some x)
    (hothers : ∀ g ≠ f, ctxCount d' g = ctxCount d g)
    (hslot : ∀ i a, fv'.rteAgeCtxs[i]? = some (some a) → ∃ x, d'.ageCtxs a = some x ∧ x.cntrack = some f ∧
    x.refIndex = i)
    (hkeep : ∀ a x g, g ≠ f → d.ageCtxs a = some x → x.cntrack = some g → d'.ageCtxs a = some x) : Refs d' := by
  have hpos := hr.pos f fv hf
  have hlive : ∀ g gv, d'.flows g = some gv → (g = f ∧ gv = fv' ∧ fv.refCount ≠ 1) ∨ (g ≠ f ∧ d.flows g = some gv) := by
    intro g gv hg
    rw [hset.flows] at hg
    by_cases hgf : g = f
    · rw [hgf, Function.update_self] at hg
      split at hg
      · cases hg
      next hne => exact .inl ⟨hgf, (Option.some.inj hg).symm, hne⟩
    · rw [Function.update_of_ne hgf] at hg
      exact .inr ⟨hgf, hg⟩
  refine { count := ?_, pos := ?_, ctx_live := ?_, ctx_lt := ?_, slot := ?_ }
  · intro g gv hg
    obtain ⟨rfl, rfl, -⟩ | ⟨hgf, hg⟩ := hlive g gv hg
    · exact hrefs
    · rw [hr.count g gv hg, refsOf, refsOf, hothers g hgf]
  · intro g gv hg
    obtain ⟨rfl, rfl, hne⟩ | ⟨-, hg⟩ := hlive g gv hg
    · omega
    · exact hr.pos g gv hg
  · intro a x g ha hx
    obtain ⟨gv, hg⟩ := hr.ctx_live a x g (hctx a x ha) hx
    rw [hset.flows]
    by_cases hgf : g = f
    · subst hgf
      rw [Function.update_self, if_neg]
      · exact ⟨_, rfl⟩
      · intro hone
        have hcount : 0 < ctxCount d' g :=
          Table.count_pos.mpr ⟨a, by rw [hset.nextCtx]; exact hr.ctx_lt a x (hctx a x ha), x, ha, by simp [hx]⟩
        rw [hcnt, hone, refsOf] at hrefs
        split at hrefs <;> omega
    · exact ⟨gv, by rw [Function.update_of_ne hgf, hg]⟩
  · intro a x ha
    rw [hset.nextCtx]
    exact hr.ctx_lt a x (hctx a x ha)
  · intro g gv i a hg hi
    obtain ⟨rfl, rfl, -⟩ | ⟨hgf, hg⟩ := hlive g gv hg
    · exact hslot i a hi
    · obtain ⟨x, ha, hx, hix⟩ := hr.slot g gv i a hg hi
      exact ⟨x, hkeep a x g hgf ha hx, hx, hix⟩

theorem dpFreeFlow_live (hf : d.flows f = some fv) :
    ∃ d', dpFreeFlow d f = some d' ∧ d'.ageCtxs = d.ageCtxs ∧ SetsFlow d d' f none := by
  unfold dpFreeFlow
  rw [hf]
  exact ⟨_, rfl, rfl, rfl, rfl, fun _ _ h => (Table.del_eq_some.mp (Table.del_eq_some.mp h).2).2⟩

theorem SetsFlow.flow {o : Option FlowValue} (h : SetsFlow d d' f o) : d'.flows f = o := by
  rw [h.flows, Function.update_self]

/-- A flow is written before it is changed. -/
theorem SetsFlow.after {o : Option FlowValue} (h : SetsFlow (d.setFlow f fv) d' f o) : SetsFlow d d' f o :=
  ⟨h.flows.trans (Function.update_idem ..), h.nextCtx, h.flowTbl⟩

theorem dpRefDec_eq (hf : d.flows f = some fv) : ∃ d', dpRefDec d f = some d' ∧ d'.ageCtxs = d.ageCtxs ∧
    SetsFlow d d' f (if fv.refCount = 1 then none else some { fv with refCount := fv.refCount - 1 }) := by
  unfold dpRefDec
  rw [hf]
  dsimp only
  by_cases hone : fv.refCount = 1
  · rw [if_pos (by omega), if_pos hone]
    have hset : (d.setFlow f { fv with refCount := fv.refCount - 1 }).flows f = _ := Table.add_self ..
    obtain ⟨d', hd', hctx, hfree⟩ := dpFreeFlow_live hset
    exact ⟨d', hd', hctx, hfree.after⟩
  · rw [if_neg (by omega), if_neg hone]
    exact ⟨_, rfl, rfl, rfl, rfl, fun _ _ => id⟩

/-- What destroying the context of a live flow does. -/
theorem dpDestroyRteFlowAgectx_eq (ha : d.ageCtxs a = some x) (hx : x.cntrack = some f) (hf : d.flows f = some fv) :
    ∃ d', dpDestroyRteFlowAgectx d a = some d' ∧ d'.ageCtxs = d.ageCtxs.del a ∧
      SetsFlow d d' f (if fv.refCount = 1 then none
        else some { dpDelRteAgeCtx fv x with refCount := fv.refCount - 1 }) := by
  have hset : (d.setFlow f (dpDelRteAgeCtx fv x)).flows f = _ := Table.add_self ..
  obtain ⟨d', hd', hctx, hdec⟩ := dpRefDec_eq hset
  refine ⟨{ d' with ageCtxs := d'.ageCtxs.del a }, ?_, ?_, hdec.after.flows, hdec.nextCtx, hdec.flowTbl⟩
  · simp only [dpDestroyRteFlowAgectx, ha, hx, hf, hd', Option.map_some]
  · rw [hctx]
    rfl

theorem dpAgeOutFlow_eq (hf : d.flows f = some fv) : ∃ d', dpAgeOutFlow d f = some d' ∧ d'.ageCtxs = d.ageCtxs ∧
    SetsFlow d d' f (if fv.refCount = 1 then none
      else some { fv with aged := true, refCount := fv.refCount - 1 }) := by
  have hset : (d.setFlow f { fv with aged := true }).flows f = _ := Table.add_self ..
  obtain ⟨d', hd', hctx, hdec⟩ := dpRefDec_eq hset
  refine ⟨d', ?_, hctx, hdec.after⟩
  simp only [dpAgeOutFlow, hf, hd']

/-- Destroying a context gives back the reference it holds. -/
theorem Refs.destroy (hr : Refs d) (ha : d.ageCtxs a = some x) (hx : x.cntrack = some f) (hf : d.flows f = some fv)
    (hctx : d'.ageCtxs = d.ageCtxs.del a) (hset : SetsFlow d d' f (if fv.refCount = 1 then none
      else some { dpDelRteAgeCtx fv x with refCount := fv.refCount - 1 })) : Refs d' := by
  have hcount : ∀ g, (ctxCount d' g + if x.cntrack == some g then 1 else 0) = ctxCount d g := by
    intro g
    unfold ctxCount
    rw [hctx, hset.nextCtx]
    exact Table.count_del (p := fun x => x.cntrack == some g) (hr.ctx_lt a x ha) ha
  refine hr.drop hf hset rfl ?_ ?_ ?_ ?_ ?_
  · have h := hcount f
    rw [hx, beq_self_eq_true, if_pos rfl] at h
    have hold := hr.count f fv hf
    unfold refsOf at hold ⊢
    dsimp only [dpDelRteAgeCtx]
    rw [hold, ← h, Int.natCast_add, ← Int.add_assoc]
    exact Int.add_sub_cancel ..
  · intro b y hb
    rw [hctx, Table.del_eq_some] at hb
    exact hb.2
  · intro g hg
    have h := hcount g
    rw [hx, if_neg (by simpa using Ne.symm hg)] at h
    exact h
  · intro i b hi
    simp only [dpDelRteAgeCtx, List.getElem?_set] at hi
    split at hi
    · split at hi <;> simp at hi
    next hne =>
      obtain ⟨y, hb, hy, hix⟩ := hr.slot f fv i b hf hi
      refine ⟨y, ?_, hy, hix⟩
      rw [hctx, Table.del_of_ne, hb]
      rintro rfl
      rw [ha, Option.some.injEq] at hb
      exact hne (hb ▸ hix)
  · intro b y g hg hb hy
    rw [hctx, Table.del_of_ne, hb]
    rintro rfl
    rw [ha, Option.some.injEq] at hb
    rw [← hb, hx, Option.some.injEq] at hy
    exact hg hy.symm

/-- Dropping the reference of the table once. -/
theorem Refs.ageOut (hr : Refs d) (hf : d.flows f = some fv) (haged : fv.aged = false)
    (hctx : d'.ageCtxs = d.ageCtxs) (hset : SetsFlow d d' f (if fv.refCount = 1 then none
      else some { fv with aged := true, refCount := fv.refCount - 1 })) : Refs d' := by
  have hcount : ∀ g, ctxCount d' g = ctxCount d g := by
    intro g
    unfold ctxCount
    rw [hctx, hset.nextCtx]
  refine hr.drop hf hset rfl ?_ ?_ (fun g _ => hcount g) ?_ ?_
  · have hold := hr.count f fv hf
    unfold refsOf at hold ⊢
    rw [hcount]
    simp only [haged, Bool.false_eq_true, if_false] at hold
    simp only [if_true]
    omega
  · intro b y hb
    rwa [hctx] at hb
  · intro i b hi
    rw [hctx]
    exact hr.slot f fv i b hf hi
  · intro b y g _ hb _
    rw [hctx, hb]

end Drop

/-! ## Removing the hardware rules of a flow -/

section Remove

variable {d d' : Dataplane} {f a i : ℕ} {fv fv' : FlowValue} {x : AgeCtx} {sec : ℕ → Option UInt32}

theorem getD_slot (h : fv.rteAgeCtxs.getD i none = some a) : fv.rteAgeCtxs[i]? = some (some a) := by
  rw [List.getD_eq_getElem?_getD] at h
  cases hi : fv.rteAgeCtxs[i]? with
  | none => rw [hi] at h; cases h
  | some o =>
    rw [hi, Option.getD_some] at h
    rw [h]

/-- Destroying a context that is not the last reference to its flow. -/
theorem destroy_live (hr : Refs d) (ha : d.ageCtxs a = some x) (hx : x.cntrack = some f) (hf : d.flows f = some fv)
    (hmore : fv.refCount ≠ 1) : ∃ d', dpDestroyRteFlowAgectx d a = some d' ∧ Refs d' ∧ d'.ageCtxs = d.ageCtxs.del a ∧
      SetsFlow d d' f (some { dpDelRteAgeCtx fv x with refCount := fv.refCount - 1 }) := by
  obtain ⟨d', hd', hctx, hset⟩ := dpDestroyRteFlowAgectx_eq ha hx hf
  refine ⟨d', hd', hr.destroy ha hx hf hctx hset, hctx, ?_⟩
  rwa [if_neg hmore] at hset

/-- While the table holds its reference, destroying a context does not free the flow. -/
theorem refCount_ne_one (hr : Refs d) (ha : d.ageCtxs a = some x) (hx : x.cntrack = some f) (hf : d.flows f = some fv)
    (haged : fv.aged = false) : fv.refCount ≠ 1 := by
  have hpos := ctxCount_pos hr ha hx
  rw [hr.count f fv hf, refsOf, haged, if_neg (by decide)]
  omega

/-- `dp_rte_flow_query_and_remove` will destroy this context of the flow. -/
def Expires (sec : ℕ → Option UInt32) (fv : FlowValue) (a : ℕ) (x : AgeCtx) : Prop :=
  some a ∈ fv.rteAgeCtxs ∧ x.handle = true ∧ (sec a).any (· ≥ fv.timeoutValue) = true

instance (fv : FlowValue) (a : ℕ) (x : AgeCtx) : Decidable (Expires sec fv a x) :=
  inferInstanceAs (Decidable (_ ∧ _ ∧ _))

/-- A flow whose table reference was dropped keeps a context through `dp_rte_flow_query_and_remove`. -/
def LastsQuery (sec : ℕ → Option UInt32) (d : Dataplane) (f : ℕ) (fv : FlowValue) : Prop :=
  fv.aged = true → ¬ ∀ a < d.nextCtx, ∀ x ∈ d.ageCtxs a, x.cntrack = some f → Expires sec fv a x

instance (fv : FlowValue) : Decidable (LastsQuery sec d f fv) :=
  inferInstanceAs (Decidable (_ → _))

theorem LastsQuery.exists (h : LastsQuery sec d f fv) (haged : fv.aged = true) :
    ∃ a x, d.ageCtxs a = some x ∧ x.cntrack = some f ∧ ¬ Expires sec fv a x := by
  have h := h haged
  push Not at h
  obtain ⟨a, -, x, hx, hc, he⟩ := h
  exact ⟨a, x, hx, hc, he⟩

/-- Destroying an expired context keeps one that is not, so the flow stays. -/
theorem LastsQuery.destroy (h : LastsQuery sec d f fv) (hr : Refs d) (ha : d.ageCtxs a = some x)
    (hx : x.cntrack = some f) (hf : d.flows f = some fv) (he : Expires sec fv a x) :
    ∃ d' fv', dpDestroyRteFlowAgectx d a = some d' ∧ Refs d' ∧ d'.flows f = some fv' ∧ LastsQuery sec d' f fv' := by
  cases haged : fv.aged with
  | false =>
    obtain ⟨d', hd', hr', -, hset⟩ := destroy_live hr ha hx hf (refCount_ne_one hr ha hx hf haged)
    exact ⟨d', _, hd', hr', hset.flow, fun h => absurd (h.symm.trans haged) (by decide)⟩
  | true =>
    obtain ⟨b, y, hb, hy, hne⟩ := h.exists haged
    have hab : a ≠ b := by
      rintro rfl
      rw [ha, Option.some.injEq] at hb
      exact hne (hb ▸ he)
    have htwo := ctxCount_two hr ha hx hb hy hab
    have hmore : fv.refCount ≠ 1 := by
      rw [hr.count f fv hf, refsOf, haged, if_pos rfl]
      omega
    obtain ⟨d', hd', hr', hctx, hset⟩ := destroy_live hr ha hx hf hmore
    have hb' : d'.ageCtxs b = some y := by rw [hctx, Table.del_of_ne (Ne.symm hab), hb]
    refine ⟨d', _, hd', hr', hset.flow, fun _ hall => hne ?_⟩
    obtain ⟨hmem, hh, hs⟩ := hall b (hr'.ctx_lt b y hb') y hb' hy
    refine ⟨?_, hh, hs⟩
    rcases List.mem_or_eq_of_mem_set hmem with hmem | hmem
    · exact hmem
    · cases hmem

/-- `dp_rte_flow_query_and_remove` does not free the flow. -/
theorem dpRteFlowQueryAndRemove_refs {is : List ℕ} (hr : Refs d) (hf : d.flows f = some fv)
    (hl : LastsQuery sec d f fv) :
    ∃ d' fv', dpRteFlowQueryAndRemove sec f is d = some d' ∧ Refs d' ∧ d'.flows f = some fv' := by
  induction is generalizing d fv with
  | nil => exact ⟨d, fv, rfl, hr, hf⟩
  | cons i is ih =>
    unfold dpRteFlowQueryAndRemove
    rw [hf]
    dsimp only
    cases hi : fv.rteAgeCtxs.getD i none with
    | none => exact ih hr hf hl
    | some a =>
      obtain ⟨x, ha, hx, -⟩ := hr.slot f fv i a hf (getD_slot hi)
      dsimp only
      rw [ha]
      dsimp only
      split
      · exact ih hr hf hl
      next hh =>
        cases hs : sec a with
        | none => exact ⟨d, fv, rfl, hr, hf⟩
        | some age =>
          dsimp only
          split
          next hage =>
            have he : Expires sec fv a x :=
              ⟨List.mem_of_getElem? (getD_slot hi), by simpa using hh, by simpa [hs] using hage⟩
            obtain ⟨d', fv', hd', hr', hf', hl'⟩ := hl.destroy hr ha hx hf he
            rw [hd']
            exact ih hr' hf' hl'
          · exact ih hr hf hl

end Remove

/-! ## The passes -/

section Passes

variable {cf : Conf} {e : Env} {d d' : Dataplane} {f a : ℕ} {fv : FlowValue} {x : AgeCtx}

/-- A context that points to no flow is freed. -/
theorem Refs.delCtx (hr : Refs d) (ha : d.ageCtxs a = some x) (hx : x.cntrack = none) :
    Refs { d with ageCtxs := d.ageCtxs.del a } := by
  have hcount : ∀ g, ctxCount { d with ageCtxs := d.ageCtxs.del a } g = ctxCount d g := by
    intro g
    have h := Table.count_del (p := fun x => x.cntrack == some g) (hr.ctx_lt a x ha) ha
    rw [hx, if_neg (by simp)] at h
    exact h
  have hmem : ∀ {b y}, (d.ageCtxs.del a) b = some y → d.ageCtxs b = some y := fun h => (Table.del_eq_some.mp h).2
  refine { count := ?_, pos := hr.pos, ctx_live := ?_, ctx_lt := ?_, slot := ?_ }
  · intro f fv hf
    rw [refsOf, hcount]
    exact hr.count f fv hf
  · exact fun b y f hb => hr.ctx_live b y f (hmem hb)
  · exact fun b y hb => hr.ctx_lt b y (hmem hb)
  · intro f fv i b hf hi
    obtain ⟨y, hb, hy, hix⟩ := hr.slot f fv i b hf hi
    refine ⟨y, ?_, hy, hix⟩
    refine (Table.del_of_ne ?_ _).trans hb
    rintro rfl
    rw [ha, Option.some.injEq] at hb
    rw [← hb, hx] at hy
    cases hy

/-- A live context can be destroyed. -/
theorem dpDestroyRteFlowAgectx_refs (hr : Refs d) (ha : d.ageCtxs a = some x) :
    ∃ d', dpDestroyRteFlowAgectx d a = some d' ∧ Refs d' ∧ d'.ageCtxs = d.ageCtxs.del a := by
  cases hx : x.cntrack with
  | none =>
    refine ⟨_, ?_, hr.delCtx ha hx, rfl⟩
    simp only [dpDestroyRteFlowAgectx, ha, hx]
  | some f =>
    obtain ⟨fv, hf⟩ := hr.ctx_live a x f ha hx
    obtain ⟨d', hd', hctx, hset⟩ := dpDestroyRteFlowAgectx_eq ha hx hf
    exact ⟨d', hd', hr.destroy ha hx hf hctx hset, hctx⟩

/-- The hardware reports live contexts, each once. -/
def Reported (d : Dataplane) (ctxs : List ℕ) : Prop := ctxs.Nodup ∧ ∀ a ∈ ctxs, (d.ageCtxs a).isSome = true

instance (d : Dataplane) (ctxs : List ℕ) : Decidable (Reported d ctxs) := inferInstanceAs (Decidable (_ ∧ _))

theorem dpProcessAgedFlows_refs {ctxs : List ℕ} (hr : Refs d) (hc : Reported d ctxs) :
    ∃ d', dpProcessAgedFlows d ctxs = some d' ∧ Refs d' := by
  unfold dpProcessAgedFlows
  induction ctxs generalizing d with
  | nil => exact ⟨d, rfl, hr⟩
  | cons a ctxs ih =>
    obtain ⟨hnodup, hlive⟩ := hc
    obtain ⟨hnot, hnodup⟩ := List.nodup_cons.mp hnodup
    obtain ⟨x, ha⟩ := Option.isSome_iff_exists.mp (hlive a List.mem_cons_self)
    obtain ⟨d₁, hd₁, hr₁, hctx⟩ := dpDestroyRteFlowAgectx_refs hr ha
    have hc₁ : Reported d₁ ctxs := by
      refine ⟨hnodup, fun b hb => ?_⟩
      rw [hctx, Table.del_of_ne (by rintro rfl; exact hnot hb)]
      exact hlive b (List.mem_cons_of_mem _ hb)
    obtain ⟨d', hd', hr'⟩ := ih hr₁ hc₁
    exact ⟨d', by rw [List.foldlM_cons, hd₁]; exact hd', hr'⟩

/-- An entry that the aging pass visits: for TCP, the flow lasts through the query of its contexts. -/
def EntryLasts (cf : Conf) (e : Env) (d : Dataplane) (v : FlowKey × ℕ) : Prop :=
  cf.offloadEnabled = true → v.1.proto = ipprotoTcp →
    ∀ f ∈ d.flowTbl v.1, ∀ fv ∈ d.flows f, LastsQuery (e.sinceLastHit v.2) d f fv

instance (v : FlowKey × ℕ) : Decidable (EntryLasts cf e d v) := by
  unfold EntryLasts
  infer_instance

theorem dpAgeOutFlow_refs (hr : Refs d) (hf : d.flows f = some fv) (haged : fv.aged = false) :
    ∃ d', dpAgeOutFlow d f = some d' ∧ Refs d' := by
  obtain ⟨d', hd', hctx, hset⟩ := dpAgeOutFlow_eq hf
  exact ⟨d', hd', hr.ageOut hf haged hctx hset⟩

theorem dpAgeEntry_refs {v : FlowKey × ℕ} (hr : Refs d)
    (hlive : ∀ f, d.flowTbl v.1 = some f → ∃ fv, d.flows f = some fv)
    (hl : EntryLasts cf e d v) : ∃ d', dpAgeEntry cf e d v = some d' ∧ Refs d' := by
  unfold dpAgeEntry
  cases hk : d.flowTbl v.1 with
  | none => exact ⟨d, rfl, hr⟩
  | some f =>
    obtain ⟨fv, hf⟩ := hlive f hk
    dsimp only
    obtain ⟨d₁, fv₁, hd₁, hr₁, hf₁⟩ : ∃ d₁ fv₁, (if (cf.offloadEnabled && v.1.proto == ipprotoTcp) = true then
        dpRteFlowQueryAndRemove (e.sinceLastHit v.2) f (List.range 6) d else some d) = some d₁ ∧ Refs d₁ ∧
        d₁.flows f = some fv₁ := by
      split
      next htcp =>
        rw [Bool.and_eq_true, beq_iff_eq] at htcp
        exact dpRteFlowQueryAndRemove_refs hr hf (hl htcp.1 htcp.2 f hk fv hf)
      · exact ⟨d, fv, rfl, hr, hf⟩
    rw [hd₁]
    dsimp only
    rw [hf₁]
    dsimp only
    split
    next hold =>
      rw [Bool.and_eq_true, Bool.not_eq_true'] at hold
      exact dpAgeOutFlow_refs hr₁ hf₁ hold.2
    · exact ⟨d₁, rfl, hr₁⟩

end Passes

end Dpservice
