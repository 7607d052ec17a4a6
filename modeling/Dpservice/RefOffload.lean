import Dpservice.Effect
import Dpservice.Refs

/-!
# Hardware rules and references to flows

Sending a packet may install hardware rules, each of which refers to the flow; a rule that cannot be installed leaves
nothing behind (`installRule_refs`), so that sending keeps the reference counts right and frees no flow (`txNode_refs`).
Steps that touch no reference, though they may make flows, are those of `KeepsRefs`.
-/

namespace Dpservice

/-! ## Steps that leave references alone -/

/-- No direction of the flow asks for a hardware rule. -/
def FlowValue.NoInstall (fv : FlowValue) : Prop := fv.offloadOrig ≠ .install ∧ fv.offloadReply ≠ .install

/-- A change of a flow value that leaves its references alone, and asks for no rule where offloading is disabled. -/
structure RefUpd (cf : Conf) (fv fv' : FlowValue) : Prop where
  refCount : fv'.refCount = fv.refCount
  aged : fv'.aged = fv.aged
  slots : fv'.rteAgeCtxs = fv.rteAgeCtxs
  noInstall : cf.offloadEnabled = false → fv.NoInstall → fv'.NoInstall

theorem RefUpd.refl {cf : Conf} (fv : FlowValue) : RefUpd cf fv fv := ⟨rfl, rfl, rfl, fun _ => id⟩

theorem RefUpd.trans {cf : Conf} {fv₁ fv₂ fv₃ : FlowValue} (h : RefUpd cf fv₁ fv₂) (h' : RefUpd cf fv₂ fv₃) :
    RefUpd cf fv₁ fv₃ where
  refCount := h'.refCount.trans h.refCount
  aged := h'.aged.trans h.aged
  slots := h'.slots.trans h.slots
  noInstall hoff := h'.noInstall hoff ∘ h.noInstall hoff

/-- A flow value with the reference of the table only. -/
structure FlowValue.Fresh (cf : Conf) (fv : FlowValue) : Prop where
  refCount : fv.refCount = 1
  aged : fv.aged = false
  slots : ∀ (i a : ℕ), fv.rteAgeCtxs[i]? ≠ some (some a)
  noInstall : cf.offloadEnabled = false → fv.NoInstall

theorem FlowValue.Fresh.upd {cf : Conf} {fv fv' : FlowValue} (h : fv.Fresh cf) (hu : RefUpd cf fv fv') :
    fv'.Fresh cf where
  refCount := hu.refCount.trans h.refCount
  aged := hu.aged.trans h.aged
  slots := hu.slots ▸ h.slots
  noInstall hoff := hu.noInstall hoff (h.noInstall hoff)

/-- The same flows and contexts with the same references, and maybe new flows. -/
structure KeepsRefs (cf : Conf) (d d' : Dataplane) : Prop where
  ageCtxs : d'.ageCtxs = d.ageCtxs
  nextCtx : d'.nextCtx = d.nextCtx
  live : ∀ f fv, d.flows f = some fv → ∃ fv', d'.flows f = some fv' ∧ RefUpd cf fv fv'
  was_live : ∀ f fv', d'.flows f = some fv' →
    (∃ fv, d.flows f = some fv ∧ RefUpd cf fv fv') ∨ d.flows f = none ∧ fv'.Fresh cf

section KeepsRefs

variable {cf : Conf} {d d' : Dataplane} {f : ℕ} {fv fv' : FlowValue}

theorem KeepsRefs.of_eq (hctx : d'.ageCtxs = d.ageCtxs) (hnext : d'.nextCtx = d.nextCtx) (hflows : d'.flows = d.flows) :
    KeepsRefs cf d d' where
  ageCtxs := hctx
  nextCtx := hnext
  live _ fv hf := ⟨fv, hflows ▸ hf, .refl fv⟩
  was_live _ fv hf := .inl ⟨fv, hflows ▸ hf, .refl fv⟩

theorem KeepsRefs.refl (d : Dataplane) : KeepsRefs cf d d := .of_eq rfl rfl rfl

theorem KeepsRefs.same (h : d' = d) : KeepsRefs cf d d' := by
  rw [h]
  exact .refl d

theorem KeepsRefs.trans {d₁ d₂ d₃ : Dataplane} (h : KeepsRefs cf d₁ d₂) (h' : KeepsRefs cf d₂ d₃) :
    KeepsRefs cf d₁ d₃ where
  ageCtxs := h'.ageCtxs.trans h.ageCtxs
  nextCtx := h'.nextCtx.trans h.nextCtx
  live f fv hf := by
    obtain ⟨fv₂, hf₂, hu⟩ := h.live f fv hf
    obtain ⟨fv₃, hf₃, hu'⟩ := h'.live f fv₂ hf₂
    exact ⟨fv₃, hf₃, hu.trans hu'⟩
  was_live f fv₃ hf₃ := by
    obtain ⟨fv₂, hf₂, hu'⟩ | ⟨hnone, hfresh⟩ := h'.was_live f fv₃ hf₃
    · obtain ⟨fv₁, hf₁, hu⟩ | ⟨hnone, hfresh⟩ := h.was_live f fv₂ hf₂
      · exact .inl ⟨fv₁, hf₁, hu.trans hu'⟩
      · exact .inr ⟨hnone, hfresh.upd hu'⟩
    · refine .inr ⟨Option.eq_none_iff_forall_ne_some.mpr fun fv₁ hf₁ => ?_, hfresh⟩
      obtain ⟨fv₂, hf₂, -⟩ := h.live f fv₁ hf₁
      rw [hnone] at hf₂
      cases hf₂

/-- A live flow is written back, and nothing happens to contexts. -/
theorem KeepsRefs.write (hf : d.flows f = some fv) (hflows : d'.flows = d.flows.add f fv') (hu : RefUpd cf fv fv')
    (hctx : d'.ageCtxs = d.ageCtxs) (hnext : d'.nextCtx = d.nextCtx) : KeepsRefs cf d d' where
  ageCtxs := hctx
  nextCtx := hnext
  live g gv hg := by
    rw [hflows]
    by_cases hgf : g = f
    · subst hgf
      rw [hf, Option.some.injEq] at hg
      exact ⟨fv', Table.add_self .., hg ▸ hu⟩
    · exact ⟨gv, by rw [Table.add_of_ne hgf, hg], .refl gv⟩
  was_live g gv hg := by
    rw [hflows, Table.add_eq_some] at hg
    obtain ⟨rfl, rfl⟩ | ⟨-, hg⟩ := hg
    · exact .inl ⟨fv, hf, hu⟩
    · exact .inl ⟨gv, hg, .refl gv⟩

/-- A flow is made. -/
theorem KeepsRefs.make (hf : d.flows f = none) (hflows : d'.flows = d.flows.add f fv) (hfresh : fv.Fresh cf)
    (hctx : d'.ageCtxs = d.ageCtxs) (hnext : d'.nextCtx = d.nextCtx) : KeepsRefs cf d d' where
  ageCtxs := hctx
  nextCtx := hnext
  live g gv hg := by
    refine ⟨gv, ?_, .refl gv⟩
    rw [hflows, Table.add_of_ne, hg]
    rintro rfl
    rw [hf] at hg
    cases hg
  was_live g gv hg := by
    rw [hflows, Table.add_eq_some] at hg
    obtain ⟨rfl, rfl⟩ | ⟨-, hg⟩ := hg
    · exact .inr ⟨hf, hfresh⟩
    · exact .inl ⟨gv, hg, .refl gv⟩

/-- What keeps the references keeps them right. -/
theorem Refs.keeps (hr : Refs d) (h : KeepsRefs cf d d') : Refs d' := by
  have hcount : ∀ g, ctxCount d' g = ctxCount d g := by
    intro g
    unfold ctxCount
    rw [h.ageCtxs, h.nextCtx]
  have hnone : ∀ g, d.flows g = none → ctxCount d g = 0 := by
    intro g hg
    refine Nat.eq_zero_of_not_pos fun hpos => ?_
    obtain ⟨a, -, x, ha, hx⟩ := Table.count_pos.mp hpos
    obtain ⟨gv, hlive⟩ := hr.ctx_live a x g ha (by simpa using hx)
    rw [hg] at hlive
    cases hlive
  refine { count := ?_, pos := ?_, ctx_live := ?_, ctx_lt := ?_, slot := ?_ }
  · intro g gv' hg'
    rw [refsOf, hcount]
    obtain ⟨gv, hg, hu⟩ | ⟨hg, hfresh⟩ := h.was_live g gv' hg'
    · rw [hu.refCount, hu.aged]
      exact hr.count g gv hg
    · rw [hfresh.refCount, hfresh.aged, hnone g hg]
      rfl
  · intro g gv' hg'
    obtain ⟨gv, hg, hu⟩ | ⟨-, hfresh⟩ := h.was_live g gv' hg'
    · rw [hu.refCount]
      exact hr.pos g gv hg
    · rw [hfresh.refCount]
      decide
  · intro a x g ha hx
    obtain ⟨gv, hg⟩ := hr.ctx_live a x g (h.ageCtxs ▸ ha) hx
    obtain ⟨gv', hg', -⟩ := h.live g gv hg
    exact ⟨gv', hg'⟩
  · intro a x ha
    rw [h.nextCtx]
    exact hr.ctx_lt a x (h.ageCtxs ▸ ha)
  · intro g gv' i a hg' hi
    rw [h.ageCtxs]
    obtain ⟨gv, hg, hu⟩ | ⟨-, hfresh⟩ := h.was_live g gv' hg'
    · exact hr.slot g gv i a hg (hu.slots ▸ hi)
    · exact absurd hi (hfresh.slots i a)

end KeepsRefs

/-! ## Installing rules -/

section Install

variable {cf : Conf} {e : Env} {c : Config} {d d' : Dataplane} {f a i : ℕ} {fv fv' : FlowValue} {x : AgeCtx}
  {p : PortId} {tcp : Bool} {m : Mbuf}

theorem Refs.fresh (hr : Refs d) : d.ageCtxs d.nextCtx = none := by
  cases h : d.ageCtxs d.nextCtx with
  | none => rfl
  | some x => exact absurd (hr.ctx_lt _ x h) (Nat.lt_irrefl _)

/-- A new context refers to a live flow. -/
theorem Refs.install {l : List (Option ℕ)} (hr : Refs d) (hf : d.flows f = some fv) (hx : x.cntrack = some f)
    (hl : l = fv.rteAgeCtxs ∨ l = fv.rteAgeCtxs.set x.refIndex (some d.nextCtx)) :
    Refs ((d.newCtx x).setFlow f { fv with refCount := fv.refCount + 1, rteAgeCtxs := l }) := by
  have hcount : ∀ g, ctxCount (d.newCtx x) g = ctxCount d g + if x.cntrack == some g then 1 else 0 :=
    fun g => Table.count_new ..
  have hold : ∀ {a y}, d.ageCtxs a = some y → (d.newCtx x).ageCtxs a = some y := by
    intro a y ha
    exact (Table.add_of_ne (Nat.ne_of_lt (hr.ctx_lt a y ha)) ..).trans ha
  refine { count := ?_, pos := ?_, ctx_live := ?_, ctx_lt := ?_, slot := ?_ }
  · intro g gv hg
    obtain ⟨rfl, rfl⟩ | ⟨hne, hg⟩ := Table.add_eq_some.mp hg
    · have hone : ctxCount (d.newCtx x) g = ctxCount d g + 1 := by rw [hcount, hx, beq_self_eq_true, if_pos rfl]
      have hcnt := hr.count g fv hf
      change fv.refCount + 1 = (if fv.aged then 0 else 1) + (ctxCount (d.newCtx x) g : Int)
      rw [hone, hcnt, refsOf, Int.natCast_add, Int.add_assoc]
      rfl
    · have hsame : ctxCount (d.newCtx x) g = ctxCount d g := by
        rw [hcount, hx, if_neg (by simpa using Ne.symm hne), Nat.add_zero]
      change gv.refCount = (if gv.aged then 0 else 1) + (ctxCount (d.newCtx x) g : Int)
      rw [hr.count g gv hg, refsOf, hsame]
  · intro g gv hg
    obtain ⟨rfl, rfl⟩ | ⟨-, hg⟩ := Table.add_eq_some.mp hg
    · have := hr.pos g fv hf
      dsimp only
      omega
    · exact hr.pos g gv hg
  · intro a y g ha hy
    by_cases hg : g = f
    · subst hg
      exact ⟨_, Table.add_self ..⟩
    · obtain ⟨rfl, rfl⟩ | ⟨-, ha⟩ := Table.add_eq_some.mp ha
      · exact absurd (Option.some.inj (hy.symm.trans hx)) hg
      · obtain ⟨gv, hgv⟩ := hr.ctx_live a y g ha hy
        exact ⟨gv, (Table.add_of_ne hg ..).trans hgv⟩
  · intro a y ha
    obtain ⟨rfl, -⟩ | ⟨-, ha⟩ := Table.add_eq_some.mp ha
    · exact Nat.lt_succ_self _
    · exact Nat.lt_succ_of_lt (hr.ctx_lt a y ha)
  · intro g gv j b hg hj
    obtain ⟨rfl, rfl⟩ | ⟨-, hg⟩ := Table.add_eq_some.mp hg
    · obtain ⟨rfl, rfl⟩ | hj := slot_cases hl hj
      · exact ⟨x, Table.add_self .., hx, rfl⟩
      · obtain ⟨y, hb, hy⟩ := hr.slot g fv j b hf hj
        exact ⟨y, hold hb, hy⟩
    · obtain ⟨y, hb, hy⟩ := hr.slot g gv j b hg hj
      exact ⟨y, hold hb, hy⟩

/-- A number for a context is used up. -/
theorem Refs.skipCtx (hr : Refs d) (hctx : d'.ageCtxs = d.ageCtxs) (hnext : d'.nextCtx = d.nextCtx + 1)
    (hflows : d'.flows = d.flows) : Refs d' := by
  have hcount : ∀ g, ctxCount d' g = ctxCount d g := by
    intro g
    unfold ctxCount
    rw [hctx, hnext, Table.count_succ, hr.fresh]
    rfl
  refine { count := ?_, pos := ?_, ctx_live := ?_, ctx_lt := ?_, slot := ?_ }
  · intro g gv hg
    rw [refsOf, hcount]
    exact hr.count g gv (hflows ▸ hg)
  · exact fun g gv hg => hr.pos g gv (hflows ▸ hg)
  · rw [hctx, hflows]
    exact hr.ctx_live
  · intro a y ha
    rw [hnext]
    exact Nat.lt_succ_of_lt (hr.ctx_lt a y (hctx ▸ ha))
  · rw [hctx, hflows]
    exact hr.slot

/-- A rule that is installed refers to the flow; one that is not leaves nothing behind. -/
theorem InstallCase.refs {o : Option ℕ} (hr : Refs d) (hf : d.flows f = some fv)
    (h : InstallCase d f fv (some (o, d'))) : Refs d' := by
  cases h with
  | nothing => exact hr
  | skipped => exact hr.skipCtx (Table.del_of_none hr.fresh) rfl rfl
  | installed hx hl => exact hr.install hf hx hl

def StaysLive (d d' : Dataplane) : Prop := ∀ g gv, d.flows g = some gv → ∃ gv', d'.flows g = some gv'

theorem StaysLive.refl (d : Dataplane) : StaysLive d d := fun _ gv hg => ⟨gv, hg⟩

theorem StaysLive.trans {d₁ d₂ d₃ : Dataplane} (h : StaysLive d₁ d₂) (h' : StaysLive d₂ d₃) : StaysLive d₁ d₃ := by
  intro g gv hg
  obtain ⟨gv', hg'⟩ := h g gv hg
  exact h' g gv' hg'

theorem StaysLive.add (h : d'.flows = d.flows.add f fv') : StaysLive d d' := by
  intro g gv hg
  by_cases hgf : g = f
  · exact ⟨fv', by rw [h, hgf, Table.add_self]⟩
  · exact ⟨gv, by rw [h, Table.add_of_ne hgf, hg]⟩

theorem InstallCase.live {o : Option ℕ} (h : InstallCase d f fv (some (o, d'))) : StaysLive d d' := by
  cases h with
  | nothing => exact .refl d
  | skipped => exact .refl _
  | installed => exact .add rfl

/-- Destroying one of several references frees nothing. -/
theorem destroy_staysLive (hr : Refs d) (ha : d.ageCtxs a = some x) (hx : x.cntrack = some f)
    (hf : d.flows f = some fv) (hmore : fv.refCount ≠ 1) :
    ∃ d', dpDestroyRteFlowAgectx d a = some d' ∧ Refs d' ∧ StaysLive d d' := by
  obtain ⟨d', hd', hr', -, hset⟩ := destroy_live hr ha hx hf hmore
  exact ⟨d', hd', hr', .add hset.flows⟩

/-- Installing rules keeps references right. -/
theorem installRules_refs {first : Option PortId} (hr : Refs d) (hf : d.flows f = some fv) :
    ∃ d', installRules e d first p tcp f = some d' ∧ Refs d' ∧ StaysLive d d' := by
  have hpos := hr.pos f fv hf
  have hcase := installRules_cases e first p tcp hf
  generalize installRules e d first p tcp f = r at hcase
  cases hcase with
  | noRef hz => omega
  | one h => exact ⟨_, rfl, h.refs hr hf, h.live⟩
  | two h hf₁ h₂ => exact ⟨_, rfl, h₂.refs (h.refs hr hf) hf₁, h.live.trans h₂.live⟩
  | undone h hf₁ h₂ =>
    have hr₁ := h.refs hr hf
    obtain ⟨hf₂, hcnt, x, ha, hx⟩ := h.undo hf₁ h₂
    obtain ⟨d', hd', hr', hlive⟩ := destroy_staysLive (h₂.refs hr₁ hf₁) ha hx hf₂ (by omega)
    exact ⟨d', hd', hr', (h.live.trans h₂.live).trans hlive⟩

/-- So does the handler. -/
theorem dpOffloadHandler_refs (hr : Refs d) (hf : d.flows f = some fv) :
    ∃ d', dpOffloadHandler cf e c d m f = some d' ∧ Refs d' ∧ StaysLive d d' := by
  obtain ⟨pf0, pf1, heq⟩ := dpOffloadHandler_eq cf e c m hf
  have hr' : Refs (d.setFlow f (offloadMark fv pf0 pf1)) :=
    hr.keeps (show KeepsRefs cf d _ from .write hf rfl ⟨rfl, rfl, rfl, fun _ => id⟩ rfl rfl)
  have hlive : StaysLive d (d.setFlow f (offloadMark fv pf0 pf1)) := .add rfl
  obtain heq | ⟨first, p, tcp, heq⟩ := heq <;> rw [heq]
  · exact ⟨_, rfl, hr', hlive⟩
  · obtain ⟨d', hd', hr', hlive'⟩ := installRules_refs hr' (Table.add_self ..)
    exact ⟨d', hd', hr', hlive.trans hlive'⟩

/-- **Sending a packet keeps the counts right and frees no flow.** -/
theorem txNode_refs (cf : Conf) (e : Env) (c : Config) (hr : Refs d)
    (hlive : ∀ f, m.df.conntrack = some f → ∃ fv, d.flows f = some fv) :
    ∃ d', txNode cf e c d m = some d' ∧ Refs d' ∧ StaysLive d d' := by
  cases hc : m.df.conntrack with
  | none => exact ⟨d, by rw [txNode, hc], hr, .refl d⟩
  | some f =>
    obtain ⟨fv, hf⟩ := hlive f hc
    obtain ⟨hs, fv₁, hf₁⟩ : KeepsRefs cf d (sentMark d f fv) ∧ ∃ fv₁, (sentMark d f fv).flows f = some fv₁ := by
      rcases sentMark_eq d f fv with h | h <;> rw [h]
      · exact ⟨.refl d, fv, hf⟩
      · exact ⟨.write hf rfl ⟨rfl, rfl, rfl, fun _ => id⟩ rfl rfl, _, Table.add_self ..⟩
    have hlive₁ : StaysLive d (sentMark d f fv) := fun g gv hg => (hs.live g gv hg).imp fun _ h => h.1
    have hsend : txNode cf e c d m = if m.df.offloadState = .install then dpOffloadHandler cf e c (sentMark d f fv) m f
        else some (sentMark d f fv) := by
      simp only [txNode, hc, hf, sentMark]
    rw [hsend]
    split
    · obtain ⟨d', hd', hr', hlive'⟩ := dpOffloadHandler_refs (hr.keeps hs) hf₁
      exact ⟨d', hd', hr', hlive₁.trans hlive'⟩
    · exact ⟨_, rfl, hr.keeps hs, hlive₁⟩

end Install

end Dpservice
