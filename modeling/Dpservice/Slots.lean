import Dpservice.RefRemoval
import Dpservice.NoOffload

/-!
# Flows that fade

Removal passes and aging take from flows: references, age contexts, entries of the table, in the end the flow itself
(`Fades`). Only the installation of a rule puts a context into a slot of a flow, and it is a context of that flow. So
a slot of a flow never holds the context of another flow, in any run and with any failures (`slots_run`), and a removal
pass touches no other flow than those it applies to.

- `fadeSteps_fades`: steps that give up references only take away;
- `Slots`: the slots of a flow hold its own contexts, kept by passes (`Slots.fades`), by nodes (`Slots.keeps`) and by
  installing rules (`installRules_slots`).
-/

namespace Dpservice

/-! ## Fading -/

/-- Flows, contexts and entries of the table are only taken away. -/
structure Fades (d d' : Dataplane) : Prop where
  flows : ∀ f fv', d'.flows f = some fv' → ∃ fv, d.flows f = some fv ∧ Faded fv fv'
  ageCtxs : ∀ a x, d'.ageCtxs a = some x → d.ageCtxs a = some x
  nextCtx : d'.nextCtx = d.nextCtx
  flowTbl : ∀ k g, d'.flowTbl k = some g → d.flowTbl k = some g

section Fades

variable {P : ℕ → Prop} {d d' : Dataplane} {f : ℕ} {fv fv' : FlowValue}

theorem Faded.org (h : Faded fv fv') : fv'.org = fv.org := congrArg (·.org) h.same

theorem Faded.reply (h : Faded fv fv') : fv'.reply = fv.reply := congrArg (·.reply) h.same

theorem Faded.created (h : Faded fv fv') : fv'.createdPortId = fv.createdPortId := congrArg (·.createdPortId) h.same

theorem Fades.refl (d : Dataplane) : Fades d d := ⟨fun _ fv hf => ⟨fv, hf, .refl fv⟩, fun _ _ => id, rfl, fun _ _ => id⟩

theorem Fades.trans {d₁ d₂ d₃ : Dataplane} (h : Fades d₁ d₂) (h' : Fades d₂ d₃) : Fades d₁ d₃ where
  flows f fv₃ hf₃ := by
    obtain ⟨fv₂, hf₂, hu'⟩ := h'.flows f fv₃ hf₃
    obtain ⟨fv₁, hf₁, hu⟩ := h.flows f fv₂ hf₂
    exact ⟨fv₁, hf₁, hu.trans hu'⟩
  ageCtxs a x := h.ageCtxs a x ∘ h'.ageCtxs a x
  nextCtx := h'.nextCtx.trans h.nextCtx
  flowTbl k g := h.flowTbl k g ∘ h'.flowTbl k g

/-- A flow that gives up references. -/
theorem Fades.setFlow (hf : d.flows f = some fv) (hu : Faded fv fv') : Fades d (d.setFlow f fv') where
  flows g gv hg := by
    rw [Dataplane.setFlow, Table.add_eq_some] at hg
    obtain ⟨rfl, rfl⟩ | ⟨-, hg⟩ := hg
    · exact ⟨fv, hf, hu⟩
    · exact ⟨gv, hg, .refl gv⟩
  ageCtxs _ _ := id
  nextCtx := rfl
  flowTbl _ _ := id

/-- One step that gives up references. -/
theorem FadeStep.fades (h : FadeStep P d d') : Fades d d' := by
  cases h with
  | write _ hf hu => exact .setFlow hf hu
  | delCtx a => exact { Fades.refl d with ageCtxs := fun _ _ h => (Table.del_eq_some.mp h).2 }
  | free _ h =>
    unfold dpFreeFlow at h
    split at h
    · cases h
    · cases h
      exact
        { flows := fun g gv hg => ⟨gv, (Table.del_eq_some.mp hg).2, .refl gv⟩
          ageCtxs := fun _ _ => id
          nextCtx := rfl
          flowTbl := fun k g hk => (Table.del_eq_some.mp (Table.del_eq_some.mp hk).2).2 }

theorem fadeSteps_fades (h : Relation.ReflTransGen (FadeStep P) d d') : Fades d d' := by
  induction h with
  | refl => exact .refl d
  | tail _ hs ih => exact ih.trans hs.fades

end Fades

/-! ## Slots -/

/-- What a flow has in its slots are contexts that were made, and those still alive refer to no other flow. -/
structure Slots (d : Dataplane) : Prop where
  lt : ∀ f fv (i a : ℕ), d.flows f = some fv → fv.rteAgeCtxs[i]? = some (some a) → a < d.nextCtx
  own : ∀ f fv (i a : ℕ) x g, d.flows f = some fv → fv.rteAgeCtxs[i]? = some (some a) → d.ageCtxs a = some x →
    x.cntrack = some g → g = f

section Slots

variable {cf : Conf} {e : Env} {c : Config} {d d' : Dataplane} {m : Mbuf} {p : PortId} {tcp : Bool} {f a i : ℕ}
  {fv fv' : FlowValue} {x : AgeCtx}

/-- There are no flows at first. -/
theorem Slots.init : Slots {} where
  lt _ _ _ _ h := by cases h
  own _ _ _ _ _ _ h := by cases h

/-- Giving up references keeps the slots right. -/
theorem Slots.fades (hs : Slots d) (h : Fades d d') : Slots d' where
  lt f fv' i a hf hi := by
    obtain ⟨fv, hf', hu⟩ := h.flows f fv' hf
    rw [h.nextCtx]
    exact hs.lt f fv i a hf' (hu.slots i a hi)
  own f fv' i a x g hf hi ha := by
    obtain ⟨fv, hf', hu⟩ := h.flows f fv' hf
    exact hs.own f fv i a x g hf' (hu.slots i a hi) (h.ageCtxs a x ha)

theorem Slots.keeps (hs : Slots d) (h : KeepsRefs cf d d') : Slots d' where
  lt f fv' i a hf hi := by
    rw [h.nextCtx]
    obtain ⟨fv, hf', hu⟩ | ⟨-, hfresh⟩ := h.was_live f fv' hf
    · exact hs.lt f fv i a hf' (hu.slots ▸ hi)
    · exact absurd hi (hfresh.slots i a)
  own f fv' i a x g hf hi ha := by
    rw [h.ageCtxs] at ha
    obtain ⟨fv, hf', hu⟩ | ⟨-, hfresh⟩ := h.was_live f fv' hf
    · exact hs.own f fv i a x g hf' (hu.slots ▸ hi) ha
    · exact absurd hi (hfresh.slots i a)

/-- A rule that is installed puts at most its own context, which refers to the flow, into a slot of the flow. -/
theorem Slots.install {o : Option ℕ} (hs : Slots d) (hf : d.flows f = some fv) (h : InstallCase d f fv (some (o, d'))) :
    Slots d' := by
  cases h with
  | nothing => exact hs
  | skipped =>
    exact ⟨fun g gv i b hg hi => Nat.lt_succ_of_lt (hs.lt g gv i b hg hi),
      fun g gv i b y h hg hi hb => hs.own g gv i b y h hg hi (Table.del_eq_some.mp hb).2⟩
  | @installed x l hx hl =>
    -- a slot of a flow holds an old context, or it is the new one and the flow is `f`
    have hslot : ∀ g gv (i b : ℕ), (d.flows.add f { fv with refCount := fv.refCount + 1, rteAgeCtxs := l }) g =
        some gv → gv.rteAgeCtxs[i]? = some (some b) →
          (g = f ∧ b = d.nextCtx) ∨ ∃ gv₀, d.flows g = some gv₀ ∧ gv₀.rteAgeCtxs[i]? = some (some b) := by
      intro g gv i b hg hi
      obtain ⟨rfl, rfl⟩ | ⟨-, hg⟩ := Table.add_eq_some.mp hg
      · exact (slot_cases hl hi).imp (fun h => ⟨rfl, h.2⟩) fun h => ⟨fv, hf, h⟩
      · exact .inr ⟨gv, hg, hi⟩
    refine ⟨fun g gv i b hg hi => ?_, fun g gv i b y h hg hi hb hy => ?_⟩
    · obtain ⟨-, rfl⟩ | ⟨gv₀, hg₀, hi₀⟩ := hslot g gv i b hg hi
      · exact Nat.lt_succ_self _
      · exact Nat.lt_succ_of_lt (hs.lt g gv₀ i b hg₀ hi₀)
    · obtain ⟨rfl, rfl⟩ | ⟨gv₀, hg₀, hi₀⟩ := hslot g gv i b hg hi
      · obtain rfl : x = y := Option.some.inj ((Table.add_self ..).symm.trans hb)
        exact Option.some.inj (hy.symm.trans hx)
      · have hb₀ := (Table.add_of_ne (Nat.ne_of_lt (hs.lt g gv₀ i b hg₀ hi₀)) ..).symm.trans hb
        exact hs.own g gv₀ i b y h hg₀ hi₀ hb₀ hy

/-- A new context is put into a slot of its own flow. -/
theorem installRules_slots {first : Option PortId} (hs : Slots d) (hf : d.flows f = some fv)
    (h : installRules e d first p tcp f = some d') : Slots d' := by
  have hcase := installRules_cases e first p tcp hf
  generalize installRules e d first p tcp f = r at hcase h
  cases hcase with
  | noRef => cases h
  | one h₁ =>
    cases h
    exact hs.install hf h₁
  | two h₁ hf₁ h₂ =>
    cases h
    exact (hs.install hf h₁).install hf₁ h₂
  | undone h₁ hf₁ h₂ => exact ((hs.install hf h₁).install hf₁ h₂).fades (fadeSteps_fades (destroy_fadeSteps h))

theorem dpOffloadHandler_slots (hs : Slots d) (hf : d.flows f = some fv) (h : dpOffloadHandler cf e c d m f = some d') :
    Slots d' := by
  obtain ⟨pf0, pf1, heq⟩ := dpOffloadHandler_eq cf e c m hf
  have hmark : Slots (d.setFlow f (offloadMark fv pf0 pf1)) :=
    hs.keeps (show KeepsRefs cf d _ from .write hf rfl ⟨rfl, rfl, rfl, fun _ => id⟩ rfl rfl)
  obtain heq | ⟨first, p, tcp, heq⟩ := heq <;> rw [heq] at h
  · cases h
    exact hmark
  · exact installRules_slots hmark (Table.add_self ..) h

/-- Sending keeps the slots right. -/
theorem txNode_slots (hs : Slots d) (h : txNode cf e c d m = some d') : Slots d' := by
  obtain ⟨-, rfl⟩ | ⟨f, fv, -, hf, h⟩ := txNode_cases h
  · exact hs
  · obtain ⟨hmark, fv', hf'⟩ : Slots (sentMark d f fv) ∧ ∃ fv', (sentMark d f fv).flows f = some fv' := by
      rcases sentMark_eq d f fv with h | h <;> rw [h]
      · exact ⟨hs, fv, hf⟩
      · exact ⟨hs.keeps (show KeepsRefs cf d _ from .write hf rfl ⟨rfl, rfl, rfl, fun _ => id⟩ rfl rfl), _,
          Table.add_self ..⟩
    obtain ⟨-, rfl⟩ | ⟨-, h⟩ := h
    · exact hmark
    · exact dpOffloadHandler_slots hmark hf' h

/-- So does every node. -/
theorem runNode_slots {n n' : Node} {m' : Mbuf} (hs : Slots d) (hb : Base d)
    (h : runNode cf e c d m n = some (d', m', n')) : Slots d' := by
  by_cases htx : n = .tx
  · subst htx
    obtain ⟨d₁, hd₁, heq⟩ := Option.map_eq_some_iff.mp h
    cases heq
    exact txNode_slots hs hd₁
  · exact hs.keeps (runNode_keepsRefs hb (absurd · htx) h)

end Slots

/-! ## Runs -/

section Runs

variable {cf : Conf} {s s' : Service} {ev : Event} {es : List Event}

/-- So does every step of the service. -/
theorem Slots.step (ht : Tracked s) (hs : Slots s.dpl) (h : step cf s ev = some s') : Slots s'.dpl := by
  cases step_cases h with
  | rx => exact hs
  | walk _ hr => exact runNode_slots hs ht.base hr
  | @request _ _ _ o _ _ _ hd =>
    exact Slots.fades (d := { s.dpl with lb := o.lb }) ⟨hs.lt, hs.own⟩
      (fadeSteps_fades (foldlM_steps (fun _ _ _ => dpRemoveFlows_fadeSteps) hd))
  | flowAging _ hd => exact hs.fades (fadeSteps_fades (dpProcessFlowAging_fadeSteps hd))

/-- **In every run, the slots of a flow hold contexts of that flow only.** -/
theorem slots_run (h : run (step cf) (Service.init cf) es = some s) : Slots s.dpl := by
  have hinv : Tracked s ∧ Slots s.dpl := by
    refine run_invariant (I := fun s => Tracked s ∧ Slots s.dpl) (P := fun _ _ => True) ?_ ⟨.init cf, .init⟩
      (along_true _ _) h
    rintro s ev s' ⟨ht, hs⟩ - hstep
    exact ⟨ht.step hstep, hs.step ht hstep⟩
  exact hinv.2

end Runs

end Dpservice
