import Mathlib.Data.List.Basic
import Dpservice.NoOffload
import Dpservice.FlowTable

/-!
# The passes over the flow table

Without offloading, and where every flow is in the table under its own two keys and nowhere else, a pass over the table
releases the flows that it applies to, each one once, and leaves everything else alone.

- `TableExact`: every flow is in the table under its keys, with one reference, as in a service that relays no flow;
- `visit`: all four passes do the same at an entry, for different conditions (`dpRemoveEntry_visit`,
  `dpAgeEntry_visit`);
- `visits_release`: one pass, by induction over the entries that are visited;
- `flow_passes_exact`: the four passes.
-/

namespace Dpservice

/-- Every flow is in the table under its own keys, every entry leads to a flow that it is a key of, and no flow is aged
or referred to from elsewhere. -/
structure TableExact (d : Dataplane) : Prop where
  held : ∀ {f fv}, d.flows f = some fv → d.flowTbl fv.org = some f ∧ d.flowTbl fv.reply = some f
  own : ∀ {k f}, d.flowTbl k = some f → ∃ fv, d.flows f = some fv ∧ fv.HasKey k
  aged : ∀ {f fv}, d.flows f = some fv → fv.aged = false
  refCount : ∀ {f fv}, d.flows f = some fv → fv.refCount = 1

/-- The condition of a pass holds for an entry of the flow. -/
def Applies (P : FlowKey → FlowValue → Bool) (d : Dataplane) (f : ℕ) : Prop :=
  ∃ k fv, d.flowTbl k = some f ∧ d.flows f = some fv ∧ P k fv = true

/-- The flows of the list are released, in this order and each one once; all else is as before. -/
structure Releases (d : Dataplane) (fs : List ℕ) (d' : Dataplane) : Prop where
  once : fs.Nodup
  frees : fs.foldlM dpFreeFlow d = some d'
  ports : d'.ports = (fs.filterMap d.flows).foldl dpFreeNetworkNatPort d.ports
  flows : ∀ f, d'.flows f = if f ∈ fs then none else d.flows f
  tbl : ∀ k f, d'.flowTbl k = some f ↔ d.flowTbl k = some f ∧ f ∉ fs
  ageCtxs : d'.ageCtxs = d.ageCtxs
  lb : d'.lb = d.lb

/-- The flow is idle for longer than its timeout. -/
def FlowValue.expired (cf : Conf) (e : Env) (fv : FlowValue) : Bool :=
  e.now - fv.timestamp > cf.timerHz * fv.timeoutValue.toUInt64

/-- What a pass does at an entry: it frees the flow if its condition holds. -/
def visit (P : FlowKey → FlowValue → Bool) (d : Dataplane) (k : FlowKey) : Option Dataplane :=
  match d.flowTbl k with
  | none => some d
  | some f =>
    match d.flows f with
    | none => none
    | some fv => if P k fv then dpFreeFlow d f else some d

section Passes

variable {cf : Conf} {e : Env} {d d' : Dataplane} {f : ℕ} {fv : FlowValue} {k : FlowKey} {order : List FlowKey}
  {P : FlowKey → FlowValue → Bool} {fs : List ℕ}

/-! ## One entry -/

/-- The entries of a flow are exactly those under its two keys. -/
theorem TableExact.tbl_iff (hd : TableExact d) (hf : d.flows f = some fv) :
    d.flowTbl k = some f ↔ fv.HasKey k := by
  constructor
  · intro hk
    obtain ⟨fv', hf', hkey⟩ := hd.own hk
    cases hf.symm.trans hf'
    exact hkey
  · rintro (rfl | rfl)
    · exact (hd.held hf).1
    · exact (hd.held hf).2

/-- A flow is freed: its entries go, and nothing else. -/
theorem TableExact.free (hd : TableExact d) (hf : d.flows f = some fv) :
    ∃ d', dpFreeFlow d f = some d' ∧ Releases d [f] d' ∧ TableExact d' := by
  have heq : dpFreeFlow d f = some (dpCntrackFlushCache { d with
      ports := dpFreeNetworkNatPort d.ports fv
      flowTbl := (d.flowTbl.del fv.org).del fv.reply
      flows := d.flows.del f }) := by
    simp only [dpFreeFlow, hf]
  have htbl : ∀ k g, ((d.flowTbl.del fv.org).del fv.reply) k = some g ↔ d.flowTbl k = some g ∧ g ∉ [f] := by
    intro k g
    rw [Table.del_eq_some, Table.del_eq_some, List.mem_singleton]
    constructor
    · rintro ⟨hreply, horg, hk⟩
      refine ⟨hk, fun hg => ?_⟩
      subst hg
      obtain h | h := (hd.tbl_iff hf).mp hk
      · exact horg h
      · exact hreply h
    · rintro ⟨hk, hg⟩
      refine ⟨fun h => hg ?_, fun h => hg ?_, hk⟩
      · exact Option.some.inj (hk.symm.trans (h ▸ (hd.held hf).2))
      · exact Option.some.inj (hk.symm.trans (h ▸ (hd.held hf).1))
  have hflows : ∀ g, d.flows.del f g = if g ∈ [f] then none else d.flows g := by
    intro g
    simp only [List.mem_singleton, Table.del_apply]
  refine ⟨_, heq, ⟨List.pairwise_singleton _ f, ?_, ?_, hflows, htbl, rfl, rfl⟩, ?_⟩
  · rw [List.foldlM_cons, heq]
    rfl
  · simp [hf, dpCntrackFlushCache]
  · have hlive : ∀ {g gv}, d.flows.del f g = some gv → g ∉ [f] ∧ d.flows g = some gv := by
      intro g gv hg
      rw [List.mem_singleton]
      exact Table.del_eq_some.mp hg
    refine ⟨fun hg => ?_, fun hk => ?_, fun hg => hd.aged (hlive hg).2, fun hg => hd.refCount (hlive hg).2⟩
    · obtain ⟨hne, hg⟩ := hlive hg
      exact ⟨(htbl _ _).mpr ⟨(hd.held hg).1, hne⟩, (htbl _ _).mpr ⟨(hd.held hg).2, hne⟩⟩
    · obtain ⟨hk, hne⟩ := (htbl _ _).mp hk
      obtain ⟨gv, hg, hkey⟩ := hd.own hk
      exact ⟨gv, (hflows _).trans ((if_neg hne).trans hg), hkey⟩

/-- With one reference, aging a flow out frees it. -/
theorem TableExact.ageOut (hd : TableExact d) (hf : d.flows f = some fv) : dpAgeOutFlow d f = dpFreeFlow d f := by
  have hone : fv.refCount - 1 = 0 := by
    rw [hd.refCount hf]
    rfl
  simp only [dpAgeOutFlow, hf, dpRefDec, Dataplane.setFlow, Table.add_self, if_pos hone, dpFreeFlow, Table.del_add]
  rfl

theorem dpRemoveEntry_visit (hoff : cf.offloadEnabled = false) (hd : TableExact d) (r : FlowRemoval) (k : FlowKey) :
    dpRemoveEntry cf r d k = visit r.hits d k := by
  unfold dpRemoveEntry visit
  cases d.flowTbl k with
  | none => rfl
  | some f =>
    cases hf : d.flows f with
    | none => simp only [hf]
    | some fv =>
      have hremove : dpRemoveFlow cf d f = dpFreeFlow d f := by
        rw [dpRemoveFlow, hoff]
        exact hd.ageOut hf
      simp only [hf, hremove]

theorem dpAgeEntry_visit (hoff : cf.offloadEnabled = false) (hd : TableExact d) (k : FlowKey) (i : ℕ) :
    dpAgeEntry cf e d (k, i) = visit (fun _ fv => fv.expired cf e) d k := by
  unfold dpAgeEntry visit
  cases d.flowTbl k with
  | none => rfl
  | some f =>
    cases hf : d.flows f with
    | none => simp [hoff, hf]
    | some fv => simp [hoff, hf, hd.ageOut hf, hd.aged hf, FlowValue.expired]

/-! ## A whole pass -/

theorem Releases.nil (d : Dataplane) : Releases d [] d :=
  ⟨List.nodup_nil, rfl, rfl, fun f => by simp, fun k f => by simp, rfl, rfl⟩

/-- One more flow is released first. -/
theorem Releases.cons {d₁ : Dataplane} (h : Releases d [f] d₁) (h' : Releases d₁ fs d') (hf : f ∉ fs) :
    Releases d (f :: fs) d' := by
  have hfree : dpFreeFlow d f = some d₁ := by simpa using h.frees
  have hsame : fs.filterMap d₁.flows = fs.filterMap d.flows := by
    apply List.filterMap_congr
    intro g hg
    rw [h.flows, if_neg]
    rw [List.mem_singleton]
    rintro rfl
    exact hf hg
  constructor
  · exact List.nodup_cons.mpr ⟨hf, h'.once⟩
  · rw [List.foldlM_cons, hfree]
    exact h'.frees
  · rw [h'.ports, h.ports, hsame]
    cases hfv : d.flows f <;> simp [hfv]
  · intro g
    rw [h'.flows, h.flows]
    by_cases hg : g = f <;> by_cases hgs : g ∈ fs <;> simp [hg, hgs]
  · intro k g
    rw [h'.tbl, h.tbl, List.mem_singleton, List.mem_cons, not_or, and_assoc]
  · rw [h'.ageCtxs, h.ageCtxs]
  · rw [h'.lb, h.lb]

/-- **A pass releases the flows of the entries it visits for which its condition holds.** The pass goes over anything
that has a key. -/
theorem visits_release {α : Type*} (key : α → FlowKey) {pass : Dataplane → α → Option Dataplane} (vs : List α)
    (hpass : ∀ d v, TableExact d → pass d v = visit P d (key v)) (hd : TableExact d) :
    ∃ fs d', vs.foldlM pass d = some d' ∧ Releases d fs d' ∧
      ∀ f, f ∈ fs ↔ ∃ v ∈ vs, ∃ fv, d.flowTbl (key v) = some f ∧ d.flows f = some fv ∧ P (key v) fv = true := by
  induction vs generalizing d with
  | nil => exact ⟨[], d, rfl, .nil d, by simp⟩
  | cons v vs ih =>
    have hskip : visit P d (key v) = some d →
        (∀ f fv, d.flowTbl (key v) = some f → d.flows f = some fv → P (key v) fv = false) →
        ∃ fs d', (v :: vs).foldlM pass d = some d' ∧ Releases d fs d' ∧ ∀ f, f ∈ fs ↔
          ∃ w ∈ v :: vs, ∃ fv, d.flowTbl (key w) = some f ∧ d.flows f = some fv ∧ P (key w) fv = true := by
      intro hv hno
      obtain ⟨fs, d', hrun, hrel, hmem⟩ := ih hd
      refine ⟨fs, d', by rw [List.foldlM_cons, hpass d v hd, hv]; exact hrun, hrel, fun f => (hmem f).trans ?_⟩
      constructor
      · rintro ⟨w, hw, h⟩
        exact ⟨w, List.mem_cons_of_mem _ hw, h⟩
      · rintro ⟨w, hw, fv, hk, hf, hp⟩
        obtain rfl | hw := List.mem_cons.mp hw
        · rw [hno f fv hk hf] at hp
          cases hp
        · exact ⟨w, hw, fv, hk, hf, hp⟩
    cases hk : d.flowTbl (key v) with
    | none => exact hskip (by simp [visit, hk]) (fun f fv hk' => by rw [hk] at hk'; cases hk')
    | some f =>
      obtain ⟨fv, hf, -⟩ := hd.own hk
      cases hp : P (key v) fv with
      | false =>
        refine hskip (by simp [visit, hk, hf, hp]) (fun g gv hg hgv => ?_)
        cases hk.symm.trans hg
        cases hf.symm.trans hgv
        exact hp
      | true =>
        obtain ⟨d₁, hfree, hrel₁, hd₁⟩ := hd.free hf
        obtain ⟨fs, d', hrun, hrel, hmem⟩ := ih hd₁
        have hnew : f ∉ fs := by
          intro hin
          obtain ⟨w, -, fv', hw, -⟩ := (hmem f).mp hin
          exact ((hrel₁.tbl (key w) f).mp hw).2 List.mem_cons_self
        have hv : pass d v = some d₁ := by
          rw [hpass d v hd]
          simp [visit, hk, hf, hp, hfree]
        refine ⟨f :: fs, d', by rw [List.foldlM_cons, hv]; exact hrun, hrel₁.cons hrel hnew, fun g => ?_⟩
        rw [List.mem_cons, hmem g]
        by_cases hg : g = f
        · subst hg
          exact iff_of_true (.inl rfl) ⟨v, List.mem_cons_self, fv, hk, hf, hp⟩
        · have hsame : ∀ k', d₁.flowTbl k' = some g ↔ d.flowTbl k' = some g := fun k' => by
            rw [hrel₁.tbl, List.mem_singleton]
            exact and_iff_left hg
          have hflows : d₁.flows g = d.flows g := by
            rw [hrel₁.flows, if_neg (by rwa [List.mem_singleton])]
          simp only [hg, false_or, hsame, hflows]
          constructor
          · rintro ⟨w, hw, h⟩
            exact ⟨w, List.mem_cons_of_mem _ hw, h⟩
          · rintro ⟨w, hw, gv, h, hgv, hpg⟩
            obtain rfl | hw := List.mem_cons.mp hw
            · exact absurd (Option.some.inj (h.symm.trans hk)) hg
            · exact ⟨w, hw, gv, h, hgv, hpg⟩

/-- **Without offloading, each pass over a consistent table releases exactly the flows with an entry for which its
condition holds, each one once, and leaves everything else as it is.** -/
theorem flow_passes_exact (hoff : cf.offloadEnabled = false) (hd : TableExact d)
    (horder : ∀ k f, d.flowTbl k = some f → k ∈ order) :
    (∀ r : FlowRemoval, ∃ fs d', dpRemoveFlows cf r d order = some d' ∧ Releases d fs d' ∧
      ∀ f, f ∈ fs ↔ Applies r.hits d f) ∧
    (∃ fs d', dpProcessAgedFlowsNonOffload cf e d order = some d' ∧ Releases d fs d' ∧
      ∀ f, f ∈ fs ↔ Applies (fun _ fv => fv.expired cf e) d f) := by
  constructor
  · intro r
    obtain ⟨fs, d', hrun, hrel, hmem⟩ := visits_release id order
      (fun d k hd => dpRemoveEntry_visit hoff hd r k) hd
    refine ⟨fs, d', hrun, hrel, fun f => (hmem f).trans ?_⟩
    constructor
    · rintro ⟨k, -, h⟩
      exact ⟨k, h⟩
    · rintro ⟨k, fv, hk, h⟩
      exact ⟨k, horder k f hk, fv, hk, h⟩
  · obtain ⟨fs, d', hrun, hrel, hmem⟩ := visits_release Prod.fst order.zipIdx
      (fun d v hd => dpAgeEntry_visit hoff hd v.1 v.2) hd
    refine ⟨fs, d', hrun, hrel, fun f => (hmem f).trans ?_⟩
    constructor
    · rintro ⟨v, -, h⟩
      exact ⟨v.1, h⟩
    · rintro ⟨k, fv, hk, h⟩
      obtain ⟨i, hi⟩ := List.mem_iff_getElem?.mp (horder k f hk)
      exact ⟨(k, i), List.mk_mem_zipIdx_iff_getElem?.mpr hi, fv, hk, h⟩

/-- A flow that was translated to 1.2.3.4:100. -/
def natFlow : FlowValue where
  org := { l3Src := .v4 0x0a000001, l3Dst := .v4 0x08080808, src := 1000, portDst := 53, proto := ipprotoUdp }
  reply := { l3Src := .v4 0x08080808, l3Dst := .v4 0x01020304, src := 53, portDst := 100, proto := ipprotoUdp }
  natType := .networkLocal
  createdPortId := 2

def natFlowDataplane : Dataplane where
  flowTbl := (Table.empty.add natFlow.org 0).add natFlow.reply 0
  flows := Table.empty.add 0 natFlow
  nextFlow := 1

theorem flow_passes_exact_nat :
    ∃ d', dpRemoveFlows smallConf (.nat 2 .networkLocal) natFlowDataplane [natFlow.reply, natFlow.org] = some d' ∧
      Releases natFlowDataplane [0] d' := by
  have hflow : ∀ {f fv}, natFlowDataplane.flows f = some fv → f = 0 ∧ fv = natFlow := by
    intro f fv hf
    simpa [natFlowDataplane, Table.add_eq_some] using hf
  have hkey : ∀ {k f}, natFlowDataplane.flowTbl k = some f → f = 0 ∧ natFlow.HasKey k := by
    intro k f hk
    obtain ⟨hk, hf⟩ | ⟨-, hk⟩ := Table.add_eq_some.mp hk
    · exact ⟨hf, .inr hk⟩
    · obtain ⟨hk, hf⟩ | ⟨-, hk⟩ := Table.add_eq_some.mp hk
      · exact ⟨hf, .inl hk⟩
      · cases hk
  have hexact : TableExact natFlowDataplane := by
    constructor
    · rintro f fv hf
      obtain ⟨rfl, rfl⟩ := hflow hf
      exact ⟨by decide, by decide⟩
    · intro k f hk
      obtain ⟨rfl, hown⟩ := hkey hk
      exact ⟨natFlow, rfl, hown⟩
    · intro f fv hf
      obtain ⟨rfl, rfl⟩ := hflow hf
      rfl
    · intro f fv hf
      obtain ⟨rfl, rfl⟩ := hflow hf
      rfl
  have hoff : smallConf.offloadEnabled = false := rfl
  have horder : ∀ k f, natFlowDataplane.flowTbl k = some f → k ∈ [natFlow.reply, natFlow.org] := by
    intro k f hk
    rcases (hkey hk).2 with rfl | rfl <;> simp
  obtain ⟨fs, d', hrun, hrel, hmem⟩ := (flow_passes_exact (e := {}) hoff hexact horder).1 (.nat 2 .networkLocal)
  have hfs : fs = [0] := by
    have hall : ∀ f, f ∈ fs ↔ f = 0 := by
      intro f
      rw [hmem f]
      constructor
      · rintro ⟨k, fv, hk, -⟩
        exact (hkey hk).1
      · rintro rfl
        exact ⟨natFlow.org, natFlow, by decide, rfl, by decide⟩
    cases fs with
    | nil => exact absurd ((hall 0).mpr rfl) List.not_mem_nil
    | cons a fs =>
      obtain ⟨hnot, -⟩ := List.nodup_cons.mp hrel.once
      rw [(hall a).mp List.mem_cons_self] at hnot ⊢
      cases fs with
      | nil => rfl
      | cons b fs =>
        have hb := (hall b).mp (List.mem_cons_of_mem _ List.mem_cons_self)
        exact absurd (hb ▸ List.mem_cons_self) hnot
  exact ⟨d', hrun, hfs ▸ hrel⟩

end Passes

/-! ## The order of a pass -/

/-- The order of a pass has the keys of all live flows. -/
def SeesFlows (s : Service) : Event → Prop
  | .request _ _ order | .flowAging _ _ order =>
    ∀ f < s.dpl.nextFlow, ∀ fv ∈ s.dpl.flows f, fv.org ∈ order ∧ fv.reply ∈ order
  | _ => True

instance (s : Service) : ∀ ev, Decidable (SeesFlows s ev)
  | .request _ _ order | .flowAging _ _ order =>
    inferInstanceAs (Decidable (∀ f < s.dpl.nextFlow, ∀ fv ∈ s.dpl.flows f, fv.org ∈ order ∧ fv.reply ∈ order))
  | .rx _ | .walk .. => .isTrue trivial

section Order

variable {cf : Conf} {s : Service} {ev : Event} {es : List Event} {P : Service → Event → Prop}

/-- Where the table is consistent, a pass that has the keys of all flows sees every entry. -/
theorem Consistent.iterates (hc : Consistent s.dpl) (hb : Base s.dpl) (h : SeesFlows s ev) : Iterates s ev := by
  have hall : ∀ {order : List FlowKey},
      (∀ f < s.dpl.nextFlow, ∀ fv ∈ s.dpl.flows f, fv.org ∈ order ∧ fv.reply ∈ order) →
      ∀ k f, s.dpl.flowTbl k = some f → k ∈ order := by
    intro order h k f hk
    obtain ⟨fv, hf, rfl | rfl⟩ := hc.entry k f hk
    · exact (h f (hb.live_lt f fv hf) fv hf).1
    · exact (h f (hb.live_lt f fv hf) fv hf).2
  cases ev with
  | rx m => trivial
  | walk i e => trivial
  | request r e order => exact hall h
  | flowAging e ctxs order => exact hall h

/-- Along a run that keeps the table consistent, passes that have the keys of all flows see every entry. -/
theorem along_iterates
    (h : Along (step cf) (fun s ev => OnWalk (KeysFree cf) s ev ∧ SeesFlows s ev ∧ P s ev) (Service.init cf) es) :
    Along (step cf) (fun s ev => Iterates s ev ∧ P s ev) (Service.init cf) es := by
  refine Along.of_invariant (I := fun s => Tracked s ∧ KeysOwned s.dpl) ?_ ?_ ⟨.init cf, .init⟩ h
  · rintro s ev s' ⟨ht, hk⟩ ⟨hfree, -, -⟩ hs
    exact ⟨ht.step hs, dataplane_step (fun _ _ => maint_invariant (fun _ _ _ hk hq => hk.quiet hq)
      (fun _ _ _ _ hk hf => hk.free hf)) (fun _ _ _ _ _ hb _ hk hP he => hk.effect hb hP he) ht hk hfree hs⟩
  · rintro s ev ⟨ht, hk⟩ ⟨-, hsees, hP⟩
    exact ⟨hk.toConsistent.iterates ht.base hsees, hP⟩

end Order

end Dpservice
