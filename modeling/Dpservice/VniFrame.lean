import Dpservice.Slots
import Dpservice.NatView
import Dpservice.RouteReset

/-!
# What the end of a virtual network leaves alone

The last interface or load balancer of a VNI takes the VNI with it: its routes, the neighbour NATs in it and, for an
interface, its flows. A reset of a VNI drops its routes. None of this is to touch another VNI (`VniFrame`).

Two passes look at more than the VNI. Neighbour NATs are dropped for all VNIs where the number is 0, which stands for
"any" there; and the flows of an interface are found by its port, whatever VNI they were made in.

- `OneVni`: the keys of a flow and its entries in the table agree on the VNI (`oneVni_run`);
- `dpRemoveFlows_kept_iff`: when the pass over the flows of an interface keeps to a VNI;
- `vni_frame_iff`: a release or reset of `v` leaves the other VNIs alone exactly if `FrameSafe` holds.
-/

namespace Dpservice

/-! ## The VNI of a flow -/

/-- The keys of a flow have one VNI, and so do the entries that lead to it. -/
structure OneVni (d : Dataplane) : Prop where
  reply : ∀ f fv, d.flows f = some fv → fv.reply.vni = fv.org.vni
  tbl : ∀ k f fv, d.flowTbl k = some f → d.flows f = some fv → fv.org.vni = k.vni

section OneVni

variable {cf : Conf} {e : Env} {c : Config} {d d' : Dataplane} {n : Node} {m : Mbuf} {f : ℕ} {fv fv' : FlowValue}

theorem dpInvertFlowKey_vni (k : FlowKey) : (dpInvertFlowKey k).vni = k.vni := by
  unfold dpInvertFlowKey
  dsimp only
  split
  · rfl
  · split
    · rfl
    · split <;> rfl

theorem natReply_vni (m : Mbuf) (fv : FlowValue) (natIp : Ip4) (p : UInt16) :
    (natReply m fv natIp p).vni = fv.reply.vni := by
  unfold natReply
  split
  · unfold nat64Reply nat64OldReply
    dsimp only
    split <;> rfl
  · rfl

theorem OneVni.init : OneVni {} where
  reply _ _ h := by cases h
  tbl _ _ _ h := by cases h

theorem OneVni.quiet (h : OneVni d) (hq : Quiet d d') : OneVni d' where
  reply f fv' hf := by
    obtain ⟨fv, hf', hu⟩ := hq.was_live hf
    rw [hu.reply, hu.org]
    exact h.reply f fv hf'
  tbl k f fv' hk hf := by
    obtain ⟨fv, hf', hu⟩ := hq.was_live hf
    rw [hu.org]
    exact h.tbl k f fv (hq.flowTbl ▸ hk) hf'

theorem OneVni.fades (h : OneVni d) (hd : Fades d d') : OneVni d' where
  reply f fv' hf := by
    obtain ⟨fv, hf', hu⟩ := hd.flows f fv' hf
    rw [hu.reply, hu.org]
    exact h.reply f fv hf'
  tbl k f fv' hk hf := by
    obtain ⟨fv, hf', hu⟩ := hd.flows f fv' hf
    rw [hu.org]
    exact h.tbl k f fv (hd.flowTbl k f hk) hf'

/-- A node gives a flow a reply key of the same VNI. -/
theorem OneVni.rekey {old : FlowKey} {added : Bool} (h : OneVni d) (hk : Rekey d d' f fv fv' old added)
    (hv : fv'.reply.vni = fv.reply.vni) : OneVni d' := by
  have hreply : fv'.reply.vni = fv'.org.vni := by rw [hv, hk.org, h.reply f fv hk.live]
  have htbl : ∀ k g, d'.flowTbl k = some g → (k = fv'.reply ∧ g = f) ∨ d.flowTbl k = some g := by
    intro k g hkg
    rw [hk.flowTbl] at hkg
    split at hkg
    · rw [Table.add_eq_some] at hkg
      exact hkg.imp_right fun h => (Table.del_eq_some.mp h.2).2
    · exact .inr (Table.del_eq_some.mp hkg).2
  refine ⟨fun g gv hg => ?_, fun k g gv hkg hg => ?_⟩
  · obtain ⟨rfl, rfl⟩ | ⟨-, hg⟩ := hk.was_live hg
    · exact hreply
    · exact h.reply g gv hg
  · obtain ⟨rfl, rfl⟩ | hkg := htbl k g hkg
    · rw [hk.flows, Table.add_self, Option.some.injEq] at hg
      exact hg ▸ hreply.symm
    · obtain ⟨rfl, rfl⟩ | ⟨-, hg⟩ := hk.was_live hg
      · rw [hk.org]
        exact h.tbl k g fv hkg hk.live
      · exact h.tbl k g gv hkg hg

theorem OneVni.insert {key : FlowKey} (h : OneVni d) (hb : Base d) (hi : Inserts m d d' key fv) : OneVni d' := by
  refine ⟨fun g gv hg => ?_, fun k g gv hkg hg => ?_⟩
  · obtain ⟨-, rfl⟩ | ⟨-, hg⟩ := hi.was_live hg
    · rw [hi.reply, hi.org, dpInvertFlowKey_vni]
    · exact h.reply g gv hg
  · rw [hi.flowTbl, Table.add_eq_some, Table.add_eq_some] at hkg
    have hnew : g = d.nextFlow → gv = fv := by
      rintro rfl
      rw [hi.flows, Table.add_self, Option.some.injEq] at hg
      exact hg.symm
    obtain ⟨rfl, hg'⟩ | ⟨-, ⟨rfl, hg'⟩ | ⟨-, hkg⟩⟩ := hkg
    · rw [hnew hg', hi.org, dpInvertFlowKey_vni]
    · rw [hnew hg', hi.org]
    · obtain ⟨rfl, -⟩ | ⟨-, hg⟩ := hi.was_live hg
      · exact absurd (hb.tbl_lt k _ hkg) (Nat.lt_irrefl _)
      · exact h.tbl k g gv hkg hg

/-- No node moves a flow to another VNI. -/
theorem OneVni.effect (h : OneVni d) (hb : Base d) (he : Effect cf e c d n m d') : OneVni d' := by
  cases he with
  | insert key fv turn hi => exact h.insert hb hi
  | relay f fv fv' turn hk ports relayed reply notLocal => exact h.rekey hk (congrArg FlowKey.vni reply)
  | vip f fv fv' turn hk ports relayed notLocal flags =>
    refine h.rekey hk ?_
    obtain ⟨-, -, ⟨-, ip, -, -, hkey⟩ | ⟨-, sd, -, -, -, hkey⟩⟩ := vipTurn_inv turn
    · rw [hkey]
    · rw [hkey]
      rfl
  | natFail f fv r turn alloc hq => exact OneVni.quiet (d := { d with ports := d'.ports }) ⟨h.reply, h.tbl⟩ hq
  | nat64Fail f fv r p ports turn l3Type alloc conv hd =>
    subst hd
    exact ⟨h.reply, h.tbl⟩
  | nat f fv fv' r p ports turn conv alloc hk hports relayed isLocal vni reply flags =>
    exact h.rekey hk (by rw [reply, natReply_vni])

/-- In every run a flow is in one VNI. -/
theorem oneVni_run {es : List Event} {s : Service} (h : run (step cf) (Service.init cf) es = some s) : OneVni s.dpl :=
  dataplane_run (P := fun _ _ _ _ => True) .init (fun _ _ _ hj hq => hj.quiet hq)
    (fun _ _ _ _ hj hf => hj.fades (FadeStep.fades (P := fun _ => True) (.free trivial hf)))
      (fun _ _ _ _ _ hb _ hj _ he => hj.effect hb he)
    (Along.mono (fun s ev _ => onWalk_true s ev) (along_true ..)) h

end OneVni

/-! ## Flows of other VNIs -/

/-- The flows of other VNIs than `v` and their entries are the same. -/
structure VniKept (v : Vni) (d d' : Dataplane) : Prop where
  flows : ∀ f fv, fv.org.vni ≠ v → (d'.flows f = some fv ↔ d.flows f = some fv)
  flowTbl : ∀ k : FlowKey, k.vni ≠ v → d'.flowTbl k = d.flowTbl k

/-- The flow, if it is alive, has keys in `v`. -/
def InVni (v : Vni) (d : Dataplane) (f : ℕ) : Prop := ∀ fv, d.flows f = some fv → fv.org.vni = v ∧ fv.reply.vni = v

section Kept

variable {cf : Conf} {v : Vni} {d d' : Dataplane} {f a : ℕ} {fv fv' : FlowValue} {k : FlowKey}

theorem VniKept.refl (v : Vni) (d : Dataplane) : VniKept v d d := ⟨fun _ _ _ => Iff.rfl, fun _ _ => rfl⟩

theorem VniKept.trans {d₁ d₂ d₃ : Dataplane} (h : VniKept v d₁ d₂) (h' : VniKept v d₂ d₃) : VniKept v d₁ d₃ where
  flows f fv hv := (h'.flows f fv hv).trans (h.flows f fv hv)
  flowTbl k hv := (h'.flowTbl k hv).trans (h.flowTbl k hv)

theorem InVni.fades (hv : InVni v d f) (h : Fades d d') : InVni v d' f := by
  intro fv' hf'
  obtain ⟨fv, hf, hu⟩ := h.flows f fv' hf'
  rw [hu.org, hu.reply]
  exact hv fv hf

theorem VniKept.setFlow (hf : d.flows f = some fv) (hv : fv.org.vni = v) (hv' : fv'.org.vni = v) :
    VniKept v d (d.setFlow f fv') where
  flows g gv hgv := by
    rw [Dataplane.setFlow, Table.add_eq_some]
    constructor
    · rintro (⟨-, rfl⟩ | ⟨-, hg⟩)
      · exact absurd hv' hgv
      · exact hg
    · intro hg
      refine .inr ⟨?_, hg⟩
      rintro rfl
      rw [hf, Option.some.injEq] at hg
      exact hgv (hg ▸ hv)
  flowTbl _ _ := rfl

/-- Steps that give up references to flows in `v`. -/
theorem fadeSteps_kept {P : ℕ → Prop} (hP : ∀ g, P g → InVni v d g) (h : Relation.ReflTransGen (FadeStep P) d d') :
    VniKept v d d' := by
  induction h with
  | refl => exact .refl v d
  | @tail d₁ d₂ h₁ hs ih =>
    have hin : ∀ g, P g → InVni v d₁ g := fun g hg => (hP g hg).fades (fadeSteps_fades h₁)
    refine ih.trans ?_
    cases hs with
    | @write f fv fv' hf hfv hu =>
      have horg := (hin f hf fv hfv).1
      exact .setFlow hfv horg (hu.org ▸ horg)
    | delCtx a => exact ⟨fun _ _ _ => Iff.rfl, fun _ _ => rfl⟩
    | free hf hfree =>
      obtain ⟨fv, hfv, hflows, htbl, -⟩ := dpFreeFlow_eq hfree
      obtain ⟨horg, hreply⟩ := hin _ hf fv hfv
      refine ⟨fun g gv hgv => ?_, fun k hk => ?_⟩
      · rw [hflows, Table.del_eq_some]
        refine ⟨And.right, fun hg => ⟨?_, hg⟩⟩
        rintro rfl
        rw [hfv, Option.some.injEq] at hg
        exact hgv (hg ▸ horg)
      · rw [htbl, Table.del_of_ne, Table.del_of_ne]
        · rintro rfl
          exact hk horg
        · rintro rfl
          exact hk hreply

theorem dpAgeOutFlow_kept (hv : InVni v d f) (h : dpAgeOutFlow d f = some d') : VniKept v d d' :=
  fadeSteps_kept (P := (f = ·)) (fun _ hg => hg ▸ hv) (dpAgeOutFlow_fadeSteps rfl h)

theorem dpRteFlowRemoveSlot_kept {i : ℕ} (hs : Slots d) (hv : InVni v d f) (h : dpRteFlowRemoveSlot f d i = some d') :
    VniKept v d d' := by
  unfold dpRteFlowRemoveSlot at h
  split at h
  · cases h
  next fv hf =>
    split at h
    · cases h
      exact .refl v d
    next a ha =>
      refine fadeSteps_kept (P := (f = ·)) (fun _ hg => hg ▸ hv)
        (dpDestroyRteFlowAgectx_fadeSteps (fun x g hx hg => ?_) h)
      exact (hs.own f fv i a x g hf (getD_slot ha) hx hg).symm

/-- The removal of a flow of the VNI. -/
theorem dpRemoveFlow_kept (hs : Slots d) (hv : InVni v d f) (h : dpRemoveFlow cf d f = some d') : VniKept v d d' := by
  unfold dpRemoveFlow at h
  split at h
  · obtain ⟨d₁, hd₁, h⟩ := Option.bind_eq_some_iff.mp h
    have hslots : Fades d d₁ ∧ VniKept v d d₁ := by
      refine foldlM_invariant (I := fun d' => Fades d d' ∧ VniKept v d d') (fun i _ d₂ d₃ h₂ hstep => ?_)
        ⟨.refl d, .refl v d⟩ hd₁
      exact ⟨h₂.1.trans (fadeSteps_fades (dpRteFlowRemoveSlot_fadeSteps hstep)),
        h₂.2.trans (dpRteFlowRemoveSlot_kept (hs.fades h₂.1) (hv.fades h₂.1) hstep)⟩
    exact hslots.2.trans (dpAgeOutFlow_kept (hv.fades hslots.1) h)
  · exact dpAgeOutFlow_kept hv h

/-- A flow that is removed and lives on has lost a reference. -/
theorem dpRemoveFlow_lt (hf : d.flows f = some fv) (h : dpRemoveFlow cf d f = some d') (hf' : d'.flows f = some fv') :
    fv'.refCount < fv.refCount := by
  have hage : ∀ {d₁}, Fades d d₁ → dpAgeOutFlow d₁ f = some d' → fv'.refCount < fv.refCount := by
    intro d₁ hd₁ h
    cases hf₁ : d₁.flows f with
    | none => simp [dpAgeOutFlow, hf₁] at h
    | some fv₁ =>
      obtain ⟨fv₀, hf₀, hu⟩ := hd₁.flows f fv₁ hf₁
      obtain rfl : fv = fv₀ := Option.some.inj (hf.symm.trans hf₀)
      obtain ⟨d₂, hd₂, -, hset⟩ := dpAgeOutFlow_eq hf₁
      obtain rfl : d₂ = d' := Option.some.inj (hd₂.symm.trans h)
      have hval := hset.flow.symm.trans hf'
      split at hval
      · cases hval
      · cases hval
        have := hu.refCount
        dsimp only
        omega
  unfold dpRemoveFlow at h
  split at h
  · obtain ⟨d₁, hd₁, h⟩ := Option.bind_eq_some_iff.mp h
    exact hage (fadeSteps_fades (dpRteFlowRemove_fadeSteps hd₁)) h
  · exact hage (.refl d) h

/-! ## The flows of an interface -/

variable {p : PortId} {ip : Ip4} {order : List FlowKey}

/-- Every flow that the entries in `order` lead to and that the port `p` made is in the VNI `v`. -/
def PortFlowsIn (p : PortId) (v : Vni) (order : List FlowKey) (d : Dataplane) : Prop :=
  ∀ k ∈ order, ∀ f ∈ d.flowTbl k, ∀ fv ∈ d.flows f, fv.createdPortId = p → fv.org.vni = v

instance : Decidable (PortFlowsIn p v order d) :=
  inferInstanceAs (Decidable (∀ k ∈ order, ∀ f ∈ d.flowTbl k, ∀ fv ∈ d.flows f, _))

/-- The pass at an entry. -/
theorem dpRemoveEntry_kept (hs : Slots d) (ho : OneVni d) (hp : PortFlowsIn p v [k] d)
    (h : dpRemoveEntry cf (.iface p ip v) d k = some d') : VniKept v d d' := by
  unfold dpRemoveEntry at h
  split at h
  · cases h
    exact .refl v d
  next f hk =>
    split at h
    · cases h
    next fv hf =>
      split at h
      next hhit =>
        have horg : fv.org.vni = v := by
          simp only [FlowRemoval.hits, Bool.or_eq_true, Bool.and_eq_true, beq_iff_eq] at hhit
          obtain hc | ⟨hkv, -⟩ := hhit
          · exact hp k List.mem_cons_self f hk fv hf hc
          · exact (ho.tbl k f fv hk hf).trans hkv
        refine dpRemoveFlow_kept hs (fun fv' hf' => ?_) h
        obtain rfl : fv = fv' := Option.some.inj (hf.symm.trans hf')
        exact ⟨horg, (ho.reply f fv hf).trans horg⟩
      · cases h
        exact .refl v d

theorem PortFlowsIn.fades {order' : List FlowKey} (hp : PortFlowsIn p v order d) (h : Fades d d')
    (hsub : ∀ k ∈ order', k ∈ order) : PortFlowsIn p v order' d' := by
  intro k hk f hkf fv' hf' hc
  obtain ⟨fv, hf, hu⟩ := h.flows f fv' hf'
  rw [hu.org]
  exact hp k (hsub k hk) f (h.flowTbl k f hkf) fv hf (hu.created.symm.trans hc)

/-- **The pass over the flows of an interface keeps to a VNI** exactly if its port made no flow of another VNI. -/
theorem dpRemoveFlows_kept_iff (hs : Slots d) (ho : OneVni d) (h : dpRemoveFlows cf (.iface p ip v) d order = some d') :
    VniKept v d d' ↔ PortFlowsIn p v order d := by
  constructor
  · intro hkept k hk f hkf fv hf hc
    by_contra hv
    obtain ⟨pre, post, rfl⟩ := List.append_of_mem hk
    unfold dpRemoveFlows at h
    rw [List.foldlM_append, Option.bind_eq_bind, Option.bind_eq_some_iff] at h
    obtain ⟨d₁, h₁, h⟩ := h
    obtain ⟨d₂, h₂, h₃⟩ := Option.bind_eq_some_iff.mp h
    have hpre : Fades d d₁ := fadeSteps_fades (dpRemoveFlows_fadeSteps h₁)
    have hpost : Fades d₂ d' := fadeSteps_fades (dpRemoveFlows_fadeSteps h₃)
    -- the entry is there to the end, so it is there when the pass comes to it
    have hk' : d'.flowTbl k = some f := by
      rw [hkept.flowTbl k (ho.tbl k f fv hkf hf ▸ hv)]
      exact hkf
    have hk₁ : d₁.flowTbl k = some f :=
      (fadeSteps_fades (dpRemoveEntry_fadeSteps h₂)).flowTbl k f (hpost.flowTbl k f hk')
    have hf' : d'.flows f = some fv := (hkept.flows f fv hv).mpr hf
    obtain ⟨fv₂, hf₂, hu₂⟩ := hpost.flows f fv hf'
    unfold dpRemoveEntry at h₂
    rw [hk₁] at h₂
    dsimp only at h₂
    split at h₂
    · cases h₂
    next fv₁ hf₁ =>
      obtain ⟨fv₀, hf₀, hu₁⟩ := hpre.flows f fv₁ hf₁
      obtain rfl : fv = fv₀ := Option.some.inj (hf.symm.trans hf₀)
      have hhit : (FlowRemoval.iface p ip v).hits k fv₁ = true := by
        simp [FlowRemoval.hits, hu₁.created, hc]
      rw [if_pos hhit] at h₂
      have hlt := dpRemoveFlow_lt hf₁ h₂ hf₂
      have hle₁ := hu₁.refCount
      have hle₂ := hu₂.refCount
      omega
  · intro hp
    have hinv : Fades d d' ∧ VniKept v d d' := by
      refine foldlM_invariant (I := fun d' => Fades d d' ∧ VniKept v d d') (fun k hk d₁ d₂ h₁ hstep => ?_)
        ⟨.refl d, .refl v d⟩ h
      refine ⟨h₁.1.trans (fadeSteps_fades (dpRemoveEntry_fadeSteps hstep)),
        h₁.2.trans (dpRemoveEntry_kept (hs.fades h₁.1) (ho.fades h₁.1) (hp.fades h₁.1 fun k' hk' => ?_) hstep)⟩
      rw [List.mem_singleton.mp hk']
      exact hk
    exact hinv.2

end Kept

/-! ## Routes and neighbour NATs -/

section Config

variable {cf : Conf} {e : Env} {c : Config} {v w : Vni} {l : List NetworkNatEntry} {p : PortId}

/-- **Neighbour NATs of other VNIs survive** exactly if the VNI is not 0 or there are none. -/
theorem neigh_kept_iff : (∀ w ≠ v, (dpDelAllNeighNatEntriesInVni l v).filter (·.vni == w) = l.filter (·.vni == w)) ↔
    (v = 0 → ∀ n ∈ l, n.vni = 0) := by
  constructor
  · rintro h rfl n hn
    by_contra hne
    have hmem : n ∈ l.filter (·.vni == n.vni) := List.mem_filter.mpr ⟨hn, by simp⟩
    rw [← h n.vni hne] at hmem
    simp [dpDelAllNeighNatEntriesInVni] at hmem
  · intro h w hw
    unfold dpDelAllNeighNatEntriesInVni
    rw [List.filter_filter]
    refine List.filter_congr fun n hn => ?_
    by_cases hn' : n.vni = w
    · have hv : v ≠ 0 := by
        intro h0
        exact hw (hn'.symm.trans ((h h0 n hn).trans h0.symm))
      simp [hn', hw, hv]
    · simp [hn']

/-- The routes of other VNIs stay. -/
theorem routeAt_vacated (c : Config) (p : PortId) (hw : w ≠ (c.port p).iface.vni) (k : PfxKey) :
    routeAt (vacatedTbl c p) w k = routeAt c.vniHandleTbl w k := by
  have hdel : ∀ t addr depth, routeAt (dpGrpcDelRoute t p (c.port p).iface.vni addr depth).2 w k = routeAt t w k := by
    intro t addr depth
    obtain ⟨heq, -⟩ | ⟨-, -, hroute⟩ := dpGrpcDelRoute_spec t p (c.port p).iface.vni addr depth
    · rw [heq]
    · rw [hroute, if_neg fun h => hw h.1]
  exact (hdel ..).trans (hdel ..)

/-- A reset writes the routes of its VNI only. -/
theorem routeAt_resetVni {o : Resp × Config} {both : Bool} (h : dpProcessResetVni cf e c v both = some o) (hw : w ≠ v)
    (k : PfxKey) : routeAt o.2.vniHandleTbl w k = routeAt c.vniHandleTbl w k := by
  unfold dpProcessResetVni at h
  split at h
  · obtain ⟨r, hr, rfl⟩ := Option.map_eq_some_iff.mp h
    unfold dpLpmResetRouteTables at hr
    split at hr
    · obtain rfl := Option.some.inj hr
      refine fillPorts_invariant (I := fun t => routeAt t w k = routeAt c.vniHandleTbl w k) ?_ ?_
      · intro t q addr depth _ hsel _ ht
        have hvni : (c.port q).iface.vni = v := by simpa using hsel
        obtain ⟨-, heq⟩ | ⟨-, -, -, -, hroute⟩ := dpGrpcAddRoute_spec cf e t q (c.port q).iface.vni 0 addr 0 depth
        · rw [heq]
          exact ht
        · rw [hroute, if_neg fun h => hw (h.1.trans hvni)]
          exact ht
      · rw [routeAt_reset, if_neg hw]
    · cases hr
  · obtain rfl := Option.some.inj h
    rfl

end Config

/-! ## The frame -/

/-- Nothing of another VNI than `v` differs. -/
structure VniFrame (v : Vni) (s s' : Service) : Prop where
  routes : ∀ w ≠ v, ∀ k, routeAt s'.cfg.vniHandleTbl w k = routeAt s.cfg.vniHandleTbl w k
  neigh : ∀ w ≠ v, s'.cfg.nat.natHeadp.filter (·.vni == w) = s.cfg.nat.natHeadp.filter (·.vni == w)
  dnat : ∀ k : NatKey, k.vni ≠ v → s'.cfg.nat.dnatTbl k = s.cfg.nat.dnatTbl k
  flows : VniKept v s.dpl s'.dpl

/-- The request releases the last use of the VNI, or resets it. -/
inductive Clears (s : Service) (v : Vni) : Request → Prop
  | iface {id : Id64} {p : PortId} (hid : s.cfg.ifaceIdTable id = some p) (hv : (s.cfg.port p).iface.vni = v)
      (hlast : vniRefs s.cfg.vniHandleTbl v = some 1) : Clears s v (.deleteInterface id)
  | lb {id : Id64} {k : LbKey} {ul : Ip6} (hlb : dpGetLb s.dpl.lb id = some (.ok (k, ul))) (hv : k.vni = v)
      (hlast : vniRefs s.cfg.vniHandleTbl v = some 1) : Clears s v (.deleteLb id)
  | reset (both : Bool) : Clears s v (.resetVni v both)

/-- The release of VNI 0 finds no neighbour NAT of another VNI, and the port of an interface that is deleted made no
flow in another VNI that is left. -/
def FrameSafe (s : Service) (v : Vni) (order : List FlowKey) : Request → Prop
  | .deleteInterface id => (v = 0 → ∀ n ∈ s.cfg.nat.natHeadp, n.vni = 0) ∧
      ∀ p ∈ s.cfg.ifaceIdTable id, PortFlowsIn p v order s.dpl
  | .deleteLb _ => v = 0 → ∀ n ∈ s.cfg.nat.natHeadp, n.vni = 0
  | _ => True

section Frame

variable {cf : Conf} {s s' : Service} {v : Vni} {r : Request} {e : Env} {order : List FlowKey}

/-- **The end of a virtual network leaves the others alone exactly if** VNI 0 takes no neighbour NAT of another VNI with
it and the port of the interface has made no flow in another VNI. -/
theorem vni_frame_iff {es : List Event} (hrun : run (step cf) (Service.init cf) es = some s) (hclear : Clears s v r)
    (hstep : step cf s (.request r e order) = some s') : VniFrame v s s' ↔ FrameSafe s v order r := by
  obtain ⟨-, -, o, ho, hcfg, hd⟩ := step_request hstep
  have hslots : ∀ l, Slots { s.dpl with lb := l } := fun l => ⟨(slots_run hrun).lt, (slots_run hrun).own⟩
  have hone : ∀ l, OneVni { s.dpl with lb := l } := fun l => ⟨(oneVni_run hrun).reply, (oneVni_run hrun).tbl⟩
  cases hclear with
  | @iface id p hid hv hlast =>
    obtain ⟨hnone, -⟩ | ⟨q, hq, hdel, hrem⟩ := dpProcessDeleteInterface_cases cf e s.cfg id
    · rw [hid] at hnone
      cases hnone
    obtain rfl : p = q := Option.some.inj (hid.symm.trans hq)
    obtain rfl := Option.some.inj ho
    subst hv
    have hspec : dpDeleteVniRouteTables (vacatedTbl s.cfg p) s.cfg.nat.natHeadp (s.cfg.port p).iface.vni =
        (true, (vacatedTbl s.cfg p).del (s.cfg.port p).iface.vni,
          dpDelAllNeighNatEntriesInVni s.cfg.nat.natHeadp (s.cfg.port p).iface.vni) := by
      rw [← (vacatedTbl_fewer s.cfg p).refs] at hlast
      obtain ⟨hnone, -⟩ | ⟨-, heq⟩ | ⟨x, hx, hne, -⟩ :=
        dpDeleteVniRouteTables_spec (vacatedTbl s.cfg p) s.cfg.nat.natHeadp (s.cfg.port p).iface.vni
      · simp [vniRefs, hnone] at hlast
      · exact heq
      · exact absurd (by simpa [vniRefs, hx] using hlast) hne
    have hnat := hdel.nat
    have htbl := hdel.tbl
    rw [hspec] at hnat htbl
    dsimp only at hcfg hd
    rw [hrem] at hd
    obtain ⟨d₁, hd₁, hd⟩ := Option.bind_eq_some_iff.mp hd
    obtain rfl : d₁ = s'.dpl := Option.some.inj hd
    have hflows : VniKept (s.cfg.port p).iface.vni s.dpl s'.dpl ↔
        PortFlowsIn p (s.cfg.port p).iface.vni order s.dpl := by
      refine Iff.trans ⟨fun h => ⟨h.flows, h.flowTbl⟩, fun h => ⟨h.flows, h.flowTbl⟩⟩
        (dpRemoveFlows_kept_iff (hslots _) (hone _) hd₁)
    constructor
    · intro h
      refine ⟨neigh_kept_iff.mp fun w hw => ?_, fun q hq => ?_⟩
      · have := h.neigh w hw
        rwa [hcfg, hnat] at this
      · obtain rfl : p = q := Option.some.inj (hid.symm.trans hq)
        exact hflows.mp h.flows
    · rintro ⟨hneigh, hports⟩
      refine ⟨fun w hw k => ?_, fun w hw => ?_, fun k hk => ?_, hflows.mpr (hports p hid)⟩
      · rw [hcfg, htbl, routeAt_del, if_neg hw, routeAt_vacated s.cfg p hw]
      · rw [hcfg, hnat]
        exact neigh_kept_iff.mpr hneigh w hw
      · rw [hcfg, hnat]
  | @lb id k ul hlb hv hlast =>
    subst hv
    have hspec : dpDeleteVniRouteTables s.cfg.vniHandleTbl s.cfg.nat.natHeadp k.vni =
        (true, s.cfg.vniHandleTbl.del k.vni, dpDelAllNeighNatEntriesInVni s.cfg.nat.natHeadp k.vni) := by
      obtain ⟨hnone, -⟩ | ⟨-, heq⟩ | ⟨x, hx, hne, -⟩ :=
        dpDeleteVniRouteTables_spec s.cfg.vniHandleTbl s.cfg.nat.natHeadp k.vni
      · simp [vniRefs, hnone] at hlast
      · exact heq
      · exact absurd (by simpa [vniRefs, hx] using hlast) hne
    simp only [dpProcessRequest, dpProcessDeleteLb, hlb, Option.map_some, Option.some.injEq,
      Config.deleteVni, hspec] at ho
    subst ho
    have hdpl := Option.some.inj hd
    constructor
    · intro h
      refine neigh_kept_iff.mp fun w hw => ?_
      have := h.neigh w hw
      rwa [hcfg] at this
    · intro hneigh
      refine ⟨fun w hw k' => ?_, fun w hw => ?_, fun k' _ => ?_, ?_⟩
      · rw [hcfg, routeAt_del, if_neg hw]
      · rw [hcfg]
        exact neigh_kept_iff.mpr hneigh w hw
      · rw [hcfg]
      · rw [← hdpl]
        exact ⟨fun _ _ _ => Iff.rfl, fun _ _ => rfl⟩
  | reset both =>
    obtain ⟨x, hx, rfl⟩ := Option.map_eq_some_iff.mp ho
    have hdpl := Option.some.inj hd
    have hnat : x.2.nat = s.cfg.nat := by
      unfold dpProcessResetVni at hx
      split at hx
      · obtain ⟨y, -, rfl⟩ := Option.map_eq_some_iff.mp hx
        rfl
      · obtain rfl := Option.some.inj hx
        rfl
    refine ⟨fun _ => trivial, fun _ => ⟨fun w hw k => ?_, fun w hw => ?_, fun k _ => ?_, ?_⟩⟩
    · rw [hcfg]
      exact routeAt_resetVni hx hw k
    · rw [hcfg, hnat]
    · rw [hcfg, hnat]
    · rw [← hdpl]
      exact ⟨fun _ _ _ => Iff.rfl, fun _ _ => rfl⟩

end Frame

/-- Interface 7 in VNI 100 and interface 8 in VNI 200, with a neighbour NAT in both. -/
def twoVnis : List Request :=
  smallSetup ++ [.createInterface 3 8 200 0x0a000001 0xfd01 0 0, .createRoute 200 (.v4 0) 0 200 (.v6 5),
    .createNeighnat (.v4 0x05060708) 100 10 20 9, .createNeighnat (.v4 0x05060708) 200 30 40 9]

/-- A UDP packet from interface 8, and the keys of its flow. -/
def udpFrom8 : Mbuf :=
  { port := 3, l3 := .ipv4 0x0a000001 0x08080808 ipprotoUdp, l4 := { srcPort := 1000, dstPort := 53 } }

def udpKeysOf8 : List FlowKey :=
  [{ l3Dst := .v4 0x08080808, l3Src := .v4 0x0a000001, proto := ipprotoUdp, portDst := 53, src := 1000,
      vnfType := .undefined, vni := 200 },
    { l3Dst := .v4 0x0a000001, l3Src := .v4 0x08080808, proto := ipprotoUdp, portDst := 1000, src := 53,
      vnfType := .undefined, vni := 200 }]

/-- Interface 7 is deleted, and VNI 100 with it: the flow and the neighbour NAT of VNI 200 stay. -/
theorem vni_frame_two : ∃ s s',
    run (step smallConf) (Service.init smallConf) (requests twoVnis ++ passes udpFrom8 8) = some s ∧
      step smallConf s (.request (.deleteInterface 7) {} udpKeysOf8) = some s' ∧
      (∀ k ∈ udpKeysOf8, s.dpl.flowTbl k = some 0) ∧ s'.cfg.nat.natHeadp.length = 1 ∧ VniFrame 100 s s' := by
  obtain ⟨s, hs, s', hs', htbl, hlen, hid, hvni, hlast, hflows⟩ : ∃ s,
      run (step smallConf) (Service.init smallConf) (requests twoVnis ++ passes udpFrom8 8) = some s ∧
      ∃ s', step smallConf s (.request (.deleteInterface 7) {} udpKeysOf8) = some s' ∧
        (∀ k ∈ udpKeysOf8, s.dpl.flowTbl k = some 0) ∧ s'.cfg.nat.natHeadp.length = 1 ∧
        s.cfg.ifaceIdTable 7 = some 2 ∧ (s.cfg.port 2).iface.vni = 100 ∧ vniRefs s.cfg.vniHandleTbl 100 = some 1 ∧
        PortFlowsIn 2 100 udpKeysOf8 s.dpl := by decide +kernel
  refine ⟨s, s', hs, hs', htbl, hlen, (vni_frame_iff hs (.iface hid hvni hlast) hs').mpr ⟨nofun, fun p hp => ?_⟩⟩
  rw [← Option.some.inj (hid.symm.trans hp)]
  exact hflows

/-- The only interface of VNI 0 is deleted: the neighbour NAT of VNI 100 is gone. -/
theorem vni_frame_zero : ∃ s s',
    run (step smallConf) (Service.init smallConf) (requests
      [.createInterface 2 7 0 0x0a000001 0xfd00 0 0, .createNeighnat (.v4 0x05060708) 100 10 20 9]) = some s ∧
      step smallConf s (.request (.deleteInterface 7) {} []) = some s' ∧ Clears s 0 (.deleteInterface 7) ∧
      ¬ VniFrame 0 s s' := by
  obtain ⟨s, hs, s', hs', hid, hvni, hlast, hlen⟩ : ∃ s, run (step smallConf) (Service.init smallConf) (requests
      [.createInterface 2 7 0 0x0a000001 0xfd00 0 0, .createNeighnat (.v4 0x05060708) 100 10 20 9]) = some s ∧
      ∃ s', step smallConf s (.request (.deleteInterface 7) {} []) = some s' ∧ s.cfg.ifaceIdTable 7 = some 2 ∧
        (s.cfg.port 2).iface.vni = 0 ∧ vniRefs s.cfg.vniHandleTbl 0 = some 1 ∧
        (s'.cfg.nat.natHeadp.filter (·.vni == 100)).length ≠ (s.cfg.nat.natHeadp.filter (·.vni == 100)).length := by
    decide +kernel
  exact ⟨s, s', hs, hs', .iface hid hvni hlast, fun h => hlen (congrArg List.length (h.neigh 100 (by decide)))⟩

end Dpservice
