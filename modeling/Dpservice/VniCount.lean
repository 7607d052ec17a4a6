import Mathlib.Data.Set.Card
import Dpservice.LbTables

/-!
# The use counts of VNIs

A VNI is in use by the ready interfaces and by the load balancers in it.

- `vniUses` is the number of its users, `RefCounts` says that the table has exactly the VNIs with users, each with
  the right count;
- taking and releasing a use keep the counts right (`RefCounts.gain`, `RefCounts.release`), and so does every request
  whose load balancer the id table does not refuse (`VniCounted.request`);
- the counts are right in every state of a run of such requests (`vni_refs_counted`).
-/

namespace Dpservice

/-! ## Counts -/

/-- Exactly the VNIs with users exist, with the number of their users. -/
def RefCounts (t : VniTbl) (n : Vni → ℕ) : Prop := ∀ v, vniRefs t v = if n v = 0 then none else some (n v : Int)

section Counts

variable {t t' : VniTbl} {n n' : Vni → ℕ} {vni : Vni}

theorem RefCounts.congr (h : RefCounts t n) (ht : vniRefs t' = vniRefs t) (hn : ∀ v, n' v = n v) : RefCounts t' n' := by
  intro v
  rw [ht, h v, hn]

/-- One more user. -/
theorem RefCounts.gain (h : RefCounts t n)
    (ht : ∀ v, vniRefs t' v = if v = vni then some ((vniRefs t vni).getD 0 + 1) else vniRefs t v)
    (hn : ∀ v, n' v = n v + if v = vni then 1 else 0) : RefCounts t' n' := by
  intro v
  rw [ht, hn]
  by_cases hv : v = vni
  · subst hv
    rw [if_pos rfl, if_pos rfl, if_neg (Nat.succ_ne_zero _), h v]
    split
    next hz => simp [hz]
    · simp
  · rw [if_neg hv, if_neg hv, Nat.add_zero]
    exact h v

/-- One user less; the last one takes the VNI with it. -/
theorem RefCounts.release (h : RefCounts t n) (l : List NetworkNatEntry)
    (hn : ∀ v, n v = n' v + if v = vni then 1 else 0) : RefCounts (dpDeleteVniRouteTables t l vni).2.1 n' := by
  have hother : ∀ {v}, v ≠ vni → n' v = n v := fun {v} hv => by simpa [hv] using (hn v).symm
  have hvni : vniRefs t vni = some ((n' vni : Int) + 1) := by
    rw [h vni, hn vni, if_pos rfl, if_neg (Nat.succ_ne_zero _)]
    rfl
  rcases dpDeleteVniRouteTables_spec t l vni with ⟨hnone, -⟩ | ⟨hone, heq⟩ | ⟨d, hd, hne, heq⟩
  · rw [vniRefs, hnone] at hvni
    cases hvni
  · rw [heq]
    intro v
    rw [vniRefs_del]
    split
    next hv =>
      rw [hone, Option.some.injEq] at hvni
      rw [hv, if_pos (by omega)]
    next hv =>
      rw [hother hv]
      exact h v
  · rw [heq]
    intro v
    rw [vniRefs_add]
    split
    next hv =>
      rw [vniRefs, hd, Option.map_some, Option.some.injEq] at hvni
      rw [hv, if_neg (by omega), Option.some.injEq]
      show d.refCount - 1 = _
      omega
    next hv =>
      rw [hother hv]
      exact h v

/-- A set with one member more, if `b`. -/
theorem ncard_gain {α : Type*} {S S' : Set α} {a : α} {b : Prop} [Decidable b] (hfin : S.Finite) (ha : a ∉ S)
    (h : ∀ x, x ∈ S' ↔ x ∈ S ∨ b ∧ x = a) : S'.ncard = S.ncard + if b then 1 else 0 := by
  by_cases hb : b
  · have : S' = insert a S := by
      ext x
      simp [h, hb, or_comm]
    rw [this, Set.ncard_insert_of_notMem ha hfin, if_pos hb]
  · have : S' = S := by
      ext x
      simp [h, hb]
    rw [this, if_neg hb, Nat.add_zero]

end Counts

/-! ## Users -/

def readyIn (c : Config) (v : Vni) : Set PortId := {p | (c.port p).iface.ready = true ∧ (c.port p).iface.vni = v}

def lbsIn (s : LbState) (v : Vni) : Set LbKey := {k | (s.lbTbl k).isSome = true ∧ k.vni = v}

/-- The number of users of a VNI. -/
noncomputable def vniUses (c : Config) (s : LbState) (v : Vni) : ℕ := (readyIn c v).ncard + (lbsIn s v).ncard

/-- The load balancers of a VNI whose table entry is one of those to be counted. -/
def lbsOf (keep : Option LbValue → Bool) (s : LbState) (v : Vni) : Set LbKey :=
  {k | (s.lbTbl k).any keep = true ∧ k.vni = v}

/-- The number of users of a VNI, with only some of the load balancers. -/
noncomputable def usesOf (keep : Option LbValue → Bool) (c : Config) (s : LbState) (v : Vni) : ℕ :=
  (readyIn c v).ncard + (lbsOf keep s v).ncard

section Users

variable {cf : Conf} {e : Env} {c c' : Config} {s s' : LbState} {r : Request} {o : Outcome} {p : PortId} {id : Id64}
  {key : LbKey} {x : Option LbValue}

theorem readyIn_finite (c : Config) (v : Vni) : (readyIn c v).Finite :=
  have : Finite PortId := Finite.of_injective UInt16.toFin fun _ _ h => UInt16.toFin_inj.mp h
  Set.toFinite _

/-- A creation that was taken back changes no user. -/
theorem readyIn_undone {n : NewIface} (hu : Undone c n c') (hnr : (c.port n.p).iface.ready = false) (v : Vni) :
    readyIn c' v = readyIn c v := by
  ext q
  by_cases hq : q = n.p
  · subst hq
    obtain ⟨i, hi, hcases⟩ := hu.port
    have : i.ready = false := by rcases hcases with rfl | rfl | rfl <;> first | rfl | exact hnr
    simp [readyIn, hi, this, hnr]
  · simp [readyIn, hu.other hq]

theorem readyIn_created {n : NewIface} (hc : Created c n c') (hnr : (c.port n.p).iface.ready = false) (v : Vni) :
    (readyIn c' v).ncard = (readyIn c v).ncard + if v = n.vni then 1 else 0 := by
  refine ncard_gain (a := n.p) (readyIn_finite c v) (by simp [readyIn, hnr]) fun q => ?_
  by_cases hq : q = n.p
  · subst hq
    obtain ⟨a, b, hi⟩ := hc.port
    simp [readyIn, hi, hnr, newIface, eq_comm (a := v)]
  · simp [readyIn, hc.other hq, hq]

theorem readyIn_deleted (hd : Deleted c p id c') (hr : (c.port p).iface.ready = true) (v : Vni) :
    (readyIn c v).ncard = (readyIn c' v).ncard + if v = (c.port p).iface.vni then 1 else 0 := by
  obtain ⟨a, hi⟩ := hd.port
  refine ncard_gain (a := p) (readyIn_finite c' v) (by simp [readyIn, hi]) fun q => ?_
  by_cases hq : q = p
  · subst hq
    simp [readyIn, hi, hr, eq_comm (a := v)]
  · simp [readyIn, hd.other hq, hq]

/-- Requests other than the two that create and delete interfaces leave the interfaces in their VNIs. -/
theorem SamePorts.readyIn (h : SamePorts c c') (v : Vni) : readyIn c' v = Dpservice.readyIn c v := by
  ext q
  obtain ⟨a, lo, hi, hp⟩ := h.port q
  simp [Dpservice.readyIn, hp, Iface.setNat]

variable {keep : Option LbValue → Bool}

theorem lbsOf_finite (hfin : {k | (s.lbTbl k).isSome = true}.Finite) (keep : Option LbValue → Bool) (v : Vni) :
    (lbsOf keep s v).Finite := by
  refine hfin.subset fun k hk => ?_
  obtain ⟨x, hx, -⟩ := (Option.any_eq_true _ _).mp hk.1
  simp [hx]

theorem lbsOf_add (hfin : {k | (s.lbTbl k).isSome = true}.Finite) (hk : s.lbTbl key = none) (hx : keep x = true)
    (hs : s'.lbTbl = s.lbTbl.add key x) (v : Vni) :
    (lbsOf keep s' v).ncard = (lbsOf keep s v).ncard + if v = key.vni then 1 else 0 := by
  refine ncard_gain (a := key) (lbsOf_finite hfin keep v) (by simp [lbsOf, hk]) fun k => ?_
  by_cases hkk : k = key
  · subst hkk
    simp [lbsOf, hs, hk, hx, eq_comm (a := v)]
  · simp [lbsOf, hs, Table.add_of_ne hkk, hkk]

theorem lbsOf_del (hfin : {k | (s.lbTbl k).isSome = true}.Finite) (hk : s.lbTbl key = some x) (hx : keep x = true)
    (hs : s'.lbTbl = s.lbTbl.del key) (v : Vni) :
    (lbsOf keep s v).ncard = (lbsOf keep s' v).ncard + if v = key.vni then 1 else 0 := by
  have hsub : lbsOf keep s' v ⊆ lbsOf keep s v := by
    rintro k ⟨hk', hv⟩
    obtain ⟨y, hy, hkeep⟩ := (Option.any_eq_true _ _).mp hk'
    rw [hs] at hy
    exact ⟨(Option.any_eq_true _ _).mpr ⟨y, (Table.del_eq_some.mp hy).2, hkeep⟩, hv⟩
  refine ncard_gain (a := key) ((lbsOf_finite hfin keep v).subset hsub) (by simp [lbsOf, hs]) fun k => ?_
  by_cases hkk : k = key
  · subst hkk
    simp [lbsOf, hs, hk, hx, eq_comm (a := v)]
  · simp [lbsOf, hs, Table.del_of_ne hkk, hkk]

/-- An entry that is not counted makes no difference. -/
theorem lbsOf_add_other (hk : s.lbTbl key = none) (hx : keep x = false) (hs : s'.lbTbl = s.lbTbl.add key x) (v : Vni) :
    lbsOf keep s' v = lbsOf keep s v := by
  ext k
  by_cases hkk : k = key
  · simp [lbsOf, hs, hkk, hk, hx]
  · simp [lbsOf, hs, Table.add_of_ne hkk]

theorem usesOf_congr (hp : ∀ v, readyIn c' v = readyIn c v) (hl : ∀ v, lbsOf keep s' v = lbsOf keep s v) (v : Vni) :
    usesOf keep c' s' v = usesOf keep c s v := by
  rw [usesOf, usesOf, hp, hl]

/-- All load balancers are counted. -/
theorem usesOf_all (c : Config) (s : LbState) (v : Vni) : usesOf (fun _ => true) c s v = vniUses c s v := by
  have hall : lbsOf (fun _ => true) s v = lbsIn s v := by
    ext k
    simp only [lbsOf, lbsIn, Set.mem_ofPred_eq, Option.any_true]
  rw [usesOf, hall, vniUses]

end Users

/-! ## Runs -/

structure VniCounted (cf : Conf) (s : Ctl) : Prop where
  ports : PortsOk cf s.cfg
  ids : LbIds s.lb
  finite : {k | (s.lb.lbTbl k).isSome = true}.Finite
  refs : RefCounts s.cfg.vniHandleTbl (vniUses s.cfg s.lb)

section Runs

variable {cf : Conf} {e : Env} {s s' : Ctl} {r : Request} {o : Outcome}

theorem VniCounted.init (cf : Conf) : VniCounted cf (Ctl.init cf) where
  ports := .init cf
  ids := .empty
  finite := by simp [Ctl.init]
  refs v := by
    have hready : readyIn (Ctl.init cf).cfg v = ∅ := by simp [readyIn, Ctl.init, Config.init]
    have hlbs : lbsIn (Ctl.init cf).lb v = ∅ := by simp [lbsIn, Ctl.init]
    rw [vniUses, hready, hlbs, Set.ncard_empty, Set.ncard_empty]
    rfl

/-- No request makes infinitely many load balancers. -/
theorem finite_request (h : {k | (s.lb.lbTbl k).isSome = true}.Finite)
    (ho : dpProcessRequest cf e s.cfg s.lb r = some o) : {k | (o.lb.lbTbl k).isSome = true}.Finite := by
  have hadd : ∀ {key x}, o.lb.lbTbl = s.lb.lbTbl.add key x → {k | (o.lb.lbTbl k).isSome = true}.Finite := by
    intro key x heq
    refine (h.insert key).subset fun k hk => ?_
    by_cases hkk : k = key
    · exact .inl hkk
    · rw [Set.mem_ofPred_eq, heq, Table.add_of_ne hkk] at hk
      exact .inr hk
  cases dpProcessRequest_lb ho with
  | same _ hlb => exact hlb ▸ h
  | targets _ _ ht => exact hadd (congrArg LbState.lbTbl ht.eq)
  | @delete id key v _ _ _ _ hlb =>
    refine h.subset fun k hk => ?_
    rw [Set.mem_ofPred_eq, hlb] at hk
    obtain ⟨x, hx⟩ := Option.isSome_iff_exists.mp hk
    simp [(Table.del_eq_some.mp hx).2]
  | create hc =>
    cases hc with
    | noVnf _ _ _ hlb | refused _ _ _ _ hlb => exact (show o.lb = s.lb from hlb) ▸ h
    | dead _ _ _ _ _ hlb => exact hadd (congrArg LbState.lbTbl hlb)
    | noVni _ _ _ _ _ _ hlb => exact (congrArg LbState.lbTbl hlb : o.lb.lbTbl = _) ▸ h
    | created _ _ _ _ _ _ hlb => exact hadd (congrArg LbState.lbTbl hlb)

/-- A target request leaves the load balancers where they are. -/
theorem lbsOf_targets {keep : Option LbValue → Bool} (hkeep : ∀ w, keep (some w) = true) {s s' : LbState} {id : Id64}
    {key : LbKey} {w w' : LbValue} (ht : SetsTargets s s' id key w w') (v : Vni) :
    lbsOf keep s' v = lbsOf keep s v := by
  ext k
  rw [ht.eq]
  by_cases hk : k = key
  · simp [lbsOf, hk, ht.val, hkeep]
  · simp [lbsOf, Table.add_of_ne hk]

/-- **Every request keeps the use counts right**, if the entries that a refused load balancer leaves are not counted, or
it is not refused. -/
theorem usesOf_request {keep : Option LbValue → Bool} (hkeep : ∀ w, keep (some w) = true) (hports : PortsOk cf s.cfg)
    (hfin : {k | (s.lb.lbTbl k).isSome = true}.Finite) (hok : keep none = false ∨ e.ok .lbIdAdd = true)
    (hrefs : RefCounts s.cfg.vniHandleTbl (usesOf keep s.cfg s.lb))
    (ho : dpProcessRequest cf e s.cfg s.lb r = some o) : RefCounts o.cfg.vniHandleTbl (usesOf keep o.cfg o.lb) := by
  have hkept : r.placesIface = false → ∀ v, readyIn o.cfg v = readyIn s.cfg v := fun hr =>
    (dpProcessRequest_kept hports hr ho).readyIn
  have hsame : r.placesIface = false → r.writesUses = false → (∀ v, lbsOf keep o.lb v = lbsOf keep s.lb v) →
      RefCounts o.cfg.vniHandleTbl (usesOf keep o.cfg o.lb) := fun hr hu hl =>
    hrefs.congr (dpProcessRequest_refs hu ho) (usesOf_congr (hkept hr) hl)
  cases dpProcessRequest_cases ho with
  | refused | noVnf | undone => exact hrefs
  | ifaceUndone _ hal _ hun =>
    have hun := hun hports.uses
    exact hrefs.congr hun.fewer.refs (usesOf_congr (readyIn_undone hun (hports.not_ready hal)) fun _ => rfl)
  | ifaceCreated _ hal _ hcr =>
    refine hrefs.gain hcr.refs fun v => ?_
    rw [usesOf, readyIn_created hcr (hports.not_ready hal)]
    exact Nat.add_right_comm ..
  | ifaceDeleted hp hd =>
    rw [hd.tbl]
    refine (hrefs.congr (vacatedTbl_fewer s.cfg _).refs fun _ => rfl).release _ fun v => ?_
    rw [usesOf, readyIn_deleted hd (hports.mapped.mp hp).1]
    exact Nat.add_right_comm ..
  | createLb hx =>
    have hready := hkept rfl
    cases hx with
    | noVnf _ _ hcfg hlb | refused _ _ _ hcfg hlb =>
      rw [hcfg, hlb]
      exact hrefs
    | dead _ hacc hid _ hcfg hlb =>
      have hdead : keep none = false := hok.resolve_right (by rw [hid]; exact Bool.false_ne_true)
      refine hrefs.congr (by rw [hcfg]) (usesOf_congr hready fun v => ?_)
      exact lbsOf_add_other (lbAccepts_free hacc) hdead (congrArg LbState.lbTbl hlb) v
    | noVni _ _ _ _ _ hcfg hlb =>
      refine hrefs.congr (by rw [hcfg]) (usesOf_congr hready fun v => ?_)
      rw [hlb]
      rfl
    | created _ hacc _ hvni _ hcfg hlb =>
      rw [show Config.vniHandleTbl _ = _ from congrArg Config.vniHandleTbl hcfg]
      refine hrefs.gain (dpCreateVniRouteTables_spec hvni).1 fun v => ?_
      rw [usesOf, hready, lbsOf_add hfin (lbAccepts_free hacc) (hkeep _) (congrArg LbState.lbTbl hlb), usesOf,
        Nat.add_assoc]
  | @lbDeleted id key w _ _ hk =>
    refine hrefs.release _ fun v => ?_
    have hs : (⟨s.lb.lbTbl.del key, s.lb.idMapTbl.del id, s.lb.count - 1⟩ : LbState).lbTbl = s.lb.lbTbl.del key := rfl
    rw [usesOf, lbsOf_del hfin hk (hkeep w) hs, usesOf, hkept rfl v, Nat.add_assoc]
  | lbTargetCreated ht | lbTargetDeleted ht => exact hsame rfl rfl (lbsOf_targets hkeep ht)
  | _ => exact hsame rfl rfl fun _ => rfl

/-- Every request keeps the use counts right, if a load balancer is not refused by the id table. -/
theorem VniCounted.refs_request (h : VniCounted cf s) (hok : e.ok .lbIdAdd = true)
    (ho : dpProcessRequest cf e s.cfg s.lb r = some o) : RefCounts o.cfg.vniHandleTbl (vniUses o.cfg o.lb) := by
  have hall : ∀ (c : Config) (l : LbState), usesOf (fun _ => true) c l = vniUses c l :=
    fun c l => funext (usesOf_all c l)
  have hrefs := h.refs
  rw [← hall] at hrefs ⊢
  exact usesOf_request (fun _ => rfl) h.ports h.finite (.inr hok) hrefs ho

/-- Every VNI is counted for its ready interfaces and its live load balancers. -/
structure VniHeld (cf : Conf) (s : Ctl) : Prop where
  ports : PortsOk cf s.cfg
  finite : {k | (s.lb.lbTbl k).isSome = true}.Finite
  refs : RefCounts s.cfg.vniHandleTbl (usesOf Option.isSome s.cfg s.lb)

theorem vniHeld_run {es : List Call} (h : run (ctlStep cf) (Ctl.init cf) es = some s) : VniHeld cf s := by
  have hinit : VniHeld cf (Ctl.init cf) := by
    refine ⟨.init cf, by simp [Ctl.init], fun v => ?_⟩
    have hready : readyIn (Ctl.init cf).cfg v = ∅ := by simp [readyIn, Ctl.init, Config.init]
    have hlbs : lbsOf Option.isSome (Ctl.init cf).lb v = ∅ := by simp [lbsOf, Ctl.init]
    rw [usesOf, hready, hlbs, Set.ncard_empty, Set.ncard_empty]
    rfl
  refine run_invariant (I := VniHeld cf) (P := fun _ _ => True) ?_ hinit (along_true _ _) h
  intro s a s' hs _ hstep
  obtain ⟨o, ho, hcfg, hlb⟩ := ctlStep_eq hstep
  refine ⟨hcfg ▸ hs.ports.request ho, hlb ▸ finite_request hs.finite ho, ?_⟩
  rw [hcfg, hlb]
  exact usesOf_request (fun _ => rfl) hs.ports hs.finite (.inl rfl) hs.refs ho

/-- **The VNI of a ready interface exists**, whatever fails. -/
theorem VniHeld.exists_vni (h : VniHeld cf s) {p : PortId} (hp : (s.cfg.port p).iface.ready = true) :
    ∃ d, s.cfg.vniHandleTbl (s.cfg.port p).iface.vni = some d := by
  have hmem : p ∈ readyIn s.cfg (s.cfg.port p).iface.vni := ⟨hp, rfl⟩
  have hpos : 0 < (readyIn s.cfg (s.cfg.port p).iface.vni).ncard :=
    (Set.ncard_pos (readyIn_finite _ _)).mpr ⟨p, hmem⟩
  have huses : usesOf Option.isSome s.cfg s.lb (s.cfg.port p).iface.vni ≠ 0 := Nat.ne_of_gt (Nat.add_pos_left hpos _)
  have hrefs := h.refs (s.cfg.port p).iface.vni
  rw [if_neg huses] at hrefs
  obtain ⟨d, hd, -⟩ := Option.map_eq_some_iff.mp hrefs
  exact ⟨d, hd⟩

end Runs

/-- **The use counts of VNIs.** After any requests, as long as the id table takes the new load balancers, a VNI exists
exactly if a ready interface or a load balancer is in it, and its count is the number of these. -/
theorem vni_refs_counted {cf : Conf} {es : List Call} {s : Ctl} (hok : ∀ a ∈ es, a.2.ok .lbIdAdd = true)
    (hrun : run (ctlStep cf) (Ctl.init cf) es = some s) (v : Vni) :
    ((s.cfg.vniHandleTbl v).isSome = true ↔ 0 < vniUses s.cfg s.lb v) ∧
      ∀ d, s.cfg.vniHandleTbl v = some d → d.refCount = vniUses s.cfg s.lb v := by
  have hcounted : VniCounted cf s := by
    refine run_invariant (I := VniCounted cf) ?_ (.init cf) (along_of_forall hok _) hrun
    intro s a s' h hid hstep
    obtain ⟨o, ho, hcfg, hlb⟩ := ctlStep_eq hstep
    refine ⟨?_, ?_, ?_, ?_⟩
    · rw [hcfg]
      exact h.ports.request ho
    · rw [hlb]
      exact h.ids.request ho
    · rw [hlb]
      exact finite_request h.finite ho
    · rw [hcfg, hlb]
      exact h.refs_request hid ho
  have hrefs := hcounted.refs v
  refine ⟨?_, fun d hd => ?_⟩
  · rw [← isSome_vniRefs, hrefs]
    split <;> simp [Nat.pos_iff_ne_zero, *]
  · rw [vniRefs, hd] at hrefs
    split at hrefs
    · cases hrefs
    · exact Option.some.inj hrefs

/-- Two interfaces, one of them refused because its id is in use, and two load balancers with one id. -/
def vniCalls : List Call :=
  calls [.createInterface 2 1 100 0x0a000001 0 0 0, .createInterface 3 1 100 0x0a000002 0 0 0,
    .createLb 7 100 (.v4 0x0a000005) [], .createLb 7 100 (.v4 0x0a000006) [], .deleteLb 7]

theorem vni_refs_counted_two : ∃ s, run (ctlStep smallConf) (Ctl.init smallConf) vniCalls = some s ∧
    vniUses s.cfg s.lb 100 = 2 := by
  refine exists_some_imp (P := fun s => vniRefs s.cfg.vniHandleTbl 100 = some 2) (by decide +kernel) ?_
  intro s hs hrefs
  obtain ⟨d, hd, hd2⟩ := Option.map_eq_some_iff.mp hrefs
  have hcount := (vni_refs_counted (by decide) hs 100).2 d hd
  rw [hd2] at hcount
  exact_mod_cast hcount.symm

end Dpservice
