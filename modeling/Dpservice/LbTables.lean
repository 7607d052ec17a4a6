import Dpservice.Lib.Inverse
import Dpservice.Control

/-!
# The registry of load balancers

A load balancer is entered under its address and under its id.

- `LbChange` lists the ways a request changes the tables (`dpProcessRequest_lb`);
- whatever fails, an id leads to a live load balancer, and no two ids lead to the same one (`LbIds`, `LbIds.request`);
- along every run in which no id is reused while in use, the id table never fails, and no failing request loses a VNF
  (`LbSafe`), ids and load balancers are in bijection, and failed requests change nothing (`lb_registry`).
-/

namespace Dpservice

/-! ## What requests do to the tables -/

/-- The ways a request changes the load-balancer tables. -/
inductive LbChange (cf : Conf) (e : Env) (c : Config) (s : LbState) : Request → Outcome → Prop
  | same {r : Request} {o : Outcome} (hr : ∀ id vni addr ports, r ≠ .createLb id vni addr ports) (ho : o.lb = s) :
    LbChange cf e c s r o
  | create {id : Id64} {vni : Vni} {addr : IpAddr} {ports : List LbPort} {o : Outcome}
    (h : CreateLbCase cf e c s id vni addr ports (o.resp, o.cfg, o.lb)) :
    LbChange cf e c s (.createLb id vni addr ports) o
  | delete {id : Id64} {key : LbKey} {v : LbValue} {o : Outcome} (hid : s.idMapTbl id = some key)
    (hk : s.lbTbl key = some (some v))
    (hcfg : o.cfg = (({ c with vnf := (dpDelVnf c.vnf v.lbUlAddr).2 } : Config).deleteVni key.vni).2)
    (ho : o.lb = { lbTbl := s.lbTbl.del key, idMapTbl := s.idMapTbl.del id, count := s.count - 1 }) :
    LbChange cf e c s (.deleteLb id) o
  | targets {r : Request} {o : Outcome} {id : Id64} {key : LbKey} {v v' : LbValue}
    (hr : (∃ addr, r = .createLbtarget id addr) ∨ ∃ addr, r = .deleteLbtarget id addr) (hcfg : o.cfg = c)
    (ho : SetsTargets s o.lb id key v v') : LbChange cf e c s r o

section Change

variable {cf : Conf} {e : Env} {c : Config} {s : LbState} {r : Request} {o : Outcome}

/-- What a request does to the load balancers. -/
theorem dpProcessRequest_lb (h : dpProcessRequest cf e c s r = some o) : LbChange cf e c s r o := by
  by_cases hr : ∃ id vni addr ports, r = .createLb id vni addr ports
  · obtain ⟨id, vni, addr, ports, rfl⟩ := hr
    cases h
    exact .create (dpProcessCreateLb_cases cf e c s id vni addr ports)
  have hne : ∀ id vni addr ports, r ≠ .createLb id vni addr ports := fun id vni addr ports heq =>
    hr ⟨id, vni, addr, ports, heq⟩
  cases dpProcessRequest_cases h with
  | createLb => exact absurd rfl (hne _ _ _ _)
  | lbDeleted hid hk => exact .delete hid hk rfl rfl
  | lbTargetCreated ht => exact .targets (.inl ⟨_, rfl⟩) rfl ht
  | lbTargetDeleted ht => exact .targets (.inr ⟨_, rfl⟩) rfl ht
  | _ => exact .same hne rfl

end Change

/-! ## Ids -/

/-- Every id leads to a live load balancer, and no two ids to the same one. -/
structure LbIds (s : LbState) : Prop where
  live : ∀ {id key}, s.idMapTbl id = some key → ∃ v, s.lbTbl key = some (some v)
  inj : ∀ {id id' key}, s.idMapTbl id = some key → s.idMapTbl id' = some key → id = id'

section Ids

variable {cf : Conf} {e : Env} {c : Config} {s s' : LbState} {r : Request} {o : Outcome} {id : Id64} {key : LbKey}
  {v v' : LbValue}

theorem LbIds.empty : LbIds {} := ⟨fun h => (by cases h), fun h => (by cases h)⟩

theorem LbIds.ne_of_free (h : LbIds s) (hk : s.lbTbl key = none) (hid : s.idMapTbl id = some key) : False := by
  obtain ⟨v, hv⟩ := h.live hid
  rw [hk] at hv
  cases hv

theorem LbIds.setsTargets (h : LbIds s) (ht : SetsTargets s s' id key v v') : LbIds s' := by
  rw [ht.eq]
  refine ⟨fun {i k} hi => ?_, h.inj⟩
  by_cases hk : k = key
  · exact ⟨v', by rw [hk]; exact Table.add_self ..⟩
  · obtain ⟨w, hw⟩ := h.live hi
    exact ⟨w, (Table.add_of_ne hk ..).trans hw⟩

/-- **Ids lead to live load balancers**, whatever fails. -/
theorem LbIds.request (h : LbIds s) (ho : dpProcessRequest cf e c s r = some o) : LbIds o.lb := by
  cases dpProcessRequest_lb ho with
  | same _ hlb => exact hlb ▸ h
  | targets _ _ ht => exact h.setsTargets ht
  | @delete id key v _ hid hk _ hlb =>
    rw [hlb]
    refine ⟨fun {i k} hi => ?_, fun hi hj => ?_⟩
    · obtain ⟨hne, hi'⟩ := Table.del_eq_some.mp hi
      obtain ⟨w, hw⟩ := h.live hi'
      refine ⟨w, (Table.del_of_ne ?_ _).trans hw⟩
      rintro rfl
      exact hne (h.inj hi' hid)
    · exact h.inj (Table.del_eq_some.mp hi).2 (Table.del_eq_some.mp hj).2
  | @create id vni addr ports _ hc =>
    cases hc with
    | noVnf _ _ _ hlb | refused _ _ _ _ hlb => exact (show o.lb = s from hlb) ▸ h
    | dead _ hacc _ _ _ hlb =>
      rw [show o.lb = _ from hlb]
      refine ⟨fun {i k} hi => ?_, h.inj⟩
      obtain ⟨w, hw⟩ := h.live hi
      refine ⟨w, (Table.add_of_ne ?_ ..).trans hw⟩
      rintro rfl
      exact h.ne_of_free (lbAccepts_free hacc) hi
    | noVni _ _ _ _ _ _ hlb =>
      rw [show o.lb = _ from hlb]
      exact ⟨fun hi => h.live (Table.del_eq_some.mp hi).2,
        fun hi hj => h.inj (Table.del_eq_some.mp hi).2 (Table.del_eq_some.mp hj).2⟩
    | created _ hacc _ _ _ _ hlb =>
      rw [show o.lb = _ from hlb]
      have hfree := lbAccepts_free hacc
      refine ⟨fun {i k} hi => ?_, fun {i j k} hi hj => ?_⟩
      · rcases Table.add_eq_some.mp hi with ⟨-, rfl⟩ | ⟨-, hi'⟩
        · exact ⟨_, Table.add_self ..⟩
        · obtain ⟨w, hw⟩ := h.live hi'
          refine ⟨w, (Table.add_of_ne ?_ ..).trans hw⟩
          rintro rfl
          exact h.ne_of_free hfree hi'
      · rcases Table.add_eq_some.mp hi with ⟨hi', hk⟩ | ⟨-, hi'⟩ <;>
          rcases Table.add_eq_some.mp hj with ⟨hj', hk'⟩ | ⟨-, hj'⟩
        · exact hi'.trans hj'.symm
        · exact (h.ne_of_free hfree (hk ▸ hj')).elim
        · exact (h.ne_of_free hfree (hk' ▸ hi')).elim
        · exact h.inj hi' hj'

end Ids

/-! ## The registry -/

/-- Ids and load balancers are in bijection, and every load balancer is live. -/
structure LbRegistry (s : LbState) : Prop where
  ofId : ∀ {id key}, s.idMapTbl id = some key → ∃ v, s.lbTbl key = some (some v) ∧ v.lbId = id
  ofKey : ∀ {key o}, s.lbTbl key = some o → ∃ v, o = some v ∧ s.idMapTbl v.lbId = some key

def lbIdAt (s : LbState) : Table LbKey Id64 := fun key => (s.lbTbl key).bind fun o => o.map (·.lbId)

def Request.newLb : Request → Option (Id64 × LbKey)
  | .createLb id vni addr _ => some (id, ⟨vni, addr⟩)
  | _ => none

/-- A request to create a load balancer that gets as far as the id table uses a new id and is not refused there; and
where a VNF of the same value exists, the request does not fail after it made its own. -/
def LbSafe (cf : Conf) (s : Ctl) (a : Call) : Prop :=
  ∀ n ∈ a.1.newLb, vnfRefused cf a.2 s.cfg.vnf = false →
    (a.2.ok .vnfValueAdd = true → lbAccepts a.2 s.lb n.2 = true → s.lb.idMapTbl n.1 = none ∧ a.2.ok .lbIdAdd = true) ∧
    ((s.cfg.vnf.valueTbl (lbVnf cf n.2.vni n.2.ip)).isSome = true → a.2.ok .vnfValueAdd = true ∧
      lbAccepts a.2 s.lb n.2 = true ∧ ((s.cfg.vniHandleTbl n.2.vni).isSome = true ∨ a.2.ok .vniAlloc = true))

instance (cf : Conf) (s : Ctl) (a : Call) : Decidable (LbSafe cf s a) :=
  inferInstanceAs (Decidable (∀ n ∈ a.1.newLb, vnfRefused cf a.2 s.cfg.vnf = false → _ ∧ (_ → _)))

section Registry

variable {cf : Conf} {e : Env} {c c' : Config} {s s' : LbState} {r : Request} {o : Outcome} {id : Id64} {key : LbKey}
  {vni : Vni} {addr : IpAddr} {ports : List LbPort} {v v' : LbValue}

theorem lbIdAt_eq (h : s.lbTbl key = some (some v)) : lbIdAt s key = some v.lbId := by simp [lbIdAt, h]

theorem LbRegistry.of_inverse (hlive : ∀ key, s.lbTbl key ≠ some none) (h : Inverse s.idMapTbl (lbIdAt s)) :
    LbRegistry s where
  ofId {id key} hid := by
    have hk := (h.iff id key).mp hid
    obtain ⟨w, hw, hwid⟩ := Option.bind_eq_some_iff.mp hk
    obtain ⟨v, rfl, rfl⟩ := Option.map_eq_some_iff.mp hwid
    exact ⟨v, hw, rfl⟩
  ofKey {key w} hw := by
    cases w with
    | none => exact absurd hw (hlive key)
    | some v => exact ⟨v, rfl, (h.iff v.lbId key).mpr (lbIdAt_eq hw)⟩

theorem LbRegistry.inverse (h : LbRegistry s) : Inverse s.idMapTbl (lbIdAt s) := by
  refine ⟨fun id key => ⟨fun hid => ?_, fun hk => ?_⟩⟩
  · obtain ⟨v, hv, rfl⟩ := h.ofId hid
    exact lbIdAt_eq hv
  · obtain ⟨w, hw, hwid⟩ := Option.bind_eq_some_iff.mp hk
    obtain ⟨v, rfl, rfl⟩ := Option.map_eq_some_iff.mp hwid
    obtain ⟨v', heq, hid⟩ := h.ofKey hw
    cases heq
    exact hid

theorem LbRegistry.live (h : LbRegistry s) (key : LbKey) : s.lbTbl key ≠ some none := by
  intro hk
  obtain ⟨v, hv, -⟩ := h.ofKey hk
  cases hv

theorem LbRegistry.setsTargets (h : LbRegistry s) (ht : SetsTargets s s' id key v v') : LbRegistry s' := by
  have heq : lbIdAt s' = lbIdAt s := by
    funext k
    rw [ht.eq]
    by_cases hk : k = key
    · rw [hk, lbIdAt_eq ht.val, ← ht.lbId]
      exact lbIdAt_eq (Table.add_self ..)
    · unfold lbIdAt
      dsimp only
      rw [Table.add_of_ne hk]
  refine .of_inverse (fun k hk => ?_) ?_
  · rw [ht.eq] at hk
    rcases Table.add_eq_some.mp hk with ⟨-, hk⟩ | ⟨-, hk⟩
    · cases hk
    · exact h.live k hk
  · rw [heq, ht.eq]
    exact h.inverse

/-- A new load balancer. -/
theorem LbRegistry.create (h : LbRegistry s) (hid : s.idMapTbl id = none) (hk : s.lbTbl key = none) (ul : Ip6) :
    LbRegistry (s.create id key ports ul) := by
  have heq : lbIdAt (s.create id key ports ul) = (lbIdAt s).add key id := by
    funext k
    unfold lbIdAt LbState.create
    dsimp only
    by_cases hkk : k = key
    · simp [hkk]
    · rw [Table.add_of_ne hkk, Table.add_of_ne hkk]
  refine .of_inverse (fun k hkk => ?_) ?_
  · rcases Table.add_eq_some.mp hkk with ⟨-, hn⟩ | ⟨-, hn⟩
    · cases hn
    · exact h.live k hn
  · rw [heq]
    exact h.inverse.add hid (by simp [lbIdAt, hk])

/-- A load balancer is deleted. -/
theorem LbRegistry.delete (h : LbRegistry s) (hid : s.idMapTbl id = some key) (n : ℕ) :
    LbRegistry { lbTbl := s.lbTbl.del key, idMapTbl := s.idMapTbl.del id, count := n } := by
  have heq : lbIdAt { lbTbl := s.lbTbl.del key, idMapTbl := s.idMapTbl.del id, count := n } = (lbIdAt s).del key := by
    funext k
    unfold lbIdAt
    dsimp only
    by_cases hkk : k = key
    · simp [hkk]
    · rw [Table.del_of_ne hkk, Table.del_of_ne hkk]
  refine .of_inverse (fun k hkk => h.live k (Table.del_eq_some.mp hkk).2) ?_
  rw [heq]
  exact h.inverse.del hid

/-- The VNF was made, so neither table refused it. -/
theorem vnf_made (hv : (dpCreateVnfRoute cf e c.vnf (lbVnf cf vni addr)).1 = true) :
    vnfRefused cf e c.vnf = false ∧ e.ok .vnfValueAdd = true := by
  rcases dpCreateVnfRoute_cases cf e c.vnf (lbVnf cf vni addr) with ⟨-, hf, -⟩ | ⟨href, hval, -⟩ | ⟨-, -, hf, -⟩
  · rw [hv] at hf
    cases hf
  · exact ⟨href, hval⟩
  · rw [hv] at hf
    cases hf

/-- The VNF is taken back, and the value table had none of the same value. -/
theorem vnf_undone (hv : (dpCreateVnfRoute cf e c.vnf (lbVnf cf vni addr)).1 = true)
    (hnone : c.vnf.valueTbl (lbVnf cf vni addr) = none)
    (hcfg : c' = { c with vnf := (dpDelVnf (dpCreateVnfRoute cf e c.vnf (lbVnf cf vni addr)).2.2
      (dpCreateVnfRoute cf e c.vnf (lbVnf cf vni addr)).2.1).2 }) :
    c'.vnf.handleTbl = c.vnf.handleTbl ∧ c'.vnf.valueTbl = c.vnf.valueTbl := by
  obtain ⟨hh, hval⟩ := dpCreateVnfRoute_undo hv
  rw [hcfg]
  exact ⟨hh, hval.trans (Table.del_of_none hnone)⟩

/-- A request that fails leaves the tables of the load balancers and of the VNFs as they were. -/
theorem createLb_failed (hs : LbSafe cf ⟨c, s⟩ (.createLb id vni addr ports, e)) {q : Resp × Config × LbState}
    (hc : CreateLbCase cf e c s id vni addr ports q) {er : Ret} (hq : q.1 = .err er) :
    q.2.2 = s ∧ q.2.1.vnf.handleTbl = c.vnf.handleTbl ∧ q.2.1.vnf.valueTbl = c.vnf.valueTbl := by
  have hsafe := hs _ rfl
  dsimp only at hsafe
  have hnone : vnfRefused cf e c.vnf = false → (¬(e.ok .vnfValueAdd = true ∧ lbAccepts e s ⟨vni, addr⟩ = true ∧
      ((c.vniHandleTbl vni).isSome = true ∨ e.ok .vniAlloc = true))) → c.vnf.valueTbl (lbVnf cf vni addr) = none := by
    intro href hno
    by_contra hsome
    exact hno ((hsafe href).2 (Option.isSome_iff_ne_none.mpr hsome))
  cases hc with
  | noVnf hv _ hcfg hlb =>
    rcases dpCreateVnfRoute_cases cf e c.vnf (lbVnf cf vni addr) with
      ⟨-, -, hh, hval⟩ | ⟨-, -, ht, -⟩ | ⟨href, hf, -, hh, hval⟩
    · rw [hcfg]
      exact ⟨hlb, hh, hval⟩
    · rw [hv] at ht
      cases ht
    · rw [hcfg]
      refine ⟨hlb, hh, hval.trans (Table.del_of_none (hnone href ?_))⟩
      rintro ⟨ht, -⟩
      rw [hf] at ht
      cases ht
  | refused hv hacc _ hcfg hlb =>
    refine ⟨hlb, vnf_undone hv (hnone (vnf_made hv).1 ?_) hcfg⟩
    rintro ⟨-, ht, -⟩
    rw [hacc] at ht
    cases ht
  | dead hv hacc hid _ _ _ =>
    have := ((hsafe (vnf_made hv).1).1 (vnf_made hv).2 hacc).2
    rw [hid] at this
    cases this
  | noVni hv hacc _ hvni _ hcfg hlb =>
    have hfresh := ((hsafe (vnf_made hv).1).1 (vnf_made hv).2 hacc).1
    refine ⟨?_, vnf_undone hv (hnone (vnf_made hv).1 ?_) hcfg⟩
    · rw [hlb, Table.del_of_none hfresh]
    · rintro ⟨-, -, ht⟩
      unfold dpCreateVniRouteTables at hvni
      split at hvni
      · cases hvni
      next hn =>
        rw [hn] at ht
        rcases ht with ht | ht
        · cases ht
        · rw [if_pos ht] at hvni
          cases hvni
  | created _ _ _ _ hresp _ _ =>
    rw [hq] at hresp
    cases hresp

/-- A safe request keeps the two tables in step. -/
theorem LbRegistry.request (h : LbRegistry s) (hs : LbSafe cf ⟨c, s⟩ (r, e))
    (ho : dpProcessRequest cf e c s r = some o) : LbRegistry o.lb := by
  cases dpProcessRequest_lb ho with
  | same _ hlb => exact hlb ▸ h
  | targets _ _ ht => exact h.setsTargets ht
  | delete hid _ _ hlb =>
    rw [hlb]
    exact h.delete hid _
  | create hc =>
    have hfailed : ∀ er, o.resp = .err er → o.lb = s := fun _ hq => (createLb_failed hs hc hq).1
    have hsafe := hs _ rfl
    cases hc with
    | noVnf _ hresp _ _ | refused _ _ hresp _ _ | dead _ _ _ hresp _ _ | noVni _ _ _ _ hresp _ _ =>
      rw [hfailed _ hresp]
      exact h
    | created hv hacc _ _ _ _ hlb =>
      rw [show o.lb = _ from hlb]
      exact h.create ((hsafe (vnf_made hv).1).1 (vnf_made hv).2 hacc).1 (lbAccepts_free hacc) _

end Registry

/-- **The registry of load balancers.** In every state of a run whose requests are all `LbSafe`, ids and load balancers
are in bijection; and a further such request that fails changes neither their tables nor those of the VNFs. -/
theorem lb_registry {cf : Conf} {es : List Call} {s : Ctl} (hok : Along (ctlStep cf) (LbSafe cf) (Ctl.init cf) es)
    (hrun : run (ctlStep cf) (Ctl.init cf) es = some s) :
    LbRegistry s.lb ∧ ∀ id vni addr ports e er o, LbSafe cf s (.createLb id vni addr ports, e) →
      dpProcessRequest cf e s.cfg s.lb (.createLb id vni addr ports) = some o → o.resp = .err er →
        o.lb = s.lb ∧ o.cfg.vnf.handleTbl = s.cfg.vnf.handleTbl ∧ o.cfg.vnf.valueTbl = s.cfg.vnf.valueTbl := by
  refine ⟨?_, fun id vni addr ports e er o hs ho hr => ?_⟩
  · refine run_invariant (I := fun s => LbRegistry s.lb) ?_ ?_ hok hrun
    · intro s a s' hs hsafe hstep
      obtain ⟨o, ho, -, hlb⟩ := ctlStep_eq hstep
      rw [hlb]
      exact hs.request hsafe ho
    · exact ⟨fun h => (by cases h), fun h => (by cases h)⟩
  · cases ho
    exact createLb_failed hs (dpProcessCreateLb_cases cf e s.cfg s.lb id vni addr ports) hr

/-- Two load balancers, a third one for which there is no memory for its VNI, and an id that is used again after its
load balancer was deleted. -/
def lbCalls : List Call :=
  calls [.createLb 1 100 (.v4 0x0a000005) [], .createLb 2 200 (.v4 0x0a000005) []] ++
    (.createLb 3 300 (.v4 0x0a000005) [], { fails := [.vniAlloc] }) ::
      calls [.deleteLb 1, .createLb 1 100 (.v4 0x0a000006) []]

theorem lb_registry_three : ∃ s, run (ctlStep smallConf) (Ctl.init smallConf) lbCalls = some s ∧ LbRegistry s.lb ∧
    s.lb.idMapTbl 1 = some ⟨100, .v4 0x0a000006⟩ ∧ s.lb.idMapTbl 3 = none := by
  refine exists_some_imp (P := fun s => s.lb.idMapTbl 1 = some ⟨100, .v4 0x0a000006⟩ ∧ s.lb.idMapTbl 3 = none)
    (by decide +kernel) ?_
  intro s hs hids
  exact ⟨(lb_registry (by decide +kernel) hs).1, hids⟩

/-- A second load balancer with id 1: the first one is no longer reachable from its id. -/
theorem lb_registry_same_id : ∃ s, run (ctlStep smallConf) (Ctl.init smallConf)
      (calls [.createLb 1 100 (.v4 0x0a000005) [], .createLb 1 100 (.v4 0x0a000006) []]) = some s ∧ ∃ key v,
    s.lb.lbTbl key = some (some v) ∧ v.lbId = 1 ∧ s.lb.idMapTbl 1 ≠ some key := by
  refine exists_some_imp
    (P := fun s => (∃ o, s.lb.lbTbl ⟨100, .v4 0x0a000005⟩ = some o ∧ ∃ v, o = some v ∧ v.lbId = 1) ∧
    s.lb.idMapTbl 1 ≠ some ⟨100, .v4 0x0a000005⟩) (by decide +kernel) ?_
  rintro s - ⟨⟨_, ho, v, rfl, hv⟩, hne⟩
  exact ⟨_, v, ho, hv, hne⟩

end Dpservice
