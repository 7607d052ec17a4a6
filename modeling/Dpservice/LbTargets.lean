import Mathlib.Data.Finset.Card
import Mathlib.Data.Fintype.Card
import Mathlib.Data.Fintype.Fin
import Dpservice.Lib.Tally
import Dpservice.LbTables

/-!
# The targets of a load balancer

The targets are kept in 64 slots; a slot is free while the first four bytes of its address are zero.

- `Stores v S`: the used slots of `v` hold the addresses of the set `S`, each once, and the free ones are zero. Adding
  (`Stores.add`) and deleting (`Stores.del`) a target are insertion into and removal from the set;
- `TargetStep` runs requests and keeps account of the set that was added to each load balancer;
- along every run whose requests are all `TargetSafe`, the slots store that set (`lb_targets_set`).
-/

namespace Dpservice

/-! ## Slots and sets -/

def firstWord (a : Ip6) : BitVec 32 := a.extractLsb' 96 32

/-- A target is put into a slot, or taken out of it. -/
def LbValue.put (v : LbValue) (k : Fin 64) (a : Ip6) : LbValue :=
  { v with backEndIps := Function.update v.backEndIps k a, backEndCnt := v.backEndCnt + 1 }

def LbValue.clear (v : LbValue) (k : Fin 64) : LbValue :=
  { v with backEndIps := Function.update v.backEndIps k 0, backEndCnt := v.backEndCnt - 1 }

def LbState.setValue (s : LbState) (key : LbKey) (v : LbValue) : LbState := { s with lbTbl := s.lbTbl.add key (some v) }

/-- The used slots hold the elements of `S`, each once. -/
structure Stores (v : LbValue) (S : Finset Ip6) : Prop where
  mem : ∀ a, a ∈ S ↔ ∃ k, v.used k = true ∧ v.backEndIps k = a
  free : ∀ {k}, v.used k = false → v.backEndIps k = 0
  inj : ∀ {j k}, v.used j = true → v.used k = true → v.backEndIps j = v.backEndIps k → j = k
  cnt : v.backEndCnt.toNat = S.card

namespace Stores

variable {v : LbValue} {S : Finset Ip6} {a : Ip6} {k : Fin 64}

theorem empty (id : Id64) (ports : List LbPort) (ul : Ip6) :
    Stores { lbId := id, ports := ports, lbUlAddr := ul } ∅ where
  mem a := by simp [LbValue.used]
  free _ := rfl
  inj h := by simp [LbValue.used] at h
  cnt := rfl

/-- The addresses in used slots are not zero, not even in their first word. -/
theorem firstWord_ne (h : Stores v S) (ha : a ∈ S) : firstWord a ≠ 0 := by
  obtain ⟨k, hk, rfl⟩ := (h.mem a).mp ha
  simpa [LbValue.used, firstWord] using hk

theorem ne_zero (h : Stores v S) (ha : a ∈ S) : a ≠ 0 := by
  rintro rfl
  exact h.firstWord_ne ha rfl

/-- The set is the image of the used slots. -/
theorem card_eq (h : Stores v S) : S.card = (Finset.univ.filter fun k => v.used k = true).card := by
  have himg : S = (Finset.univ.filter fun k => v.used k = true).image v.backEndIps := by
    ext a
    simp [h.mem]
  rw [himg]
  apply Finset.card_image_of_injOn
  intro j hj k hk heq
  simp only [Finset.coe_filter, Finset.mem_univ, true_and] at hj hk
  exact h.inj hj hk heq

theorem card_le (h : Stores v S) : S.card ≤ 64 := by
  rw [h.card_eq]
  exact (Finset.card_le_univ _).trans_eq (Fintype.card_fin 64)

/-- A slot is free exactly if the set has room. -/
theorem card_lt (h : Stores v S) (hk : v.used k = false) : S.card < 64 := by
  rw [h.card_eq]
  have hlt : (Finset.univ.filter fun k => v.used k = true).card < (Finset.univ : Finset (Fin 64)).card := by
    apply Finset.card_lt_card
    rw [Finset.filter_ssubset]
    exact ⟨k, Finset.mem_univ k, by simp [hk]⟩
  simpa using hlt

theorem card_full (h : Stores v S) (hfull : ∀ k, v.used k = true) : S.card = 64 := by
  rw [h.card_eq, Finset.filter_true_of_mem (fun k _ => hfull k)]
  exact Fintype.card_fin 64

/-- The only slot with a target that is stored is a used one. -/
theorem slot_of_mem (h : Stores v S) (ha : a ∈ S) (hk : v.backEndIps k = a) : v.used k = true := by
  by_contra hf
  have hz := h.free (Bool.eq_false_iff.mpr hf)
  exact h.ne_zero ha (hk.symm.trans hz)

/-- No slot has an address that is not stored, except that free slots are zero. -/
theorem slot_of_not_mem (h : Stores v S) (ha : a ∉ S) (hk : v.backEndIps k = a) : v.used k = false ∧ a = 0 := by
  cases hu : v.used k with
  | true => exact absurd ((h.mem a).mpr ⟨k, hu, hk⟩) ha
  | false => exact ⟨rfl, hk ▸ h.free hu⟩

/-- A target goes into a free slot. -/
theorem add (h : Stores v S) (ha : a ∉ S) (hw : firstWord a ≠ 0) (hk : v.used k = false) :
    Stores (v.put k a) (insert a S) := by
  have hself : (v.put k a).used k = true := by simpa [LbValue.used, LbValue.put, firstWord] using hw
  have hother : ∀ {j}, j ≠ k → (v.put k a).used j = v.used j := by
    intro j hj
    simp [LbValue.used, LbValue.put, Function.update_of_ne hj]
  refine ⟨fun b => ?_, fun {j} hj => ?_, fun {i j} hi hj heq => ?_, ?_⟩
  · rw [Finset.mem_insert]
    constructor
    · rintro (rfl | hb)
      · exact ⟨k, hself, Function.update_self ..⟩
      · obtain ⟨j, hj, rfl⟩ := (h.mem b).mp hb
        have hne : j ≠ k := by
          rintro rfl
          rw [hk] at hj
          cases hj
        exact ⟨j, (hother hne).trans hj, Function.update_of_ne hne ..⟩
    · rintro ⟨j, hj, rfl⟩
      by_cases hjk : j = k
      · exact .inl (by rw [hjk]; exact Function.update_self ..)
      · refine .inr ?_
        rw [show (v.put k a).backEndIps j = _ from Function.update_of_ne hjk ..]
        exact (h.mem _).mpr ⟨j, (hother hjk).symm.trans hj, rfl⟩
  · have hjk : j ≠ k := by
      rintro rfl
      rw [hself] at hj
      cases hj
    exact (Function.update_of_ne hjk ..).trans (h.free ((hother hjk).symm.trans hj))
  · unfold LbValue.put at heq
    dsimp only at heq
    by_cases hik : i = k
    · by_cases hjk : j = k
      · rw [hik, hjk]
      · rw [hik, Function.update_self, Function.update_of_ne hjk] at heq
        exact absurd ((h.mem a).mpr ⟨j, (hother hjk).symm.trans hj, heq.symm⟩) ha
    · by_cases hjk : j = k
      · rw [hjk, Function.update_self, Function.update_of_ne hik] at heq
        exact absurd ((h.mem a).mpr ⟨i, (hother hik).symm.trans hi, heq⟩) ha
      · rw [Function.update_of_ne hik, Function.update_of_ne hjk] at heq
        exact h.inj ((hother hik).symm.trans hi) ((hother hjk).symm.trans hj) heq
  · have hlt := h.card_lt hk
    have hmax : v.backEndCnt ≠ 65535 := by
      intro he
      have hc := h.cnt
      rw [he] at hc
      have : (65535 : UInt16).toNat = 65535 := rfl
      omega
    rw [Finset.card_insert_of_notMem ha, ← h.cnt]
    exact toNat_succ hmax

/-- The slot of a target is cleared. -/
theorem del (h : Stores v S) (ha : a ∈ S) (hk : v.backEndIps k = a) :
    Stores (v.clear k) (S.erase a) := by
  have hself : (v.clear k).used k = false := by simp [LbValue.used, LbValue.clear]
  have hother : ∀ {j}, j ≠ k → (v.clear k).used j = v.used j := by
    intro j hj
    simp [LbValue.used, LbValue.clear, Function.update_of_ne hj]
  have hne : ∀ {j}, (v.clear k).used j = true → j ≠ k := by
    rintro j hj rfl
    rw [hself] at hj
    cases hj
  refine ⟨fun b => ?_, fun {j} hj => ?_, fun {i j} hi hj heq => ?_, ?_⟩
  · rw [Finset.mem_erase]
    constructor
    · rintro ⟨hba, hb⟩
      obtain ⟨j, hj, rfl⟩ := (h.mem b).mp hb
      have hjk : j ≠ k := by
        rintro rfl
        exact hba hk
      exact ⟨j, (hother hjk).trans hj, Function.update_of_ne hjk ..⟩
    · rintro ⟨j, hj, rfl⟩
      have hjk := hne hj
      have hu := (hother hjk).symm.trans hj
      rw [show (v.clear k).backEndIps j = _ from Function.update_of_ne hjk ..]
      refine ⟨fun he => hjk ?_, (h.mem _).mpr ⟨j, hu, rfl⟩⟩
      exact h.inj hu (h.slot_of_mem ha hk) (he.trans hk.symm)
  · by_cases hjk : j = k
    · rw [hjk]
      exact Function.update_self ..
    · exact (Function.update_of_ne hjk ..).trans (h.free ((hother hjk).symm.trans hj))
  · have hik := hne hi
    have hjk := hne hj
    unfold LbValue.clear at heq
    dsimp only at heq
    rw [Function.update_of_ne hik, Function.update_of_ne hjk] at heq
    exact h.inj ((hother hik).symm.trans hi) ((hother hjk).symm.trans hj) heq
  · have hpos : 0 < v.backEndCnt.toNat := by
      rw [h.cnt]
      exact Finset.card_pos.mpr ⟨a, ha⟩
    have := toNat_pred hpos
    have hc := h.cnt
    rw [Finset.card_erase_of_mem ha]
    show (v.backEndCnt - 1).toNat = _
    omega

end Stores

/-! ## The requests on stored targets -/

section Requests

variable {s : LbState} {id : Id64} {key : LbKey} {v : LbValue} {S : Finset Ip6} {a : Ip6}

/-- Every slot is used. -/
def LbValue.full (v : LbValue) : Bool := (List.finRange 64).all v.used

theorem full_iff : v.full = true ↔ ∀ k, v.used k = true := by simp [LbValue.full]

theorem any_slot : ((List.finRange 64).any fun k => v.backEndIps k == a) = true ↔ ∃ k, v.backEndIps k = a := by simp

/-- How an addition ends. -/
theorem dpAddLbBackIp_stores (hl : lbOfId s id = some (.ok (key, v))) (h : Stores v S) :
    (a ∈ S ∧ dpAddLbBackIp s id a = some (some .alreadyExists, s)) ∨
      (a ∉ S ∧ a = 0 ∧ dpAddLbBackIp s id a = some (some .alreadyExists, s)) ∨
      (a ∉ S ∧ S.card = 64 ∧ dpAddLbBackIp s id a = some (some .limitReached, s)) ∨
      (a ∉ S ∧ a ≠ 0 ∧ ∃ k, v.used k = false ∧ dpAddLbBackIp s id a = some (none, s.setValue key (v.put k a))) := by
  unfold dpAddLbBackIp
  rw [hl]
  dsimp only
  by_cases ha : a ∈ S
  · obtain ⟨k, -, hk⟩ := (h.mem a).mp ha
    exact .inl ⟨ha, if_pos (any_slot.mpr ⟨k, hk⟩)⟩
  · by_cases hany : ((List.finRange 64).any fun k => v.backEndIps k == a) = true
    · obtain ⟨k, hk⟩ := any_slot.mp hany
      exact .inr (.inl ⟨ha, (h.slot_of_not_mem ha hk).2, if_pos hany⟩)
    · rw [if_neg hany]
      refine .inr (.inr ?_)
      cases hf : (List.finRange 64).find? fun k => !v.used k with
      | none =>
        have hfull : ∀ k, v.used k = true := by simpa using hf
        exact .inl ⟨ha, h.card_full hfull, rfl⟩
      | some k =>
        have hk : v.used k = false := by simpa using List.find?_some hf
        refine .inr ⟨ha, ?_, k, hk, rfl⟩
        rintro rfl
        exact hany (any_slot.mpr ⟨k, h.free hk⟩)

/-- How a deletion ends. -/
theorem dpDelLbBackIp_stores (hl : lbOfId s id = some (.ok (key, v))) (h : Stores v S) (hs : v.full = true ∨ a ≠ 0) :
    (a ∉ S ∧ dpDelLbBackIp s id a = some (some .notFound, s)) ∨
      (a ∈ S ∧ ∃ k, v.backEndIps k = a ∧ dpDelLbBackIp s id a = some (none, s.setValue key (v.clear k))) := by
  unfold dpDelLbBackIp
  rw [hl]
  dsimp only
  cases hf : (List.finRange 64).find? fun k => v.backEndIps k == a with
  | none =>
    refine .inl ⟨fun ha => ?_, rfl⟩
    obtain ⟨k, -, hk⟩ := (h.mem a).mp ha
    have := List.find?_eq_none.mp hf k (List.mem_finRange k)
    simp [hk] at this
  | some k =>
    have hk : v.backEndIps k = a := by simpa using List.find?_some hf
    by_cases ha : a ∈ S
    · exact .inr ⟨ha, k, hk, rfl⟩
    · obtain ⟨hu, hz⟩ := h.slot_of_not_mem ha hk
      rcases hs with hfull | hne
      · rw [full_iff.mp hfull k] at hu
        cases hu
      · exact absurd hz hne

end Requests

/-! ## Runs -/

/-- The control plane, with the targets added to each load balancer and not deleted since. -/
structure TargetState where
  ctl : Ctl
  targets : Id64 → Finset Ip6 := fun _ => ∅

/-- Keep account of the targets, by what the requests answer. -/
def trackTargets (S : Id64 → Finset Ip6) (r : Request) (resp : Resp) : Id64 → Finset Ip6 :=
  match r, resp with
  | .createLb id _ _ _, .ulAddr _ => Function.update S id ∅
  | .createLbtarget id (.v6 a), .ok => Function.update S id (insert a (S id))
  | .deleteLbtarget id (.v6 a), .ok => Function.update S id ((S id).erase a)
  | _, _ => S

def targetStep (cf : Conf) (s : TargetState) (a : Call) : Option TargetState :=
  (dpProcessRequest cf a.2 s.ctl.cfg s.ctl.lb a.1).map fun o =>
    { ctl := { cfg := o.cfg, lb := o.lb }, targets := trackTargets s.targets a.1 o.resp }

/-- The load balancer and the IPv6 address of a request that adds, or deletes, a target. -/
def Request.newTarget : Request → Option (Id64 × Ip6)
  | .createLbtarget id (.v6 a) => some (id, a)
  | _ => none

def Request.oldTarget : Request → Option (Id64 × Ip6)
  | .deleteLbtarget id (.v6 a) => some (id, a)
  | _ => none

/-- The load balancer that an id leads to. -/
def lbValueOf (s : LbState) (id : Id64) : Option LbValue :=
  match lbOfId s id with
  | some (.ok (_, v)) => some v
  | _ => none

/-- While there are free slots, no address is added that starts with four zero bytes, the zero address apart, and the
zero address is not deleted. -/
def TargetSafe (s : TargetState) (a : Call) : Prop :=
  (∀ t ∈ a.1.newTarget, ∀ v ∈ lbValueOf s.ctl.lb t.1, v.full = true ∨ t.2 = 0 ∨ firstWord t.2 ≠ 0) ∧
    ∀ t ∈ a.1.oldTarget, ∀ v ∈ lbValueOf s.ctl.lb t.1, v.full = true ∨ t.2 ≠ 0

instance (s : TargetState) (a : Call) : Decidable (TargetSafe s a) :=
  inferInstanceAs (Decidable ((∀ t ∈ a.1.newTarget, ∀ v ∈ lbValueOf s.ctl.lb t.1, _) ∧ ∀ t ∈ a.1.oldTarget, _))

/-- What the targets of the load balancer `id` have in common with the set `S`. -/
structure TargetSet (s : LbState) (id : Id64) (v : LbValue) (S : Finset Ip6) : Prop where
  list : ∃ l, dpProcessListLbtargets s id = some (.ok l) ∧ l.Nodup ∧ ∀ a, a ∈ l ↔ a ∈ S
  cnt : v.backEndCnt.toNat = S.card
  le : S.card ≤ 64
  again : ∀ a ∈ S, dpProcessCreateLbtarget s id (.v6 a) = some (.err .alreadyExists, s)
  absent : ∀ a ∉ S, v.full = true ∨ a ≠ 0 → dpProcessDeleteLbtarget s id (.v6 a) = some (.err .notFound, s)
  limit : ∀ a s', dpProcessCreateLbtarget s id (.v6 a) = some (.err .limitReached, s') → S.card = 64

/-- Every load balancer stores the targets that were added to it. -/
structure TargetsOk (s : TargetState) : Prop where
  ids : LbIds s.ctl.lb
  stores : ∀ {id key v}, s.ctl.lb.idMapTbl id = some key → s.ctl.lb.lbTbl key = some (some v) → Stores v (s.targets id)

section Runs

variable {cf : Conf} {e : Env} {s s' : TargetState} {a : Call} {o : Outcome} {id : Id64} {key : LbKey} {v v' : LbValue}
  {S : Finset Ip6}

theorem Stores.targetSet {s : LbState} (h : Stores v S) (hl : lbOfId s id = some (.ok (key, v))) :
    TargetSet s id v S where
  list := by
    refine ⟨((List.finRange 64).filter v.used).map v.backEndIps, ?_, ?_, fun a => ?_⟩
    · simp [dpProcessListLbtargets, dpGetLbBackIps, hl]
    · refine List.Nodup.map_on (fun j hj k hk heq => ?_) ((List.nodup_finRange 64).filter _)
      exact h.inj (List.mem_filter.mp hj).2 (List.mem_filter.mp hk).2 heq
    · simp [h.mem]
  cnt := h.cnt
  le := h.card_le
  again a ha := by
    rcases dpAddLbBackIp_stores (a := a) hl h with ⟨-, heq⟩ | ⟨hn, -⟩ | ⟨hn, -⟩ | ⟨hn, -⟩
    · simp [dpProcessCreateLbtarget, heq, Resp.ofRet]
    all_goals exact absurd ha hn
  absent a ha hs := by
    rcases dpDelLbBackIp_stores (a := a) hl h hs with ⟨-, heq⟩ | ⟨hm, -⟩
    · simp [dpProcessDeleteLbtarget, heq, Resp.ofRet]
    · exact absurd hm ha
  limit a s' hr := by
    rcases dpAddLbBackIp_stores (a := a) hl h with ⟨-, heq⟩ | ⟨-, -, heq⟩ | ⟨-, hc, -⟩ | ⟨-, -, k, -, heq⟩
    · simp [dpProcessCreateLbtarget, heq, Resp.ofRet] at hr
    · simp [dpProcessCreateLbtarget, heq, Resp.ofRet] at hr
    · exact hc
    · simp [dpProcessCreateLbtarget, heq, Resp.ofRet] at hr

/-- The targets of one load balancer change together with its set. -/
theorem TargetsOk.setValue (h : TargetsOk s) (hid : s.ctl.lb.idMapTbl id = some key) (hv : Stores v' S) {i : Id64}
    {k : LbKey} {w : LbValue} (hi : s.ctl.lb.idMapTbl i = some k)
    (hk : (s.ctl.lb.setValue key v').lbTbl k = some (some w)) : Stores w (Function.update s.targets id S i) := by
  rcases Table.add_eq_some.mp hk with ⟨rfl, hw⟩ | ⟨hne, hw⟩
  · cases hw
    obtain rfl := h.ids.inj hi hid
    rwa [Function.update_self]
  · rw [Function.update_of_ne]
    · exact h.stores hi hw
    · rintro rfl
      rw [hid, Option.some.injEq] at hi
      exact hne hi.symm

theorem TargetsOk.createTarget (h : TargetsOk s) {x : Ip6} (hs : TargetSafe s (.createLbtarget id (.v6 x), e))
    (ho : dpProcessRequest cf e s.ctl.cfg s.ctl.lb (.createLbtarget id (.v6 x)) = some o) {i : Id64} {k : LbKey}
    {w : LbValue} (hi : o.lb.idMapTbl i = some k) (hk : o.lb.lbTbl k = some (some w)) :
    Stores w (trackTargets s.targets (.createLbtarget id (.v6 x)) o.resp i) := by
  obtain ⟨r, hr, rfl⟩ := Option.map_eq_some_iff.mp ho
  obtain ⟨q, hq, rfl⟩ := Option.map_eq_some_iff.mp hr
  dsimp only at hi hk ⊢
  cases hl : lbOfId s.ctl.lb id with
  | none => simp [dpAddLbBackIp, hl] at hq
  | some l =>
    cases l with
    | error er =>
      simp only [dpAddLbBackIp, hl, Option.some.injEq] at hq
      subst hq
      exact h.stores hi hk
    | ok kv =>
      obtain ⟨key, v⟩ := kv
      obtain ⟨hid, hval⟩ := lbOfId_eq hl
      have hst := h.stores hid hval
      rcases dpAddLbBackIp_stores (a := x) hl hst with ⟨-, heq⟩ | ⟨-, -, heq⟩ | ⟨-, -, heq⟩ | ⟨hn, hz, k', hfree, heq⟩
      · rw [heq] at hq
        cases hq
        exact h.stores hi hk
      · rw [heq] at hq
        cases hq
        exact h.stores hi hk
      · rw [heq] at hq
        cases hq
        exact h.stores hi hk
      · rw [heq] at hq
        cases hq
        have hw : firstWord x ≠ 0 := by
          rcases hs.1 _ rfl v (by simp [lbValueOf, hl]) with hfull | hx | hw
          · rw [full_iff.mp hfull k'] at hfree
            cases hfree
          · exact absurd hx hz
          · exact hw
        exact h.setValue hid (hst.add hn hw hfree) hi hk

theorem TargetsOk.deleteTarget (h : TargetsOk s) {x : Ip6} (hs : TargetSafe s (.deleteLbtarget id (.v6 x), e))
    (ho : dpProcessRequest cf e s.ctl.cfg s.ctl.lb (.deleteLbtarget id (.v6 x)) = some o) {i : Id64} {k : LbKey}
    {w : LbValue} (hi : o.lb.idMapTbl i = some k) (hk : o.lb.lbTbl k = some (some w)) :
    Stores w (trackTargets s.targets (.deleteLbtarget id (.v6 x)) o.resp i) := by
  obtain ⟨r, hr, rfl⟩ := Option.map_eq_some_iff.mp ho
  obtain ⟨q, hq, rfl⟩ := Option.map_eq_some_iff.mp hr
  dsimp only at hi hk ⊢
  cases hl : lbOfId s.ctl.lb id with
  | none => simp [dpDelLbBackIp, hl] at hq
  | some l =>
    cases l with
    | error er =>
      simp only [dpDelLbBackIp, hl, Option.some.injEq] at hq
      subst hq
      exact h.stores hi hk
    | ok kv =>
      obtain ⟨key, v⟩ := kv
      obtain ⟨hid, hval⟩ := lbOfId_eq hl
      have hst := h.stores hid hval
      have hsafe := hs.2 _ rfl v (by simp [lbValueOf, hl])
      rcases dpDelLbBackIp_stores (a := x) hl hst hsafe with ⟨-, heq⟩ | ⟨hm, k', hk', heq⟩
      · rw [heq] at hq
        cases hq
        exact h.stores hi hk
      · rw [heq] at hq
        cases hq
        exact h.setValue hid (hst.del hm hk') hi hk

/-- The load balancers come and go with their sets. -/
theorem TargetsOk.createLb (h : TargetsOk s) {vni : Vni} {addr : IpAddr} {ports : List LbPort}
    (hc : CreateLbCase cf e s.ctl.cfg s.ctl.lb id vni addr ports (o.resp, o.cfg, o.lb)) {i : Id64} {k : LbKey}
    {w : LbValue} (hi : o.lb.idMapTbl i = some k) (hk : o.lb.lbTbl k = some (some w)) :
    Stores w (trackTargets s.targets (.createLb id vni addr ports) o.resp i) := by
  cases hc with
  | noVnf _ hresp _ hlb | refused _ _ hresp _ hlb =>
    rw [show o.resp = _ from hresp]
    rw [show o.lb = _ from hlb] at hi hk
    exact h.stores hi hk
  | dead _ _ _ hresp _ hlb =>
    rw [show o.resp = _ from hresp]
    rw [show o.lb = _ from hlb] at hi hk
    rcases Table.add_eq_some.mp hk with ⟨-, hw⟩ | ⟨-, hw⟩
    · cases hw
    · exact h.stores hi hw
  | noVni _ _ _ _ hresp _ hlb =>
    rw [show o.resp = _ from hresp]
    rw [show o.lb = _ from hlb] at hi hk
    exact h.stores (Table.del_eq_some.mp hi).2 hk
  | created _ hacc _ _ hresp _ hlb =>
    rw [show o.resp = _ from hresp]
    rw [show o.lb = _ from hlb] at hi hk
    show Stores w (Function.update s.targets id ∅ i)
    rcases Table.add_eq_some.mp hi with ⟨rfl, rfl⟩ | ⟨hne, hi'⟩
    · rw [show LbState.lbTbl _ _ = _ from Table.add_self ..] at hk
      cases hk
      rw [Function.update_self]
      exact .empty ..
    · rw [Function.update_of_ne hne]
      rcases Table.add_eq_some.mp hk with ⟨rfl, -⟩ | ⟨-, hw⟩
      · exact (h.ids.ne_of_free (lbAccepts_free hacc) hi').elim
      · exact h.stores hi' hw

theorem TargetsOk.step (h : TargetsOk s) (hs : TargetSafe s a) (hstep : targetStep cf s a = some s') :
    TargetsOk s' := by
  obtain ⟨o, ho, rfl⟩ := Option.map_eq_some_iff.mp hstep
  obtain ⟨r, e⟩ := a
  refine ⟨h.ids.request ho, fun {i k w} hi hk => ?_⟩
  cases dpProcessRequest_lb ho with
  | create hc => exact h.createLb hc hi hk
  | delete _ _ _ hlb =>
    dsimp only at hi hk
    rw [hlb] at hi hk
    exact h.stores (Table.del_eq_some.mp hi).2 (Table.del_eq_some.mp hk).2
  | same hr hlb =>
    dsimp only at hi hk
    cases r with
    | createLb id vni addr ports => exact absurd rfl (hr id vni addr ports)
    | createLbtarget id addr =>
      cases addr with
      | v6 x => exact h.createTarget hs ho hi hk
      | v4 x =>
        rw [hlb] at hi hk
        exact h.stores hi hk
    | deleteLbtarget id addr =>
      cases addr with
      | v6 x => exact h.deleteTarget hs ho hi hk
      | v4 x =>
        rw [hlb] at hi hk
        exact h.stores hi hk
    | _ =>
      rw [hlb] at hi hk
      exact h.stores hi hk
  | targets hr _ ht =>
    rcases hr with ⟨addr, rfl⟩ | ⟨addr, rfl⟩
    · cases addr with
      | v6 x => exact h.createTarget hs ho hi hk
      | v4 x => cases ho; exact h.stores hi hk
    · cases addr with
      | v6 x => exact h.deleteTarget hs ho hi hk
      | v4 x => cases ho; exact h.stores hi hk

end Runs

/-- **The targets of a load balancer are a set.** In every state of a run whose requests are all `TargetSafe`, each load
balancer has exactly the targets that were added to it and not deleted since. -/
theorem lb_targets_set {cf : Conf} {es : List Call} {s : TargetState}
    (hok : Along (targetStep cf) TargetSafe { ctl := Ctl.init cf } es)
    (hrun : run (targetStep cf) { ctl := Ctl.init cf } es = some s) {id : Id64} {key : LbKey} {v : LbValue}
    (hl : lbOfId s.ctl.lb id = some (.ok (key, v))) : TargetSet s.ctl.lb id v (s.targets id) := by
  have hinv : TargetsOk s := by
    refine run_invariant (I := TargetsOk) (fun _ _ _ h => h.step) ?_ hok hrun
    exact ⟨.empty, fun h => (by cases h)⟩
  exact (hinv.stores (lbOfId_eq hl).1 (lbOfId_eq hl).2).targetSet hl

/-- A load balancer gets two targets, one of them twice; one is deleted, and so is an address it never had. -/
def targetCalls : List Call :=
  calls [.createLb 1 100 (.v4 0x0a000005) [],
    .createLbtarget 1 (.v6 0xfc000000000000000000000000000001),
    .createLbtarget 1 (.v6 0xfc000000000000000000000000000002),
    .createLbtarget 1 (.v6 0xfc000000000000000000000000000002),
    .deleteLbtarget 1 (.v6 0xfc000000000000000000000000000003),
    .deleteLbtarget 1 (.v6 0xfc000000000000000000000000000001)]

theorem lb_targets_set_one : ∃ s key v, run (targetStep smallConf) { ctl := Ctl.init smallConf } targetCalls = some s ∧
    lbOfId s.ctl.lb 1 = some (.ok (key, v)) ∧ s.targets 1 = {0xfc000000000000000000000000000002} ∧
      TargetSet s.ctl.lb 1 v (s.targets 1) := by
  obtain ⟨s, hs, hv, htgt⟩ : ∃ s, run (targetStep smallConf) { ctl := Ctl.init smallConf } targetCalls = some s ∧
      (lbValueOf s.ctl.lb 1).isSome = true ∧ s.targets 1 = {0xfc000000000000000000000000000002} := by decide +kernel
  obtain ⟨v, hv⟩ := Option.isSome_iff_exists.mp hv
  unfold lbValueOf at hv
  split at hv
  next key w hl =>
    exact ⟨s, key, w, hs, hl, htgt, lb_targets_set (by decide +kernel) hs hl⟩
  · cases hv

/-- The target `::5` is added with success, but it is not listed. -/
theorem lb_targets_zero_word :
    ∃ s, run (targetStep smallConf) { ctl := Ctl.init smallConf }
        (calls [.createLb 1 100 (.v4 0x0a000005) [], .createLbtarget 1 (.v6 5)]) = some s ∧
      (5 : Ip6) ∈ s.targets 1 ∧ dpProcessListLbtargets s.ctl.lb 1 = some (.ok []) := by
  decide +kernel

end Dpservice
