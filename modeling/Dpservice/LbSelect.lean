import Dpservice.Lib.RoundRobin
import Dpservice.LbTargets

/-!
# Choosing a target

`dp_lb_get_backend_ip` goes round the slots of a load balancer from the last one it chose.

- `round_robin_fair`: as many successful calls as there are used slots choose each of them once. The used slots wait in
  the order in which they follow the last choice (`LbValue.queue`), and a call moves the first to the end.
- `dpLbGetBackendSlot_cases`: a call fails where the port filter refuses the flow, and nowhere else.
-/

namespace Dpservice

/-! ## Calls -/

def dpLbGetBackendSlot (key : LbKey) (s : LbState) (want : LbPort) : Option (Option (Fin 64) × LbState) :=
  match s.lbTbl key with
  | none => some (none, s)
  | some none => none
  | some (some v) =>
    match dpLbRrBackend v want with
    | none => some (none, s)
    | some k => some (some k, s.setValue key { v with lastSelPos := UInt16.ofNat k })

@[simp] theorem setValue_self (s : LbState) (key : LbKey) (v : LbValue) :
    (s.setValue key v).lbTbl key = some (some v) := Table.add_self ..

def LbState.backendAt (s : LbState) (key : LbKey) (k : Fin 64) : Ip6 :=
  match s.lbTbl key with
  | some (some v) => v.backEndIps k
  | _ => 0

theorem dpLbGetBackendIp_slot (s : LbState) (key : LbKey) (want : LbPort) :
    dpLbGetBackendIp s key.ip want.port want.protocol key.vni =
      (dpLbGetBackendSlot key s want).map fun r => (r.1.map (s.backendAt key), r.2) := by
  unfold dpLbGetBackendIp dpLbGetBackendSlot LbState.backendAt
  cases s.lbTbl key with
  | none => rfl
  | some o =>
    cases o with
    | none => rfl
    | some v =>
      dsimp only
      cases dpLbRrBackend v want <;> rfl

/-! ## The order of the slots -/

instance neZero_slots : NeZero 64 := ⟨by decide⟩

/-- The used slots in the order in which they follow the last choice. -/
def LbValue.queue (v : LbValue) : List (Fin 64) := inTurn v.used (Fin.ofNat 64 v.lastSelPos.toNat)

def LbValue.usedCount (v : LbValue) : ℕ := (Finset.univ.filter fun k => v.used k = true).card

/-- The counter of a load balancer with targets is right, and the last choice is a slot. -/
structure LbValue.Counted (v : LbValue) : Prop where
  pos : v.lastSelPos.toNat < 64
  cnt : v.backEndCnt.toNat = v.usedCount
  one : 1 ≤ v.usedCount

section Queue

variable {v : LbValue} {want : LbPort} {k : Fin 64}

theorem length_queue : v.queue.length = v.usedCount := length_inTurn ..

theorem mem_queue : k ∈ v.queue ↔ v.used k = true := mem_inTurn

/-- The slots that the loop visits, and the last choice. -/
theorem around_last (p : ℕ) :
    around (Fin.ofNat 64 p) = ((List.range 63).map fun i => Fin.ofNat 64 (p + 1 + i)) ++ [Fin.ofNat 64 p] := by
  have hall : around (Fin.ofNat 64 p) = (List.range 64).map fun i => Fin.ofNat 64 (p + 1 + i) := by
    refine List.ext_getElem (by simp) fun i hi _ => Fin.ext ?_
    rw [length_around] at hi
    simp [around, Fin.val_add]
  have hlast : Fin.ofNat 64 (p + 1 + 63) = Fin.ofNat 64 p := by
    apply Fin.ext
    simp only [Fin.val_ofNat]
    omega
  rw [hall, List.range_succ, List.map_append, List.map_singleton, hlast]

/-- The loop finds the slot whose turn it is. -/
theorem dpLbRrBackend_turn (h : v.Counted) (hs : lbPortServed want v.portArray = true) :
    ∃ k l, v.queue = k :: l ∧ dpLbRrBackend v want = some k := by
  obtain ⟨k, l, hq⟩ : ∃ k l, v.queue = k :: l := by
    apply List.exists_cons_of_length_pos
    rw [length_queue]
    exact h.one
  have hlen : (k :: l).length = v.backEndCnt.toNat := by rw [← hq, length_queue, h.cnt]
  refine ⟨k, l, hq, ?_⟩
  unfold dpLbRrBackend
  rw [hs, Bool.not_true, if_neg Bool.false_ne_true]
  by_cases hone : v.backEndCnt = 1
  · rw [if_pos hone]
    have hl : l = [] := by
      rw [hone] at hlen
      exact List.length_eq_zero_iff.mp (Nat.succ.inj hlen)
    have hk : v.used k = true := mem_queue.mp (by simp [hq])
    cases hf : (List.finRange 64).find? v.used with
    | none => exact absurd hk (by simpa using List.find?_eq_none.mp hf k (List.mem_finRange k))
    | some j =>
      have hj : j ∈ v.queue := mem_queue.mpr (List.find?_some hf)
      rw [hq, hl, List.mem_singleton] at hj
      rw [hj]
  · rw [if_neg hone]
    have htwo : l ≠ [] := by
      rintro rfl
      exact hone (UInt16.toNat.inj hlen.symm)
    have hsplit := hq
    unfold LbValue.queue inTurn at hsplit
    rw [around_last, List.filter_append] at hsplit
    cases hnext : ((List.range 63).map fun i => Fin.ofNat 64 (v.lastSelPos.toNat + 1 + i)).filter v.used with
    | nil =>
      rw [hnext, List.nil_append] at hsplit
      have hle := List.length_filter_le v.used [Fin.ofNat 64 v.lastSelPos.toNat]
      rw [hsplit] at hle
      exact absurd (List.length_eq_zero_iff.mp (Nat.le_zero.mp (Nat.le_of_succ_le_succ hle))) htwo
    | cons j js =>
      rw [hnext, List.cons_append, List.cons.injEq] at hsplit
      rw [← List.head?_filter, hnext, List.head?_cons, hsplit.1]

/-- The slot that was chosen goes to the end. -/
theorem queue_chosen {l : List (Fin 64)} (h : v.queue = k :: l) :
    LbValue.queue { v with lastSelPos := UInt16.ofNat k } = l ++ [k] := by
  have hk : Fin.ofNat 64 (UInt16.ofNat k).toNat = k := by
    apply Fin.ext
    have := k.isLt
    simp only [Fin.val_ofNat, UInt16.toNat_ofNat']
    omega
  show inTurn v.used (Fin.ofNat 64 (UInt16.ofNat k).toNat) = _
  rw [hk]
  exact inTurn_move h

theorem LbValue.Counted.chosen (h : v.Counted) (k : Fin 64) :
    LbValue.Counted { v with lastSelPos := UInt16.ofNat k } where
  pos := by
    have := k.isLt
    simp only [UInt16.toNat_ofNat']
    omega
  cnt := h.cnt
  one := h.one

end Queue

/-! ## Fairness -/

/-- The load balancer of `key` has these slots, and its counter is right. -/
def Serves (key : LbKey) (used : Fin 64 → Bool) (s : LbState) : Prop :=
  ∃ v, s.lbTbl key = some (some v) ∧ v.Counted ∧ v.used = used

def LbState.queue (key : LbKey) (s : LbState) : List (Fin 64) :=
  match s.lbTbl key with
  | some (some v) => v.queue
  | _ => []

section Fair

variable {key : LbKey} {s s' : LbState} {v : LbValue} {want : LbPort} {used : Fin 64 → Bool}

theorem queue_eq (h : s.lbTbl key = some (some v)) : s.queue key = v.queue := by rw [LbState.queue, h]

/-- A call fails and changes nothing, or it takes the slot whose turn it is. -/
theorem dpLbGetBackendSlot_cases (hv : s.lbTbl key = some (some v)) (hc : v.Counted) (want : LbPort) :
    (lbPortServed want v.portArray = false ∧ dpLbGetBackendSlot key s want = some (none, s)) ∨
      ∃ k l, lbPortServed want v.portArray = true ∧ v.queue = k :: l ∧
        dpLbGetBackendSlot key s want = some (some k, s.setValue key { v with lastSelPos := UInt16.ofNat k }) := by
  unfold dpLbGetBackendSlot
  rw [hv]
  dsimp only
  cases hs : lbPortServed want v.portArray with
  | false =>
    refine .inl ⟨rfl, ?_⟩
    simp [dpLbRrBackend, hs]
  | true =>
    obtain ⟨k, l, hq, hk⟩ := dpLbRrBackend_turn hc hs
    exact .inr ⟨k, l, rfl, hq, by rw [hk]⟩

/-- A call keeps the slots and takes turns. -/
theorem dpLbGetBackendSlot_turn (h : Serves key used s) (want : LbPort) :
    ∃ o s', dpLbGetBackendSlot key s want = some (o, s') ∧ Serves key used s' ∧
      TakesTurn (LbState.queue key) s o s' ∧ ∀ k ∈ o, used k = true := by
  obtain ⟨v, hv, hc, rfl⟩ := h
  rcases dpLbGetBackendSlot_cases hv hc want with ⟨-, heq⟩ | ⟨k, l, -, hq, heq⟩
  · exact ⟨none, s, heq, ⟨v, hv, hc, rfl⟩, .inl ⟨rfl, rfl⟩, by simp⟩
  · have hv' := setValue_self s key { v with lastSelPos := UInt16.ofNat k }
    refine ⟨some k, _, heq, ⟨_, hv', hc.chosen k, rfl⟩, .inr ⟨k, l, rfl, ?_, ?_⟩, fun j hj => ?_⟩
    · rw [queue_eq hv, hq]
    · rw [queue_eq hv', queue_chosen hq]
    · cases hj
      exact mem_queue.mp (by simp [hq])

/-- **Round robin is fair.** All calls are defined and choose used slots only; `n` successful ones, whatever fails in
between, choose each of the `n` used slots once. -/
theorem round_robin_fair {n : ℕ} (hv : s.lbTbl key = some (some v)) (hpos : v.lastSelPos.toNat < 64)
    (hcnt : v.backEndCnt.toNat = n) (hn : v.usedCount = n) (hone : 1 ≤ n) (wants : List LbPort) :
    ∃ ks s' v', answers (dpLbGetBackendSlot key) s wants = some (ks, s') ∧ s'.lbTbl key = some (some v') ∧
      v'.lastSelPos.toNat < 64 ∧ (∀ k ∈ ks, v.used k = true) ∧
      (ks.length = n → ks.Nodup ∧ ∀ k, k ∈ ks ↔ v.used k = true) := by
  have hserves : Serves key v.used s := ⟨v, hv, ⟨hpos, hcnt.trans hn.symm, hn ▸ hone⟩, rfl⟩
  have hcall : ∀ {s want o s'}, Serves key v.used s → dpLbGetBackendSlot key s want = some (o, s') →
      Serves key v.used s' ∧ TakesTurn (LbState.queue key) s o s' ∧ ∀ k ∈ o, v.used k = true := by
    intro s want o s' hs h
    obtain ⟨o₁, s₁, h₁, hs₁, hturn, hused⟩ := dpLbGetBackendSlot_turn hs want
    rw [h₁] at h
    cases h
    exact ⟨hs₁, hturn, hused⟩
  have htotal : ∀ {s want}, Serves key v.used s →
      ∃ o s', dpLbGetBackendSlot key s want = some (o, s') ∧ Serves key v.used s' := by
    intro s want hs
    obtain ⟨o, s', h, hs', -⟩ := dpLbGetBackendSlot_turn hs want
    exact ⟨o, s', h, hs'⟩
  obtain ⟨ks, s', hks, v', hv', hc', -⟩ := answers_total htotal hserves wants
  refine ⟨ks, s', v', hks, hv', hc'.pos, ?_, fun hlen => ?_⟩
  · exact answers_forall (I := Serves key v.used) (fun hs h => ⟨(hcall hs h).1, (hcall hs h).2.2⟩) hserves hks
  · have hqueue : (s.queue key).length = n := by rw [queue_eq hv, length_queue, hn]
    have htake := answers_eq_take (I := Serves key v.used) (fun hs h => ⟨(hcall hs h).1, (hcall hs h).2.1⟩) hserves hks
      (by rw [hqueue, hlen])
    rw [hlen, ← hqueue, List.take_length, queue_eq hv] at htake
    rw [htake]
    exact ⟨nodup_inTurn .., fun k => mem_queue⟩

end Fair

/-- A load balancer for TCP port 80 with targets in the slots 3 and 10, of which slot 3 was chosen last. -/
def twoTargets : LbValue where
  ports := [⟨ipprotoTcp, 80⟩]
  backEndIps := Function.update (Function.update (fun _ => 0) 3 0xfc000000000000000000000000000001) 10
    0xfc000000000000000000000000000002
  lastSelPos := 3
  backEndCnt := 2

/-- Of three calls the one for UDP fails; the other two choose both targets. -/
theorem round_robin_fair_two :
    ∃ ks s', answers (dpLbGetBackendSlot ⟨100, .v4 5⟩) (LbState.setValue {} ⟨100, .v4 5⟩ twoTargets)
        [⟨ipprotoTcp, 80⟩, ⟨ipprotoUdp, 80⟩, ⟨ipprotoTcp, 80⟩] = some (ks, s') ∧
      ks = [10, 3] ∧ ks.Nodup ∧ ∀ k, k ∈ ks ↔ twoTargets.used k = true := by
  obtain ⟨ks, s', v', hks, -, -, -, hfair⟩ := round_robin_fair (n := 2)
    (setValue_self {} ⟨100, .v4 5⟩ twoTargets) (by decide) (by decide) (by decide) (by decide)
    [⟨ipprotoTcp, 80⟩, ⟨ipprotoUdp, 80⟩, ⟨ipprotoTcp, 80⟩]
  have heq : (answers (dpLbGetBackendSlot ⟨100, .v4 5⟩) (LbState.setValue {} ⟨100, .v4 5⟩ twoTargets)
      [⟨ipprotoTcp, 80⟩, ⟨ipprotoUdp, 80⟩, ⟨ipprotoTcp, 80⟩]).map Prod.fst = some [10, 3] := by decide
  rw [hks] at heq
  cases heq
  exact ⟨_, s', hks, rfl, hfair rfl⟩

end Dpservice
