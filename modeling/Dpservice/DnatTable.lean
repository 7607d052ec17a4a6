import Dpservice.NatCoherence

/-!
# The DNAT table

A public address has one DNAT entry, however many owners it has: the VIP of an interface, NAT ranges of interfaces and
ranges of neighbours. The entry is made with the first owner and deleted by rules that do not look at all the others.

- `NatView.VipAt`, `NatView.NatAt`, `NatView.NeighAt`: who has an address, and `NatView.Exact`: the table says so;
- `NatView.Exact.addVip`, `.dropVip`, `.addNat`, …: what each update needs to keep the table exact;
- `DnatSafe`: a request that takes an owner away leaves none behind without its entry;
- `dnat_table`: along such runs the table is exact.
-/

namespace Dpservice

/-! ## Owners of an address -/

namespace NatView

/-- The address is the VIP of the interface address `a`. -/
def VipAt (w : NatView) (k : NatKey) (a : Ip4) : Prop := k.ip ≠ 0 ∧ w.vip ⟨a, k.vni⟩ = k.ip

/-- The address has a NAT range of some interface address. -/
def NatAt (w : NatView) (k : NatKey) : Prop := k.ip ≠ 0 ∧ ∃ a, (w.nat ⟨a, k.vni⟩).natIp = k.ip

/-- The address has a range of a neighbour. -/
def NeighAt (w : NatView) (k : NatKey) : Prop := ∃ n ∈ w.neigh, n.vni = k.vni ∧ n.natIp = k.ip

/-- The address has owners that share its entry. -/
def Shared (w : NatView) (k : NatKey) : Prop := w.NatAt k ∨ w.NeighAt k

/-- An address has an entry exactly if it has an owner: the address behind a VIP, or zero. -/
structure Exact (w : NatView) : Prop where
  vip : ∀ {k a}, w.VipAt k a → w.dnat k = some a
  shared : ∀ {k}, (∀ a, ¬ w.VipAt k a) → w.Shared k → w.dnat k = some 0
  none : ∀ {k}, (∀ a, ¬ w.VipAt k a) → ¬ w.Shared k → w.dnat k = none

section Exact

variable {w w' : NatView} {k j : NatKey} {a : Ip4} {vni : Vni} {x : NatRange}

/-- The same owners and the same table. -/
theorem Exact.congr (h : w.Exact) (hv : ∀ k a, w'.VipAt k a ↔ w.VipAt k a) (hs : ∀ k, w'.Shared k ↔ w.Shared k)
    (hdnat : w'.dnat = w.dnat) : w'.Exact := by
  refine ⟨fun {k a} h' => ?_, fun {k} h' ho => ?_, fun {k} h' ho => ?_⟩
  · rw [hdnat]
    exact h.vip ((hv k a).mp h')
  · rw [hdnat]
    exact h.shared (fun a ha => h' a ((hv k a).mpr ha)) ((hs k).mp ho)
  · rw [hdnat]
    exact h.none (fun a ha => h' a ((hv k a).mpr ha)) fun ha => ho ((hs k).mpr ha)

/-- An address with an entry that is nobody's VIP has entry zero. -/
theorem Exact.shared_of_some (h : w.Exact) (hv : ∀ a, ¬ w.VipAt k a) (hs : w.dnat k ≠ Option.none) :
    w.dnat k = some 0 := by
  by_cases ho : w.Shared k
  · exact h.shared hv ho
  · exact absurd (h.none hv ho) hs

theorem Exact.no_vip (h : w.Exact) (hnone : w.dnat k = Option.none) (b : Ip4) : ¬ w.VipAt k b := fun hb => by
  rw [h.vip hb] at hnone
  cases hnone

/-- Only one interface address has an address as VIP. -/
theorem Exact.vip_unique (h : w.Exact) {b : Ip4} (ha : w.VipAt k a) (hb : w.VipAt k b) : a = b :=
  Option.some.inj ((h.vip ha).symm.trans (h.vip hb))

/-- A VIP is set, with its entry. -/
theorem Exact.addVip (h : w.Exact) (hzero : w.vip j = 0) (ha : a ≠ 0) (hnone : w.dnat ⟨a, j.vni⟩ = Option.none) :
    ((w.setVip j a).setDnat ⟨a, j.vni⟩ (some j.ip)).Exact := by
  have hv : ∀ k b, ((w.setVip j a).setDnat ⟨a, j.vni⟩ (some j.ip)).VipAt k b ↔
      (k = ⟨a, j.vni⟩ ∧ b = j.ip) ∨ w.VipAt k b := by
    intro k b
    show (k.ip ≠ 0 ∧ Function.update w.vip j a ⟨b, k.vni⟩ = k.ip) ↔ _
    rw [Function.update_apply]
    split
    next hj =>
      obtain ⟨rfl, hk⟩ : b = j.ip ∧ k.vni = j.vni := by rw [← hj]; exact ⟨rfl, rfl⟩
      constructor
      · rintro ⟨-, hip⟩
        exact .inl ⟨NatKey.ext hip.symm hk, rfl⟩
      · rintro (⟨rfl, -⟩ | ⟨hne, hip⟩)
        · exact ⟨ha, rfl⟩
        · rw [hj, hzero] at hip
          exact absurd hip.symm hne
    next hj =>
      constructor
      · exact .inr
      · rintro (⟨rfl, rfl⟩ | hb)
        · exact absurd rfl hj
        · exact hb
  have hdnat : ∀ k, ((w.setVip j a).setDnat ⟨a, j.vni⟩ (some j.ip)).dnat k =
      if k = ⟨a, j.vni⟩ then some j.ip else w.dnat k := fun k => Function.update_apply ..
  refine ⟨fun {k b} hb => ?_, fun {k} hno ho => ?_, fun {k} hno ho => ?_⟩
  · rw [hdnat]
    obtain ⟨hk, rfl⟩ | hb := (hv k b).mp hb
    · rw [if_pos hk]
    · rw [if_neg, h.vip hb]
      rintro rfl
      exact h.no_vip hnone b hb
  · rw [hdnat, if_neg fun hk => hno j.ip ((hv ..).mpr (.inl ⟨hk, rfl⟩))]
    exact h.shared (fun b hb => hno b ((hv ..).mpr (.inr hb))) ho
  · rw [hdnat, if_neg fun hk => hno j.ip ((hv ..).mpr (.inl ⟨hk, rfl⟩))]
    exact h.none (fun b hb => hno b ((hv ..).mpr (.inr hb))) ho

/-- A VIP goes with its entry, unless the address has other owners. -/
theorem Exact.dropVip (h : w.Exact) (hne : w.vip j ≠ 0) (hs : ¬ w.Shared ⟨w.vip j, j.vni⟩) :
    ((w.setVip j 0).setDnat ⟨w.vip j, j.vni⟩ Option.none).Exact := by
  have hown : w.VipAt ⟨w.vip j, j.vni⟩ j.ip := ⟨hne, rfl⟩
  have hv : ∀ k b, ((w.setVip j 0).setDnat ⟨w.vip j, j.vni⟩ Option.none).VipAt k b ↔
      k ≠ ⟨w.vip j, j.vni⟩ ∧ w.VipAt k b := by
    intro k b
    show (k.ip ≠ 0 ∧ Function.update w.vip j 0 ⟨b, k.vni⟩ = k.ip) ↔ _
    rw [Function.update_apply]
    split
    next hj =>
      constructor
      · rintro ⟨hk, hip⟩
        exact absurd hip.symm hk
      · rintro ⟨hk, -, hip⟩
        obtain ⟨rfl, hvni⟩ : b = j.ip ∧ k.vni = j.vni := by rw [← hj]; exact ⟨rfl, rfl⟩
        rw [hj] at hip
        exact absurd (NatKey.ext (y := ⟨w.vip j, j.vni⟩) hip.symm hvni) hk
    next hj =>
      constructor
      · intro hb
        refine ⟨?_, hb⟩
        rintro rfl
        exact hj (by rw [h.vip_unique hb hown])
      · exact fun hb => hb.2
  have hdnat : ∀ k, ((w.setVip j 0).setDnat ⟨w.vip j, j.vni⟩ Option.none).dnat k =
      if k = ⟨w.vip j, j.vni⟩ then Option.none else w.dnat k := fun k => Function.update_apply ..
  refine ⟨fun {k b} hb => ?_, fun {k} hno ho => ?_, fun {k} hno ho => ?_⟩
  · obtain ⟨hk, hb⟩ := (hv k b).mp hb
    rw [hdnat, if_neg hk, h.vip hb]
  · have hk : k ≠ ⟨w.vip j, j.vni⟩ := by
      rintro rfl
      exact hs ho
    rw [hdnat, if_neg hk]
    exact h.shared (fun b hb => hno b ((hv ..).mpr ⟨hk, hb⟩)) ho
  · rw [hdnat]
    split
    · rfl
    next hk => exact h.none (fun b hb => hno b ((hv ..).mpr ⟨hk, hb⟩)) ho

/-- An owner that shares the entry is added: who had the address keeps it. -/
theorem Exact.share (h : w.Exact) (hvip : w'.vip = w.vip) (hdnat : w'.dnat = w.dnat)
    (hown : ∀ j, w'.Shared j ↔ w.Shared j ∨ j = k) : (w'.shareDnat k).Exact := by
  have hv : ∀ j a, (w'.shareDnat k).VipAt j a ↔ w.VipAt j a := by
    intro j a
    unfold VipAt shareDnat
    rw [← hvip]
    split <;> rfl
  have hs : ∀ j, (w'.shareDnat k).Shared j ↔ w.Shared j ∨ j = k := by
    intro j
    rw [← hown]
    unfold Shared NatAt NeighAt shareDnat
    split <;> rfl
  have hd : ∀ j, (w'.shareDnat k).dnat j = if j = k ∧ w.dnat k = Option.none then some 0 else w.dnat j := by
    intro j
    unfold shareDnat
    rw [← hdnat]
    cases hk : w'.dnat k with
    | some a => simp
    | none => simp [setDnat, Function.update_apply]
  refine ⟨fun {j a} ha => ?_, fun {j} hno hj => ?_, fun {j} hno hj => ?_⟩
  · replace ha := (hv j a).mp ha
    rw [hd, if_neg, h.vip ha]
    rintro ⟨rfl, hnone⟩
    exact h.no_vip hnone a ha
  · replace hno : ∀ a, ¬ w.VipAt j a := fun a ha => hno a ((hv j a).mpr ha)
    rw [hd]
    split
    · rfl
    next hk =>
      obtain hj | rfl := (hs j).mp hj
      · exact h.shared hno hj
      · exact h.shared_of_some hno fun hnone => hk ⟨rfl, hnone⟩
  · rw [hs, not_or] at hj
    rw [hd, if_neg fun hk => hj.2 hk.1]
    exact h.none (fun a ha => hno a ((hv j a).mpr ha)) hj.1

/-- The neighbours are searched for an address. -/
theorem any_neigh_iff : w.neigh.any (dpIsNetworkNatIp · k.ip k.vni) = true ↔ k.ip ≠ 0 ∧ w.NeighAt k := by
  simp only [List.any_eq_true, dpIsNetworkNatIp, Bool.and_eq_true, beq_iff_eq, bne_iff_ne, NeighAt]
  constructor
  · rintro ⟨n, hn, hvni, hne, hip⟩
    exact ⟨hne, n, hn, hvni, hip⟩
  · rintro ⟨hne, n, hn, hvni, hip⟩
    exact ⟨n, hn, hvni, hne, hip⟩

/-- An owner that shares the entry goes: a neighbour keeps the entry, or nobody is left. -/
theorem Exact.unshare (h : w.Exact) (hvip : w'.vip = w.vip) (hdnat : w'.dnat = w.dnat) (hne : k.ip ≠ 0)
    (hown : ∀ j, j ≠ k → (w'.Shared j ↔ w.Shared j)) (hwas : w.Shared k)
    (hlast : w'.NeighAt k ∨ (∀ a, ¬ w.VipAt k a) ∧ ¬ w'.Shared k) : (w'.unshareDnat k).Exact := by
  by_cases hany : w'.neigh.any (dpIsNetworkNatIp · k.ip k.vni) = true
  · have hkeep : w'.unshareDnat k = w' := if_pos hany
    rw [hkeep]
    refine h.congr (fun j a => by unfold VipAt; rw [hvip]) (fun j => ?_) hdnat
    by_cases hj : j = k
    · subst hj
      exact iff_of_true (.inr (any_neigh_iff.mp hany).2) hwas
    · exact hown j hj
  · obtain hg | ⟨hno, hs⟩ := hlast
    · exact absurd (any_neigh_iff.mpr ⟨hne, hg⟩) hany
    have hdel : w'.unshareDnat k = w'.setDnat k Option.none := if_neg hany
    have hd : ∀ j, (w'.setDnat k Option.none).dnat j = if j = k then Option.none else w.dnat j := by
      intro j
      rw [← hdnat]
      exact Function.update_apply ..
    have hv : ∀ j a, (w'.setDnat k Option.none).VipAt j a ↔ w.VipAt j a := by
      intro j a
      unfold VipAt
      rw [← hvip]
      rfl
    rw [hdel]
    refine ⟨fun {j a} ha => ?_, fun {j} hno' hj => ?_, fun {j} hno' hj => ?_⟩
    · replace ha := (hv j a).mp ha
      rw [hd, if_neg, h.vip ha]
      rintro rfl
      exact hno a ha
    · have hjk : j ≠ k := by
        rintro rfl
        exact hs hj
      rw [hd, if_neg hjk]
      exact h.shared (fun a ha => hno' a ((hv j a).mpr ha)) ((hown j hjk).mp hj)
    · rw [hd]
      split
      · rfl
      next hjk =>
        exact h.none (fun a ha => hno' a ((hv j a).mpr ha)) fun hs' => hj ((hown j hjk).mpr hs')

/-- Neighbours are dropped whose addresses have other owners here. -/
theorem Exact.dropNeigh (h : w.Exact)
    (hdrop : ∀ n ∈ w.neigh, n.vni = vni ∨ vni = 0 → (∃ a, w.VipAt ⟨n.natIp, n.vni⟩ a) ∨ w.NatAt ⟨n.natIp, n.vni⟩) :
    (w.dropNeigh vni).Exact := by
  have hs : ∀ j, (∀ a, ¬ w.VipAt j a) → ((w.dropNeigh vni).Shared j ↔ w.Shared j) := by
    intro j hno
    constructor
    · rintro (hn | ⟨n, hn, hj⟩)
      · exact .inl hn
      · exact .inr ⟨n, (List.mem_filter.mp hn).1, hj⟩
    · rintro (hn | ⟨n, hn, hvni, hip⟩)
      · exact .inl hn
      · by_cases hv : n.vni = vni ∨ vni = 0
        · obtain ⟨a, ha⟩ | hn := hdrop n hn hv
          · rw [hip, hvni] at ha
            exact absurd ha (hno a)
          · rw [hip, hvni] at hn
            exact .inl hn
        · refine .inr ⟨n, List.mem_filter.mpr ⟨hn, ?_⟩, hvni, hip⟩
          simpa using hv
  exact ⟨h.vip, fun hno hj => h.shared hno ((hs _ hno).mp hj),
    fun hno hj => h.none hno fun hj' => hj ((hs _ hno).mpr hj')⟩

/-- Owners after a NAT range was set. -/
theorem shared_setNat (hzero : (w.nat j).natIp = 0) (hx : x.natIp ≠ 0) :
    (w.setNat j x).Shared k ↔ w.Shared k ∨ k = ⟨x.natIp, j.vni⟩ := by
  have hat : (w.setNat j x).NatAt k ↔ w.NatAt k ∨ k = ⟨x.natIp, j.vni⟩ := by
    constructor
    · rintro ⟨hne, a, ha⟩
      by_cases hj : (⟨a, k.vni⟩ : NatKey) = j
      · subst hj
        have hset : (w.setNat ⟨a, k.vni⟩ x).nat ⟨a, k.vni⟩ = x := Function.update_self ..
        rw [hset] at ha
        exact .inr (NatKey.ext ha.symm rfl)
      · have hset : (w.setNat j x).nat ⟨a, k.vni⟩ = w.nat ⟨a, k.vni⟩ := Function.update_of_ne hj ..
        rw [hset] at ha
        exact .inl ⟨hne, a, ha⟩
    · rintro (⟨hne, a, ha⟩ | rfl)
      · have hj : (⟨a, k.vni⟩ : NatKey) ≠ j := by
          rintro rfl
          rw [hzero] at ha
          exact hne ha.symm
        have hset : (w.setNat j x).nat ⟨a, k.vni⟩ = w.nat ⟨a, k.vni⟩ := Function.update_of_ne hj ..
        exact ⟨hne, a, by rw [hset]; exact ha⟩
      · have hset : (w.setNat j x).nat ⟨j.ip, j.vni⟩ = x := Function.update_self ..
        exact ⟨hx, j.ip, by rw [hset]⟩
  unfold Shared
  rw [hat, or_right_comm]
  exact Iff.rfl

/-- Owners of the other addresses after a NAT range was cleared. -/
theorem shared_clearNat (hk : k ≠ ⟨(w.nat j).natIp, j.vni⟩) : (w.setNat j .zero).Shared k ↔ w.Shared k := by
  refine or_congr ⟨?_, ?_⟩ Iff.rfl
  · rintro ⟨hne, a, ha⟩
    by_cases hj : (⟨a, k.vni⟩ : NatKey) = j
    · have hset : (w.setNat j .zero).nat ⟨a, k.vni⟩ = .zero := by rw [hj]; exact Function.update_self ..
      rw [hset] at ha
      exact absurd ha.symm hne
    · have hset : (w.setNat j .zero).nat ⟨a, k.vni⟩ = w.nat ⟨a, k.vni⟩ := Function.update_of_ne hj ..
      rw [hset] at ha
      exact ⟨hne, a, ha⟩
  · rintro ⟨hne, a, ha⟩
    have hj : (⟨a, k.vni⟩ : NatKey) ≠ j := by
      rintro rfl
      exact hk (NatKey.ext ha.symm rfl)
    have hset : (w.setNat j .zero).nat ⟨a, k.vni⟩ = w.nat ⟨a, k.vni⟩ := Function.update_of_ne hj ..
    exact ⟨hne, a, by rw [hset]; exact ha⟩

/-- Clearing a VIP changes no NAT address. -/
theorem clearVip_natIp (w : NatView) (j k : NatKey) : ((w.clearVip j).nat k).natIp = (w.nat k).natIp := by
  by_cases hzero : (w.nat j).natIp = 0
  · rw [clearVip_zero hzero]
    show (Function.update w.nat j .zero k).natIp = _
    rw [Function.update_apply]
    split
    next hk => rw [hk, hzero]; rfl
    · rfl
  · rw [clearVip_keep hzero]
    rfl

theorem clearVip_vip (hzero : w.vip j = 0) : (w.clearVip j).vip = w.vip := by
  show Function.update w.vip j 0 = _
  rw [← hzero, Function.update_eq_self]

theorem shared_of_natIp (hnat : ∀ k, (w'.nat k).natIp = (w.nat k).natIp) (hneigh : w'.neigh = w.neigh) (k : NatKey) :
    w'.Shared k ↔ w.Shared k := by
  unfold Shared NatAt NeighAt
  simp only [hnat, hneigh]

end Exact

end NatView

/-! ## Owners in terms of interfaces -/

/-- The address is the VIP of a ready interface with address `a`. -/
def IsVip (cf : Conf) (c : Config) (k : NatKey) (a : Ip4) : Prop :=
  k.ip ≠ 0 ∧ ∃ p ∈ cf.portList, (c.port p).iface.ready = true ∧ (c.port p).iface.natKey = ⟨a, k.vni⟩ ∧
    c.nat.view.vip (c.port p).iface.natKey = k.ip

/-- The address is the NAT address of a ready interface. -/
def IsNat (cf : Conf) (c : Config) (k : NatKey) : Prop :=
  k.ip ≠ 0 ∧ ∃ p ∈ cf.portList, (c.port p).iface.ready = true ∧ (c.port p).iface.vni = k.vni ∧
    (c.nat.view.nat (c.port p).iface.natKey).natIp = k.ip

/-- The address is the NAT address of a neighbour. -/
def IsNeigh (c : Config) (k : NatKey) : Prop := ∃ n ∈ c.nat.natHeadp, n.vni = k.vni ∧ n.natIp = k.ip

/-- The DNAT table has an entry for exactly the addresses in use, with the address behind a VIP and zero for the
rest. -/
def DnatExact (cf : Conf) (c : Config) : Prop :=
  ∀ k, ((c.nat.dnatTbl k).isSome = true ↔ (∃ a, IsVip cf c k a) ∨ IsNat cf c k ∨ IsNeigh c k) ∧
    ∀ d ∈ c.nat.dnatTbl k, (∀ a, IsVip cf c k a → d = a) ∧ ((∀ a, ¬ IsVip cf c k a) → d = 0)

/-- The neighbours that the release of a VNI drops, or a reset of all (VNI 0), share their addresses with interfaces. -/
def DropSafe (cf : Conf) (c : Config) (vni : Vni) : Prop :=
  ∀ n ∈ c.nat.natHeadp, n.vni = vni ∨ vni = 0 →
    (∃ p ∈ cf.portList, IsVip cf c ⟨n.natIp, n.vni⟩ (c.port p).iface.ownIp) ∨ IsNat cf c ⟨n.natIp, n.vni⟩

/-- A request that takes an owner of an address away leaves no other one behind that the code does not look for. -/
def DnatSafe (cf : Conf) (s : Ctl) (r : Request) : Prop :=
  let c := s.cfg
  match r with
  | .createVip _ (.v4 ip) | .createNat _ (.v4 ip) .. | .createNeighnat (.v4 ip) .. => ip ≠ 0
  | .deleteVip id => ∀ p ∈ c.ifaceIdTable id,
      ¬ IsNat cf c ⟨c.nat.view.vip (c.port p).iface.natKey, (c.port p).iface.vni⟩ ∧
        ¬ IsNeigh c ⟨c.nat.view.vip (c.port p).iface.natKey, (c.port p).iface.vni⟩
  | .deleteNat id => ∀ p ∈ c.ifaceIdTable id,
      let k : NatKey := ⟨(c.nat.view.nat (c.port p).iface.natKey).natIp, (c.port p).iface.vni⟩
      k.ip ≠ 0 → IsNeigh c k ∨ ∀ q ∈ cf.portList, (c.port q).iface.ready = true → (c.port q).iface.vni = k.vni →
        c.nat.view.vip (c.port q).iface.natKey ≠ k.ip ∧
          ((c.nat.view.nat (c.port q).iface.natKey).natIp = k.ip →
            (c.port q).iface.natKey = (c.port p).iface.natKey)
  | .deleteNeighnat (.v4 ip) vni lo hi => c.nat.natHeadp.any (dpIsNetworkNatEntry · ip vni lo hi) = true →
      (c.nat.natHeadp.eraseP (dpIsNetworkNatEntry · ip vni lo hi)).any (dpIsNetworkNatIp · ip vni) = true ∨
        ∀ q ∈ cf.portList, (c.port q).iface.ready = true → (c.port q).iface.vni = vni →
          c.nat.view.vip (c.port q).iface.natKey ≠ ip ∧ (c.nat.view.nat (c.port q).iface.natKey).natIp ≠ ip
  | .reqInitialize => DropSafe cf c 0
  | .createInterface _ _ vni .. => c.vniHandleTbl vni = none → DropSafe cf c vni
  | .deleteInterface id => ∀ p ∈ c.ifaceIdTable id,
      (c.nat.view.vip (c.port p).iface.natKey = 0 ∧ (c.nat.view.nat (c.port p).iface.natKey).natIp = 0 ∨
        ∃ q ∈ cf.portList, q ≠ p ∧ (c.port q).iface.ready = true ∧ (c.port q).iface.natKey = (c.port p).iface.natKey) ∧
        (vniRefs c.vniHandleTbl (c.port p).iface.vni = some 1 → DropSafe cf c (c.port p).iface.vni)
  | .deleteLb id => ∀ k ∈ s.lb.idMapTbl id, vniRefs c.vniHandleTbl k.vni = some 1 → DropSafe cf c k.vni
  | _ => True

/-- What safe requests keep: the table is exact, and what has an address belongs to a ready interface. -/
structure DnatInv (cf : Conf) (c : Config) : Prop where
  ports : PortsOk cf c
  exact : c.nat.view.Exact
  held : ∀ k, c.nat.view.vip k ≠ 0 ∨ (c.nat.view.nat k).natIp ≠ 0 →
    ∃ p, (c.port p).iface.ready = true ∧ (c.port p).iface.natKey = k

section Owners

variable {cf : Conf} {c : Config} {k : NatKey} {a : Ip4} {p : PortId}

theorem PortsOk.mem_portList (h : PortsOk cf c) (hp : (c.port p).iface.ready = true) : p ∈ cf.portList :=
  List.contains_iff_mem.mp (h.ready hp).2.2

theorem DnatInv.vip_iff (h : DnatInv cf c) : c.nat.view.VipAt k a ↔ IsVip cf c k a := by
  constructor
  · rintro ⟨hne, hip⟩
    obtain ⟨p, hp, hkey⟩ := h.held ⟨a, k.vni⟩ (.inl (by rwa [hip]))
    exact ⟨hne, p, h.ports.mem_portList hp, hp, hkey, by rwa [hkey]⟩
  · rintro ⟨hne, p, -, -, hkey, hip⟩
    exact ⟨hne, by rwa [← hkey]⟩

theorem DnatInv.nat_iff (h : DnatInv cf c) : c.nat.view.NatAt k ↔ IsNat cf c k := by
  constructor
  · rintro ⟨hne, a, hip⟩
    obtain ⟨p, hp, hkey⟩ := h.held ⟨a, k.vni⟩ (.inr (by rwa [hip]))
    exact ⟨hne, p, h.ports.mem_portList hp, hp, congrArg NatKey.vni hkey, by rwa [hkey]⟩
  · rintro ⟨hne, p, -, -, hvni, hip⟩
    refine ⟨hne, (c.port p).iface.ownIp, ?_⟩
    rw [← hvni]
    exact hip

theorem DnatInv.dnatExact (h : DnatInv cf c) : DnatExact cf c := by
  have hshared : ∀ k, c.nat.view.Shared k ↔ IsNat cf c k ∨ IsNeigh c k := fun k => or_congr h.nat_iff Iff.rfl
  intro k
  by_cases hv : ∃ a, IsVip cf c k a
  · obtain ⟨a, ha⟩ := hv
    have hd : c.nat.dnatTbl k = some a := h.exact.vip (h.vip_iff.mpr ha)
    refine ⟨iff_of_true (by rw [hd]; rfl) (.inl ⟨a, ha⟩), fun d hd' => ⟨fun b hb => ?_, fun hno => absurd ha (hno a)⟩⟩
    obtain rfl := Option.some.inj (hd.symm.trans hd')
    exact h.exact.vip_unique (h.vip_iff.mpr ha) (h.vip_iff.mpr hb)
  · have hno : ∀ a, ¬ c.nat.view.VipAt k a := fun a ha => hv ⟨a, h.vip_iff.mp ha⟩
    by_cases hs : c.nat.view.Shared k
    · have hd : c.nat.dnatTbl k = some 0 := h.exact.shared hno hs
      refine ⟨iff_of_true (by rw [hd]; rfl) (.inr ((hshared k).mp hs)), fun d hd' => ⟨fun a ha => ?_, fun _ => ?_⟩⟩
      · exact absurd ⟨a, ha⟩ hv
      · exact (Option.some.inj (hd.symm.trans hd')).symm
    · have hd : c.nat.dnatTbl k = none := h.exact.none hno hs
      refine ⟨iff_of_false (by rw [hd]; simp) ?_, fun d hd' => ?_⟩
      · rintro (ha | ho)
        · exact hv ha
        · exact hs ((hshared k).mpr ho)
      · rw [hd] at hd'
        cases hd'

theorem DnatInv.dropNeigh (h : DnatInv cf c) {vni : Vni} (hd : DropSafe cf c vni) :
    (c.nat.view.dropNeigh vni).Exact := by
  refine h.exact.dropNeigh fun n hn hv => ?_
  obtain ⟨p, -, hp⟩ | hn := hd n hn hv
  · exact .inl ⟨_, h.vip_iff.mpr hp⟩
  · exact .inr (h.nat_iff.mpr hn)

end Owners

/-! ## Requests -/

section Requests

variable {cf : Conf} {e : Env} {c c' : Config} {s : LbState} {r : Request} {o : Outcome} {p : PortId} {id : Id64}
  {addr : IpAddr}

/-- A free port has no ready interface. -/
theorem PortsOk.ne_of_ready {q : PortId} (h : PortsOk cf c) (hal : (c.port p).allocated = false)
    (hq : (c.port q).iface.ready = true) : q ≠ p := by
  rintro rfl
  rw [h.not_ready hal] at hq
  cases hq

theorem DnatInv.init (cf : Conf) : DnatInv cf (Config.init cf) := by
  refine ⟨.init cf, ⟨fun h => absurd h.2.symm h.1, fun _ h => ?_, fun _ _ => rfl⟩, fun k h => ?_⟩
  · obtain ⟨hne, a, ha⟩ | ⟨n, hn, -⟩ := h
    · exact absurd ha.symm hne
    · cases hn
  · exact h.elim (fun h => absurd rfl h) fun h => absurd rfl h

/-- The ready interfaces and the addresses in use stay. -/
theorem DnatInv.of (h : DnatInv cf c) (hports : PortsOk cf c') (hexact : c'.nat.view.Exact)
    (hready : ∀ q, (c.port q).iface.ready = true →
      (c'.port q).iface.ready = true ∧ (c'.port q).iface.natKey = (c.port q).iface.natKey)
    (hheld : ∀ k, c'.nat.view.vip k ≠ 0 ∨ (c'.nat.view.nat k).natIp ≠ 0 →
      (c.nat.view.vip k ≠ 0 ∨ (c.nat.view.nat k).natIp ≠ 0) ∨
        ∃ q, (c.port q).iface.ready = true ∧ (c.port q).iface.natKey = k) : DnatInv cf c' := by
  refine ⟨hports, hexact, fun k hk => ?_⟩
  have hold : ∃ q, (c.port q).iface.ready = true ∧ (c.port q).iface.natKey = k := (hheld k hk).elim (h.held k) id
  obtain ⟨q, hq, hkey⟩ := hold
  exact ⟨q, (hready q hq).1, (hready q hq).2.trans hkey⟩

/-- A VIP that is not there is cleared. -/
theorem NatView.Exact.clearVip {w : NatView} {j : NatKey} (h : w.Exact) (hzero : w.vip j = 0) :
    (w.clearVip j).Exact := by
  refine h.congr (fun k a => ?_) (NatView.shared_of_natIp (NatView.clearVip_natIp w j) rfl) rfl
  unfold NatView.VipAt
  rw [NatView.clearVip_vip hzero]

/-- The NAT fields of the records do not matter. -/
theorem SamePorts.ready (h : SamePorts c c') (q : PortId) (hq : (c.port q).iface.ready = true) :
    (c'.port q).iface.ready = true ∧ (c'.port q).iface.natKey = (c.port q).iface.natKey := by
  obtain ⟨a, lo, hi, hp⟩ := h.port q
  rw [hp]
  exact ⟨hq, rfl⟩

theorem DnatInv.createVip (h : DnatInv cf c) (hports : PortsOk cf o.cfg) (hsafe : ∀ ip, addr = .v4 ip → ip ≠ 0)
    (ho : dpProcessRequest cf e c s (.createVip id addr) = some o) : DnatInv cf o.cfg := by
  have hready := (dpProcessRequest_kept h.ports rfl ho).ready
  obtain hview | ⟨p, a, hp, ha, hzero, hview | ⟨hnone, hview⟩⟩ := createVip_view ho
  · exact h.of hports (hview ▸ h.exact) hready fun k hk => .inl (hview ▸ hk)
  · refine h.of hports (hview ▸ h.exact.clearVip hzero) hready fun k hk => .inl ?_
    rwa [hview, NatView.clearVip_natIp, NatView.clearVip_vip hzero] at hk
  · refine h.of hports (hview ▸ h.exact.addVip hzero (hsafe a ha) hnone) hready fun k hk => ?_
    rw [hview] at hk
    by_cases hkp : k = (c.port p).iface.natKey
    · exact .inr ⟨p, (h.ports.mapped.mp hp).1, hkp.symm⟩
    · refine .inl (hk.imp_left fun hk => ?_)
      have hset : ((c.nat.view.setVip (c.port p).iface.natKey a).setDnat ⟨a, (c.port p).iface.vni⟩
        (some (c.port p).iface.ownIp)).vip k = c.nat.view.vip k := Function.update_of_ne hkp ..
      rwa [hset] at hk

theorem DnatInv.deleteVip (h : DnatInv cf c) (hports : PortsOk cf o.cfg) (hsafe : DnatSafe cf ⟨c, s⟩ (.deleteVip id))
    (ho : dpProcessRequest cf e c s (.deleteVip id) = some o) : DnatInv cf o.cfg := by
  have hready := (dpProcessRequest_kept h.ports rfl ho).ready
  obtain hview | ⟨p, hp, hne, hview⟩ := deleteVip_view ho
  · exact h.of hports (hview ▸ h.exact) hready fun k hk => .inl (hview ▸ hk)
  · obtain ⟨hn, hg⟩ := hsafe p hp
    have hs : ¬ c.nat.view.Shared ⟨c.nat.view.vip (c.port p).iface.natKey, (c.port p).iface.vni⟩ := by
      rintro (hn' | hg')
      · exact hn (h.nat_iff.mp hn')
      · exact hg hg'
    refine h.of hports ?_ hready fun k hk => .inl ?_
    · rw [hview]
      exact (h.exact.dropVip hne hs).congr (fun _ _ => Iff.rfl)
        (NatView.shared_of_natIp (NatView.clearVip_natIp (c.nat.view.setDnat _ _) _) rfl) rfl
    · rw [hview, NatView.clearVip_natIp] at hk
      refine hk.imp_left fun hk hzero => hk ?_
      show Function.update c.nat.view.vip _ 0 k = 0
      rw [Function.update_apply, hzero, ite_self]

theorem DnatInv.createNat {lo hi : UInt16} (h : DnatInv cf c) (hports : PortsOk cf o.cfg)
    (hsafe : ∀ ip, addr = .v4 ip → ip ≠ 0) (ho : dpProcessRequest cf e c s (.createNat id addr lo hi) = some o) :
    DnatInv cf o.cfg := by
  have hready := (dpProcessRequest_kept h.ports rfl ho).ready
  obtain ⟨hview, -⟩ | ⟨p, a, hp, ha, hzero, ⟨hview, -⟩ | ⟨hview, -⟩⟩ := createNat_view ho
  · exact h.of hports (hview ▸ h.exact) hready fun k hk => .inl (hview ▸ hk)
  · have hip : ∀ k, ((c.nat.view.setNat (c.port p).iface.natKey .zero).nat k).natIp = (c.nat.view.nat k).natIp := by
      intro k
      show (Function.update c.nat.view.nat _ _ k).natIp = _
      rw [Function.update_apply]
      split
      next hk => rw [hk, hzero]; rfl
      · rfl
    refine h.of hports ?_ hready fun k hk => .inl ?_
    · rw [hview]
      exact h.exact.congr (fun _ _ => Iff.rfl) (NatView.shared_of_natIp hip rfl) rfl
    · rwa [hview, hip] at hk
  · refine h.of hports ?_ hready fun k hk => ?_
    · rw [hview]
      exact h.exact.share rfl rfl fun j => NatView.shared_setNat hzero (hsafe a ha)
    · by_cases hkp : k = (c.port p).iface.natKey
      · exact .inr ⟨p, (h.ports.mapped.mp hp).1, hkp.symm⟩
      · refine .inl ?_
        have hset : (c.nat.view.setNat (c.port p).iface.natKey ⟨a, lo, hi⟩).nat k = c.nat.view.nat k :=
          Function.update_of_ne hkp ..
        rw [hview] at hk
        unfold NatView.shareDnat at hk
        split at hk
        · rwa [hset] at hk
        · rw [← hset]
          exact hk

theorem DnatInv.deleteNat (h : DnatInv cf c) (hports : PortsOk cf o.cfg) (hsafe : DnatSafe cf ⟨c, s⟩ (.deleteNat id))
    (ho : dpProcessRequest cf e c s (.deleteNat id) = some o) : DnatInv cf o.cfg := by
  have hready := (dpProcessRequest_kept h.ports rfl ho).ready
  obtain ⟨hview, -⟩ | ⟨p, hp, hne, hview, -⟩ := deleteNat_view ho
  · exact h.of hports (hview ▸ h.exact) hready fun k hk => .inl (hview ▸ hk)
  · -- the entry is looked for among neighbours only, which a NAT range does not change
    have hcomm : ∀ k, (c.nat.view.unshareDnat k).setNat (c.port p).iface.natKey .zero =
        (c.nat.view.setNat (c.port p).iface.natKey .zero).unshareDnat k := by
      intro k
      by_cases hany : c.nat.view.neigh.any (dpIsNetworkNatIp · k.ip k.vni) = true
      · exact (congrArg (NatView.setNat · _ .zero) (if_pos hany)).trans (if_pos hany).symm
      · exact (congrArg (NatView.setNat · _ .zero) (if_neg hany)).trans (if_neg hany).symm
    rw [hcomm] at hview
    refine h.of hports ?_ hready fun k hk => .inl ?_
    · rw [hview]
      refine h.exact.unshare rfl rfl hne (fun j hj => NatView.shared_clearNat hj) (.inl ⟨hne, _, rfl⟩) ?_
      by_cases hg : c.nat.view.NeighAt ⟨(c.nat.view.nat (c.port p).iface.natKey).natIp, (c.port p).iface.natKey.vni⟩
      · exact .inl hg
      have hlast := (hsafe p hp hne).resolve_left hg
      refine .inr ⟨fun a ha => ?_, ?_⟩
      · obtain ⟨-, q, hq, hqr, hkey, hvip⟩ := h.vip_iff.mp ha
        exact (hlast q hq hqr (congrArg NatKey.vni hkey)).1 hvip
      · rintro (⟨-, a, ha⟩ | hg')
        · by_cases hj : (⟨a, (c.port p).iface.vni⟩ : NatKey) = (c.port p).iface.natKey
          · rw [show (⟨a, _⟩ : NatKey) = _ from hj] at ha
            have hset : (c.nat.view.setNat (c.port p).iface.natKey .zero).nat (c.port p).iface.natKey = .zero :=
              Function.update_self ..
            rw [hset] at ha
            exact hne ha.symm
          · have hset : (c.nat.view.setNat (c.port p).iface.natKey .zero).nat ⟨a, (c.port p).iface.vni⟩ =
              c.nat.view.nat ⟨a, (c.port p).iface.vni⟩ := Function.update_of_ne hj ..
            replace ha := (congrArg NatRange.natIp hset).symm.trans ha
            obtain ⟨q, hqr, hkey⟩ := h.held ⟨a, (c.port p).iface.vni⟩ (.inr (by rw [ha]; exact hne))
            refine hj (hkey.symm.trans ((hlast q (h.ports.mem_portList hqr) hqr (congrArg NatKey.vni hkey)).2 ?_))
            rw [hkey]
            exact ha
        · exact hg hg'
    · rw [hview] at hk
      have hvip : ((c.nat.view.setNat (c.port p).iface.natKey .zero).unshareDnat
          ⟨(c.nat.view.nat (c.port p).iface.natKey).natIp, (c.port p).iface.vni⟩).vip = c.nat.view.vip := by
        unfold NatView.unshareDnat
        split <;> rfl
      have hnat : ((c.nat.view.setNat (c.port p).iface.natKey .zero).unshareDnat
          ⟨(c.nat.view.nat (c.port p).iface.natKey).natIp, (c.port p).iface.vni⟩).nat =
          Function.update c.nat.view.nat (c.port p).iface.natKey .zero := by
        unfold NatView.unshareDnat
        split <;> rfl
      rw [hvip, hnat] at hk
      refine hk.imp_right fun hk hzero => hk ?_
      rw [Function.update_apply]
      split
      · rfl
      · exact hzero

/-- The neighbours change, the interfaces stay. -/
theorem DnatInv.neigh (h : DnatInv cf c) (hports : PortsOk cf c') (hs : SamePorts c c')
    (hexact : c'.nat.view.Exact) (hvip : c'.nat.view.vip = c.nat.view.vip) (hnat : c'.nat.view.nat = c.nat.view.nat) :
    DnatInv cf c' :=
  h.of hports hexact hs.ready fun k hk => .inl (by rwa [hvip, hnat] at hk)

theorem DnatInv.createNeighnat {vni : Vni} {lo hi : UInt16} {ul : Ip6} {a : Ip4} (h : DnatInv cf c)
    (hports : PortsOk cf o.cfg) (ha : a ≠ 0)
    (ho : dpProcessRequest cf e c s (.createNeighnat (.v4 a) vni lo hi ul) = some o) : DnatInv cf o.cfg := by
  have hport := dpProcessRequest_kept h.ports rfl ho
  obtain hview | hview := createNeighnat_view ha ho
  · exact h.neigh hports hport (hview ▸ h.exact) (by rw [hview]) (by rw [hview])
  · refine h.neigh hports hport ?_ ?_ ?_
    · rw [hview]
      refine h.exact.share rfl rfl fun j => ?_
      unfold NatView.Shared NatView.NeighAt
      rw [or_assoc]
      refine or_congr Iff.rfl ?_
      simp only [List.mem_append, List.mem_singleton]
      constructor
      · rintro ⟨n, hn | rfl, hvni, hip⟩
        · exact .inl ⟨n, hn, hvni, hip⟩
        · exact .inr (NatKey.ext hip.symm hvni.symm)
      · rintro (⟨n, hn, hj⟩ | rfl)
        · exact ⟨n, .inl hn, hj⟩
        · exact ⟨_, .inr rfl, rfl, rfl⟩
    · rw [hview]
      unfold NatView.shareDnat
      split <;> rfl
    · rw [hview]
      unfold NatView.shareDnat
      split <;> rfl

theorem DnatInv.deleteNeighnat {vni : Vni} {lo hi : UInt16} {a : Ip4} (h : DnatInv cf c) (hports : PortsOk cf o.cfg)
    (hsafe : DnatSafe cf ⟨c, s⟩ (.deleteNeighnat (.v4 a) vni lo hi))
    (ho : dpProcessRequest cf e c s (.deleteNeighnat (.v4 a) vni lo hi) = some o) : DnatInv cf o.cfg := by
  have hport := dpProcessRequest_kept h.ports rfl ho
  obtain hview | ⟨hany, hview⟩ := deleteNeighnat_view ho
  · exact h.neigh hports hport (hview ▸ h.exact) (by rw [hview]) (by rw [hview])
  · obtain ⟨n, hn, hmatch⟩ := List.any_eq_true.mp hany
    have hentry : ∀ n, dpIsNetworkNatEntry n a vni lo hi = true → a ≠ 0 ∧ n.vni = vni ∧ n.natIp = a := by
      intro n hn
      simp only [dpIsNetworkNatEntry, dpIsNetworkNatIp, Bool.and_eq_true, beq_iff_eq, bne_iff_ne] at hn
      exact ⟨hn.1.1.2.1, hn.1.1.1, hn.1.1.2.2⟩
    refine h.neigh hports hport ?_ ?_ ?_
    · rw [hview]
      refine h.exact.unshare rfl rfl (hentry n hmatch).1 (fun j hj => ?_) (.inr ⟨n, hn, (hentry n hmatch).2⟩) ?_
      · refine or_congr Iff.rfl ⟨?_, ?_⟩
        · rintro ⟨m, hm, hmj⟩
          exact ⟨m, List.mem_of_mem_eraseP hm, hmj⟩
        · rintro ⟨m, hm, hmj⟩
          refine ⟨m, (List.mem_eraseP_of_neg fun hm' => hj ?_).mpr hm, hmj⟩
          exact NatKey.ext (hmj.2.symm.trans (hentry m hm').2.2) (hmj.1.symm.trans (hentry m hm').2.1)
      · by_cases hg : ({ c.nat.view with
            neigh := c.nat.view.neigh.eraseP (dpIsNetworkNatEntry · a vni lo hi) } : NatView).NeighAt ⟨a, vni⟩
        · exact .inl hg
        have hlast := Or.resolve_left (hsafe hany) fun hany' => hg (NatView.any_neigh_iff.mp hany').2
        refine .inr ⟨fun b hb => ?_, ?_⟩
        · obtain ⟨-, q, hq, hqr, hkey, hvip⟩ := h.vip_iff.mp hb
          exact (hlast q hq hqr (congrArg NatKey.vni hkey)).1 hvip
        · rintro (hn | hg')
          · obtain ⟨-, q, hq, hqr, hvni, hnat⟩ := h.nat_iff.mp hn
            exact (hlast q hq hqr hvni).2 hnat
          · exact hg hg'
    · rw [hview]
      unfold NatView.unshareDnat
      split <;> rfl
    · rw [hview]
      unfold NatView.unshareDnat
      split <;> rfl

/-- An interface is deleted that has no address left, or shares its key. -/
theorem DnatInv.deleted (h : DnatInv cf c) (hports : PortsOk cf c') (hp : c.ifaceIdTable id = some p)
    (hd : Deleted c p id c') (hsafe : DnatSafe cf ⟨c, s⟩ (.deleteInterface id)) : DnatInv cf c' := by
  obtain ⟨hkeys, hdrop⟩ := hsafe p hp
  have hsame : c'.nat.view.vip = c.nat.view.vip ∧ c'.nat.view.nat = c.nat.view.nat := by
    obtain hview | ⟨-, hview⟩ := hd.view
    · rw [hview]
      exact ⟨rfl, rfl⟩
    · rw [hview]
      exact ⟨rfl, rfl⟩
  refine ⟨hports, ?_, fun k hk => ?_⟩
  · obtain hview | ⟨hone, hview⟩ := hd.view
    · exact hview ▸ h.exact
    · exact hview ▸ h.dropNeigh (hdrop hone)
  · rw [hsame.1, hsame.2] at hk
    obtain ⟨q, hq, hkey⟩ := h.held k hk
    by_cases hqp : q = p
    · obtain ⟨hvip, hnat⟩ | ⟨q', -, hne, hq', hkey'⟩ := hkeys
      · rw [← hkey, hqp] at hk
        exact (hk.elim (fun hk => hk hvip) fun hk => hk hnat).elim
      · refine ⟨q', ?_, ?_⟩
        · rw [hd.other hne]
          exact hq'
        · rw [hd.other hne, hkey', ← hqp]
          exact hkey
    · refine ⟨q, ?_, ?_⟩
      · rw [hd.other hqp]
        exact hq
      · rw [hd.other hqp]
        exact hkey

/-- **Every safe request keeps the table exact.** -/
theorem DnatInv.request (h : DnatInv cf c) (hsafe : DnatSafe cf ⟨c, s⟩ r) (ho : dpProcessRequest cf e c s r = some o) :
    DnatInv cf o.cfg := by
  have hports := h.ports.request ho
  have hkept := fun hr => dpProcessRequest_kept h.ports (r := r) hr ho
  cases r with
  | createVip id addr => exact h.createVip hports (fun ip haddr => by subst haddr; exact hsafe) ho
  | deleteVip id => exact h.deleteVip hports hsafe ho
  | createNat id addr lo hi => exact h.createNat hports (fun ip haddr => by subst haddr; exact hsafe) ho
  | deleteNat id => exact h.deleteNat hports hsafe ho
  | createNeighnat addr vni lo hi ul =>
    cases addr with
    | v4 a => exact h.createNeighnat hports hsafe ho
    | v6 a => cases ho; exact h
  | deleteNeighnat addr vni lo hi =>
    cases addr with
    | v4 a => exact h.deleteNeighnat hports hsafe ho
    | v6 a => cases ho; exact h
  | reqInitialize =>
    cases dpProcessRequest_cases ho with
    | initialized => exact h.neigh hports (hkept rfl) (h.dropNeigh hsafe) rfl rfl
    | refused | noVnf | undone => exact h.neigh hports (hkept rfl) h.exact rfl rfl
  | deleteLb id =>
    obtain hview | ⟨k, hid, hone, hview⟩ := deleteLb_view ho
    · exact h.neigh hports (hkept rfl) (hview ▸ h.exact) (by rw [hview]) (by rw [hview])
    · exact h.neigh hports (hkept rfl) (hview ▸ h.dropNeigh (hsafe k hid hone)) (by rw [hview]; rfl)
        (by rw [hview]; rfl)
  | createInterface pci id vni ip4 ip6 total pub =>
    cases dpProcessRequest_cases ho with
    | refused | noVnf | undone => exact h.neigh hports (.refl rfl rfl h.ports.uses) h.exact rfl rfl
    | ifaceUndone _ hal _ hun =>
      have hun := hun h.ports.uses
      refine h.of hports ?_ (fun q hq => ?_) fun k hk => .inl ?_
      · obtain hview | ⟨hnone, hview⟩ := hun.view
        · exact hview ▸ h.exact
        · exact hview ▸ h.dropNeigh (hsafe hnone)
      · rw [hun.other (h.ports.ne_of_ready hal hq)]
        exact ⟨hq, rfl⟩
      · obtain hview | ⟨-, hview⟩ := hun.view
        · exact hview ▸ hk
        · rw [hview] at hk
          exact hk
    | ifaceCreated _ hal _ hcr =>
      refine h.of hports (hcr.nat ▸ h.exact) (fun q hq => ?_) fun k hk => .inl (hcr.nat ▸ hk)
      rw [hcr.other (h.ports.ne_of_ready hal hq)]
      exact ⟨hq, rfl⟩
  | deleteInterface id =>
    cases dpProcessRequest_cases ho with
    | ifaceDeleted hp hd => exact h.deleted hports hp hd hsafe
    | refused | noVnf | undone => exact h.neigh hports (.refl rfl rfl h.ports.uses) h.exact rfl rfl
  | _ =>
    have hnat := dpProcessRequest_nat rfl ho
    exact h.neigh hports (hkept rfl) (hnat ▸ h.exact) (by rw [hnat]) (by rw [hnat])

end Requests

instance (cf : Conf) (c : Config) (k : NatKey) (a : Ip4) : Decidable (IsVip cf c k a) :=
  inferInstanceAs (Decidable (_ ∧ _))

instance (cf : Conf) (c : Config) (k : NatKey) : Decidable (IsNat cf c k) := inferInstanceAs (Decidable (_ ∧ _))

instance (c : Config) (k : NatKey) : Decidable (IsNeigh c k) :=
  inferInstanceAs (Decidable (∃ n ∈ c.nat.natHeadp, n.vni = k.vni ∧ n.natIp = k.ip))

instance (cf : Conf) (c : Config) (vni : Vni) : Decidable (DropSafe cf c vni) :=
  inferInstanceAs (Decidable (∀ _ ∈ _, _))

instance (cf : Conf) (s : Ctl) : ∀ r, Decidable (DnatSafe cf s r)
  | .createVip _ (.v4 _) | .createNat _ (.v4 _) .. | .createNeighnat (.v4 _) .. => inferInstanceAs (Decidable (_ ≠ _))
  | .deleteVip _ | .deleteNat _ | .deleteInterface _ | .deleteLb _ => inferInstanceAs (Decidable (∀ _ ∈ _, _))
  | .reqInitialize => inferInstanceAs (Decidable (DropSafe ..))
  | .createInterface .. | .deleteNeighnat (.v4 _) .. => inferInstanceAs (Decidable (_ → _))
  | .createVip _ (.v6 _) | .createNat _ (.v6 _) .. | .createNeighnat (.v6 _) .. | .deleteNeighnat (.v6 _) ..
  | .createPrefix .. | .deletePrefix .. | .createRoute .. | .deleteRoute .. | .getVip _ | .getNat _
  | .createLoadBalancerPrefix .. | .deleteLoadBalancerPrefix .. | .createLb .. | .createLbtarget .. | .deleteLbtarget ..
  | .resetVni .. => inferInstanceAs (Decidable True)

/-- **The DNAT table**: in every run in which no request takes an owner of an address away and leaves another one behind
that it does not look for, the table has an entry for exactly the addresses in use. -/
theorem dnat_table {cf : Conf} {es : List Call} {s : Ctl}
    (hsafe : Along (ctlStep cf) (fun s a => DnatSafe cf s a.1) (Ctl.init cf) es)
    (hrun : run (ctlStep cf) (Ctl.init cf) es = some s) : DnatExact cf s.cfg := by
  have h : DnatInv cf s.cfg := by
    refine run_invariant (I := fun s => DnatInv cf s.cfg) (P := fun s a => DnatSafe cf s a.1) ?_ (.init cf) hsafe hrun
    intro s a s' hs ha hstep
    obtain ⟨o, ho, hcfg, -⟩ := ctlStep_eq hstep
    rw [hcfg]
    exact hs.request ha ho
  exact h.dnatExact

/-- A VIP, a NAT address shared with a neighbour, and their deletion. -/
theorem dnat_table_neighbour : ∃ s, run (ctlStep smallConf) (Ctl.init smallConf)
      (calls [.createInterface 2 1 100 0x0a000001 0 0 0, .createVip 1 (.v4 0x01020305),
        .createNat 1 (.v4 0x01020304) 100 200, .createNeighnat (.v4 0x01020304) 100 200 300 1, .deleteNat 1,
        .deleteVip 1, .deleteNeighnat (.v4 0x01020304) 100 200 300, .deleteInterface 1]) = some s ∧
    DnatExact smallConf s.cfg := by
  refine exists_some_of (by decide) ?_
  intro s hs
  exact dnat_table (by decide +kernel) hs

/-- Two interfaces share a NAT address and one of them gives it up; an interface with a VIP is deleted. -/
theorem dnat_table_shared :
    (∃ s, run (ctlStep smallConf) (Ctl.init smallConf)
        (calls [.createInterface 2 1 100 0x0a000001 0 0 0, .createInterface 3 2 100 0x0a000002 0 0 0,
          .createNat 1 (.v4 0x01020304) 100 200, .createNat 2 (.v4 0x01020304) 200 300, .deleteNat 2]) = some s ∧
        IsNat smallConf s.cfg ⟨0x01020304, 100⟩ ∧ s.cfg.nat.dnatTbl ⟨0x01020304, 100⟩ = none) ∧
      ∃ s, run (ctlStep smallConf) (Ctl.init smallConf)
        (calls [.createInterface 2 1 100 0x0a000001 0 0 0, .createVip 1 (.v4 0x01020305), .deleteInterface 1]) =
        some s ∧ (∀ p ∈ smallConf.portList, (s.cfg.port p).iface.ready = false) ∧ s.cfg.nat.natHeadp = [] ∧
        s.cfg.nat.dnatTbl ⟨0x01020305, 100⟩ = some 0x0a000001 := by
  decide +kernel

end Dpservice
