import Dpservice.Lib.Ownership
import Dpservice.Tracking

/-!
# The NAT ports in use

Each flow that network NAT translates holds one key of the port-overload table. The key is taken with the addresses and
ports in the headers of a packet (`overloadKeyOf`) and given back with the keys stored in the flow
(`FlowValue.overloadKey`); for a packet that belongs to its flow these agree (`overloadKey_eq`), but not for an ICMP
error, whose flow key comes from the header it quotes. Nor is the key given back when NAT64 cannot convert the packet,
or when the source cannot be entered into the portmap.

- `natKeys` is the key each flow holds; every effect leaves it alone, or changes it for one flow;
- `port_overload_exact`: the table has exactly the held keys, in every run without such packets (`KeyGivenBack`).
-/

namespace Dpservice

open Relation (ReflTransGen)

def natKeys (d : Dataplane) (f : ℕ) : Option OverloadKey := (d.flows f).bind FlowValue.natKey

section Keys

variable {cf : Conf} {e : Env} {c : Config} {d d' : Dataplane} {n : Node} {m : Mbuf} {f : ℕ} {fv fv' : FlowValue}

theorem natKey_of_not_local (h : fv.natType ≠ .networkLocal) : fv.natKey = none := if_pos h

theorem FlowUpd.natKey (h : FlowUpd fv fv') : fv'.natKey = fv.natKey := by
  unfold FlowValue.natKey FlowValue.overloadKey
  rw [h.reply, h.org]
  by_cases hl : fv.natType = .networkLocal
  · rw [if_neg (not_not.mpr hl), if_neg (not_not.mpr (h.isLocal.mpr hl))]
  · rw [if_pos hl, if_pos (mt h.isLocal.mp hl)]

theorem natKeys_quiet (h : Quiet d d') : natKeys d' = natKeys d := by
  funext f
  unfold natKeys
  cases hf : d.flows f with
  | none =>
    cases hf' : d'.flows f with
    | none => rfl
    | some fv' =>
      obtain ⟨fv, hfv, -⟩ := h.was_live hf'
      rw [hf] at hfv
      cases hfv
  | some fv =>
    obtain ⟨fv', hf', hu⟩ := h.live hf
    rw [hf']
    exact hu.natKey

theorem natKeys_free (h : dpFreeFlow d f = some d') : natKeys d' = Function.update (natKeys d) f none := by
  obtain ⟨fv, -, hflows, -⟩ := dpFreeFlow_eq h
  funext g
  unfold natKeys
  rw [hflows]
  by_cases hg : g = f
  · rw [hg, Table.del_self, Function.update_self]
    rfl
  · rw [Table.del_of_ne hg, Function.update_of_ne hg]

theorem natKeys_insert {key : FlowKey} (hb : Base d) (h : Inserts m d d' key fv) : natKeys d' = natKeys d := by
  funext g
  unfold natKeys
  rw [h.flows]
  by_cases hg : g = d.nextFlow
  · have hdead : d.flows g = none := by
      cases hd : d.flows g with
      | none => rfl
      | some gv => exact absurd (hb.live_lt g gv hd) (by omega)
    rw [hdead, hg, Table.add_self]
    exact natKey_of_not_local h.notLocal
  · rw [Table.add_of_ne hg]

theorem natKeys_rekey {old : FlowKey} {added : Bool} (h : Rekey d d' f fv fv' old added) :
    natKeys d' = Function.update (natKeys d) f fv'.natKey := by
  funext g
  unfold natKeys
  rw [h.flows]
  by_cases hg : g = f
  · rw [hg, Table.add_self, Function.update_self]
    rfl
  · rw [Table.add_of_ne hg, Function.update_of_ne hg]

/-- A flow that no node has translated holds no key. -/
theorem natKeys_plain {old : FlowKey} {added : Bool} (hb : Base d) (h : Rekey d d' f fv fv' old added) :
    natKeys d f = none := by
  unfold natKeys
  rw [h.live]
  exact natKey_of_not_local (hb.plain f fv h.live h.plain).2

/-- A flow whose NAT is not network NAT does not get a key. -/
theorem natKeys_rekey_not_local {old : FlowKey} {added : Bool} (hb : Base d) (h : Rekey d d' f fv fv' old added)
    (hl : fv'.natType ≠ .networkLocal) : natKeys d' = natKeys d := by
  rw [natKeys_rekey h, natKey_of_not_local hl]
  exact Function.update_eq_self_iff.mpr (natKeys_plain hb h).symm

/-- **The key that is given back is the one that was taken**, if the flow belongs to the packet. -/
theorem overloadKey_eq {natIp : Ip4} {p : UInt16} (hk : KeyOf m.df fv.org) (ho : fv'.org = fv.org)
    (hr : fv'.reply.portDst = p) : fv'.overloadKey natIp = overloadKeyOf m.df natIp p := by
  have hl4 : fv.org.portDst = if isIcmp m.df.l4Type then m.df.icmpIdent else m.df.dstPort := by
    rcases hk.l4 with ⟨htu, hp, -⟩ | ⟨hi, hp, -⟩
    · rw [hp, if_neg]
      rcases htu with h | h <;> simp +decide [h, isIcmp]
    · rw [hp, if_pos hi]
  unfold FlowValue.overloadKey overloadKeyOf
  rw [ho, hr, hl4, hk.proto]
  rcases hk.l3 with ⟨ht, hd, -⟩ | ⟨ht, hd, -⟩
  · simp [ht, hd]
  · simp [ht, hd]

/-- The reply key of a translated flow is for the NAT address and port. -/
theorem natReply_dst (m : Mbuf) (fv : FlowValue) (natIp : Ip4) (p : UInt16) :
    (natReply m fv natIp p).l3Dst = .v4 natIp ∧ (natReply m fv natIp p).portDst = p := by
  unfold natReply
  split <;> exact ⟨rfl, rfl⟩

end Keys

/-! ## The packets that are translated -/

section Turn

variable {cf : Conf} {e : Env} {c : Config} {d d' : Dataplane} {n : Node} {m : Mbuf} {f : ℕ} {fv fv' : FlowValue}
  {r : NatRange}

/-- The flow of a packet that is to be translated has the key of the packet. -/
theorem keyOf_natTurn (hm : NodeOk d m n) (h : natTurn cf e c d n m = some (f, fv, r))
    (he : m.df.isIcmpErr = false) : PktOk d m ∧ KeyOf m.df fv.org := by
  obtain ⟨rfl, hc, hf, hp, hd, -⟩ := natTurn_inv h
  exact ⟨hm, PktOk.key hm f fv hc hf hp hd he⟩

/-- The key that a flow holds once it has been translated. -/
theorem natKey_of_nat {p : UInt16} (hk : KeyOf m.df fv.org) (ho : fv'.org = fv.org)
    (hr : fv'.reply = natReply m fv r.natIp p) (hl : fv'.natType = .networkLocal) :
    fv'.natKey = some (overloadKeyOf m.df r.natIp p) := by
  obtain ⟨hdst, hport⟩ := natReply_dst m fv r.natIp p
  unfold FlowValue.natKey
  rw [if_neg (not_not.mpr hl), hr, hdst]
  exact congrArg some (overloadKey_eq hk ho (by rw [hr, hport]))

end Turn

/-! ## Exactness -/

/-- The keys of the port-overload table and the flows translated by network NAT correspond one to one. -/
structure OverloadExact (d : Dataplane) : Prop where
  held : ∀ f fv, d.flows f = some fv → fv.natType = .networkLocal →
    ∃ k, fv.natKey = some k ∧ d.ports.portoverloadTbl k = some ()
  inj : ∀ f g fv gv k, d.flows f = some fv → d.flows g = some gv → fv.natKey = some k → gv.natKey = some k → f = g
  only : ∀ k, d.ports.portoverloadTbl k = some () →
    ∃ f fv, d.flows f = some fv ∧ fv.natType = .networkLocal ∧ fv.natKey = some k

/-- If a port is taken for the packet, its flow will give it back: the packet is not an ICMP error, NAT64 can convert
it, and its source can be entered into the portmap unless it is there already. -/
def KeyGivenBack (cf : Conf) (s : Service) (e : Env) (n : Node) (m : Mbuf) : Prop :=
  ∀ t ∈ natTurn cf e s.cfg s.dpl n m,
    s.dpl.ports.candidates t.2.2 m.df (ifaceVni s.cfg m) ≠ [] → e.ok .overloadAdd = true →
      m.df.isIcmpErr = false ∧ (m.df.l3Type = .ipv6 → nat64Converts m = true) ∧
        (s.dpl.ports.kept t.2.2 m.df (ifaceVni s.cfg m) = none → e.ok .portmapAdd = true)

instance (cf : Conf) (s : Service) (e : Env) (n : Node) (m : Mbuf) : Decidable (KeyGivenBack cf s e n m) := by
  unfold KeyGivenBack
  infer_instance

/-- Every flow translated by network NAT holds a key. -/
def LocalHolds (d : Dataplane) : Prop :=
  ∀ f fv, d.flows f = some fv → fv.natType = .networkLocal → fv.natKey ≠ none

section LocalHolds

variable {cf : Conf} {e : Env} {c : Config} {d d' : Dataplane} {n : Node} {m : Mbuf} {f : ℕ} {fv fv' : FlowValue}

theorem LocalHolds.init : LocalHolds {} := by
  intro f fv hf
  cases hf

theorem LocalHolds.quiet (hl : LocalHolds d) (h : Quiet d d') : LocalHolds d' := by
  intro f fv' hf' hloc
  obtain ⟨fv, hf, hu⟩ := h.was_live hf'
  rw [hu.natKey]
  exact hl f fv hf (hu.isLocal.mp hloc)

theorem LocalHolds.free (hl : LocalHolds d) (h : dpFreeFlow d f = some d') : LocalHolds d' := by
  obtain ⟨fv, -, hflows, -⟩ := dpFreeFlow_eq h
  intro g gv hg
  rw [hflows, Table.del_eq_some] at hg
  exact hl g gv hg.2

theorem LocalHolds.effect (hl : LocalHolds d) (h : Effect cf e c d n m d') : LocalHolds d' := by
  have hrekey : ∀ {f fv fv' old added}, Rekey d d' f fv fv' old added →
      (fv'.natType = .networkLocal → fv'.natKey ≠ none) → LocalHolds d' := by
    intro f fv fv' old added h hfv g gv hg
    obtain ⟨-, rfl⟩ | ⟨-, hg⟩ := h.was_live hg
    · exact hfv
    · exact hl g gv hg
  cases h with
  | insert key fv _ h =>
    intro g gv hg
    obtain ⟨-, rfl⟩ | ⟨-, hg⟩ := h.was_live hg
    · exact fun hloc => absurd hloc h.notLocal
    · exact hl g gv hg
  | relay f fv fv' _ h _ _ _ hnl => exact hrekey h fun hloc => absurd hloc hnl
  | vip f fv fv' _ h _ _ hnl => exact hrekey h fun hloc => absurd hloc hnl
  | natFail f fv r _ _ h =>
    have hl' : LocalHolds { d with ports := d'.ports } := hl
    exact hl'.quiet h
  | nat64Fail f fv r p ports _ _ _ _ h =>
    subst h
    exact hl
  | nat f fv fv' r p ports _ _ _ h _ _ hloc _ hr _ =>
    refine hrekey h fun _ => ?_
    unfold FlowValue.natKey
    rw [if_neg (not_not.mpr hloc), hr, (natReply_dst m fv r.natIp p).1]
    nofun

end LocalHolds

/-! ### Releasing a port -/

section Release

variable {d d' : Dataplane} {f : ℕ} {t : Table OverloadKey Unit}

/-- Releasing a flow removes the key it holds, and only that. -/
theorem overload_free (hl : LocalHolds d) (h : dpFreeFlow d f = some d') :
    (natKeys d f = none ∧ d'.ports.portoverloadTbl = d.ports.portoverloadTbl) ∨
      ∃ k, natKeys d f = some k ∧ d'.ports.portoverloadTbl = d.ports.portoverloadTbl.del k := by
  obtain ⟨fv, hf, -, -, -, -, hports, -⟩ := dpFreeFlow_eq h
  have hkey : natKeys d f = fv.natKey := by
    unfold natKeys
    rw [hf]
    rfl
  rw [hports, hkey]
  unfold dpFreeNetworkNatPort
  split
  next hloc =>
    have hne := hl f fv hf hloc
    unfold FlowValue.natKey at hne ⊢
    rw [if_neg (not_not.mpr hloc)] at hne ⊢
    rw [dpRemoveNetworkSnatPort_overload]
    cases hdst : fv.reply.l3Dst with
    | v4 ip => exact .inr ⟨_, rfl, rfl⟩
    | v6 ip =>
      rw [hdst] at hne
      exact absurd rfl hne
  next hloc => exact .inl ⟨natKey_of_not_local hloc, rfl⟩

theorem holds_free (hl : LocalHolds d) (hh : Holds (natKeys d) d.ports.portoverloadTbl) (h : dpFreeFlow d f = some d') :
    Holds (natKeys d') d'.ports.portoverloadTbl := by
  rw [natKeys_free h]
  obtain ⟨hk, hp⟩ | ⟨k, hk, hp⟩ := overload_free hl h
  · rw [hp, Function.update_eq_self_iff.mpr hk.symm]
    exact hh
  · rw [hp]
    exact hh.release hk

theorem exact_free (hl : LocalHolds d) (hx : Exact (natKeys d) d.ports.portoverloadTbl) (h : dpFreeFlow d f = some d') :
    Exact (natKeys d') d'.ports.portoverloadTbl := by
  rw [natKeys_free h]
  obtain ⟨hk, hp⟩ | ⟨k, hk, hp⟩ := overload_free hl h
  · rw [hp, Function.update_eq_self_iff.mpr hk.symm]
    exact hx
  · rw [hp]
    exact hx.release hk

end Release

/-! ### Runs -/

theorem exact_effect {cf : Conf} {s : Service} {e : Env} {n : Node} {m : Mbuf} {d' : Dataplane} (hb : Base s.dpl)
    (hm : NodeOk s.dpl m n) (hx : Exact (natKeys s.dpl) s.dpl.ports.portoverloadTbl) (hP : KeyGivenBack cf s e n m)
    (h : Effect cf e s.cfg s.dpl n m d') : Exact (natKeys d') d'.ports.portoverloadTbl := by
  cases h with
  | insert key fv _ h =>
    rw [natKeys_insert hb h, h.ports]
    exact hx
  | relay f fv fv' _ h hp _ _ hnl =>
    rw [natKeys_rekey_not_local hb h hnl, hp]
    exact hx
  | vip f fv fv' _ h hp _ hnl _ =>
    rw [natKeys_rekey_not_local hb h hnl, hp]
    exact hx
  | natFail f fv r turn halloc h =>
    have hkeys : natKeys d' = natKeys s.dpl := (natKeys_quiet h :)
    have htbl := halloc.overload_none fun hcand hover => (hP _ turn hcand hover).2.2
    rw [hkeys, htbl]
    exact hx
  | nat64Fail f fv r p ports turn h6 halloc hconv _ =>
    obtain ⟨hcand, -, hover⟩ := halloc.candidate
    obtain ⟨-, hc, -⟩ := hP _ turn (List.ne_nil_of_mem hcand) hover
    rw [hc h6] at hconv
    cases hconv
  | nat f fv fv' r p ports turn _ halloc h hp _ hl _ hr _ =>
    obtain ⟨hcand, hfree, hover⟩ := halloc.candidate
    obtain ⟨herr, -, -⟩ := hP _ turn (List.ne_nil_of_mem hcand) hover
    have hkey := natKey_of_nat (keyOf_natTurn hm turn herr).2 h.org hr hl
    have htbl : d'.ports.portoverloadTbl = ports.portoverloadTbl := by rw [hp]; rfl
    rw [natKeys_rekey h, hkey, htbl, halloc.overload]
    exact hx.take (natKeys_plain hb h) hfree

/-- **The port-overload table has exactly the keys of the translated flows** in every run in which every port that is
taken will be given back. Once no translated flow is left the table is empty, and allocation can choose every port of
any range. -/
theorem port_overload_exact {cf : Conf} {es : List Event} {s : Service}
    (hP : Along (step cf) (OnWalk (KeyGivenBack cf)) (Service.init cf) es)
    (h : run (step cf) (Service.init cf) es = some s) :
    OverloadExact s.dpl ∧
      ((∀ f fv, s.dpl.flows f = some fv → fv.natType ≠ .networkLocal) →
        (∀ k, s.dpl.ports.portoverloadTbl k = none) ∧
        ∀ (r : NatRange) (df : DpFlow) (p : UInt16), r.minPort ≤ p ∧ p < r.maxPort → p ≠ 0 →
          ∃ hash, findNatPort s.dpl.ports df r hash = some p) := by
  have hJ : LocalHolds s.dpl ∧ Exact (natKeys s.dpl) s.dpl.ports.portoverloadTbl := by
    refine dataplane_run (J := fun d => LocalHolds d ∧ Exact (natKeys d) d.ports.portoverloadTbl) ?_ ?_ ?_ ?_ hP h
    · exact ⟨.init, (Exact.empty : Exact (fun _ : ℕ => none) Table.empty)⟩
    · rintro d d' - ⟨hl, hx⟩ hq
      refine ⟨hl.quiet hq, ?_⟩
      rw [natKeys_quiet hq, hq.ports]
      exact hx
    · rintro d d' f - ⟨hl, hx⟩ hf
      exact ⟨hl.free hf, exact_free hl hx hf⟩
    · rintro s e n m d' hb hm ⟨hl, hx⟩ hp he
      exact ⟨hl.effect he, exact_effect hb hm hx hp he⟩
  obtain ⟨hl, hx⟩ := hJ
  have hkeys : ∀ {f fv k}, s.dpl.flows f = some fv → fv.natKey = some k → natKeys s.dpl f = some k := by
    intro f fv k hf hk
    unfold natKeys
    rw [hf]
    exact hk
  have hexact : OverloadExact s.dpl := by
    refine ⟨fun f fv hf hloc => ?_, fun f g fv gv k hf hg hk hk' => hx.inj (hkeys hf hk) (hkeys hg hk'), fun k hk => ?_⟩
    · obtain ⟨k, hk⟩ := Option.ne_none_iff_exists'.mp (hl f fv hf hloc)
      exact ⟨k, hk, hx.held (hkeys hf hk)⟩
    · obtain ⟨f, hf⟩ := hx.only hk
      obtain ⟨fv, hfv, hk⟩ := Option.bind_eq_some_iff.mp hf
      refine ⟨f, fv, hfv, ?_, hk⟩
      by_contra hloc
      rw [natKey_of_not_local hloc] at hk
      cases hk
  refine ⟨hexact, fun hnone => ?_⟩
  have hempty : ∀ k, s.dpl.ports.portoverloadTbl k = none := by
    intro k
    by_contra hk
    obtain ⟨⟨⟩, hk⟩ := Option.ne_none_iff_exists'.mp hk
    obtain ⟨f, fv, hf, hloc, -⟩ := hexact.only k hk
    exact hnone f fv hf hloc
  exact ⟨hempty, fun r df p hp hne => findNatPort_empty hempty hp hne⟩

/-- A TCP connection through NAT. -/
theorem port_overload_exact_tcp :
    ∃ s, run (step smallConf) (Service.init smallConf) (requests natSetup ++ passes tcpPacket 8) = some s ∧
      (∃ fv, s.dpl.flows 0 = some fv ∧ fv.natType = .networkLocal) ∧ OverloadExact s.dpl := by
  refine exists_some_imp (P := fun s => ∃ fv, s.dpl.flows 0 = some fv ∧ fv.natType = .networkLocal)
    (by decide +kernel) ?_
  intro s hs hnat
  exact ⟨hnat, (port_overload_exact (by decide +kernel) hs).1⟩

/-- A port-unreachable error from interface 7 to 8.8.8.8, about a UDP packet from there. -/
def portUnreachable : Mbuf where
  port := 2
  l3 := .ipv4 0x0a000001 0x08080808 ipprotoIcmp
  l4 := { icmpType := icmpTypeError, icmpCode := icmpCodePortUnreachable }
  errHdr := some { src := 0x08080808, dst := 0x0a000001, proto := ipprotoUdp, srcPort := 53, dstPort := 1000 }

/-- The flow of a translated ICMP error does not hold the key that was taken for it. -/
theorem port_overload_icmp_error :
    ∃ s, run (step smallConf) (Service.init smallConf) (requests natSetup ++ passes portUnreachable 8) = some s ∧
      ¬ OverloadExact s.dpl := by
  refine exists_some_imp (P := fun s => ∃ fv, s.dpl.flows 0 = some fv ∧ fv.natType = .networkLocal ∧
    ∀ k ∈ fv.natKey, s.dpl.ports.portoverloadTbl k = none) (by decide +kernel) ?_
  rintro s - ⟨fv, hf, hnat, hfree⟩ hx
  obtain ⟨k, hkey, hreg⟩ := hx.held 0 fv hf hnat
  rw [hfree k hkey] at hreg
  exact absurd hreg (by decide)

end Dpservice
