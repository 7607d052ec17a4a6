import Dpservice.NatTable

/-!
# A reply to a NAT address identifies one flow

For TCP and UDP the key that a translated flow holds in the port-overload table can be read off its reply key
(`replyNatKey`), so no two flows have the same reply key. For ICMP echo it cannot: the table tells flows apart by their
identifier, which NAT replaces, and two flows of one destination may get the same port. The reply keys of translated
flows differ in every run in which no echo request is about to get a reply key that is in use (`EchoUnused`).
-/

namespace Dpservice

def replyNatKey (k : FlowKey) : Option OverloadKey :=
  match k.l3Dst, k.l3Src with
  | .v4 natIp, .v4 dst => some ⟨natIp, k.portDst, dst, k.src, k.proto⟩
  | _, _ => none

/-- The packet is not an ICMP error; if it is another ICMP packet, no translated flow has the reply key that it would
get, for any port that NAT may choose. -/
def EchoUnused (cf : Conf) (s : Service) (e : Env) (n : Node) (m : Mbuf) : Prop :=
  ∀ t ∈ natTurn cf e s.cfg s.dpl n m, ∀ p ∈ s.dpl.ports.candidates t.2.2 m.df (ifaceVni s.cfg m),
    m.df.isIcmpErr = false ∧
      (isIcmp m.df.l4Type = true → (m.df.l3Type = .ipv6 → nat64Converts m = true) →
        ∀ g < s.dpl.nextFlow, ∀ gv ∈ s.dpl.flows g, gv.natType = .networkLocal →
          gv.reply ≠ natReply m t.2.1 t.2.2.natIp p)

instance (cf : Conf) (s : Service) (e : Env) (n : Node) (m : Mbuf) : Decidable (EchoUnused cf s e n m) := by
  unfold EchoUnused
  infer_instance

/-- Translated flows hold their keys, which for TCP and UDP follow from the reply key; reply keys of ICMP differ. -/
structure RepliesDiffer (d : Dataplane) : Prop where
  holds : Holds (natKeys d) d.ports.portoverloadTbl
  isLocal : LocalHolds d
  natKey : ∀ f fv, d.flows f = some fv → fv.natType = .networkLocal → isIcmp fv.reply.proto = false →
    fv.natKey = replyNatKey fv.reply
  echo : ∀ f g fv gv, d.flows f = some fv → d.flows g = some gv → fv.natType = .networkLocal →
    gv.natType = .networkLocal → f ≠ g → isIcmp fv.reply.proto = true → fv.reply ≠ gv.reply

section Keys

variable {cf : Conf} {e : Env} {c : Config} {d d' : Dataplane} {n : Node} {m : Mbuf} {f : ℕ} {fv fv' : FlowValue}
  {natIp : Ip4} {p : UInt16}

theorem dpInvertFlowKey_eq (k : FlowKey) : (dpInvertFlowKey k).l3Dst = k.l3Src ∧ (dpInvertFlowKey k).l3Src = k.l3Dst ∧
    (dpInvertFlowKey k).proto = k.proto := by
  unfold dpInvertFlowKey
  dsimp only
  split
  · exact ⟨rfl, rfl, rfl⟩
  · split
    · exact ⟨rfl, rfl, rfl⟩
    · split <;> exact ⟨rfl, rfl, rfl⟩

theorem natReply_proto (hr : fv.reply = dpInvertFlowKey fv.org) (hk : KeyOf m.df fv.org) :
    isIcmp (natReply m fv natIp p).proto = isIcmp m.df.l4Type := by
  unfold natReply
  split
  · exact isIcmp_nat64L4Type _
  · change isIcmp fv.reply.proto = _
    rw [hr, (dpInvertFlowKey_eq _).2.2, hk.proto]

/-- For TCP and UDP the key that NAT takes is the one that belongs to the new reply key. -/
theorem replyNatKey_natReply (hm : PktOk d m) (hr : fv.reply = dpInvertFlowKey fv.org) (hk : KeyOf m.df fv.org)
    (hconv : m.df.l3Type = .ipv6 → nat64Converts m = true) (hi : isIcmp m.df.l4Type = false) :
    replyNatKey (natReply m fv natIp p) = some (overloadKeyOf m.df natIp p) := by
  obtain ⟨htu, hport, -⟩ : (m.df.l4Type = ipprotoTcp ∨ m.df.l4Type = ipprotoUdp) ∧ _ ∧ _ :=
    hk.l4.resolve_right fun h => by rw [hi] at h; exact absurd h.1 (by decide)
  have hproto : fv.org.proto = ipprotoTcp ∨ fv.org.proto = ipprotoUdp := hk.proto ▸ htu
  have hinv : fv.reply = { fv.org with
      l3Dst := fv.org.l3Src, l3Src := fv.org.l3Dst, src := fv.org.portDst, portDst := fv.org.src } := by
    rw [hr, dpInvertFlowKey, if_pos hproto]
  have hl4 : nat64L4Type m.df.l4Type = m.df.l4Type ∧ m.df.l4Type ≠ ipprotoIcmp := by
    rcases htu with h | h <;> rw [h] <;> decide
  unfold natReply overloadKeyOf
  rcases hk.l3 with ⟨ht, hd, -⟩ | ⟨ht, hd, -⟩
  · simp [ht, replyNatKey, snatReply, hinv, hd, hport, hk.proto, hi]
  · have hdst : m.dst4 = low32 m.df.dstAddr6 := by
      have hc := hconv ht
      cases hl3 : m.l3 with
      | ipv4 src dst proto => simp [nat64Converts, hl3, L3Hdr.type] at hc
      | ipv6 src dst proto =>
        unfold Mbuf.dst4
        rw [hl3, hm.hdr6 src dst proto hl3 ht]
    simp [ht, replyNatKey, nat64Reply, nat64OldReply, hl4, hinv, hdst, hport, hi]

end Keys

/-! ## Steps -/

section Steps

variable {cf : Conf} {e : Env} {c : Config} {d d' : Dataplane} {n : Node} {m : Mbuf} {f : ℕ} {fv fv' : FlowValue}

theorem RepliesDiffer.init : RepliesDiffer {} where
  holds := (Exact.empty : Exact (fun _ : ℕ => none) Table.empty).toHolds
  isLocal := .init
  natKey f fv hf := by cases hf
  echo f g fv gv hf := by cases hf

/-- Only the ports and the translated flows matter. -/
theorem RepliesDiffer.of_local (h : RepliesDiffer d) (hh : Holds (natKeys d') d'.ports.portoverloadTbl)
    (hl : LocalHolds d') (hf : ∀ f fv', d'.flows f = some fv' → fv'.natType = .networkLocal →
      ∃ fv, d.flows f = some fv ∧ fv.natType = .networkLocal ∧ fv'.reply = fv.reply ∧ fv'.natKey = fv.natKey) :
    RepliesDiffer d' where
  holds := hh
  isLocal := hl
  natKey f fv' hf' hloc hi := by
    obtain ⟨fv, hfv, hl, hr, hk⟩ := hf f fv' hf' hloc
    rw [hk, hr]
    exact h.natKey f fv hfv hl (hr ▸ hi)
  echo f g fv' gv' hf' hg' hlf hlg hne hi := by
    obtain ⟨fv, hfv, hlf, hr, -⟩ := hf f fv' hf' hlf
    obtain ⟨gv, hgv, hlg, hr', -⟩ := hf g gv' hg' hlg
    rw [hr, hr']
    exact h.echo f g fv gv hfv hgv hlf hlg hne (hr ▸ hi)

theorem RepliesDiffer.quiet (h : RepliesDiffer d) (hq : Quiet d d') : RepliesDiffer d' := by
  refine h.of_local ?_ (h.isLocal.quiet hq) fun f fv' hf' hloc => ?_
  · rw [natKeys_quiet hq, hq.ports]
    exact h.holds
  · obtain ⟨fv, hf, hu⟩ := hq.was_live hf'
    exact ⟨fv, hf, hu.isLocal.mp hloc, hu.reply, hu.natKey⟩

theorem RepliesDiffer.free (h : RepliesDiffer d) (hf : dpFreeFlow d f = some d') : RepliesDiffer d' := by
  refine h.of_local (holds_free h.isLocal h.holds hf) (h.isLocal.free hf) fun g gv hg hloc => ?_
  obtain ⟨fv, -, hflows, -⟩ := dpFreeFlow_eq hf
  rw [hflows, Table.del_eq_some] at hg
  exact ⟨gv, hg.2, hloc, rfl, rfl⟩

/-- More registered keys do no harm. -/
theorem RepliesDiffer.setPorts {ports : NatPorts} (h : RepliesDiffer d)
    (hp : ports.portoverloadTbl = d.ports.portoverloadTbl ∨
    ∃ k, ports.portoverloadTbl = d.ports.portoverloadTbl.add k ()) : RepliesDiffer { d with ports := ports } := by
  refine ⟨?_, h.isLocal, h.natKey, h.echo⟩
  change Holds (natKeys d) ports.portoverloadTbl
  rcases hp with hp | ⟨k, hp⟩ <;> rw [hp]
  · exact h.holds
  · exact h.holds.more k

theorem Alloc.overload_le {ports ports' : NatPorts} {r : NatRange} {df : DpFlow} {vni : Vni} {o : Option UInt16}
    (h : Alloc e ports r df vni o ports') : ports'.portoverloadTbl = ports.portoverloadTbl ∨
      ∃ k, ports'.portoverloadTbl = ports.portoverloadTbl.add k () := by
  cases h with
  | fail => exact .inl rfl
  | failKept x _ _ => exact .inl rfl
  | failTaken p _ _ _ => exact .inr ⟨_, rfl⟩
  | keep x _ _ => exact .inr ⟨_, rfl⟩
  | take p _ _ => exact .inr ⟨_, rfl⟩

/-- A flow without network NAT, before and after. -/
theorem RepliesDiffer.rekey {old : FlowKey} {added : Bool} (h : RepliesDiffer d) (hb : Base d)
    (hr : Rekey d d' f fv fv' old added) (hnl : fv'.natType ≠ .networkLocal) (hp : d'.ports = d.ports)
    (hl : LocalHolds d') : RepliesDiffer d' := by
  refine h.of_local ?_ hl fun g gv hg hloc => ?_
  · rw [natKeys_rekey_not_local hb hr hnl, hp]
    exact h.holds
  · obtain ⟨-, rfl⟩ | ⟨-, hg⟩ := hr.was_live hg
    · exact absurd hloc hnl
    · exact ⟨gv, hg, hloc, rfl, rfl⟩

/-- A flow is translated. -/
theorem RepliesDiffer.nat {old : FlowKey} {added : Bool} {r : NatRange} {p : UInt16} {ports : NatPorts}
    (h : RepliesDiffer d) (hb : Base d) (hm : PktOk d m) (hk : KeyOf m.df fv.org)
    (hrk : Rekey d d' f fv fv' old added) (hconv : m.df.l3Type = .ipv6 → nat64Converts m = true)
    (halloc : Alloc e d.ports r m.df (ifaceVni c m) (some p) ports) (hp : d'.ports = ports.incUsed m.port)
    (hloc : fv'.natType = .networkLocal) (hr : fv'.reply = natReply m fv r.natIp p) (hl : LocalHolds d')
    (hecho : isIcmp m.df.l4Type = true → ∀ g gv, d.flows g = some gv → gv.natType = .networkLocal →
      gv.reply ≠ natReply m fv r.natIp p) : RepliesDiffer d' := by
  obtain ⟨hinv, -⟩ := hb.plain f fv hrk.live hrk.plain
  have hkey := natKey_of_nat hk hrk.org hr hloc
  have hproto : isIcmp fv'.reply.proto = isIcmp m.df.l4Type := by rw [hr, natReply_proto hinv hk]
  have hnew : ∀ {g gv}, d.flows g = some gv → gv.natType = .networkLocal → isIcmp gv.reply.proto = true →
      gv.reply ≠ fv'.reply := by
    intro g gv hg hgl hi heq
    rw [heq, hproto] at hi
    exact hecho hi g gv hg hgl (heq.trans hr)
  refine ⟨?_, hl, fun g gv hg hgl hi => ?_, fun g g' gv gv' hg hg' hgl hgl' hne hi => ?_⟩
  · have htbl : d'.ports.portoverloadTbl = ports.portoverloadTbl := by rw [hp]; rfl
    rw [natKeys_rekey hrk, hkey, htbl, halloc.overload]
    exact h.holds.take halloc.candidate.2.1
  · obtain ⟨-, rfl⟩ | ⟨-, hg⟩ := hrk.was_live hg
    · rw [hkey, hr, replyNatKey_natReply hm hinv hk hconv (hproto ▸ hi)]
    · exact h.natKey g gv hg hgl hi
  · obtain ⟨rfl, rfl⟩ | ⟨hgf, hg⟩ := hrk.was_live hg
    · obtain ⟨rfl, rfl⟩ | ⟨hgf', hg'⟩ := hrk.was_live hg'
      · exact absurd rfl hne
      · intro heq
        exact hnew hg' hgl' (heq ▸ hi) heq.symm
    · obtain ⟨rfl, rfl⟩ | ⟨hgf', hg'⟩ := hrk.was_live hg'
      · exact hnew hg hgl hi
      · exact h.echo g g' gv gv' hg hg' hgl hgl' hne hi

theorem RepliesDiffer.effect {s : Service} (h : RepliesDiffer s.dpl) (hb : Base s.dpl) (hm : NodeOk s.dpl m n)
    (hP : EchoUnused cf s e n m) (he : Effect cf e s.cfg s.dpl n m d') : RepliesDiffer d' := by
  have hl := h.isLocal.effect he
  cases he with
  | insert key fv _ hi =>
    refine h.of_local ?_ hl fun g gv hg hloc => ?_
    · rw [natKeys_insert hb hi, hi.ports]
      exact h.holds
    · obtain ⟨-, rfl⟩ | ⟨-, hg⟩ := hi.was_live hg
      · exact absurd hloc hi.notLocal
      · exact ⟨gv, hg, hloc, rfl, rfl⟩
  | relay f fv fv' _ hr hp _ _ hnl => exact h.rekey hb hr hnl hp hl
  | vip f fv fv' _ hr hp _ hnl _ => exact h.rekey hb hr hnl hp hl
  | natFail f fv r _ halloc hq => exact (h.setPorts halloc.overload_le).quiet hq
  | nat64Fail f fv r p ports turn h6 halloc _ hd =>
    subst hd
    obtain ⟨herr, -⟩ := hP _ turn p halloc.candidate.1
    obtain ⟨-, -, hf, hp, -⟩ := natTurn_inv turn
    obtain ⟨-, hk⟩ := keyOf_natTurn hm turn herr
    -- the reply key of the flow is an IPv6 one, and the port is not given back
    have hdst : fv.reply.l3Dst = .v6 m.df.srcAddr6 := by
      rw [(hb.plain f fv hf hp).1, (dpInvertFlowKey_eq _).1]
      rcases hk.l3 with ⟨h4, -⟩ | ⟨-, -, hs⟩
      · rw [h6] at h4
        cases h4
      · exact hs
    apply h.setPorts
    have htbl : ((dpRemoveNetworkSnatPort (ports.incUsed m.port) fv).decUsed m.port).portoverloadTbl =
        ports.portoverloadTbl := by
      change (dpRemoveNetworkSnatPort (ports.incUsed m.port) fv).portoverloadTbl = _
      rw [dpRemoveNetworkSnatPort_overload, hdst]
      rfl
    rw [htbl]
    exact halloc.overload_le
  | nat f fv fv' r p ports turn hconv halloc hr hp _ hloc _ hrep _ =>
    obtain ⟨herr, hecho⟩ := hP _ turn p halloc.candidate.1
    obtain ⟨hpkt, hk⟩ := keyOf_natTurn hm turn herr
    exact h.nat hb hpkt hk hr hconv halloc hp hloc hrep hl
      fun hi g gv hg hgl => hecho hi hconv g (hb.live_lt g gv hg) gv hg hgl

end Steps

/-- **A reply to a NAT address identifies one flow**: two live flows translated by network NAT have different reply
keys, in every run in which no echo request is about to get a reply key that is in use. -/
theorem nat_reply_injective {cf : Conf} {es : List Event} {s : Service}
    (hP : Along (step cf) (OnWalk (EchoUnused cf)) (Service.init cf) es)
    (h : run (step cf) (Service.init cf) es = some s) :
    ∀ f g fv gv, s.dpl.flows f = some fv → s.dpl.flows g = some gv → fv.natType = .networkLocal →
      gv.natType = .networkLocal → f ≠ g → fv.reply ≠ gv.reply := by
  have hd : RepliesDiffer s.dpl := dataplane_run .init (fun _ _ _ hd hq => hd.quiet hq)
    (fun _ _ _ _ hd hf => hd.free hf) (fun _ _ _ _ _ hb hm hd hP he => hd.effect hb hm hP he) hP h
  intro f g fv gv hf hg hlf hlg hne heq
  cases hi : isIcmp fv.reply.proto with
  | true => exact hd.echo f g fv gv hf hg hlf hlg hne hi heq
  | false =>
    have hkf := hd.natKey f fv hf hlf hi
    have hkg := hd.natKey g gv hg hlg (heq ▸ hi)
    obtain ⟨k, hk⟩ := Option.ne_none_iff_exists'.mp (hd.isLocal f fv hf hlf)
    have hkeys : ∀ {f fv}, s.dpl.flows f = some fv → fv.natKey = some k → natKeys s.dpl f = some k := by
      intro f fv hf hk
      unfold natKeys
      rw [hf]
      exact hk
    exact hne (hd.holds.inj (hkeys hf hk) (hkeys hg (by rw [hkg, ← heq, ← hkf, hk])))

/-- Two connections of one source, of different protocols. -/
theorem nat_reply_injective_two :
    ∃ s fv gv, run (step smallConf) (Service.init smallConf)
        (requests natSetup ++ passes tcpPacket 8 ++ passes (ping 1) 8) = some s ∧
      s.dpl.flows 0 = some fv ∧ s.dpl.flows 1 = some gv ∧ fv.reply ≠ gv.reply := by
  obtain ⟨s, hs, ⟨fv, hf, hlf⟩, gv, hg, hlg⟩ : ∃ s, run (step smallConf) (Service.init smallConf)
      (requests natSetup ++ passes tcpPacket 8 ++ passes (ping 1) 8) = some s ∧
      (∃ fv, s.dpl.flows 0 = some fv ∧ fv.natType = .networkLocal) ∧
      ∃ gv, s.dpl.flows 1 = some gv ∧ gv.natType = .networkLocal := by decide +kernel
  exact ⟨s, fv, gv, hs, hf, hg, nat_reply_injective (by decide +kernel) hs 0 1 fv gv hf hg hlf hlg (by decide)⟩

/-- Two echo requests to one host, through a NAT with a single port, get the same reply key. -/
theorem nat_reply_two_pings :
    ∃ s fv gv, run (step smallConf) (Service.init smallConf)
        (requests (smallSetup ++ [.createNat 7 (.v4 0x01020304) 100 101]) ++ passes (ping 1) 8 ++ passes (ping 2) 8) =
          some s ∧
      s.dpl.flows 0 = some fv ∧ s.dpl.flows 1 = some gv ∧ fv.natType = .networkLocal ∧ gv.natType = .networkLocal ∧
      fv.reply = gv.reply := by
  simp only [exists_and_left]
  decide +kernel

end Dpservice
