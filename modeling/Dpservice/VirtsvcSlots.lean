import Dpservice.VirtsvcLookup

/-!
# The slots of virtual services

- `virtsvc_replies`: a reply of a server reads and changes the slot of its destination port only, and is dropped if no
  packet ever left from this port; but system ports lead behind the array.
- `del_iface_frees`: deleting an interface empties the tables of its keys. The slots of its connections are as free as
  unused ones exactly if none of them was established.
-/

namespace Dpservice

/-! ## What a packet changes -/

/-- The slot that a packet of a VM is given. -/
def requestSlot (cf : Conf) (e : VirtsvcEnv) (s : Virtsvc) (m : Mbuf) : Option Slot :=
  match m.l3 with
  | .ipv6 .. => none
  | .ipv4 src _ _ =>
    if !e.lenOk || !m.canGrow then none else (dpVirtsvcGetPfRoute cf e s ⟨m.port, m.l4.srcPort, src⟩).1

section Packets

variable {cf : Conf} {e : VirtsvcEnv} {s s' : Virtsvc} {i : Slot} {m : Mbuf} {key : VirtsvcConnKey} {o : Option Slot}
  {r : Option (PortId × Mbuf)} {p : PortId}

theorem dpVirtsvcGetPfRoute_connections (h : dpVirtsvcGetPfRoute cf e s key = (o, s')) (hi : o ≠ some i) :
    s'.connections i = s.connections i := by
  unfold dpVirtsvcGetPfRoute at h
  split at h
  · cases h
    rfl
  · unfold dpVirtsvcCreateConnection at h
    split at h
    · cases h
      rfl
    next k _ =>
      dsimp only at h
      split at h
      · cases h
        rfl
      · cases h
        exact Function.update_of_ne (fun heq => hi (congrArg some heq.symm)) _ _

/-- A packet of a VM changes the slot that it is given. -/
theorem virtsvcRequestNext_connections (hi : requestSlot cf e s m ≠ some i) :
    (virtsvcRequestNext cf e s m).1.connections i = s.connections i := by
  unfold requestSlot at hi
  unfold virtsvcRequestNext
  split
  · rfl
  next src dst proto hl3 =>
    rw [hl3] at hi
    dsimp only at hi
    split
    · rfl
    next hok =>
      rw [if_neg hok] at hi
      split
      next hr => exact dpVirtsvcGetPfRoute_connections hr (by rw [hr] at hi; exact hi)
      next k s₁ hr =>
        rw [hr] at hi
        dsimp only at hi ⊢
        rw [Function.update_of_ne fun heq => hi (congrArg some heq.symm)]
        exact dpVirtsvcGetPfRoute_connections hr hi

/-- A reply is dropped, or it is noted in the slot of its port, which is live. -/
theorem virtsvcReplyNext_cases (h : virtsvcReplyNext cf e s m = some (s', r)) :
    (s' = s ∧ r = none) ∨ ∃ k proto, virtsvcGetConnOnPort m.l4.dstPort = some k ∧
      (s.connections k).lastPktTimestamp ≠ 0 ∧
      s' = { s with connections := Function.update s.connections k ((s.connections k).note e.pktTsc proto m.l4) } := by
  unfold virtsvcReplyNext at h
  split at h
  · cases h
    exact .inl ⟨rfl, rfl⟩
  next proto _ =>
    split at h
    · cases h
      exact .inl ⟨rfl, rfl⟩
    · split at h
      · cases h
      next k hk =>
        dsimp only at h
        split at h
        · cases h
          exact .inl ⟨rfl, rfl⟩
        next hlive =>
          cases h
          exact .inr ⟨k, proto, hk, hlive, rfl⟩

/-! ## What deleting an interface changes -/

/-- A connection after its interface was deleted, if it is one of this interface. -/
def VirtsvcConn.closed (p : PortId) (conn : VirtsvcConn) : VirtsvcConn :=
  if conn.vfPortId = p then { conn with lastPktTimestamp := 0 } else conn

@[simp] theorem VirtsvcConn.closed_closed (p : PortId) (conn : VirtsvcConn) :
    (conn.closed p).closed p = conn.closed p := by
  unfold VirtsvcConn.closed
  split <;> simp_all

theorem delIfaceSlot_connections (p : PortId) (s : Virtsvc) (k : Slot) :
    (delIfaceSlot p s k).connections = Function.update s.connections k ((s.connections k).closed p) := by
  unfold delIfaceSlot VirtsvcConn.closed
  dsimp only
  by_cases hp : (s.connections k).vfPortId = p
  · rw [if_pos hp]
    split
    · rfl
    next hdead =>
      have hts : (s.connections k).lastPktTimestamp = 0 := by
        by_contra hts
        exact hdead ⟨hp, hts⟩
      rw [← hts, Function.update_eq_self]
  · rw [if_neg hp, if_neg fun h => hp h.1, Function.update_eq_self]

theorem foldl_delIfaceSlot_connections (p : PortId) (l : List Slot) (s : Virtsvc) :
    (l.foldl (delIfaceSlot p) s).connections i = if i ∈ l then (s.connections i).closed p else s.connections i := by
  induction l generalizing s with
  | nil => rfl
  | cons k l ih =>
    rw [List.foldl_cons, ih, delIfaceSlot_connections]
    by_cases hk : i = k
    · subst hk
      simp
    · simp [hk]

/-- The slots of the interface lose their time stamp, and nothing else. -/
theorem dpVirtsvcDelIface_connections (p : PortId) (s : Virtsvc) (i : Slot) :
    (dpVirtsvcDelIface p s).connections i = (s.connections i).closed p := by
  rw [dpVirtsvcDelIface, foldl_delIfaceSlot_connections, if_pos (List.mem_finRange i)]

theorem delIfaceSlot_openPorts (hk : key.vfPortId ≠ p) : (delIfaceSlot p s i).openPorts key = s.openPorts key := by
  unfold delIfaceSlot
  dsimp only
  split
  next h =>
    have hne : key ≠ (s.connections i).key := by
      rintro rfl
      exact hk h.1
    exact Table.del_of_ne hne _
  · rfl

theorem foldl_delIfaceSlot_openPorts (hk : key.vfPortId ≠ p) (l : List Slot) (s : Virtsvc) :
    (l.foldl (delIfaceSlot p) s).openPorts key = s.openPorts key := by
  induction l generalizing s with
  | nil => rfl
  | cons k l ih => rw [List.foldl_cons, ih, delIfaceSlot_openPorts hk]

/-- The keys of other interfaces stay. -/
theorem dpVirtsvcDelIface_openPorts (hk : key.vfPortId ≠ p) :
    (dpVirtsvcDelIface p s).openPorts key = s.openPorts key := by
  rw [dpVirtsvcDelIface, foldl_delIfaceSlot_openPorts hk]

end Packets

/-! ## Replies -/

/-- The event gives the slot of the service to a packet of a VM, which leaves from the port of the slot. -/
def Assigns (cf : Conf) {n : ℕ} (j : Fin n) (i : Slot) (s : Fin n → Virtsvc) : VirtsvcEvent n → Prop
  | .request j' m e => j' = j ∧ requestSlot cf e (s j) m = some i
  | .reply .. => False
  | .delIface _ => False

/-- No packet of the run left from the port. -/
def NeverAssigned (cf : Conf) {n : ℕ} (rules : Fin n → VirtsvcRule) (es : List (VirtsvcEvent n)) (j : Fin n)
    (l4Port : UInt16) : Prop :=
  ∀ i : Slot, virtsvcGetPortForConn i = l4Port →
    Along (virtsvcStep cf) (fun s ev => ¬Assigns cf j i s ev) (dpVirtsvcInit rules) es

/-- What is expected of a reply to a service in this state. -/
structure ReplyOk (cf : Conf) (e : VirtsvcEnv) (s : Virtsvc) (m : Mbuf) (never : Prop) : Prop where
  /-- The slot that is read is the one of the port, if the packet comes that far. -/
  slot : m.canShrink → ∃ i, virtsvcGetConnOnPort m.l4.dstPort = some i ∧ virtsvcGetPortForConn i = m.l4.dstPort
  /-- Nothing changes but the connection in the slot of the port. -/
  frame : ∃ conns r, virtsvcReplyNext cf e s m = some ({ s with connections := conns }, r) ∧
    ∀ i, virtsvcGetPortForConn i ≠ m.l4.dstPort → conns i = s.connections i
  /-- Packets for ports that are never assigned are dropped. -/
  dropped : never → virtsvcReplyNext cf e s m = some (s, none)

section Replies

variable {cf : Conf} {n : ℕ} {rules : Fin n → VirtsvcRule} {es : List (VirtsvcEvent n)} {s s' : Fin n → Virtsvc}
  {j : Fin n} {i : Slot} {m : Mbuf} {e : VirtsvcEnv}

/-- A slot that is not given away stays empty. -/
theorem unused_step {ev : VirtsvcEvent n} (hi : (s j).connections i = {}) (hn : ¬Assigns cf j i s ev)
    (h : virtsvcStep cf s ev = some s') : (s' j).connections i = {} := by
  cases ev with
  | request j' m e =>
    cases h
    by_cases hj : j' = j
    · subst hj
      rw [Function.update_self, virtsvcRequestNext_connections fun h => hn ⟨rfl, h⟩, hi]
    · rw [Function.update_of_ne (Ne.symm hj), hi]
  | reply j' m e =>
    obtain ⟨⟨t, r⟩, hr, rfl⟩ := Option.map_eq_some_iff.mp h
    by_cases hj : j' = j
    · subst hj
      rw [Function.update_self]
      obtain ⟨rfl, -⟩ | ⟨k, proto, -, hlive, rfl⟩ := virtsvcReplyNext_cases hr
      · exact hi
      · have hk : i ≠ k := by
          rintro rfl
          rw [hi] at hlive
          exact hlive rfl
        exact (Function.update_of_ne hk _ _).trans hi
    · rw [Function.update_of_ne (Ne.symm hj), hi]
  | delIface p =>
    have hs := congrFun (Option.some.inj h) j
    rw [← hs, dpVirtsvcDelIface_connections, hi, VirtsvcConn.closed]
    split <;> rfl

theorem unused_run (hn : Along (virtsvcStep cf) (fun s ev => ¬Assigns cf j i s ev) (dpVirtsvcInit rules) es)
    (hs : run (virtsvcStep cf) (dpVirtsvcInit rules) es = some s) : (s j).connections i = {} :=
  run_invariant (I := fun s : Fin n → Virtsvc => (s j).connections i = {}) (fun _ _ _ hi hn h => unused_step hi hn h)
    rfl hn hs

theorem virtsvcGetPortForConn_toNat (i : Slot) : (virtsvcGetPortForConn i).toNat = i.val + nbSystemPorts := by
  have hi : i.val < 64512 := i.isLt
  rw [virtsvcGetPortForConn, UInt16.toNat_ofNat', Nat.mod_eq_of_lt]
  simp only [nbSystemPorts]
  omega

/-- System ports lead behind the array. -/
theorem virtsvcGetConnOnPort_system {l4Port : UInt16} (h : l4Port.toNat < nbSystemPorts) :
    virtsvcGetConnOnPort l4Port = none := by
  have hidx : (l4Port - UInt16.ofNat nbSystemPorts).toNat = l4Port.toNat + 64512 := by
    simp only [nbSystemPorts] at h ⊢
    rw [UInt16.toNat_sub, UInt16.toNat_ofNat']
    omega
  unfold virtsvcGetConnOnPort
  exact dif_neg (by simp only [hidx, virtsvcPortcount]; omega)

/-- Only IPv6 packets without an underlay header come from a server. -/
theorem l3_of_incoming {tree : BinaryTree VirtsvcRule} {r : VirtsvcRule} (h : getIncomingVirtsvc tree m = some r) :
    ∃ src dst proto, m.l3 = .ipv6 src dst proto := by
  unfold getIncomingVirtsvc Mbuf.frontHdr at h
  cases ho : m.outer with
  | none =>
    rw [ho] at h
    cases hl3 : m.l3 with
    | ipv4 src dst proto => simp [hl3] at h
    | ipv6 src dst proto => exact ⟨src, dst, proto, rfl⟩
  | some o =>
    have htun : ¬(m.l3.tunProto = ipprotoTcp ∨ m.l3.tunProto = ipprotoUdp) := by
      cases m.l3 <;> simp only [L3Hdr.tunProto] <;> decide
    rw [ho] at h
    dsimp only at h
    rw [if_neg htun] at h
    cases h

theorem l3_of_cls {trees : BinaryTree VirtsvcRule × BinaryTree VirtsvcRule} {r : VirtsvcRule}
    (hpf : cf.isPf m.port = true) (h : clsVirtsvc cf trees m = some r) :
    ∃ src dst proto, m.l3 = .ipv6 src dst proto := by
  unfold clsVirtsvc at h
  simp only [hpf, if_true] at h
  split at h
  · cases h
  · split at h
    · cases h
    · split at h
      · cases h
      · split at h
        · cases h
        · exact l3_of_incoming h

/-- A reply to a system port is looked for behind the array. -/
theorem virtsvcReplyNext_system {s : Virtsvc} {src dst : Ip6} {proto : UInt8} (hl3 : m.l3 = .ipv6 src dst proto)
    (hport : m.l4.dstPort.toNat < nbSystemPorts) (hshrink : m.canShrink = true) : virtsvcReplyNext cf e s m = none := by
  rw [virtsvcReplyNext, hl3]
  dsimp only
  rw [if_neg (by simp [hshrink]), virtsvcGetConnOnPort_system hport]

/-- A packet that is too short is dropped. -/
theorem virtsvcReplyNext_short {s : Virtsvc} (hshrink : m.canShrink = false) :
    virtsvcReplyNext cf e s m = some (s, none) := by
  unfold virtsvcReplyNext
  split
  · rfl
  · rw [if_pos (by simp [hshrink])]

/-- **Replies of virtual services**: what a reply to a service does is right in every reachable state exactly if it is
not addressed to a system port, or is dropped before its slot is looked for. -/
theorem virtsvc_replies {qsort : (VirtsvcRule → VirtsvcRule → ℤ) → List VirtsvcRule → List VirtsvcRule}
    (hs : run (virtsvcStep cf) (dpVirtsvcInit rules) es = some s) (hpf : cf.isPf m.port = true)
    (hcls : clsVirtsvc cf (dpVirtsvcCreateTrees qsort (List.ofFn rules)) m = some (rules j)) :
    ReplyOk cf e (s j) m (NeverAssigned cf rules es j m.l4.dstPort) ↔
      nbSystemPorts ≤ m.l4.dstPort.toNat ∨ m.canShrink = false := by
  obtain ⟨src, dst, proto, hl3⟩ := l3_of_cls hpf hcls
  constructor
  · intro hok
    by_contra hno
    rw [not_or, not_le, Bool.not_eq_false] at hno
    obtain ⟨conns, r, hr, -⟩ := hok.frame
    rw [virtsvcReplyNext_system hl3 hno.1 hno.2] at hr
    cases hr
  · rintro (hport | hshort)
    · have hlt : m.l4.dstPort.toNat - nbSystemPorts < virtsvcPortcount := by
        have := m.l4.dstPort.toNat_lt
        simp only [nbSystemPorts, virtsvcPortcount] at hport ⊢
        omega
      have hconn : virtsvcGetConnOnPort m.l4.dstPort = some ⟨_, hlt⟩ :=
        virtsvcGetConnOnPort_eq (Nat.sub_add_cancel hport).symm
      have hback : virtsvcGetPortForConn ⟨_, hlt⟩ = m.l4.dstPort := by
        refine UInt16.toNat.inj ?_
        rw [virtsvcGetPortForConn_toNat]
        exact Nat.sub_add_cancel hport
      obtain ⟨⟨t, r⟩, hr⟩ : ∃ res, virtsvcReplyNext cf e (s j) m = some res := virtsvcReplyNext_defined hport
      have hcases := virtsvcReplyNext_cases hr
      refine ⟨fun _ => ⟨_, hconn, hback⟩, ?_, fun hnever => ?_⟩
      · obtain ⟨rfl, -⟩ | ⟨k, proto, hk, -, rfl⟩ := hcases
        · exact ⟨_, r, hr, fun _ _ => rfl⟩
        · refine ⟨_, r, hr, fun i hi => Function.update_of_ne ?_ _ _⟩
          rintro rfl
          rw [hconn, Option.some.injEq] at hk
          exact hi (hk ▸ hback)
      · obtain ⟨rfl, rfl⟩ | ⟨k, proto, hk, hlive, -⟩ := hcases
        · exact hr
        · rw [hconn, Option.some.injEq] at hk
          rw [← hk, unused_run (hnever _ hback) hs] at hlive
          exact absurd rfl hlive
    · have hdrop : virtsvcReplyNext cf e (s j) m = some (s j, none) := virtsvcReplyNext_short hshort
      exact ⟨fun h => by simp [hshort] at h, ⟨_, none, hdrop, fun _ _ => rfl⟩, fun _ => hdrop⟩

end Replies

/-- The only service, for which there is nothing to sort. -/
def dnsTrees : BinaryTree VirtsvcRule × BinaryTree VirtsvcRule :=
  dpVirtsvcCreateTrees (fun _ l => l) (List.ofFn fun _ : Fin 1 => dnsRule)

/-- The server's answers are found to belong to the service, whatever port they are sent to. -/
theorem cls_dnsReply (l4Port : UInt16) : clsVirtsvc smallConf dnsTrees (dnsReply l4Port) = some dnsRule := by
  have htree : dnsTrees.2 = .node dnsRule .nil .nil := by
    simp [dnsTrees, dpVirtsvcCreateTrees, dpVirtsvcArrayToTree]
  have hget : getIncomingVirtsvc dnsTrees.2 (dnsReply l4Port) = some dnsRule := by
    rw [htree]
    exact if_pos (dpVirtsvcIpv6Cmp_eq_zero.mpr ⟨rfl, rfl, rfl⟩)
  exact hget

theorem virtsvc_replies_dns : ∃ s, run (virtsvcStep smallConf) (dpVirtsvcInit fun _ => dnsRule) dnsExchange = some s ∧
    clsVirtsvc smallConf dnsTrees (dnsReply 2000) = some dnsRule ∧
    ReplyOk smallConf { searchTsc := 0, pktTsc := 102 } (s 0) (dnsReply 2000)
      (NeverAssigned smallConf (fun _ => dnsRule) dnsExchange 0 2000) := by
  refine exists_some_of (by decide) ?_
  intro s hs
  exact ⟨cls_dnsReply 2000, (virtsvc_replies hs rfl (cls_dnsReply 2000)).mpr (.inl (by decide))⟩

/-- An answer to port 80 is looked for behind the array. -/
theorem virtsvc_replies_behind : clsVirtsvc smallConf dnsTrees (dnsReply 80) = some dnsRule ∧
    ∃ s, run (virtsvcStep smallConf) (dpVirtsvcInit fun _ : Fin 1 => dnsRule) dnsExchange = some s ∧
      ∀ e, virtsvcReplyNext smallConf e (s 0) (dnsReply 80) = none := by
  refine ⟨cls_dnsReply 80, exists_some_of (by decide) ?_⟩
  intro s _ e
  exact virtsvcReplyNext_system rfl (by decide) rfl

/-! ## Deleted interfaces -/

/-- The clock does not read 0 when a packet is noted. -/
def NotedLive {n : ℕ} : VirtsvcEvent n → Prop
  | .request _ _ e => e.pktTsc ≠ 0
  | .reply _ _ e => e.pktTsc ≠ 0
  | .delIface _ => True

/-- The hash table leads to live connections with the right key; also after failed insertions, which leave live
connections that the hash table does not know. -/
def Virtsvc.Sound (s : Virtsvc) : Prop := ∀ k i, s.openPorts k = some i → s.owner i = some k

/-- What is expected of a service after the interface was deleted. -/
structure IfaceFreed (cf : Conf) (p : PortId) (s s' : Virtsvc) : Prop where
  keys : ∀ k, k.vfPortId = p → s'.openPorts k = none
  /-- The slots of the interface are free whenever an unused slot is. -/
  free : ∀ i, (s.connections i).vfPortId = p → ∀ tsc,
    dpVirtsvcIsConnectionOld cf (s'.connections i) tsc = dpVirtsvcIsConnectionOld cf {} tsc
  otherKeys : ∀ k, k.vfPortId ≠ p → s'.openPorts k = s.openPorts k
  otherSlots : ∀ i, (s.connections i).vfPortId ≠ p → s'.connections i = s.connections i

section Deleting

variable {cf : Conf} {n : ℕ} {rules : Fin n → VirtsvcRule} {es : List (VirtsvcEvent n)} {s s' : Virtsvc} {p : PortId}
  {i : Slot} {m : Mbuf} {e : VirtsvcEnv} {key : VirtsvcConnKey} {o : Option Slot} {conn : VirtsvcConn}

/-- A packet is noted in the slot that the hash table leads to. -/
theorem Virtsvc.Sound.note {tsc : UInt64} {proto : UInt8} {h : L4Hdr} (hs : ∀ k i', s.openPorts k = some i' →
    (i' = i ∧ (s.connections i).key = k) ∨ (i' ≠ i ∧ s.owner i' = some k)) (ht : tsc ≠ 0) :
    Virtsvc.Sound { s with connections := Function.update s.connections i ((s.connections i).note tsc proto h) } := by
  intro k i' hk
  rw [owner_update rfl, owner_live ht]
  obtain ⟨rfl, hkey⟩ | ⟨hne, hown⟩ := hs k i' hk
  · rw [Function.update_self]
    exact congrArg some hkey
  · rwa [Function.update_of_ne hne]

theorem Virtsvc.Sound.noteLive {tsc : UInt64} {proto : UInt8} {h : L4Hdr} (hs : s.Sound) (ht : tsc ≠ 0) :
    Virtsvc.Sound { s with connections := Function.update s.connections i ((s.connections i).note tsc proto h) } := by
  refine .note (fun k i' hk => ?_) ht
  by_cases hi : i' = i
  · subst hi
    exact .inl ⟨rfl, (owner_eq_some.mp (hs k i' hk)).2⟩
  · exact .inr ⟨hi, hs k i' hk⟩

/-- A connection is deleted from the hash table, and its slot may then be used for another one. -/
theorem Virtsvc.Sound.evict (hs : s.Sound) {k : VirtsvcConnKey} {i' : Slot}
    (hk : (if (s.connections i).lastPktTimestamp ≠ 0 then s.openPorts.del (s.connections i).key else s.openPorts) k =
      some i') : i' ≠ i ∧ s.owner i' = some k := by
  split at hk
  next hlive =>
    obtain ⟨hne, hold⟩ := Table.del_eq_some.mp hk
    refine ⟨?_, hs k i' hold⟩
    rintro rfl
    exact hne (owner_eq_some.mp (hs k i' hold)).2.symm
  next hdead =>
    refine ⟨?_, hs k i' hk⟩
    rintro rfl
    exact hdead (owner_eq_some.mp (hs k i' hk)).1

/-- A packet of a VM keeps the hash table sound. -/
theorem Virtsvc.Sound.request (hs : s.Sound) (ht : e.pktTsc ≠ 0) : (virtsvcRequestNext cf e s m).1.Sound := by
  unfold virtsvcRequestNext
  split
  · exact hs
  · split
    · exact hs
    · unfold dpVirtsvcGetPfRoute
      cases hkey : s.openPorts _ with
      | some i => exact hs.noteLive ht
      | none =>
        unfold dpVirtsvcCreateConnection
        cases hfree : dpVirtsvcGetFreePort cf s e.searchTsc with
        | none => exact hs
        | some i =>
          dsimp only
          by_cases hins : e.insertOk = true
          · rw [if_neg (by simp [hins])]
            refine .note (fun k i' hk => ?_) ht
            dsimp only at hk ⊢
            obtain ⟨rfl, rfl⟩ | ⟨-, hk⟩ := Table.add_eq_some.mp hk
            · exact .inl ⟨rfl, by rw [Function.update_self]; rfl⟩
            · obtain ⟨hne, hown⟩ := hs.evict hk
              refine .inr ⟨hne, ?_⟩
              rw [owner_update rfl, Function.update_of_ne hne]
              exact hown
          · rw [if_pos (by simp [hins])]
            exact fun k i' hk => (hs.evict hk).2

/-- A packet of the server keeps the hash table sound. -/
theorem Virtsvc.Sound.reply {r : Option (PortId × Mbuf)} (hs : s.Sound) (ht : e.pktTsc ≠ 0)
    (h : virtsvcReplyNext cf e s m = some (s', r)) : s'.Sound := by
  obtain ⟨rfl, -⟩ | ⟨k, proto, -, -, rfl⟩ := virtsvcReplyNext_cases h
  · exact hs
  · exact hs.noteLive ht

theorem Virtsvc.Sound.delSlot (hs : s.Sound) (p : PortId) (i : Slot) : (delIfaceSlot p s i).Sound := by
  unfold delIfaceSlot
  dsimp only
  split
  next hi =>
    intro k i' hk
    obtain ⟨hne, hown⟩ := hs.evict ((congrFun (if_pos hi.2) k).trans hk)
    rw [owner_update rfl, Function.update_of_ne hne]
    exact hown
  · exact hs

theorem Virtsvc.Sound.delIface (hs : s.Sound) (p : PortId) : (dpVirtsvcDelIface p s).Sound :=
  List.foldlRecOn _ _ hs fun _ hs i _ => hs.delSlot p i

theorem sound_step {s s' : Fin n → Virtsvc} {ev : VirtsvcEvent n} (hs : ∀ j, (s j).Sound) (ht : NotedLive ev)
    (h : virtsvcStep cf s ev = some s') : ∀ j, (s' j).Sound := by
  have hset : ∀ j {t : Virtsvc}, t.Sound → ∀ k, (Function.update s j t k).Sound := by
    intro j t ht k
    rw [Function.update_apply]
    split
    · exact ht
    · exact hs k
  cases ev with
  | request j m e =>
    cases h
    exact hset j ((hs j).request ht)
  | reply j m e =>
    obtain ⟨⟨t, r⟩, hr, rfl⟩ := Option.map_eq_some_iff.mp h
    exact hset j ((hs j).reply ht hr)
  | delIface p =>
    rw [← Option.some.inj h]
    exact fun j => (hs j).delIface p

theorem sound_run {s : Fin n → Virtsvc}
    (hP : Along (virtsvcStep cf) (fun _ ev => NotedLive ev) (dpVirtsvcInit rules) es)
    (hs : run (virtsvcStep cf) (dpVirtsvcInit rules) es = some s) : ∀ j, (s j).Sound :=
  run_invariant (I := fun s : Fin n → Virtsvc => ∀ j, (s j).Sound) (fun _ _ _ hs ht h => sound_step hs ht h)
    (fun _ _ i hk => absurd (hk : none = some i) (Option.some_ne_none i).symm) hP hs

/-- No key of the interface is left. -/
theorem Virtsvc.Sound.keys_deleted (hs : s.Sound) (hk : key.vfPortId = p) :
    (dpVirtsvcDelIface p s).openPorts key = none := by
  cases hopen : (dpVirtsvcDelIface p s).openPorts key with
  | none => rfl
  | some i =>
    obtain ⟨hlive, hkey⟩ := owner_eq_some.mp (hs.delIface p key i hopen)
    rw [dpVirtsvcDelIface_connections, VirtsvcConn.closed] at hlive hkey
    split at hlive
    · exact absurd rfl hlive
    next hp =>
      rw [if_neg hp] at hkey
      rw [← hkey] at hk
      exact absurd hk hp

/-- The free times of a deleted connection and of an unused slot, in terms of the two time-outs. -/
theorem closed_old_iff (hp : conn.vfPortId = p) :
    (∀ tsc, dpVirtsvcIsConnectionOld cf (conn.closed p) tsc = dpVirtsvcIsConnectionOld cf {} tsc) ↔
      virtsvcTimeout cf conn.state = virtsvcTimeout cf .transient := by
  rw [VirtsvcConn.closed, if_pos hp]
  unfold dpVirtsvcIsConnectionOld
  dsimp only
  refine ⟨fun h => ?_, fun h tsc => by rw [h]⟩
  generalize virtsvcTimeout cf conn.state = a at h ⊢
  generalize virtsvcTimeout cf .transient = b at h ⊢
  have ha := h a
  have hb := h b
  rw [UInt64.zero_add, UInt64.zero_add, decide_eq_decide, UInt64.lt_iff_toNat_lt, UInt64.lt_iff_toNat_lt] at ha hb
  exact UInt64.toNat.inj (by omega)

/-- Only established connections have a time-out of their own. -/
theorem virtsvcTimeout_of_ne {st : VirtsvcConnState} (h : st ≠ .established) :
    virtsvcTimeout cf st = virtsvcTimeout cf .transient := by
  rw [virtsvcTimeout, if_neg h, virtsvcTimeout, if_neg (by decide)]

/-- **Deleting an interface**: in every reachable state, the virtual services are rid of the interface exactly if none
of its slots is left by an established connection. -/
theorem del_iface_frees {s : Fin n → Virtsvc}
    (hP : Along (virtsvcStep cf) (fun _ ev => NotedLive ev) (dpVirtsvcInit rules) es)
    (hs : run (virtsvcStep cf) (dpVirtsvcInit rules) es = some s) (p : PortId) :
    (∀ j, IfaceFreed cf p (s j) (dpVirtsvcDelIface p (s j))) ↔
      (∀ j i, ((s j).connections i).vfPortId = p → ((s j).connections i).state ≠ .established) ∨
        virtsvcTimeout cf .established = virtsvcTimeout cf .transient := by
  constructor
  · intro hfreed
    by_contra hno
    rw [not_or] at hno
    refine hno.1 fun j i hp hest => hno.2 ?_
    have hfree := (hfreed j).free i hp
    simp only [dpVirtsvcDelIface_connections] at hfree
    rw [← hest]
    exact (closed_old_iff hp).mp hfree
  · intro hcond j
    refine ⟨fun k hk => (sound_run hP hs j).keys_deleted hk, fun i hp => ?_, fun k hk => dpVirtsvcDelIface_openPorts hk,
      fun i hp => ?_⟩
    · rw [dpVirtsvcDelIface_connections]
      refine (closed_old_iff hp).mpr ?_
      by_cases hest : ((s j).connections i).state = .established
      · rw [hest]
        exact hcond.resolve_left fun h => h j i hp hest
      · exact virtsvcTimeout_of_ne hest
    · rw [dpVirtsvcDelIface_connections]
      exact if_neg hp

end Deleting

def webSvcRule : VirtsvcRule := ⟨0xa9fe0002, 0x2001, 80, 80, ipprotoTcp⟩

def webSvcPacket (h : L4Hdr) : Mbuf :=
  { port := 2, l3 := .ipv4 7 0xa9fe0002 ipprotoTcp, l4 := { h with srcPort := 1000, dstPort := 80 } }

def webSvcRequest (j : Fin 1) (h : L4Hdr) : VirtsvcEvent 1 :=
  .request j (webSvcPacket h) { searchTsc := 100, pktTsc := 100 }

/-- The web server agrees to the connection. -/
def webSvcSynAck (j : Fin 1) : VirtsvcEvent 1 :=
  .reply j
    { port := 0, l3 := .ipv6 0x2001 1 ipprotoTcp
      l4 := { srcPort := 80, dstPort := 1025, tcpSyn := true, tcpAck := true } }
    { searchTsc := 0, pktTsc := 101 }

/-- The interface of a connection that is only being opened. -/
theorem del_iface_frees_opening :
    ∃ s, run (virtsvcStep smallConf) (dpVirtsvcInit fun _ => webSvcRule) [webSvcRequest 0 { tcpSyn := true }] = some s ∧
      ∀ j, IfaceFreed smallConf 2 (s j) (dpVirtsvcDelIface 2 (s j)) := by
  have hslot : requestSlot smallConf { searchTsc := 100, pktTsc := 100 } { toVirtsvcRule := webSvcRule }
      (webSvcPacket { tcpSyn := true }) = some ⟨1, by decide⟩ := by decide
  have hstate : ((virtsvcRequestNext smallConf { searchTsc := 100, pktTsc := 100 } { toVirtsvcRule := webSvcRule }
      (webSvcPacket { tcpSyn := true })).1.connections ⟨1, by decide⟩).state = .transientSyn := by decide
  have hnoted : Along (virtsvcStep smallConf) (fun _ ev => NotedLive ev) (dpVirtsvcInit fun _ => webSvcRule)
      [webSvcRequest 0 { tcpSyn := true }] := ⟨fun h => absurd h (by decide), fun _ _ => trivial⟩
  refine ⟨_, rfl, (del_iface_frees hnoted rfl 2).mpr (.inl fun j i _ => ?_)⟩
  obtain rfl := Subsingleton.elim j 0
  rw [Function.update_self]
  by_cases hi : i = ⟨1, by decide⟩
  · subst hi
    exact ne_of_eq_of_ne hstate (by decide)
  · have hunused := virtsvcRequestNext_connections (fun h => hi (Option.some.inj (hslot.symm.trans h)).symm)
    exact ne_of_eq_of_ne (congrArg VirtsvcConn.state hunused) (fun h : VirtsvcConnState.transient = _ => nomatch h)

/-- The interface of an open connection, 50 seconds after its last packet: its slot is still taken, unlike an unused
one. -/
theorem del_iface_frees_established :
    ∃ s, run (virtsvcStep smallConf) (dpVirtsvcInit fun _ => webSvcRule)
      [webSvcRequest 0 { tcpSyn := true }, webSvcSynAck 0, webSvcRequest 0 { tcpAck := true }] = some s ∧
      dpVirtsvcIsConnectionOld smallConf ((dpVirtsvcDelIface 2 (s 0)).connections ⟨1, by decide⟩) 150 = false ∧
      dpVirtsvcIsConnectionOld smallConf {} 150 = true := by
  refine exists_some_imp (P := fun s : Fin 1 → Virtsvc =>
    dpVirtsvcIsConnectionOld smallConf (((s 0).connections ⟨1, by decide⟩).closed 2) 150 = false) (by decide) ?_
  intro s _ hold
  refine ⟨?_, by decide⟩
  rwa [dpVirtsvcDelIface_connections]

end Dpservice
