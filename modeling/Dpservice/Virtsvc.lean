import Dpservice.Lib.Inverse
import Dpservice.Lib.Run
import Dpservice.Service

/-!
# Virtual services

A virtual service forwards the connections of VMs to a server on the underlay network. Each connection has a slot of
an array, and the slot number gives the source port towards the server; `open_ports` leads from the VM's address and
port to the slot. A slot whose last packet is too old is given to the next new connection.

- the model: `dpVirtsvcGetPfRoute` finds or makes the connection of a packet, `virtsvcRequestNext` and
  `virtsvcReplyNext` rewrite packets of VMs and of the server;
- `virtsvc_table`: hash table and array are inverse to each other (`Inverse`, with `Virtsvc.owner` as the array), in
  runs without an insertion that fails after the old connection of the slot was deleted.
-/

namespace Dpservice

/-! ## The connection table -/

abbrev nbSystemPorts : ℕ := 1024

abbrev virtsvcPortcount : ℕ := 64512

/-- An index of the connection array. -/
abbrev Slot := Fin virtsvcPortcount

inductive VirtsvcConnState where
  | transient | transientSyn | transientSynack | established
  deriving DecidableEq, Repr

structure VirtsvcConn where
  lastPktTimestamp : UInt64 := 0
  vfIp : Ip4 := 0
  vfL4Port : UInt16 := 0
  vfPortId : PortId := 0
  state : VirtsvcConnState := .transient
  deriving DecidableEq, Repr

structure VirtsvcConnKey where
  vfPortId : PortId
  vfL4Port : UInt16
  vfIp : Ip4
  deriving DecidableEq, Repr

/-- The key that a connection stores. -/
def VirtsvcConn.key (conn : VirtsvcConn) : VirtsvcConnKey := ⟨conn.vfPortId, conn.vfL4Port, conn.vfIp⟩

structure VirtsvcRule where
  virtualAddr : Ip4
  serviceAddr : Ip6
  virtualPort : UInt16
  servicePort : UInt16
  proto : UInt8
  deriving DecidableEq, Repr

structure Virtsvc extends VirtsvcRule where
  lastAssignedPort : Slot := ⟨0, by decide⟩
  openPorts : Table VirtsvcConnKey Slot := Table.empty
  connections : Slot → VirtsvcConn := fun _ => {}

/-- `dp_virtsvc_init`: the services start without connections. -/
def dpVirtsvcInit {n : ℕ} (rules : Fin n → VirtsvcRule) : Fin n → Virtsvc := fun j => { toVirtsvcRule := rules j }

/-- What a packet takes from outside the program: two readings of the clock, and which operations fail. -/
structure VirtsvcEnv where
  /-- The clock while a slot is searched. -/
  searchTsc : UInt64
  /-- The clock when the packet is noted. -/
  pktTsc : UInt64
  /-- `rte_hash_add_key_with_hash_data` succeeds. -/
  insertOk : Bool := true
  /-- The total length of the packet covers its IPv4 header. -/
  lenOk : Bool := true
  /-- `dp_multipath_get_pf` chooses the second physical port. -/
  usePf1 : Bool := false

def virtsvcTimeout (cf : Conf) (st : VirtsvcConnState) : UInt64 :=
  (if st = .established then 86400 else 30) * cf.timerHz

def dpVirtsvcIsConnectionOld (cf : Conf) (conn : VirtsvcConn) (tsc : UInt64) : Bool :=
  conn.lastPktTimestamp + virtsvcTimeout cf conn.state < tsc

/-- The first of `count` slots from `port` on whose connection is old. -/
def firstOld (cf : Conf) (conns : Slot → VirtsvcConn) (tsc : UInt64) : ℕ → ℕ → Option Slot
  | 0, _ => none
  | count + 1, port =>
    if h : port < virtsvcPortcount then
      if dpVirtsvcIsConnectionOld cf (conns ⟨port, h⟩) tsc then some ⟨port, h⟩
      else firstOld cf conns tsc count (port + 1)
    else none

/-- `dp_virtsvc_get_free_port`: the slots after the last assigned one, then those up to it. -/
def dpVirtsvcGetFreePort (cf : Conf) (s : Virtsvc) (tsc : UInt64) : Option Slot :=
  let last := s.lastAssignedPort.val
  match firstOld cf s.connections tsc (virtsvcPortcount - (last + 1)) (last + 1) with
  | some i => some i
  | none => firstOld cf s.connections tsc (last + 1) 0

/-- `dp_virtsvc_create_connection`: the slot, `none` on failure. The old connection of the slot is deleted first. -/
def dpVirtsvcCreateConnection (cf : Conf) (e : VirtsvcEnv) (s : Virtsvc) (key : VirtsvcConnKey) :
    Option Slot × Virtsvc :=
  match dpVirtsvcGetFreePort cf s e.searchTsc with
  | none => (none, s)
  | some i =>
    let conn := s.connections i
    let openPorts := if conn.lastPktTimestamp ≠ 0 then s.openPorts.del conn.key else s.openPorts
    let s := { s with lastAssignedPort := i, openPorts := openPorts }
    if !e.insertOk then (none, s)
    else
      let conn := { conn with
        vfIp := key.vfIp, vfL4Port := key.vfL4Port, vfPortId := key.vfPortId, state := .transient }
      (some i, { s with openPorts := openPorts.add key i, connections := Function.update s.connections i conn })

/-- `dp_virtsvc_get_pf_route`, without the choice of the physical port. -/
def dpVirtsvcGetPfRoute (cf : Conf) (e : VirtsvcEnv) (s : Virtsvc) (key : VirtsvcConnKey) : Option Slot × Virtsvc :=
  match s.openPorts key with
  | some i => (some i, s)
  | none => dpVirtsvcCreateConnection cf e s key

/-! ## The `virtsvc` node -/

def virtsvcTcpStateChange (st : VirtsvcConnState) (h : L4Hdr) : VirtsvcConnState :=
  if h.tcpRst then .transient
  else if h.tcpFin then .transient
  else
    match st with
    | .transient => if h.tcpSyn then .transientSyn else st
    | .transientSyn => if h.tcpSyn && h.tcpAck then .transientSynack else st
    | .transientSynack => if h.tcpAck then .established else st
    | .established => st

/-- A packet of a connection is noted. -/
def VirtsvcConn.note (conn : VirtsvcConn) (tsc : UInt64) (proto : UInt8) (h : L4Hdr) : VirtsvcConn :=
  { conn with
    lastPktTimestamp := tsc
    state := if proto = ipprotoTcp then virtsvcTcpStateChange conn.state h else conn.state }

def virtsvcGetPortForConn (i : Slot) : UInt16 := UInt16.ofNat (i.val + nbSystemPorts)

/-- `virtsvc_request_next`: a packet of a VM goes to the server; `none` in the second component is a drop. -/
def virtsvcRequestNext (cf : Conf) (e : VirtsvcEnv) (s : Virtsvc) (m : Mbuf) : Virtsvc × Option (PortId × Mbuf) :=
  match m.l3 with
  -- only IPv4 packets of VMs come here
  | .ipv6 .. => (s, none)
  | .ipv4 src _ proto =>
    if !e.lenOk || !m.canGrow then (s, none)
    else
      match dpVirtsvcGetPfRoute cf e s ⟨m.port, m.l4.srcPort, src⟩ with
      | (none, s) => (s, none)
      | (some i, s) =>
        let s := { s with connections := Function.update s.connections i ((s.connections i).note e.pktTsc proto m.l4) }
        let pf := if e.usePf1 then cf.pf1 else cf.pf0
        let l4 := { m.l4 with srcPort := virtsvcGetPortForConn i, dstPort := s.servicePort }
        (s, if !cf.hasPort pf then none
          else some (pf, { m with l3 := .ipv6 cf.underlayIp s.serviceAddr proto, l4 := l4 }))

/-- `virtsvc_get_conn_on_port`: the index in 16 bits, `none` outside the array. -/
def virtsvcGetConnOnPort (l4Port : UInt16) : Option Slot :=
  let idx := (l4Port - UInt16.ofNat nbSystemPorts).toNat
  if h : idx < virtsvcPortcount then some ⟨idx, h⟩ else none

/-- `virtsvc_reply_next`: a packet of the server goes to the VM. `none` where the code reads outside the array. Whether
`rte_pktmbuf_adj` finds a whole IPv6 header is not checked: `canShrink` says that `rte_pktmbuf_prepend` finds
headroom. -/
def virtsvcReplyNext (cf : Conf) (e : VirtsvcEnv) (s : Virtsvc) (m : Mbuf) :
    Option (Virtsvc × Option (PortId × Mbuf)) :=
  match m.l3 with
  -- only IPv6 packets from physical ports come here
  | .ipv4 .. => some (s, none)
  | .ipv6 _ _ proto =>
    if !m.canShrink then some (s, none)
    else
      match virtsvcGetConnOnPort m.l4.dstPort with
      | none => none
      | some i =>
        let conn := s.connections i
        if conn.lastPktTimestamp = 0 then some (s, none)
        else
          let s := { s with connections := Function.update s.connections i (conn.note e.pktTsc proto m.l4) }
          let l4 := { m.l4 with dstPort := conn.vfL4Port, srcPort := s.virtualPort }
          some (s, if !cf.hasPort conn.vfPortId then none
            else some (conn.vfPortId, { m with l3 := .ipv4 s.virtualAddr conn.vfIp proto, l4 := l4 }))

/-! ## Deleting an interface -/

def delIfaceSlot (p : PortId) (s : Virtsvc) (i : Slot) : Virtsvc :=
  let conn := s.connections i
  if conn.vfPortId = p ∧ conn.lastPktTimestamp ≠ 0 then
    { s with
      connections := Function.update s.connections i { conn with lastPktTimestamp := 0 }
      openPorts := s.openPorts.del conn.key }
  else s

def dpVirtsvcDelIface (p : PortId) (s : Virtsvc) : Virtsvc := (List.finRange virtsvcPortcount).foldl (delIfaceSlot p) s

/-! ## Runs -/

/-- What can happen to `n` virtual services; the packet was found to belong to the service by its addresses. -/
inductive VirtsvcEvent (n : ℕ) where
  | request (j : Fin n) (m : Mbuf) (e : VirtsvcEnv)
  | reply (j : Fin n) (m : Mbuf) (e : VirtsvcEnv)
  | delIface (p : PortId)

def virtsvcStep (cf : Conf) {n : ℕ} (s : Fin n → Virtsvc) : VirtsvcEvent n → Option (Fin n → Virtsvc)
  | .request j m e => some (Function.update s j (virtsvcRequestNext cf e (s j) m).1)
  | .reply j m e => (virtsvcReplyNext cf e (s j) m).map fun r => Function.update s j r.1
  | .delIface p => some fun j => dpVirtsvcDelIface p (s j)

/-- The key of a live connection. -/
def VirtsvcConn.owner (conn : VirtsvcConn) : Option VirtsvcConnKey :=
  if conn.lastPktTimestamp = 0 then none else some conn.key

def Virtsvc.owner (s : Virtsvc) : Table Slot VirtsvcConnKey := fun i => (s.connections i).owner

/-- The hash table and the array of a service say the same. -/
def Virtsvc.Matched (s : Virtsvc) : Prop := Inverse s.openPorts s.owner

section Matched

variable {cf : Conf} {e : VirtsvcEnv} {s s' : Virtsvc} {i : Slot} {conn : VirtsvcConn} {key : VirtsvcConnKey} {m : Mbuf}
  {o : Option Slot}

theorem owner_eq_some : s.owner i = some key ↔ (s.connections i).lastPktTimestamp ≠ 0 ∧
    (s.connections i).key = key := by
  unfold Virtsvc.owner VirtsvcConn.owner
  split <;> simp_all

theorem owner_eq_none : s.owner i = none ↔ (s.connections i).lastPktTimestamp = 0 := by
  unfold Virtsvc.owner VirtsvcConn.owner
  split <;> simp_all

/-- A connection is written into a slot. -/
theorem owner_update (h : s'.connections = Function.update s.connections i conn) :
    s'.owner = Function.update s.owner i conn.owner := by
  unfold Virtsvc.owner
  rw [h]
  exact Function.comp_update VirtsvcConn.owner s.connections i conn

theorem owner_live (h : conn.lastPktTimestamp ≠ 0) : conn.owner = some conn.key := if_neg h

theorem owner_dead (h : conn.lastPktTimestamp = 0) : conn.owner = none := if_pos h

theorem matched_init (r : VirtsvcRule) : Virtsvc.Matched { toVirtsvcRule := r } := Inverse.empty

/-- Noting a packet of a live connection. -/
theorem Virtsvc.Matched.note {tsc : UInt64} {proto : UInt8} {h : L4Hdr} (hm : s.Matched) (ht : tsc ≠ 0)
    (hi : (s.connections i).lastPktTimestamp ≠ 0) :
    Virtsvc.Matched { s with connections := Function.update s.connections i ((s.connections i).note tsc proto h) } := by
  unfold Virtsvc.Matched
  rw [owner_update rfl, owner_live ht]
  have hown : s.owner i = some ((s.connections i).note tsc proto h).key := owner_eq_some.mpr ⟨hi, rfl⟩
  have hsame : s.owner.add i ((s.connections i).note tsc proto h).key = s.owner := Table.add_same hown
  rw [Table.add] at hsame
  rw [hsame]
  exact hm

/-- The old connection of a slot is deleted from the hash table. -/
theorem Virtsvc.Matched.evict (hm : s.Matched) (i : Slot) :
    Inverse (if (s.connections i).lastPktTimestamp ≠ 0 then s.openPorts.del (s.connections i).key else s.openPorts)
      (s.owner.del i) := by
  split
  next hi => exact hm.del ((hm.iff _ _).mpr (owner_eq_some.mpr ⟨hi, rfl⟩))
  next hi =>
    rw [Table.del_of_none (owner_eq_none.mpr (not_not.mp hi))]
    exact hm

/-- A connection is made, or not: the slot is given to the new key. -/
theorem Virtsvc.Matched.create (hm : s.Matched) (hkey : s.openPorts key = none)
    (hins : e.insertOk = false → ∀ i ∈ dpVirtsvcGetFreePort cf s e.searchTsc, (s.connections i).lastPktTimestamp = 0)
    (h : dpVirtsvcCreateConnection cf e s key = (o, s')) :
    (o = none ∧ s'.Matched) ∨ ∃ i, o = some i ∧ Inverse s'.openPorts (s'.owner.add i (s'.connections i).key) := by
  unfold dpVirtsvcCreateConnection at h
  split at h
  · cases h
    exact .inl ⟨rfl, hm⟩
  next i hi =>
    have hev := hm.evict i
    dsimp only at h
    generalize hop : (if (s.connections i).lastPktTimestamp ≠ 0 then s.openPorts.del (s.connections i).key
      else s.openPorts) = op at h hev
    split at h
    next hno =>
      cases h
      have hdead := hins (by simpa using hno) i hi
      rw [if_neg (not_not.mpr hdead)] at hop
      subst hop
      exact .inl ⟨rfl, hm⟩
    · obtain ⟨rfl, hs⟩ := Prod.mk.inj h
      have hnone : op key = none := by
        rw [← hop]
        split
        · rw [Table.del_apply, hkey, ite_self]
        · exact hkey
      have hadd := hev.add hnone (Table.del_self s.owner i)
      have hidem : ∀ o, Table.add (Function.update s.owner i o) i key = (s.owner.del i).add i key := fun o =>
        (Function.update_idem ..).trans (Function.update_idem ..).symm
      have hconn := (congrArg Virtsvc.connections hs).symm
      have hopen := (congrArg Virtsvc.openPorts hs).symm
      refine .inr ⟨i, rfl, ?_⟩
      rw [owner_update hconn, hopen, hconn]
      dsimp only
      rw [Function.update_self]
      exact (hidem _).symm ▸ hadd

/-- **A packet of a VM keeps the table and the array inverse.** -/
theorem Virtsvc.Matched.request (hm : s.Matched) (ht : e.pktTsc ≠ 0)
    (hins : e.insertOk = false → s.openPorts ⟨m.port, m.l4.srcPort, m.src4⟩ = none →
      ∀ i ∈ dpVirtsvcGetFreePort cf s e.searchTsc, (s.connections i).lastPktTimestamp = 0) :
    (virtsvcRequestNext cf e s m).1.Matched := by
  unfold virtsvcRequestNext
  split
  · exact hm
  next src dst proto hl3 =>
    have hsrc : m.src4 = src := by rw [Mbuf.src4, hl3]
    rw [hsrc] at hins
    split
    · exact hm
    · have hnote : ∀ {i} {s₁ : Virtsvc}, Inverse s₁.openPorts (s₁.owner.add i (s₁.connections i).key) →
          Virtsvc.Matched { s₁ with
          connections := Function.update s₁.connections i ((s₁.connections i).note e.pktTsc proto m.l4) } := by
        intro i s₁ hinv
        unfold Virtsvc.Matched
        rw [owner_update rfl, owner_live ht]
        exact hinv
      unfold dpVirtsvcGetPfRoute
      cases hkey : s.openPorts ⟨m.port, m.l4.srcPort, src⟩ with
      | some i =>
        have hown := (hm.iff _ _).mp hkey
        have hinv : Inverse s.openPorts (s.owner.add i (s.connections i).key) := by
          rw [(owner_eq_some.mp hown).2, Table.add_same hown]
          exact hm
        exact hnote hinv
      | none =>
        dsimp only
        split
        next hc =>
          obtain ⟨-, hm'⟩ | ⟨i, ho, -⟩ := hm.create hkey (fun hno => hins hno hkey) hc
          · exact hm'
          · cases ho
        next hc =>
          obtain ⟨ho, -⟩ | ⟨i, ho, hinv⟩ := hm.create hkey (fun hno => hins hno hkey) hc
          · cases ho
          · cases ho
            exact hnote hinv

/-- A packet of the server keeps the table and the array inverse. -/
theorem Virtsvc.Matched.reply {r : Option (PortId × Mbuf)} (hm : s.Matched) (ht : e.pktTsc ≠ 0)
    (h : virtsvcReplyNext cf e s m = some (s', r)) : s'.Matched := by
  unfold virtsvcReplyNext at h
  split at h
  · cases h
    exact hm
  · split at h
    · cases h
      exact hm
    · split at h
      · cases h
      · dsimp only at h
        split at h
        · cases h
          exact hm
        next hi =>
          cases h
          exact hm.note ht hi

/-- Deleting the connections of an interface keeps the table and the array inverse, slot by slot. -/
theorem Virtsvc.Matched.delSlot (hm : s.Matched) (p : PortId) (i : Slot) : (delIfaceSlot p s i).Matched := by
  unfold delIfaceSlot
  dsimp only
  split
  next hi =>
    unfold Virtsvc.Matched
    rw [owner_update rfl, owner_dead rfl]
    exact hm.del ((hm.iff _ _).mpr (owner_eq_some.mpr ⟨hi.2, rfl⟩))
  · exact hm

theorem Virtsvc.Matched.delIface (hm : s.Matched) (p : PortId) : (dpVirtsvcDelIface p s).Matched :=
  List.foldlRecOn _ _ hm fun _ hs i _ => hs.delSlot p i

end Matched

/-! ## The table and the array -/

/-- The clock never reads 0 when a packet is noted; no insertion fails for a slot whose old connection was just deleted;
and the server answers to no system port. -/
def VirtsvcSafe (cf : Conf) {n : ℕ} (s : Fin n → Virtsvc) : VirtsvcEvent n → Prop
  | .request j m e => e.pktTsc ≠ 0 ∧
      (e.insertOk = false → (s j).openPorts ⟨m.port, m.l4.srcPort, m.src4⟩ = none →
        ∀ i ∈ dpVirtsvcGetFreePort cf (s j) e.searchTsc, ((s j).connections i).lastPktTimestamp = 0)
  | .reply _ m e => e.pktTsc ≠ 0 ∧ nbSystemPorts ≤ m.l4.dstPort.toNat
  | .delIface _ => True

instance (cf : Conf) {n : ℕ} (s : Fin n → Virtsvc) : ∀ ev, Decidable (VirtsvcSafe cf s ev)
  | .request j m e => inferInstanceAs (Decidable (e.pktTsc ≠ 0 ∧
      (e.insertOk = false → (s j).openPorts ⟨m.port, m.l4.srcPort, m.src4⟩ = none →
        ∀ i ∈ dpVirtsvcGetFreePort cf (s j) e.searchTsc, ((s j).connections i).lastPktTimestamp = 0)))
  | .reply _ m e => inferInstanceAs (Decidable (e.pktTsc ≠ 0 ∧ nbSystemPorts ≤ m.l4.dstPort.toNat))
  | .delIface _ => .isTrue trivial

/-- What the NAT table of a virtual service promises. -/
structure VirtsvcOk (cf : Conf) (s : Virtsvc) : Prop where
  /-- The hash table leads from a key to a slot exactly if the slot is live and stores this key. -/
  table : ∀ k i, s.openPorts k = some i ↔ (s.connections i).lastPktTimestamp ≠ 0 ∧ (s.connections i).key = k
  /-- Two live connections do not share a slot. -/
  slot : ∀ k k' i, s.openPorts k = some i → s.openPorts k' = some i → k = k'
  /-- One key does not own two slots. -/
  key : ∀ i i', (s.connections i).lastPktTimestamp ≠ 0 → (s.connections i').lastPktTimestamp ≠ 0 →
    (s.connections i).key = (s.connections i').key → i = i'
  /-- A reply goes to the VM whose key owns the slot of the port it is addressed to, and nowhere else. -/
  reply : ∀ (i : Slot) e m s' p m', m.l4.dstPort.toNat = i.val + nbSystemPorts →
    virtsvcReplyNext cf e s m = some (s', some (p, m')) → s.openPorts ⟨p, m'.l4.dstPort, m'.dst4⟩ = some i

section Ok

variable {cf : Conf} {e : VirtsvcEnv} {s s' : Virtsvc} {i : Slot} {m m' : Mbuf} {p : PortId}

/-- The index of the slot that a port stands for. -/
theorem virtsvcGetConnOnPort_eq {l4Port : UInt16} (h : l4Port.toNat = i.val + nbSystemPorts) :
    virtsvcGetConnOnPort l4Port = some i := by
  have hidx : (l4Port - UInt16.ofNat nbSystemPorts).toNat = i.val := by
    have hi : i.val < 64512 := i.isLt
    simp only [nbSystemPorts] at h ⊢
    rw [UInt16.toNat_sub, UInt16.toNat_ofNat']
    omega
  unfold virtsvcGetConnOnPort
  dsimp only
  rw [dif_pos (by rw [hidx]; exact i.isLt)]
  exact congrArg some (Fin.ext hidx)

/-- Ports from the first one after the system ports on stand for a slot. -/
theorem virtsvcReplyNext_defined (h : nbSystemPorts ≤ m.l4.dstPort.toNat) :
    ∃ r, virtsvcReplyNext cf e s m = some r := by
  have hlt : m.l4.dstPort.toNat - nbSystemPorts < virtsvcPortcount := by
    have := m.l4.dstPort.toNat_lt
    simp only [nbSystemPorts, virtsvcPortcount] at h ⊢
    omega
  have hconn : virtsvcGetConnOnPort m.l4.dstPort = some ⟨_, hlt⟩ :=
    virtsvcGetConnOnPort_eq (Nat.sub_add_cancel h).symm
  unfold virtsvcReplyNext
  split
  · exact ⟨_, rfl⟩
  · split
    · exact ⟨_, rfl⟩
    · rw [hconn]
      dsimp only
      split <;> exact ⟨_, rfl⟩

/-- Where a reply goes. -/
theorem virtsvcReplyNext_sent (h : virtsvcReplyNext cf e s m = some (s', some (p, m'))) :
    ∃ i, virtsvcGetConnOnPort m.l4.dstPort = some i ∧ s.owner i = some ⟨p, m'.l4.dstPort, m'.dst4⟩ := by
  unfold virtsvcReplyNext at h
  split at h
  · cases h
  · split at h
    · cases h
    · split at h
      · cases h
      next i hi =>
        dsimp only at h
        split at h
        · cases h
        next hlive =>
          split at h
          · cases h
          · cases h
            exact ⟨i, hi, owner_eq_some.mpr ⟨hlive, rfl⟩⟩

theorem Virtsvc.Matched.ok (hm : s.Matched) : VirtsvcOk cf s where
  table k i := (hm.iff k i).trans owner_eq_some
  slot k k' i hk hk' := hm.inj hk hk'
  key i i' hi hi' hkey := by
    have h₁ := (hm.iff _ _).mpr (owner_eq_some.mpr ⟨hi, hkey⟩)
    have h₂ := (hm.iff _ _).mpr (owner_eq_some.mpr ⟨hi', rfl⟩)
    rw [h₁, Option.some.injEq] at h₂
    exact h₂
  reply i e m s' p m' hport h := by
    obtain ⟨i', hi', hown⟩ := virtsvcReplyNext_sent h
    rw [virtsvcGetConnOnPort_eq hport, Option.some.injEq] at hi'
    subst hi'
    exact (hm.iff _ _).mpr hown

/-- An event that meets the condition is defined and keeps tables and arrays inverse. -/
theorem virtsvcStep_matched {n : ℕ} {s : Fin n → Virtsvc} {ev : VirtsvcEvent n} (hm : ∀ j, (s j).Matched)
    (hp : VirtsvcSafe cf s ev) : ∃ s', virtsvcStep cf s ev = some s' ∧ ∀ j, (s' j).Matched := by
  have hset : ∀ j {t : Virtsvc}, t.Matched → ∀ k, (Function.update s j t k).Matched := by
    intro j t ht k
    rw [Function.update_apply]
    split
    · exact ht
    · exact hm k
  cases ev with
  | request j m e => exact ⟨_, rfl, hset j ((hm j).request hp.1 hp.2)⟩
  | reply j m e =>
    obtain ⟨r, hr⟩ := virtsvcReplyNext_defined hp.2
    exact ⟨_, congrArg (Option.map _) hr, hset j ((hm j).reply hp.1 hr)⟩
  | delIface p => exact ⟨_, rfl, fun j => (hm j).delIface p⟩

/-- **The NAT tables of the virtual services**: in every run whose events meet the condition, which is then defined,
each hash table is inverse to its array, and replies go to the owner of the slot. -/
theorem virtsvc_table {n : ℕ} {rules : Fin n → VirtsvcRule} {es : List (VirtsvcEvent n)}
    (hP : Along (virtsvcStep cf) (VirtsvcSafe cf) (dpVirtsvcInit rules) es) :
    ∃ s, run (virtsvcStep cf) (dpVirtsvcInit rules) es = some s ∧ ∀ j, VirtsvcOk cf (s j) := by
  obtain ⟨s, hs, hm⟩ := run_total (I := fun s : Fin n → Virtsvc => ∀ j, (s j).Matched)
    (fun _ _ hm hp => virtsvcStep_matched hm hp) (fun j => matched_init (rules j)) hP
  exact ⟨s, hs, fun j => (hm j).ok⟩

end Ok

/-- 169.254.0.1:53 stands for port 53 of a server. -/
def dnsRule : VirtsvcRule := ⟨0xa9fe0001, 0x2001, 53, 53, ipprotoUdp⟩

def dnsRequest (ip : Ip4) : Mbuf :=
  { port := 2, l3 := .ipv4 ip 0xa9fe0001 ipprotoUdp, l4 := { srcPort := 1000, dstPort := 53 } }

def dnsReply (dstPort : UInt16) : Mbuf :=
  { port := 0, l3 := .ipv6 0x2001 1 ipprotoUdp, l4 := { srcPort := 53, dstPort := dstPort } }

def dnsExchange : List (VirtsvcEvent 1) :=
  [.request 0 (dnsRequest 7) { searchTsc := 100, pktTsc := 100 },
    .reply 0 (dnsReply 1025) { searchTsc := 0, pktTsc := 101 }]

/-- The connection has slot 1. -/
theorem virtsvc_table_dns :
    ∃ s, run (virtsvcStep smallConf) (dpVirtsvcInit fun _ => dnsRule) dnsExchange = some s ∧
      ((s 0).openPorts ⟨2, 1000, 7⟩).map Fin.val = some 1 ∧ ∀ j, VirtsvcOk smallConf (s j) := by
  have hok : ∃ s, run (virtsvcStep smallConf) (dpVirtsvcInit fun _ => dnsRule) dnsExchange = some s ∧
      ∀ j, VirtsvcOk smallConf (s j) := virtsvc_table (by decide)
  have hrun : (run (virtsvcStep smallConf) (dpVirtsvcInit fun _ => dnsRule) dnsExchange).any (fun s =>
      ((s 0).openPorts ⟨2, 1000, 7⟩).map Fin.val == some 1) = true := by decide
  obtain ⟨s, hs, hok⟩ := hok
  rw [hs] at hrun
  exact ⟨s, hs, by simpa using hrun, hok⟩

/-! ## A full table

The slots are given out in order, so an old connection is replaced only after all slots were used once. -/

def dnsKey (k : ℕ) : VirtsvcConnKey := ⟨2, 1000, BitVec.ofNat 32 k⟩

def dnsEvent (tsc : UInt64) (insertOk : Bool) (k : ℕ) : VirtsvcEvent 1 :=
  .request 0 (dnsRequest (BitVec.ofNat 32 k)) { searchTsc := tsc, pktTsc := tsc, insertOk := insertOk }

/-- The first `k` VMs have one slot each, from slot 1 on. -/
structure Filled (k : ℕ) (s : Virtsvc) : Prop where
  last : s.lastAssignedPort.val = k
  first : ∀ i : Slot, i.val = 1 → i.val ≤ k → s.connections i = ⟨100, 0, 1000, 2, .transient⟩
  unused : ∀ i : Slot, i.val = 0 ∨ k < i.val → s.connections i = {}
  absent : ∀ j, k ≤ j → j ≤ virtsvcPortcount → s.openPorts (dnsKey j) = none

section Full

variable {s : Virtsvc} {k : ℕ} {i : Slot}

/-- A request that takes an unused slot. -/
theorem dnsRequest_unused (hkey : s.openPorts (dnsKey k) = none) (hfree : dpVirtsvcGetFreePort smallConf s 100 = some i)
    (hi : s.connections i = {}) :
    (virtsvcRequestNext smallConf { searchTsc := 100, pktTsc := 100 } s (dnsRequest (BitVec.ofNat 32 k))).1 =
      { s with
        lastAssignedPort := i
        openPorts := s.openPorts.add (dnsKey k) i
        connections := Function.update s.connections i ⟨100, BitVec.ofNat 32 k, 1000, 2, .transient⟩ } := by
  have hkey' : s.openPorts ⟨2, 1000, BitVec.ofNat 32 k⟩ = none := hkey
  simp +decide [virtsvcRequestNext, dnsRequest, dpVirtsvcGetPfRoute, hkey', dpVirtsvcCreateConnection, hfree, hi,
    VirtsvcConn.note, dnsKey]

theorem dnsKey_ne {j : ℕ} (h : j ≠ k) (hj : j ≤ virtsvcPortcount) (hk : k ≤ virtsvcPortcount) :
    dnsKey j ≠ dnsKey k := by
  intro heq
  have hip : (BitVec.ofNat 32 j).toNat = (BitVec.ofNat 32 k).toNat :=
    congrArg (fun key => BitVec.toNat (VirtsvcConnKey.vfIp key)) heq
  simp only [BitVec.toNat_ofNat, virtsvcPortcount] at hip hj hk
  omega

/-- An unused slot is old. -/
theorem unused_old (h : s.connections i = {}) : dpVirtsvcIsConnectionOld smallConf (s.connections i) 100 = true := by
  rw [h]
  decide

theorem Filled.step (hf : Filled k s) (hk : k + 1 < virtsvcPortcount) :
    Filled (k + 1)
      (virtsvcRequestNext smallConf { searchTsc := 100, pktTsc := 100 } s (dnsRequest (BitVec.ofNat 32 k))).1 := by
  have hi : s.connections ⟨k + 1, hk⟩ = {} := hf.unused _ (.inr (Nat.lt_succ_self k))
  have hfree : dpVirtsvcGetFreePort smallConf s 100 = some ⟨k + 1, hk⟩ := by
    unfold dpVirtsvcGetFreePort
    dsimp only
    obtain ⟨c, hc⟩ : ∃ c, virtsvcPortcount - (k + 1) = c + 1 := ⟨virtsvcPortcount - (k + 1) - 1, by omega⟩
    rw [hf.last, hc, firstOld, dif_pos hk, if_pos (unused_old hi)]
  rw [dnsRequest_unused (hf.absent k (Nat.le_refl k) (by omega)) hfree hi]
  refine ⟨rfl, fun j hj _ => ?_, fun j hj => ?_, fun j hkj hj => ?_⟩
  · dsimp only
    by_cases hk0 : k = 0
    · subst hk0
      obtain rfl : j = ⟨1, hk⟩ := Fin.ext hj
      exact Function.update_self ..
    · rw [Function.update_of_ne (fun h => by rw [h] at hj; simp at hj; omega)]
      exact hf.first j hj (by omega)
  · dsimp only
    rw [Function.update_of_ne (fun h => by rw [h] at hj; simp at hj)]
    exact hf.unused j (hj.imp_right (by omega))
  · dsimp only
    rw [Table.add_of_ne (dnsKey_ne (by omega) hj (by omega))]
    exact hf.absent j (by omega) hj

/-- All slots but slot 0 are used: the next request takes it. -/
theorem Filled.wrap {s' : Virtsvc} (hf : Filled 64511 s)
    (h : (virtsvcRequestNext smallConf { searchTsc := 100, pktTsc := 100 } s (dnsRequest (BitVec.ofNat 32 64511))).1 =
    s') : s'.lastAssignedPort.val = 0 ∧ (∀ i : Slot, i.val = 1 → s'.connections i = ⟨100, 0, 1000, 2, .transient⟩) ∧
      s'.openPorts (dnsKey 64512) = none := by
  have h0 : 0 < virtsvcPortcount := by decide
  have hi : s.connections ⟨0, h0⟩ = {} := hf.unused _ (.inl rfl)
  have hfree : dpVirtsvcGetFreePort smallConf s 100 = some ⟨0, h0⟩ := by
    unfold dpVirtsvcGetFreePort
    dsimp only
    rw [hf.last]
    change (match firstOld smallConf s.connections 100 0 64512 with
      | some i => some i
      | none => firstOld smallConf s.connections 100 (64511 + 1) 0) = _
    rw [firstOld, firstOld, dif_pos h0, if_pos (unused_old hi)]
  rw [dnsRequest_unused (hf.absent _ (Nat.le_refl _) (by decide)) hfree hi] at h
  subst h
  refine ⟨rfl, fun i h1 => ?_, ?_⟩
  · dsimp only
    rw [Function.update_of_ne (fun h => by rw [h] at h1; cases h1)]
    exact hf.first i h1 (by omega)
  · dsimp only
    rw [Table.add_of_ne (dnsKey_ne (by decide) (by decide) (by decide))]
    exact hf.absent _ (by decide) (by decide)

/-- The first connection is old: its slot is taken, but the insertion fails. -/
theorem dnsRequest_stolen (hlast : s.lastAssignedPort.val = 0) (hi : i.val = 1)
    (hconn : s.connections i = ⟨100, 0, 1000, 2, .transient⟩) (hkey : s.openPorts (dnsKey 64512) = none) :
    (virtsvcRequestNext smallConf { searchTsc := 200, pktTsc := 200, insertOk := false } s
        (dnsRequest (BitVec.ofNat 32 64512))).1 =
      { s with lastAssignedPort := i, openPorts := s.openPorts.del ⟨2, 1000, 0⟩ } := by
  have hfree : dpVirtsvcGetFreePort smallConf s 200 = some i := by
    have hlt : 0 + 1 < virtsvcPortcount := by decide
    obtain rfl : i = ⟨0 + 1, hlt⟩ := Fin.ext hi
    have hold : dpVirtsvcIsConnectionOld smallConf (s.connections ⟨0 + 1, hlt⟩) 200 = true := by
      rw [hconn]
      decide
    obtain ⟨c, hc⟩ : ∃ c, virtsvcPortcount - (0 + 1) = c + 1 := ⟨64510, rfl⟩
    unfold dpVirtsvcGetFreePort
    dsimp only
    rw [hlast, hc, firstOld, dif_pos hlt, if_pos hold]
  have hkey' : s.openPorts ⟨2, 1000, 64512#32⟩ = none := hkey
  simp +decide [virtsvcRequestNext, dnsRequest, dpVirtsvcGetPfRoute, hkey', dpVirtsvcCreateConnection, hfree, hconn,
    VirtsvcConn.key]

theorem filled_run {k : ℕ} (hk : k < virtsvcPortcount) :
    ∃ s, run (virtsvcStep smallConf) (dpVirtsvcInit fun _ => dnsRule) ((List.range k).map (dnsEvent 100 true)) =
    some s ∧ Filled k (s 0) := by
  induction k with
  | zero => exact ⟨_, rfl, rfl, fun i h1 h0 => by omega, fun _ _ => rfl, fun _ _ _ => rfl⟩
  | succ k ih =>
    obtain ⟨s, hs, hf⟩ := ih (by omega)
    refine ⟨Function.update s 0
      (virtsvcRequestNext smallConf { searchTsc := 100, pktTsc := 100 } (s 0) (dnsRequest (BitVec.ofNat 32 k))).1,
      ?_, ?_⟩
    · rw [List.range_succ, List.map_append, run_append, hs]
      rfl
    · rw [Function.update_self]
      exact hf.step hk

end Full

/-- As many requests of different VMs as there are slots; then, when the first connection is old, one whose insertion
fails. -/
def stolenSlot : List (VirtsvcEvent 1) :=
  (List.range 64511).map (dnsEvent 100 true) ++ [dnsEvent 100 true 64511, dnsEvent 200 false 64512]

/-- A failed insertion leaves the old connection of the slot live in the array, but not in the hash table. -/
theorem virtsvc_failed_insert :
    ∃ s, run (virtsvcStep smallConf) (dpVirtsvcInit fun _ => dnsRule) stolenSlot = some s ∧
      ¬ VirtsvcOk smallConf (s 0) := by
  obtain ⟨s, hs, hf⟩ := filled_run (k := 64511) (by decide)
  obtain ⟨t, ht⟩ : ∃ t, (virtsvcRequestNext smallConf { searchTsc := 100, pktTsc := 100 } (s 0)
      (dnsRequest (BitVec.ofNat 32 64511))).1 = t := ⟨_, rfl⟩
  obtain ⟨hlast, hfirst, hkey⟩ := hf.wrap ht
  let i : Slot := ⟨1, by decide⟩
  have hconn : t.connections i = ⟨100, 0, 1000, 2, .transient⟩ := hfirst i rfl
  refine ⟨Function.update (Function.update s 0 t) 0
    { t with lastAssignedPort := i, openPorts := t.openPorts.del ⟨2, 1000, 0⟩ }, ?_, fun hok => ?_⟩
  · have hsteal := dnsRequest_stolen hlast (i := i) rfl hconn hkey
    rw [stolenSlot, run_append, hs, Option.bind_some, run, dnsEvent, virtsvcStep, ht, Option.bind_some, run, dnsEvent,
      virtsvcStep, Function.update_self, hsteal]
    rfl
  · rw [Function.update_self] at hok
    -- slot 1 still stores its old key, which the table does not have any more
    have htable := (hok.table ⟨2, 1000, 0⟩ i).mpr (by rw [hconn]; exact ⟨by decide, rfl⟩)
    dsimp only at htable
    rw [Table.del_self] at htable
    cases htable

end Dpservice
