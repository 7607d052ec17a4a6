import Dpservice.Config

/-!
# Load balancers

A load balancer is found by its address and VNI, and by its id. A failed registration of the id frees the value but
leaves it in the address table, so that table maps to `none` where the value was freed.
-/

namespace Dpservice

structure LbKey where
  vni : Vni
  ip : IpAddr
  deriving DecidableEq, Repr

structure LbPort where
  protocol : UInt8 := 0
  port : UInt16 := 0
  deriving DecidableEq, Repr

structure LbValue where
  lbId : Id64 := 0
  ports : List LbPort := []
  backEndIps : Fin 64 → Ip6 := fun _ => 0
  lastSelPos : UInt16 := 0
  backEndCnt : UInt16 := 0
  lbUlAddr : Ip6 := 0

/-- The load-balancer tables; a value of `none` has been freed. -/
structure LbState where
  lbTbl : Table LbKey (Option LbValue) := Table.empty
  idMapTbl : Table Id64 LbKey := Table.empty
  /-- `rte_hash_count` of the address table. -/
  count : ℕ := 0

/-- `back_end_ips[k][0] != 0`: the first four bytes decide whether a slot is used. -/
def LbValue.used (v : LbValue) (k : Fin 64) : Bool := (v.backEndIps k).extractLsb' 96 32 != 0

/-! ## Requests -/

def dpCreateLb (e : Env) (s : LbState) (id : Id64) (key : LbKey) (ports : List LbPort) (ul : Ip6) :
    Option Ret × LbState :=
  if (s.lbTbl key).isSome then (some .alreadyExists, s)
  else if !e.ok .lbAlloc || !e.ok .lbAdd then (some .outOfMemory, s)
  else if !e.ok .lbIdAdd then (some .outOfMemory, { s with lbTbl := s.lbTbl.add key none, count := s.count + 1 })
  else
    let v : LbValue := { lbId := id, ports := ports, lbUlAddr := ul }
    (none, { lbTbl := s.lbTbl.add key (some v), idMapTbl := s.idMapTbl.add id key, count := s.count + 1 })

def dpGetLb (s : LbState) (id : Id64) : Option (Except Ret (LbKey × Ip6)) :=
  match s.idMapTbl id with
  | none => some (.error .notFound)
  | some key =>
    match s.lbTbl key with
    | none => some (.error .noBackip)
    | some none => none
    | some (some v) => some (.ok (key, v.lbUlAddr))

def dpDeleteLb (s : LbState) (id : Id64) : Option Ret × LbState :=
  match s.idMapTbl id with
  | none => (some .notFound, s)
  | some key =>
    let count := if (s.lbTbl key).isSome then s.count - 1 else s.count
    (none, { lbTbl := s.lbTbl.del key, idMapTbl := s.idMapTbl.del id, count := count })

/-- The value behind a load-balancer id: outside `none` where it was freed. -/
def lbOfId (s : LbState) (id : Id64) : Option (Except Ret (LbKey × LbValue)) :=
  match s.idMapTbl id with
  | none => some (.error .noLb)
  | some key =>
    match s.lbTbl key with
    | none => some (.error .noBackip)
    | some none => none
    | some (some v) => some (.ok (key, v))

def dpAddLbBackIp (s : LbState) (id : Id64) (ip : Ip6) : Option (Option Ret × LbState) :=
  match lbOfId s id with
  | none => none
  | some (.error r) => some (some r, s)
  | some (.ok (key, v)) =>
    if (List.finRange 64).any fun k => v.backEndIps k == ip then some (some .alreadyExists, s)
    else
      match (List.finRange 64).find? fun k => !v.used k with
      | none => some (some .limitReached, s)
      | some k =>
        let v := { v with backEndIps := Function.update v.backEndIps k ip, backEndCnt := v.backEndCnt + 1 }
        some (none, { s with lbTbl := s.lbTbl.add key (some v) })

def dpDelLbBackIp (s : LbState) (id : Id64) (ip : Ip6) : Option (Option Ret × LbState) :=
  match lbOfId s id with
  | none => none
  | some (.error r) => some (some r, s)
  | some (.ok (key, v)) =>
    match (List.finRange 64).find? fun k => v.backEndIps k == ip with
    | none => some (some .notFound, s)
    | some k =>
      let v := { v with backEndIps := Function.update v.backEndIps k 0, backEndCnt := v.backEndCnt - 1 }
      some (none, { s with lbTbl := s.lbTbl.add key (some v) })

/-- `dp_get_lb_back_ips`: the targets in the used slots, where there is memory for the replies. -/
def dpGetLbBackIps (s : LbState) (id : Id64) : Option (Except Ret (List Ip6)) :=
  match lbOfId s id with
  | none => none
  | some (.error r) => some (.error r)
  | some (.ok (_, v)) => some (.ok (((List.finRange 64).filter v.used).map v.backEndIps))

/-! ## Packets -/

def dpIsLbEnabled (s : LbState) : Bool := 0 < s.count

abbrev lbMaxPorts : ℕ := 16

/-- The array of ports: what the request leaves out is zero. -/
def LbValue.portArray (v : LbValue) : List LbPort := (List.range lbMaxPorts).map fun k => v.ports.getD k {}

/-- The first loop of `dp_lb_rr_backend`: `false` where it returns early, not where it runs to the end of the array. -/
def lbPortServed (want : LbPort) : List LbPort → Bool
  | [] => true
  | q :: qs => if q = want then true else if q.port = 0 then false else lbPortServed want qs

/-- `dp_lb_rr_backend`: the only backend, or the next used slot after the last one chosen. -/
def dpLbRrBackend (v : LbValue) (want : LbPort) : Option (Fin 64) :=
  if !lbPortServed want v.portArray then none
  else if v.backEndCnt = 1 then (List.finRange 64).find? v.used
  else
    let next := (List.range 63).map fun i => Fin.ofNat 64 (v.lastSelPos.toNat + 1 + i)
    next.find? v.used

/-- `dp_lb_get_backend_ip`: `none` where the value was freed. -/
def dpLbGetBackendIp (s : LbState) (dst : IpAddr) (dstPort : UInt16) (proto : UInt8) (vni : Vni) :
    Option (Option Ip6 × LbState) :=
  match s.lbTbl ⟨vni, dst⟩ with
  | none => some (none, s)
  | some none => none
  | some (some v) =>
    match dpLbRrBackend v { protocol := proto, port := dstPort } with
    | none => some (none, s)
    | some k =>
      let v' := { v with lastSelPos := UInt16.ofNat k }
      some (some (v.backEndIps k), { s with lbTbl := s.lbTbl.add ⟨vni, dst⟩ (some v') })

end Dpservice
