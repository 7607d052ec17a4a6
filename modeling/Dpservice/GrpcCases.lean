import Dpservice.Ifaces

/-!
# How requests end

A handler goes through its steps, and takes back what it did when one of them fails.

- `CreateLbCase` lists the ways `dp_process_create_lb` ends (`dpProcessCreateLb_cases`), `dpProcessDeleteLb_cases` those
  of a deletion;
- `requestVnf` is the VNF that a request creates, and `RequestCase` says once what every request can do
  (`dpProcessRequest_cases`).
-/

namespace Dpservice

/-! ## Load balancers -/

abbrev lbVnf (cf : Conf) (vni : Vni) (addr : IpAddr) : Vnf :=
  { type := .lb, vni := vni, portId := cf.pf0, pfx := .zero addr.isV6, length := 0 }

def LbState.create (s : LbState) (id : Id64) (key : LbKey) (ports : List LbPort) (ul : Ip6) : LbState where
  lbTbl := s.lbTbl.add key (some { lbId := id, ports := ports, lbUlAddr := ul })
  idMapTbl := s.idMapTbl.add id key
  count := s.count + 1

/-- The entry of the address table can be made. -/
def lbAccepts (e : Env) (s : LbState) (key : LbKey) : Bool :=
  (s.lbTbl key).isNone && e.ok .lbAlloc && e.ok .lbAdd

inductive CreateLbCase (cf : Conf) (e : Env) (c : Config) (s : LbState) (id : Id64) (vni : Vni) (addr : IpAddr)
    (ports : List LbPort) (r : Resp × Config × LbState) : Prop
  /-- The VNF cannot be made. -/
  | noVnf (hv : (dpCreateVnfRoute cf e c.vnf (lbVnf cf vni addr)).1 = false) (hresp : r.1 = .err .vnfInsert)
    (hcfg : r.2.1 = { c with vnf := (dpCreateVnfRoute cf e c.vnf (lbVnf cf vni addr)).2.2 }) (hlb : r.2.2 = s)
  /-- The address table refuses the entry. -/
  | refused (hv : (dpCreateVnfRoute cf e c.vnf (lbVnf cf vni addr)).1 = true) (hacc : lbAccepts e s ⟨vni, addr⟩ = false)
    {er : Ret} (hresp : r.1 = .err er)
    (hcfg : r.2.1 = { c with vnf := (dpDelVnf (dpCreateVnfRoute cf e c.vnf (lbVnf cf vni addr)).2.2
      (dpCreateVnfRoute cf e c.vnf (lbVnf cf vni addr)).2.1).2 }) (hlb : r.2.2 = s)
  /-- The id table refuses the id: the entry stays, its value is freed. -/
  | dead (hv : (dpCreateVnfRoute cf e c.vnf (lbVnf cf vni addr)).1 = true) (hacc : lbAccepts e s ⟨vni, addr⟩ = true)
    (hid : e.ok .lbIdAdd = false) (hresp : r.1 = .err .outOfMemory)
    (hcfg : r.2.1 = { c with vnf := (dpDelVnf (dpCreateVnfRoute cf e c.vnf (lbVnf cf vni addr)).2.2
      (dpCreateVnfRoute cf e c.vnf (lbVnf cf vni addr)).2.1).2 })
    (hlb : r.2.2 = { s with lbTbl := s.lbTbl.add ⟨vni, addr⟩ none, count := s.count + 1 })
  /-- The VNI cannot be made: the load balancer is deleted by its id. -/
  | noVni (hv : (dpCreateVnfRoute cf e c.vnf (lbVnf cf vni addr)).1 = true) (hacc : lbAccepts e s ⟨vni, addr⟩ = true)
    (hid : e.ok .lbIdAdd = true) (hvni : dpCreateVniRouteTables e c.vniHandleTbl vni = none)
    (hresp : r.1 = .err .vniInit4)
    (hcfg : r.2.1 = { c with vnf := (dpDelVnf (dpCreateVnfRoute cf e c.vnf (lbVnf cf vni addr)).2.2
      (dpCreateVnfRoute cf e c.vnf (lbVnf cf vni addr)).2.1).2 })
    (hlb : r.2.2 = { s with idMapTbl := s.idMapTbl.del id })
  /-- The load balancer is there. -/
  | created (hv : (dpCreateVnfRoute cf e c.vnf (lbVnf cf vni addr)).1 = true) (hacc : lbAccepts e s ⟨vni, addr⟩ = true)
    (hid : e.ok .lbIdAdd = true) {t : VniTbl} (hvni : dpCreateVniRouteTables e c.vniHandleTbl vni = some t)
    (hresp : r.1 = .ulAddr (dpCreateVnfRoute cf e c.vnf (lbVnf cf vni addr)).2.1)
    (hcfg : r.2.1 = { c with vnf := (dpCreateVnfRoute cf e c.vnf (lbVnf cf vni addr)).2.2, vniHandleTbl := t })
    (hlb : r.2.2 = s.create id ⟨vni, addr⟩ ports (dpCreateVnfRoute cf e c.vnf (lbVnf cf vni addr)).2.1)

section Cases

variable {cf : Conf} {e : Env} {c : Config} {s : LbState} {id : Id64} {key : LbKey} {vni : Vni} {addr : IpAddr}
  {ports : List LbPort} {ul : Ip6}

theorem lbAccepts_free (h : lbAccepts e s key = true) : s.lbTbl key = none := by
  simp only [lbAccepts, Bool.and_eq_true, Option.isNone_iff_eq_none] at h
  exact h.1.1

/-- How the load balancer is entered. -/
theorem dpCreateLb_cases (e : Env) (s : LbState) (id : Id64) (key : LbKey) (ports : List LbPort) (ul : Ip6) :
    (lbAccepts e s key = false ∧ ∃ er, dpCreateLb e s id key ports ul = (some er, s)) ∨
      (lbAccepts e s key = true ∧ e.ok .lbIdAdd = false ∧ dpCreateLb e s id key ports ul =
        (some .outOfMemory, { s with lbTbl := s.lbTbl.add key none, count := s.count + 1 })) ∨
      (lbAccepts e s key = true ∧ e.ok .lbIdAdd = true ∧
        dpCreateLb e s id key ports ul = (none, s.create id key ports ul)) := by
  unfold dpCreateLb lbAccepts
  cases hk : s.lbTbl key with
  | some _ => exact .inl ⟨rfl, _, rfl⟩
  | none =>
    cases ha : e.ok .lbAlloc with
    | false => exact .inl ⟨rfl, _, rfl⟩
    | true =>
      cases hd : e.ok .lbAdd with
      | false => exact .inl ⟨rfl, _, rfl⟩
      | true =>
        cases hi : e.ok .lbIdAdd with
        | false => exact .inr (.inl ⟨rfl, rfl, rfl⟩)
        | true => exact .inr (.inr ⟨rfl, rfl, rfl⟩)

/-- Deleting what was just created forgets the id, also where another load balancer had it. -/
theorem dpDeleteLb_create (h : s.lbTbl key = none) :
    (dpDeleteLb (s.create id key ports ul) id).2 = { s with idMapTbl := s.idMapTbl.del id } := by
  unfold dpDeleteLb LbState.create
  simp only [Table.add_self]
  simp [Table.del_add, Table.del_of_none h]

/-- How the creation of a load balancer ends. -/
theorem dpProcessCreateLb_cases (cf : Conf) (e : Env) (c : Config) (s : LbState) (id : Id64) (vni : Vni)
    (addr : IpAddr) (ports : List LbPort) :
    CreateLbCase cf e c s id vni addr ports (dpProcessCreateLb cf e c s id vni addr ports) := by
  unfold dpProcessCreateLb
  dsimp only
  split
  next hv => exact .noVnf (by simpa using hv) rfl rfl rfl
  next hv =>
    have hok : (dpCreateVnfRoute cf e c.vnf (lbVnf cf vni addr)).1 = true := by simpa using hv
    rcases dpCreateLb_cases e s id ⟨vni, addr⟩ ports (dpCreateVnfRoute cf e c.vnf (lbVnf cf vni addr)).2.1 with
      ⟨hacc, er, heq⟩ | ⟨hacc, hid, heq⟩ | ⟨hacc, hid, heq⟩
    · rw [heq]
      exact .refused hok hacc rfl rfl rfl
    · rw [heq]
      exact .dead hok hacc hid rfl rfl rfl
    · rw [heq]
      dsimp only
      cases ht : dpCreateVniRouteTables e c.vniHandleTbl vni with
      | none => exact .noVni hok hacc hid ht rfl rfl (dpDeleteLb_create (lbAccepts_free hacc))
      | some t => exact .created hok hacc hid ht rfl rfl rfl

/-- Beside the load balancers only the VNFs and the uses of a VNI change. -/
theorem CreateLbCase.frame {x : Resp × Config × LbState} (h : CreateLbCase cf e c s id vni addr ports x) :
    ∃ f t, x.2.1 = { c with vnf := f, vniHandleTbl := t } ∧
      (t = c.vniHandleTbl ∨ dpCreateVniRouteTables e c.vniHandleTbl vni = some t) := by
  cases h with
  | noVnf _ _ hcfg | refused _ _ _ hcfg | dead _ _ _ _ hcfg | noVni _ _ _ _ _ hcfg => exact ⟨_, _, hcfg, .inl rfl⟩
  | created _ _ _ hvni _ hcfg => exact ⟨_, _, hcfg, .inr hvni⟩

/-- A deletion finds no load balancer, or it deletes the one that the id leads to. -/
theorem dpProcessDeleteLb_cases {r : Resp × Config × LbState} (h : dpProcessDeleteLb c s id = some r) :
    (∃ er, r = (.err er, c, s)) ∨
      ∃ key v, s.idMapTbl id = some key ∧ s.lbTbl key = some (some v) ∧
        r.2.1 = (({ c with vnf := (dpDelVnf c.vnf v.lbUlAddr).2 } : Config).deleteVni key.vni).2 ∧
        r.2.2 = { lbTbl := s.lbTbl.del key, idMapTbl := s.idMapTbl.del id, count := s.count - 1 } := by
  unfold dpProcessDeleteLb dpGetLb at h
  cases hid : s.idMapTbl id with
  | none =>
    rw [hid] at h
    cases h
    exact .inl ⟨_, rfl⟩
  | some key =>
    rw [hid] at h
    dsimp only at h
    cases hk : s.lbTbl key with
    | none =>
      rw [hk] at h
      cases h
      exact .inl ⟨_, rfl⟩
    | some o =>
      rw [hk] at h
      cases o with
      | none => cases h
      | some v =>
        cases h
        refine .inr ⟨key, v, rfl, hk, rfl, ?_⟩
        simp [dpDeleteLb, hid, hk]

/-- A target request changes nothing in the tables but the targets of one load balancer. -/
structure SetsTargets (s s' : LbState) (id : Id64) (key : LbKey) (v v' : LbValue) : Prop where
  ofId : s.idMapTbl id = some key
  val : s.lbTbl key = some (some v)
  lbId : v'.lbId = v.lbId
  ulAddr : v'.lbUlAddr = v.lbUlAddr
  ports : v'.ports = v.ports
  lastSel : v'.lastSelPos = v.lastSelPos
  eq : s' = { s with lbTbl := s.lbTbl.add key (some v') }

theorem lbOfId_eq {v : LbValue} (h : lbOfId s id = some (.ok (key, v))) :
    s.idMapTbl id = some key ∧ s.lbTbl key = some (some v) := by
  unfold lbOfId at h
  split at h
  · cases h
  next hid =>
    split at h
    · cases h
    · cases h
    next hk =>
      cases h
      exact ⟨hid, hk⟩

/-- A target is added or refused. -/
theorem dpAddLbBackIp_cases {ip : Ip6} {r : Option Ret × LbState} (h : dpAddLbBackIp s id ip = some r) :
    (∃ er, r = (some er, s)) ∨ ∃ key v v', SetsTargets s r.2 id key v v' := by
  unfold dpAddLbBackIp at h
  split at h
  · cases h
  · cases h
    exact .inl ⟨_, rfl⟩
  next hl =>
    split at h
    · cases h
      exact .inl ⟨_, rfl⟩
    · split at h
      · cases h
        exact .inl ⟨_, rfl⟩
      · cases h
        refine .inr ⟨_, _, _, (lbOfId_eq hl).1, (lbOfId_eq hl).2, ?_, ?_, ?_, ?_, rfl⟩ <;> rfl

theorem dpDelLbBackIp_cases {ip : Ip6} {r : Option Ret × LbState} (h : dpDelLbBackIp s id ip = some r) :
    (∃ er, r = (some er, s)) ∨ ∃ key v v', SetsTargets s r.2 id key v v' := by
  unfold dpDelLbBackIp at h
  split at h
  · cases h
  · cases h
    exact .inl ⟨_, rfl⟩
  next hl =>
    split at h
    · cases h
      exact .inl ⟨_, rfl⟩
    · cases h
      refine .inr ⟨_, _, _, (lbOfId_eq hl).1, (lbOfId_eq hl).2, ?_, ?_, ?_, ?_, rfl⟩ <;> rfl

end Cases

/-! ## All requests -/

/-- The VNFs of the VIP and of the NAT of an interface. -/
abbrev vipVnf (c : Config) (p : PortId) : Vnf :=
  { type := .vip, vni := (c.port p).iface.vni, portId := p, pfx := .v4 0, length := 0 }

abbrev natVnf (c : Config) (p : PortId) : Vnf :=
  { type := .nat, vni := (c.port p).iface.vni, portId := p, pfx := .v4 0, length := 0 }

/-- The VNFs of a prefix of an interface. -/
abbrev prefixVnf (c : Config) (p : PortId) (addr : IpAddr) (length : UInt8) : Vnf :=
  { type := .aliasPfx, vni := (c.port p).iface.vni, portId := p, pfx := addr, length := length }

abbrev lbprefixVnf (c : Config) (p : PortId) (addr : IpAddr) (length : UInt8) : Vnf :=
  { type := .lbAliasPfx, vni := (c.port p).iface.vni, portId := p, pfx := addr, length := length }

def requestVnf (cf : Conf) (e : Env) (c : Config) : Request → Option Vnf
  | .createInterface pci _ vni _ _ _ _ =>
    match cf.dpGetPortByName pci with
    | none => none
    | some p => if (c.port p).allocated then none else some (ifaceVnf p vni)
  | .createPrefix id addr len =>
    match c.ifaceIdTable id with
    | none => none
    | some p =>
      -- the route comes first
      if (dpGrpcAddRoute cf e c.vniHandleTbl p (c.port p).iface.vni 0 addr 0 len).1.isSome then none
      else some (prefixVnf c p addr len)
  | .createVip id (.v4 _) => (c.ifaceIdTable id).map (vipVnf c)
  | .createNat id (.v4 _) _ _ => (c.ifaceIdTable id).map (natVnf c)
  | .createLoadBalancerPrefix id addr len =>
    match c.ifaceIdTable id with
    | none => none
    | some p =>
      if dpVnfLbprefixExists c.vnf p (c.port p).iface.vni addr len then none
      else some (lbprefixVnf c p addr len)
  | .createLb _ vni addr _ => some { type := .lb, vni := vni, portId := cf.pf0, pfx := .zero addr.isV6, length := 0 }
  | _ => none

/-- A VNF is created and deleted again. -/
abbrev vnfUndone (cf : Conf) (e : Env) (s : VnfState) (v : Vnf) : VnfState :=
  (dpDelVnf (dpCreateVnfRoute cf e s v).2.2 (dpCreateVnfRoute cf e s v).2.1).2

inductive RequestCase (cf : Conf) (e : Env) (c : Config) (s : LbState) : Request → Outcome → Prop
  /-- It is refused before anything changed. -/
  | refused {r : Request} {x : Ret} : RequestCase cf e c s r ⟨.err x, c, s, []⟩
  /-- The VNF that it needs cannot be made. -/
  | noVnf {r : Request} {v : Vnf} (hmk : requestVnf cf e c r = some v)
    (hok : (dpCreateVnfRoute cf e c.vnf v).1 = false) :
    RequestCase cf e c s r ⟨.err .vnfInsert, { c with vnf := (dpCreateVnfRoute cf e c.vnf v).2.2 }, s, []⟩
  /-- It is refused when its VNF is there. -/
  | undone {r : Request} {v : Vnf} {x : Ret} (hmk : requestVnf cf e c r = some v)
    (hok : (dpCreateVnfRoute cf e c.vnf v).1 = true) :
    RequestCase cf e c s r ⟨.err x, { c with vnf := vnfUndone cf e c.vnf v }, s, []⟩
  | initialized {x : Option Ret × VniTbl} (h : dpLpmResetAllRouteTables cf e
      { c with nat := { c.nat with natHeadp := dpDelAllNeighNatEntriesInVni c.nat.natHeadp 0 } } = some x) :
    RequestCase cf e c s .reqInitialize ⟨Resp.ofRet x.1,
      { c with nat := { c.nat with natHeadp := dpDelAllNeighNatEntriesInVni c.nat.natHeadp 0 }, vniHandleTbl := x.2 },
      s, []⟩
  | vniReset {vni : Vni} {both : Bool} {x : Option Ret × VniTbl} (h : dpLpmResetRouteTables cf e c vni = some x) :
    RequestCase cf e c s (.resetVni vni both) ⟨Resp.ofRet x.1, { c with vniHandleTbl := x.2 }, s, []⟩
  | ifaceUndone {pci id : Id64} {vni : Vni} {ip4 : Ip4} {ip6 : Ip6} {total pub : UInt64} {p : PortId} {er : Ret}
    {x : Config} (hname : cf.dpGetPortByName pci = some p) (hal : (c.port p).allocated = false)
    (hok : (dpCreateVnfRoute cf e c.vnf (ifaceVnf p vni)).1 = true)
    (hun : UsesPos c.vniHandleTbl → Undone c (newIfaceOf cf e c p id vni ip4 ip6) x) :
    RequestCase cf e c s (.createInterface pci id vni ip4 ip6 total pub) ⟨.err er, x, s, []⟩
  | ifaceCreated {pci id : Id64} {vni : Vni} {ip4 : Ip4} {ip6 : Ip6} {total pub : UInt64} {p : PortId} {x : Config}
    (hname : cf.dpGetPortByName pci = some p) (hal : (c.port p).allocated = false)
    (hok : (dpCreateVnfRoute cf e c.vnf (ifaceVnf p vni)).1 = true)
    (hcr : Created c (newIfaceOf cf e c p id vni ip4 ip6) x) :
    RequestCase cf e c s (.createInterface pci id vni ip4 ip6 total pub)
      ⟨.ulAddr (newIfaceOf cf e c p id vni ip4 ip6).ul, x, s, []⟩
  | ifaceDeleted {id : Id64} {p : PortId} {resp : Resp} {x : Config} (hp : c.ifaceIdTable id = some p)
    (hd : Deleted c p id x) :
    RequestCase cf e c s (.deleteInterface id) ⟨resp, x, s, [.iface p (c.port p).iface.ownIp (c.port p).iface.vni]⟩
  /-- The route of a prefix cannot be added. -/
  | prefixRefused {id : Id64} {addr : IpAddr} {len : UInt8} {p : PortId} {x : Ret} {t : VniTbl}
    (hp : c.ifaceIdTable id = some p)
    (ht : dpGrpcAddRoute cf e c.vniHandleTbl p (c.port p).iface.vni 0 addr 0 len = (some x, t)) :
    RequestCase cf e c s (.createPrefix id addr len) ⟨.err x, { c with vniHandleTbl := t }, s, []⟩
  /-- The route of a prefix is there, but not its VNF. -/
  | prefixUndone {id : Id64} {addr : IpAddr} {len : UInt8} {p : PortId} {t : VniTbl} (hp : c.ifaceIdTable id = some p)
    (ht : dpGrpcAddRoute cf e c.vniHandleTbl p (c.port p).iface.vni 0 addr 0 len = (none, t))
    (hok : (dpCreateVnfRoute cf e c.vnf (prefixVnf c p addr len)).1 = false) :
    RequestCase cf e c s (.createPrefix id addr len) ⟨.err .vnfInsert,
      { c with
        vniHandleTbl := (dpGrpcDelRoute t p (c.port p).iface.vni addr len).2
        vnf := (dpCreateVnfRoute cf e c.vnf (prefixVnf c p addr len)).2.2 }, s, []⟩
  | prefixCreated {id : Id64} {addr : IpAddr} {len : UInt8} {p : PortId} {t : VniTbl} (hp : c.ifaceIdTable id = some p)
    (ht : dpGrpcAddRoute cf e c.vniHandleTbl p (c.port p).iface.vni 0 addr 0 len = (none, t))
    (hok : (dpCreateVnfRoute cf e c.vnf (prefixVnf c p addr len)).1 = true) :
    RequestCase cf e c s (.createPrefix id addr len)
      ⟨.ulAddr (dpCreateVnfRoute cf e c.vnf (prefixVnf c p addr len)).2.1,
        { c with vniHandleTbl := t, vnf := (dpCreateVnfRoute cf e c.vnf (prefixVnf c p addr len)).2.2 }, s, []⟩
  | prefixDeleted {id : Id64} {addr : IpAddr} {len : UInt8} {p : PortId} {resp : Resp}
      (hp : c.ifaceIdTable id = some p) :
    RequestCase cf e c s (.deletePrefix id addr len) ⟨resp,
      { c with
        vniHandleTbl := (dpGrpcDelRoute c.vniHandleTbl p (c.port p).iface.vni addr len).2
        vnf := (dpDelVnfByValue c.vnf (prefixVnf c p addr len)).2 }, s, []⟩
  | routeCreated {vni : Vni} {pfx : IpAddr} {len : UInt8} {tv : Vni} {ul : Ip6} {resp : Resp} :
    RequestCase cf e c s (.createRoute vni pfx len tv (.v6 ul)) ⟨resp,
      { c with vniHandleTbl := (dpGrpcAddRoute cf e c.vniHandleTbl cf.pf0 vni tv pfx ul len).2 }, s, []⟩
  | routeDeleted {vni : Vni} {pfx : IpAddr} {len : UInt8} {resp : Resp} :
    RequestCase cf e c s (.deleteRoute vni pfx len)
      ⟨resp, { c with vniHandleTbl := (dpGrpcDelRoute c.vniHandleTbl cf.pf0 vni pfx len).2 }, s, []⟩
  | lbprefixCreated {id : Id64} {addr : IpAddr} {len : UInt8} {p : PortId} (hp : c.ifaceIdTable id = some p)
    (hno : dpVnfLbprefixExists c.vnf p (c.port p).iface.vni addr len = false)
    (hok : (dpCreateVnfRoute cf e c.vnf (lbprefixVnf c p addr len)).1 = true) :
    RequestCase cf e c s (.createLoadBalancerPrefix id addr len)
      ⟨.ulAddr (dpCreateVnfRoute cf e c.vnf (lbprefixVnf c p addr len)).2.1,
        { c with vnf := (dpCreateVnfRoute cf e c.vnf (lbprefixVnf c p addr len)).2.2 }, s, []⟩
  | lbprefixDeleted {id : Id64} {addr : IpAddr} {len : UInt8} {p : PortId} {resp : Resp}
    (hp : c.ifaceIdTable id = some p) :
    RequestCase cf e c s (.deleteLoadBalancerPrefix id addr len)
      ⟨resp, { c with vnf := (dpDelVnfByValue c.vnf (lbprefixVnf c p addr len)).2 }, s, []⟩
  /-- The SNAT entry of a VIP is there, but not its DNAT entry. -/
  | vipUndone {id : Id64} {p : PortId} {vip : Ip4} {n : NatState} {x : Ret} (hp : c.ifaceIdTable id = some p)
    (hok : (dpCreateVnfRoute cf e c.vnf (vipVnf c p)).1 = true)
    (hset : dpSetIfaceVipIp e c.nat (c.port p).iface.ownIp vip (c.port p).iface.vni
      (dpCreateVnfRoute cf e c.vnf (vipVnf c p)).2.1 = (none, n))
    (hd : dpSetDnatIp e n vip (c.port p).iface.ownIp (c.port p).iface.vni = (some x, n)) :
    RequestCase cf e c s (.createVip id (.v4 vip)) ⟨.err x, { c with
      vnf := vnfUndone cf e c.vnf (vipVnf c p)
      nat := (dpDelIfaceVipIp n (c.port p).iface.ownIp (c.port p).iface.vni).2 }, s, []⟩
  | vipCreated {id : Id64} {p : PortId} {vip : Ip4} {n n' : NatState} (hp : c.ifaceIdTable id = some p)
    (hok : (dpCreateVnfRoute cf e c.vnf (vipVnf c p)).1 = true)
    (hset : dpSetIfaceVipIp e c.nat (c.port p).iface.ownIp vip (c.port p).iface.vni
      (dpCreateVnfRoute cf e c.vnf (vipVnf c p)).2.1 = (none, n))
    (hd : dpSetDnatIp e n vip (c.port p).iface.ownIp (c.port p).iface.vni = (none, n')) :
    RequestCase cf e c s (.createVip id (.v4 vip)) ⟨.ulAddr (dpCreateVnfRoute cf e c.vnf (vipVnf c p)).2.1,
      { c with vnf := (dpCreateVnfRoute cf e c.vnf (vipVnf c p)).2.2, nat := n' }, s, []⟩
  | vipDeleted {id : Id64} {p : PortId} {d : SnatData} (hp : c.ifaceIdTable id = some p)
    (hd : dpGetIfaceSnatData c.nat (c.port p).iface.ownIp (c.port p).iface.vni = some d) (hz : d.vipIp ≠ 0) :
    RequestCase cf e c s (.deleteVip id) ⟨.addr d.vipIp, { c with
      vnf := (dpDelVnf c.vnf d.ulVipIp6).2
      nat := (dpDelIfaceVipIp (dpDelDnatIp c.nat d.vipIp (c.port p).iface.vni) (c.port p).iface.ownIp
        (c.port p).iface.vni).2 }, s, [.nat p .vip]⟩
  | vipShown {id : Id64} : RequestCase cf e c s (.getVip id) ⟨dpProcessGetVip c id, c, s, []⟩
  /-- The SNAT entry of a NAT is there, but not its DNAT entry. -/
  | natUndone {id : Id64} {p : PortId} {a : Ip4} {lo hi : UInt16} {n : NatState} (hp : c.ifaceIdTable id = some p)
    (hok : (dpCreateVnfRoute cf e c.vnf (natVnf c p)).1 = true)
    (hset : dpSetIfaceNatIp e c.nat (c.port p).iface.ownIp a (c.port p).iface.vni lo hi
      (dpCreateVnfRoute cf e c.vnf (natVnf c p)).2.1 = (none, n))
    (hd : dpSetDnatIp e n a 0 (c.port p).iface.vni = (some .dnatCreate, n)) :
    RequestCase cf e c s (.createNat id (.v4 a) lo hi) ⟨.err .dnatCreate, { c with
      vnf := vnfUndone cf e c.vnf (natVnf c p)
      nat := (dpDelIfaceNatIp n (c.port p).iface.ownIp (c.port p).iface.vni).2 }, s, []⟩
  | natCreated {id : Id64} {p : PortId} {a : Ip4} {lo hi : UInt16} {n n' : NatState} {x : Option Ret}
    (hp : c.ifaceIdTable id = some p) (hok : (dpCreateVnfRoute cf e c.vnf (natVnf c p)).1 = true)
    (hset : dpSetIfaceNatIp e c.nat (c.port p).iface.ownIp a (c.port p).iface.vni lo hi
      (dpCreateVnfRoute cf e c.vnf (natVnf c p)).2.1 = (none, n))
    (hd : dpSetDnatIp e n a 0 (c.port p).iface.vni = (x, n')) (hx : x ≠ some .dnatCreate) :
    RequestCase cf e c s (.createNat id (.v4 a) lo hi) ⟨.ulAddr (dpCreateVnfRoute cf e c.vnf (natVnf c p)).2.1,
      ({ c with vnf := (dpCreateVnfRoute cf e c.vnf (natVnf c p)).2.2, nat := n' } : Config).setIface p
        ((c.port p).iface.setNat a lo hi), s, []⟩
  | natDeleted {id : Id64} {p : PortId} {d : SnatData} (hp : c.ifaceIdTable id = some p)
    (hd : dpGetIfaceSnatData c.nat (c.port p).iface.ownIp (c.port p).iface.vni = some d) (hz : d.natIp ≠ 0) :
    RequestCase cf e c s (.deleteNat id) ⟨.addr d.natIp, ({ c with
      vnf := (dpDelVnf c.vnf d.ulNatIp6).2
      nat := (dpDelIfaceNatIp (dpDelVipFromDnat c.nat d.natIp (c.port p).iface.vni) (c.port p).iface.ownIp
        (c.port p).iface.vni).2 } : Config).setIface p ((c.port p).iface.setNat 0 0 0), s, [.nat p .networkLocal]⟩
  | natShown {id : Id64} : RequestCase cf e c s (.getNat id) ⟨dpProcessGetNat c id, c, s, []⟩
  /-- A neighbour NAT is there, but not its DNAT entry. -/
  | neighUndone {a : Ip4} {vni : Vni} {lo hi : UInt16} {ul : Ip6} {n : NatState}
    (hadd : dpAddNetworkNatEntry e c.nat ⟨a, vni, lo, hi, ul⟩ = (none, n))
    (hd : dpSetDnatIp e n a 0 vni = (some .dnatCreate, n)) :
    RequestCase cf e c s (.createNeighnat (.v4 a) vni lo hi ul)
      ⟨.err .dnatCreate, { c with nat := (dpDelNetworkNatEntry n a vni lo hi).2 }, s, []⟩
  | neighCreated {a : Ip4} {vni : Vni} {lo hi : UInt16} {ul : Ip6} {n n' : NatState} {x : Option Ret}
    (hadd : dpAddNetworkNatEntry e c.nat ⟨a, vni, lo, hi, ul⟩ = (none, n)) (hd : dpSetDnatIp e n a 0 vni = (x, n'))
    (hx : x ≠ some .dnatCreate) :
    RequestCase cf e c s (.createNeighnat (.v4 a) vni lo hi ul) ⟨.ok, { c with nat := n' }, s, []⟩
  | neighDeleted {a : Ip4} {vni : Vni} {lo hi : UInt16} {n : NatState}
    (hdel : dpDelNetworkNatEntry c.nat a vni lo hi = (none, n)) :
    RequestCase cf e c s (.deleteNeighnat (.v4 a) vni lo hi)
      ⟨.ok, { c with nat := dpDelVipFromDnat n a vni }, s, [.neighnat a vni lo hi]⟩
  | createLb {id : Id64} {vni : Vni} {addr : IpAddr} {ports : List LbPort} {x : Resp × Config × LbState}
    (hx : CreateLbCase cf e c s id vni addr ports x) :
    RequestCase cf e c s (.createLb id vni addr ports) ⟨x.1, x.2.1, x.2.2, []⟩
  | lbDeleted {id : Id64} {key : LbKey} {v : LbValue} {resp : Resp} (hid : s.idMapTbl id = some key)
    (hk : s.lbTbl key = some (some v)) :
    RequestCase cf e c s (.deleteLb id) ⟨resp,
      (({ c with vnf := (dpDelVnf c.vnf v.lbUlAddr).2 } : Config).deleteVni key.vni).2,
      { lbTbl := s.lbTbl.del key, idMapTbl := s.idMapTbl.del id, count := s.count - 1 }, []⟩
  | lbTargetCreated {id : Id64} {addr : IpAddr} {key : LbKey} {v v' : LbValue} {resp : Resp} {s' : LbState}
    (ht : SetsTargets s s' id key v v') : RequestCase cf e c s (.createLbtarget id addr) ⟨resp, c, s', []⟩
  | lbTargetDeleted {id : Id64} {addr : IpAddr} {key : LbKey} {v v' : LbValue} {resp : Resp} {s' : LbState}
    (ht : SetsTargets s s' id key v v') : RequestCase cf e c s (.deleteLbtarget id addr) ⟨resp, c, s', []⟩

section Requests

variable {cf : Conf} {e : Env} {c : Config} {s : LbState} {r : Request} {o : Outcome} {id : Id64} {addr : IpAddr}
  {len : UInt8}

theorem not_not_eq_true {b : Bool} (h : ¬(!b) = true) : b = true := by simpa using h

theorem dpSetIfaceVipIp_err {e : Env} {s s' : NatState} {ip a : Ip4} {vni : Vni} {ul : Ip6} {r : Ret}
    (h : dpSetIfaceVipIp e s ip a vni ul = (some r, s')) : s' = s := by
  unfold dpSetIfaceVipIp at h
  split at h
  · cases h
    rfl
  · split at h <;> cases h
    rfl

theorem dpSetIfaceNatIp_err {e : Env} {s s' : NatState} {ip a : Ip4} {vni : Vni} {lo hi : UInt16} {ul : Ip6} {r : Ret}
    (h : dpSetIfaceNatIp e s ip a vni lo hi ul = (some r, s')) : s' = s := by
  unfold dpSetIfaceNatIp at h
  split at h
  · cases h
    rfl
  · split at h <;> cases h
    rfl

theorem dpSetDnatIp_err {e : Env} {s s' : NatState} {ip a : Ip4} {vni : Vni} {r : Ret}
    (h : dpSetDnatIp e s ip a vni = (some r, s')) : s' = s := by
  unfold dpSetDnatIp at h
  split at h
  · cases h
    rfl
  · split at h <;> cases h
    rfl

/-- How the creation of a prefix ends. -/
theorem createPrefix_cases (h : dpProcessRequest cf e c s (.createPrefix id addr len) = some o) :
    RequestCase cf e c s (.createPrefix id addr len) o := by
  cases h
  dsimp only [dpProcessCreatePrefix]
  split
  · exact .refused
  next p hp =>
    split
    next x t ht => exact .prefixRefused hp ht
    next t ht =>
      split
      next hok => exact .prefixCreated hp ht hok
      next hok => exact .prefixUndone hp ht (Bool.eq_false_iff.mpr hok)

theorem createLbprefix_cases (h : dpProcessRequest cf e c s (.createLoadBalancerPrefix id addr len) = some o) :
    RequestCase cf e c s (.createLoadBalancerPrefix id addr len) o := by
  cases h
  unfold dpProcessCreateLbprefix
  dsimp only
  split
  · exact .refused
  next p hp =>
    split
    · exact .refused
    next hno =>
      have hno := Bool.eq_false_iff.mpr hno
      cases hok : (dpCreateVnfRoute cf e c.vnf (lbprefixVnf c p addr len)).1 with
      | true => exact .lbprefixCreated hp hno hok
      | false => exact .noVnf (by simp [requestVnf, hp, hno]) hok

theorem createVip_cases (h : dpProcessRequest cf e c s (.createVip id addr) = some o) :
    RequestCase cf e c s (.createVip id addr) o := by
  cases h
  dsimp only [dpProcessCreateVip]
  split
  · exact .refused
  next p hp =>
    split
    · exact .refused
    next vip =>
      have hmk : requestVnf cf e c (.createVip id (.v4 vip)) = some (vipVnf c p) := by simp [requestVnf, hp]
      split
      next hok => exact .noVnf hmk (by simpa using hok)
      next hok =>
        have hok := not_not_eq_true hok
        split
        next hset =>
          cases dpSetIfaceVipIp_err hset
          exact .undone hmk hok
        next hset =>
          split
          next hd =>
            cases dpSetDnatIp_err hd
            exact .vipUndone hp hok hset hd
          next hd => exact .vipCreated hp hok hset hd

/-- How the deletion of a VIP ends. -/
theorem deleteVip_cases (h : dpProcessRequest cf e c s (.deleteVip id) = some o) :
    RequestCase cf e c s (.deleteVip id) o := by
  cases h
  dsimp only [dpProcessDeleteVip]
  split
  · exact .refused
  next p hp =>
    split
    · exact .refused
    next d hd =>
      split
      · exact .refused
      next hz => exact .vipDeleted hp hd hz

/-- How the creation of a NAT ends. -/
theorem createNat_cases {lo hi : UInt16} (h : dpProcessRequest cf e c s (.createNat id addr lo hi) = some o) :
    RequestCase cf e c s (.createNat id addr lo hi) o := by
  cases h
  dsimp only [dpProcessCreateNat]
  split
  · exact .refused
  next p hp =>
    split
    · exact .refused
    next a =>
      have hmk : requestVnf cf e c (.createNat id (.v4 a) lo hi) = some (natVnf c p) := by simp [requestVnf, hp]
      split
      next hok => exact .noVnf hmk (by simpa using hok)
      next hok =>
        have hok := not_not_eq_true hok
        split
        next hset =>
          cases dpSetIfaceNatIp_err hset
          exact .undone hmk hok
        next hset =>
          split
          next hd =>
            cases dpSetDnatIp_err hd
            exact .natUndone hp hok hset hd
          next x n' hne hd => exact .natCreated hp hok hset hd hne

/-- How its deletion ends. -/
theorem deleteNat_cases (h : dpProcessRequest cf e c s (.deleteNat id) = some o) :
    RequestCase cf e c s (.deleteNat id) o := by
  cases h
  dsimp only [dpProcessDeleteNat]
  split
  · exact .refused
  next p hp =>
    split
    · exact .refused
    next d hd =>
      split
      · exact .refused
      next hz => exact .natDeleted hp hd hz

theorem createNeighnat_cases {vni : Vni} {lo hi : UInt16} {ul : Ip6}
    (h : dpProcessRequest cf e c s (.createNeighnat addr vni lo hi ul) = some o) :
    RequestCase cf e c s (.createNeighnat addr vni lo hi ul) o := by
  cases h
  dsimp only [dpProcessCreateNeighnat]
  split
  · exact .refused
  next a =>
    split
    next x n hadd =>
      have hn : n = c.nat := by
        unfold dpAddNetworkNatEntry at hadd
        split at hadd
        · cases hadd
          rfl
        · split at hadd <;> cases hadd
          rfl
      cases hn
      exact .refused
    next n hadd =>
      split
      next hd =>
        cases dpSetDnatIp_err hd
        exact .neighUndone hadd hd
      next x n' hne hd => exact .neighCreated hadd hd hne

theorem deleteNeighnat_cases {vni : Vni} {lo hi : UInt16}
    (h : dpProcessRequest cf e c s (.deleteNeighnat addr vni lo hi) = some o) :
    RequestCase cf e c s (.deleteNeighnat addr vni lo hi) o := by
  cases h
  dsimp only [dpProcessDeleteNeighnat]
  split
  · exact .refused
  next a =>
    split
    next x n hdel =>
      have hn : n = c.nat := by
        unfold dpDelNetworkNatEntry at hdel
        split at hdel <;> cases hdel
        rfl
      cases hn
      exact .refused
    next n hdel => exact .neighDeleted hdel

/-- **What every request can do.** -/
theorem dpProcessRequest_cases (h : dpProcessRequest cf e c s r = some o) : RequestCase cf e c s r o := by
  cases r with
  | reqInitialize =>
    obtain ⟨r, hr, rfl⟩ := Option.map_eq_some_iff.mp h
    obtain ⟨x, hx, rfl⟩ := Option.map_eq_some_iff.mp hr
    exact .initialized hx
  | resetVni vni both =>
    obtain ⟨r, hr, rfl⟩ := Option.map_eq_some_iff.mp h
    unfold dpProcessResetVni at hr
    split at hr
    · obtain ⟨x, hx, rfl⟩ := Option.map_eq_some_iff.mp hr
      exact .vniReset hx
    · cases hr
      exact .refused
  | deleteLb id =>
    obtain ⟨r, hr, rfl⟩ := Option.map_eq_some_iff.mp h
    obtain ⟨er, rfl⟩ | ⟨key, v, hid, hk, hcfg, hlb⟩ := dpProcessDeleteLb_cases hr
    · exact .refused
    · rw [hcfg, hlb]
      exact .lbDeleted hid hk
  | createLbtarget id addr =>
    obtain ⟨r, hr, rfl⟩ := Option.map_eq_some_iff.mp h
    unfold dpProcessCreateLbtarget at hr
    split at hr
    · cases hr
      exact .refused
    · obtain ⟨q, hq, rfl⟩ := Option.map_eq_some_iff.mp hr
      obtain ⟨er, rfl⟩ | ⟨key, v, v', ht⟩ := dpAddLbBackIp_cases hq
      · exact .refused
      · exact .lbTargetCreated ht
  | deleteLbtarget id addr =>
    obtain ⟨r, hr, rfl⟩ := Option.map_eq_some_iff.mp h
    unfold dpProcessDeleteLbtarget at hr
    split at hr
    · cases hr
      exact .refused
    · obtain ⟨q, hq, rfl⟩ := Option.map_eq_some_iff.mp hr
      obtain ⟨er, rfl⟩ | ⟨key, v, v', ht⟩ := dpDelLbBackIp_cases hq
      · exact .refused
      · exact .lbTargetDeleted ht
  | createInterface pci id vni ip4 ip6 total pub =>
    cases h
    have hcase := dpProcessCreateInterface_cases cf e c pci id vni ip4 ip6 total pub
    generalize dpProcessCreateInterface cf e c pci id vni ip4 ip6 total pub = x at hcase
    cases hcase with
    | refused => exact .refused
    | noVnf hname hal hok => exact .noVnf (by simp [requestVnf, hname, hal]) hok
    | undone hname hal hok hun => exact .ifaceUndone hname hal hok hun
    | created hname hal hok hcr => exact .ifaceCreated hname hal hok hcr
  | deleteInterface id =>
    cases h
    obtain ⟨-, heq⟩ | ⟨p, hp, hd, hrem⟩ := dpProcessDeleteInterface_cases cf e c id
    · rw [heq]
      exact .refused
    · rw [hrem]
      exact .ifaceDeleted hp hd
  | createPrefix => exact createPrefix_cases h
  | deletePrefix =>
    cases h
    dsimp only [dpProcessDeletePrefix]
    split
    · exact .refused
    next hp => exact .prefixDeleted hp
  | createRoute =>
    cases h
    dsimp only [dpProcessCreateRoute]
    split
    · exact .refused
    · exact .routeCreated
  | deleteRoute => cases h; exact .routeDeleted
  | createLoadBalancerPrefix => exact createLbprefix_cases h
  | deleteLoadBalancerPrefix =>
    cases h
    unfold dpProcessDeleteLbprefix
    split
    · exact .refused
    next hp => exact .lbprefixDeleted hp
  | createVip => exact createVip_cases h
  | deleteVip => exact deleteVip_cases h
  | getVip => cases h; exact .vipShown
  | createNat => exact createNat_cases h
  | deleteNat => exact deleteNat_cases h
  | getNat => cases h; exact .natShown
  | createNeighnat => exact createNeighnat_cases h
  | deleteNeighnat => exact deleteNeighnat_cases h
  | createLb id vni addr ports => cases h; exact .createLb (dpProcessCreateLb_cases cf e c s id vni addr ports)

end Requests

end Dpservice
