import Dpservice.IfaceAtomic
import Dpservice.RouteReset
import Dpservice.ServiceConfig
import Dpservice.NoOffload

/-!
# Tenants are delivered to themselves only

A packet from a virtual function is routed in the VNI of its interface, a tunnelled packet goes where the VNF of its
underlay address says. Both reach an interface of the right VNI as long as every route over a virtual function and
every VNF belongs to a ready interface in its VNI (`Isolated`).

Deleting an interface takes its own VNF and its two host routes with it, but nothing else that leads to its port: the
prefixes, VIP and NAT it still has keep leading there, also when the port is given to another tenant.

- `Isolated.request`: requests keep isolation, if an interface is deleted only after what leads to it (`Vacates`);
- `vfPkts_run`: a packet from a virtual function carries no VNI of its own until it is routed;
- `tenant_isolation`: the result for routed and for tunnelled packets, in every such run.
-/

namespace Dpservice

/-! ## The configuration -/

/-- What leads to a virtual function belongs to its interface: routes and VNFs. -/
structure Isolated (cf : Conf) (c : Config) : Prop where
  routes : ∀ {v k x}, routeAt c.vniHandleTbl v k = some x → cf.isPf x.nh = false → x.nh ∈ readyIn c v
  vnfs : ∀ {ul f}, c.vnf.handleTbl ul = some f → cf.isPf f.portId = false → f.portId ∈ readyIn c f.vni

/-- Nothing leads to the port of an interface but what its deletion removes: its own VNF, its host routes, and the
routes of a VNI that goes with it. -/
structure Vacates (c : Config) (p : PortId) : Prop where
  vnfs : ∀ {ul f}, c.vnf.handleTbl ul = some f → f.portId = p → ul = (c.port p).iface.ulIpv6
  routes : vniRefs c.vniHandleTbl (c.port p).iface.vni = some 1 ∨
    ∀ {k x}, routeAt c.vniHandleTbl (c.port p).iface.vni k = some x → x.nh = p →
      k = pfxKey (.v4 (c.port p).iface.ownIp) 32 ∨ k = pfxKey (.v6 (c.port p).iface.dhcpIpv6) 128

section Requests

variable {cf : Conf} {e : Env} {c c' : Config} {s : LbState} {r : Request} {o : Outcome} {p : PortId} {id : Id64}
  {v : Vni} {k : PfxKey} {x : Route}

theorem Isolated.init (cf : Conf) : Isolated cf (Config.init cf) where
  routes h := by cases h
  vnfs h := by cases h

theorem mem_readyIn (hc : PortsOk cf c) (hid : c.ifaceIdTable id = some p) : p ∈ readyIn c (c.port p).iface.vni :=
  ⟨(hc.mapped.mp hid).1, rfl⟩

/-- A route that an addition leaves was there before, or is the new one. -/
theorem routeAt_added {t : VniTbl} {q : PortId} {vni tVni : Vni} {addr : IpAddr} {tIp6 : Ip6} {depth : UInt8}
    (h : routeAt (dpGrpcAddRoute cf e t q vni tVni addr tIp6 depth).2 v k = some x) :
    routeAt t v k = some x ∨ (x.nh = q ∧ v = vni) := by
  obtain ⟨-, heq⟩ | ⟨-, -, -, -, hroute⟩ := dpGrpcAddRoute_spec cf e t q vni tVni addr tIp6 depth
  · exact .inl (heq ▸ h)
  · rw [hroute] at h
    split at h
    next hvk =>
      cases h
      exact .inr ⟨mkRoute_nh, hvk.1⟩
    · exact .inl h

/-- The release of a VNI removes routes only. -/
theorem routeAt_released {t : VniTbl} {l : List NetworkNatEntry} {vni : Vni}
    (h : routeAt (dpDeleteVniRouteTables t l vni).2.1 v k = some x) :
    routeAt t v k = some x ∧ (vniRefs t vni = some 1 → v ≠ vni) := by
  obtain ⟨hnone, heq⟩ | ⟨-, heq⟩ | ⟨y, hy, hne, heq⟩ := dpDeleteVniRouteTables_spec t l vni
  · rw [heq] at h
    exact ⟨h, fun hone => by simp [vniRefs, hnone] at hone⟩
  · rw [heq, routeAt_del] at h
    split at h
    · cases h
    next hv => exact ⟨h, fun _ => hv⟩
  · rw [heq, routeAt_add] at h
    refine ⟨?_, fun hone => absurd (by simpa [vniRefs, hy] using hone) hne⟩
    split at h
    next hv =>
      subst hv
      rw [routeAt, hy]
      exact h
    · exact h

/-- The routes a reset leaves. -/
theorem routeAt_filled {sel : Iface → Bool} {t : VniTbl} {ps : List PortId}
    (ht : ∀ {v k x}, routeAt t v k = some x → routeAt c.vniHandleTbl v k = some x)
    (h : routeAt (fillPorts cf e c.port sel t ps).2 v k = some x) :
    routeAt c.vniHandleTbl v k = some x ∨ x.nh ∈ readyIn c v := by
  refine fillPorts_invariant
    (I := fun t => ∀ {v k x}, routeAt t v k = some x → routeAt c.vniHandleTbl v k = some x ∨ x.nh ∈ readyIn c v)
    (fun t q addr depth hready _ _ ih {v k x} hx => ?_) (fun hx => .inl (ht hx)) h
  obtain hx | ⟨rfl, rfl⟩ := routeAt_added hx
  · exact ih hx
  · exact .inr ⟨hready, rfl⟩

/-- **Where routes come from**: a request that places no interface enters routes over a physical port or over the port
of an interface in the VNI. -/
theorem dpProcessRequest_routes (hc : PortsOk cf c) (hr : r.placesIface = false)
    (ho : dpProcessRequest cf e c s r = some o) (hx : routeAt o.cfg.vniHandleTbl v k = some x) :
    routeAt c.vniHandleTbl v k = some x ∨ cf.isPf x.nh = true ∨ x.nh ∈ readyIn c v := by
  have hadd : ∀ {id p addr len er t}, c.ifaceIdTable id = some p →
      dpGrpcAddRoute cf e c.vniHandleTbl p (c.port p).iface.vni 0 addr 0 len = (er, t) → routeAt t v k = some x →
        routeAt c.vniHandleTbl v k = some x ∨ cf.isPf x.nh = true ∨ x.nh ∈ readyIn c v := by
    intro id p addr len er t hp ht h
    rw [show t = _ from (congrArg Prod.snd ht).symm] at h
    refine (routeAt_added h).imp_right fun hnew => .inr ?_
    rw [hnew.1, hnew.2]
    exact mem_readyIn hc hp
  cases dpProcessRequest_cases ho with
  | ifaceUndone | ifaceCreated | ifaceDeleted => cases hr
  | initialized ht =>
    unfold dpLpmResetAllRouteTables at ht
    split at ht
    · cases ht
      refine (routeAt_filled (fun h => ?_) hx).imp_right .inr
      rw [routeAt_resetAll] at h
      cases h
    · cases ht
  | vniReset ht =>
    unfold dpLpmResetRouteTables at ht
    split at ht
    · cases ht
      refine (routeAt_filled (fun h => ?_) hx).imp_right .inr
      rw [routeAt_reset] at h
      split at h
      · cases h
      · exact h
    · cases ht
  | prefixRefused hp ht | prefixCreated hp ht => exact hadd hp ht hx
  | prefixUndone hp ht => exact hadd hp ht ((dpGrpcDelRoute_fewer ..).less hx)
  | prefixDeleted | routeDeleted => exact .inl ((dpGrpcDelRoute_fewer ..).less hx)
  | routeCreated =>
    refine (routeAt_added hx).imp_right fun hnew => .inl ?_
    rw [hnew.1]
    simp [Conf.isPf]
  | createLb hlb =>
    obtain ⟨f, t, hcfg, rfl | ht⟩ := hlb.frame <;> rw [hcfg] at hx
    · exact .inl hx
    · exact .inl (((dpCreateVniRouteTables_spec ht).2 v k).symm.trans hx)
  | lbDeleted => exact .inl (routeAt_released hx).1
  | _ => exact .inl hx

/-- A port without an interface has nothing that leads to it. -/
theorem Isolated.free (h : Isolated cf c) (hc : PortsOk cf c) (hal : (c.port p).allocated = false) :
    (∀ {v k x}, routeAt c.vniHandleTbl v k = some x → x.nh ≠ p) ∧
      ∀ {ul f}, c.vnf.handleTbl ul = some f → f.portId ≠ p := by
  have hpf : cf.isPf p = false := by
    cases hp : cf.isPf p with
    | false => rfl
    | true =>
      rw [hc.pf hp] at hal
      cases hal
  constructor
  · rintro v k x hx rfl
    have hready := (h.routes hx hpf).1
    rw [hc.not_ready hal] at hready
    cases hready
  · rintro ul f hf rfl
    have hready := (h.vnfs hf hpf).1
    rw [hc.not_ready hal] at hready
    cases hready

/-- The interfaces and what leads to them stay, or less leads to them. -/
theorem Isolated.less (h : Isolated cf c) (hroutes : ∀ {v k x}, routeAt c'.vniHandleTbl v k = some x →
      routeAt c.vniHandleTbl v k = some x) (hvnf : ∀ {ul f}, c'.vnf.handleTbl ul = some f → c.vnf.handleTbl ul = some f)
    (hready : ∀ v, readyIn c v ⊆ readyIn c' v) : Isolated cf c' where
  routes hx hpf := hready _ (h.routes (hroutes hx) hpf)
  vnfs hf hpf := hready _ (h.vnfs (hvnf hf) hpf)

theorem Isolated.created {n : NewIface} (h : Isolated cf c) (hc : PortsOk cf c) (hal : (c.port n.p).allocated = false)
    (hvnf : ∀ {ul f}, n.vnf.handleTbl ul = some f → c.vnf.handleTbl ul = some f ∨ f.portId = n.p ∧ f.vni = n.vni)
    (hcr : Created c n c') : Isolated cf c' := by
  obtain ⟨hnoroute, hnovnf⟩ := h.free hc hal
  have hnew : n.p ∈ readyIn c' n.vni := by
    obtain ⟨a, b, hp⟩ := hcr.port
    show (c'.port n.p).iface.ready = true ∧ (c'.port n.p).iface.vni = n.vni
    rw [hp]
    exact ⟨rfl, rfl⟩
  have hold : ∀ {q v}, q ≠ n.p → q ∈ readyIn c v → q ∈ readyIn c' v := by
    intro q v hq hmem
    show (c'.port q).iface.ready = true ∧ (c'.port q).iface.vni = v
    rw [hcr.other hq]
    exact hmem
  refine ⟨fun hx hpf => ?_, fun hf hpf => ?_⟩
  · obtain hx | ⟨hnh, hv, -⟩ := hcr.less hx
    · exact hold (hnoroute hx) (h.routes hx hpf)
    · rw [hnh, hv]
      exact hnew
  · rw [hcr.vnf] at hf
    obtain hf | ⟨hp, hv⟩ := hvnf hf
    · exact hold (hnovnf hf) (h.vnfs hf hpf)
    · rw [hp, hv]
      exact hnew

/-- The routes over its port that a deletion leaves in the VNI of the interface. -/
theorem routeAt_deleted (hd : Deleted c p id c') (hx : routeAt c'.vniHandleTbl v k = some x) :
    routeAt c.vniHandleTbl v k = some x ∧
      (v = (c.port p).iface.vni → x.nh = p → vniRefs c.vniHandleTbl v ≠ some 1 ∧
        k ≠ pfxKey (.v4 (c.port p).iface.ownIp) 32 ∧ k ≠ pfxKey (.v6 (c.port p).iface.dhcpIpv6) 128) := by
  rw [hd.tbl] at hx
  obtain ⟨hx, hlast⟩ := routeAt_released hx
  refine ⟨(vacatedTbl_fewer c p).less hx, ?_⟩
  rintro rfl hnh
  rw [(vacatedTbl_fewer c p).refs] at hlast
  -- a host route over the port does not survive its deletion
  have hgone : ∀ {t addr depth}, depth.toNat ≤ addr.width → ∀ y,
      routeAt (dpGrpcDelRoute t p (c.port p).iface.vni addr depth).2 (c.port p).iface.vni (pfxKey addr depth.toNat) =
        some y → y.nh ≠ p := by
    intro t addr depth hle y hy
    obtain ⟨heq, hno⟩ | ⟨-, -, hroute⟩ := dpGrpcDelRoute_spec t p (c.port p).iface.vni addr depth
    · exact hno hle (heq ▸ hy)
    · rw [hroute, if_pos ⟨rfl, rfl⟩] at hy
      cases hy
  refine ⟨fun hone => hlast hone rfl, ?_, ?_⟩
  · rintro rfl
    refine @hgone c.vniHandleTbl (.v4 (c.port p).iface.ownIp) 32 (Nat.le_refl 32) x ?_ hnh
    exact (dpGrpcDelRoute_fewer ..).less hx
  · rintro rfl
    exact @hgone _ (.v6 (c.port p).iface.dhcpIpv6) 128 (Nat.le_refl 128) x hx hnh

theorem Isolated.deleted (h : Isolated cf c) (hvac : Vacates c p) (hd : Deleted c p id c') (hpf : cf.isPf p = false) :
    Isolated cf c' := by
  have hold : ∀ {q v}, q ≠ p → q ∈ readyIn c v → q ∈ readyIn c' v := by
    intro q v hq hmem
    show (c'.port q).iface.ready = true ∧ (c'.port q).iface.vni = v
    rw [hd.other hq]
    exact hmem
  refine ⟨fun {v k x} hx hxpf => ?_, fun {ul f} hf hfpf => ?_⟩
  · obtain ⟨hx, hleft⟩ := routeAt_deleted hd hx
    have hmem := h.routes hx hxpf
    refine hold ?_ hmem
    rintro rfl
    obtain ⟨hone, h4, h6⟩ := hleft hmem.2.symm rfl
    rw [← hmem.2] at hx hone
    obtain hrefs | hhosts := hvac.routes
    · exact hone hrefs
    · exact (hhosts hx rfl).elim h4 h6
  · rw [hd.vnf, dpDelVnf_handle] at hf
    obtain ⟨hne, hf⟩ := Table.del_eq_some.mp hf
    exact hold (fun hp => hne (hvac.vnfs hf hp)) (h.vnfs hf hfpf)

/-- **Requests keep tenants apart**, if nothing is left that leads to an interface when it is deleted. -/
theorem Isolated.request (h : Isolated cf c) (hc : PortsOk cf c)
    (hvac : ∀ id, r = .deleteInterface id → ∀ p ∈ c.ifaceIdTable id, Vacates c p)
    (ho : dpProcessRequest cf e c s r = some o) : Isolated cf o.cfg := by
  have hother : r.placesIface = false → Isolated cf o.cfg := by
    intro hr
    have hready := (dpProcessRequest_kept hc hr ho).readyIn
    refine ⟨fun {v k x} hx hpf => ?_, fun {ul f} hf hpf => ?_⟩
    · rw [hready]
      obtain hx | hpf' | hmem := dpProcessRequest_routes hc hr ho hx
      · exact h.routes hx hpf
      · rw [hpf] at hpf'
        cases hpf'
      · exact hmem
    · rw [hready]
      obtain hf | hmk := (dpProcessRequest_vnf hc ho).handle_old hf
      · exact h.vnfs hf hpf
      · obtain ⟨hr', -⟩ | ⟨-, -, -, id, hp, hv⟩ | ⟨-, -, hp⟩ := requestVnf_owner hmk
        · cases hr.symm.trans hr'
        · exact hv ▸ mem_readyIn hc hp
        · simp [hp, Conf.isPf] at hpf
  cases dpProcessRequest_cases ho with
  | refused => exact h
  | noVnf _ hok => exact h.less (fun hx => hx) (fun hf => dpCreateVnfRoute_failed hok ▸ hf) fun _ => subset_rfl
  | undone _ hok => exact h.less (fun hx => hx) (fun hf => (dpCreateVnfRoute_undo hok).1 ▸ hf) fun _ => subset_rfl
  | ifaceUndone _ hal hok hun =>
    have hun := hun hc.uses
    refine h.less hun.fewer.less (fun hf => ?_) fun v => ?_
    · rw [hun.vnf] at hf
      exact (congrFun (dpCreateVnfRoute_undo hok).1 _).symm.trans hf
    · rw [readyIn_undone hun (hc.not_ready hal)]
  | ifaceCreated _ hal hok hcr =>
    refine h.created hc hal (fun {ul f} hf => ?_) hcr
    obtain ⟨-, rfl⟩ | ⟨-, hf⟩ := Table.add_eq_some.mp ((congrFun (dpCreateVnfRoute_made hok).1 ul).symm.trans hf)
    · exact .inr ⟨rfl, rfl⟩
    · exact .inl hf
  | ifaceDeleted hp hd => exact h.deleted (hvac _ rfl _ hp) hd (hc.ready (hc.mapped.mp hp).1).2.1
  | _ => exact hother rfl

end Requests

/-! ## Packets of virtual functions -/

/-- The nodes that read the VNI a packet carries, up to IPv4 routing. -/
def Node.beforeLookup : Node → Bool
  | .conntrack | .lb | .dnat | .ipv4Lookup => true
  | _ => false

/-- A packet from a virtual function is never decapsulated, and carries no VNI before it is routed. -/
def VfPkt (cf : Conf) (n : Node) (m : Mbuf) : Prop :=
  cf.isPf m.port = false → n ≠ .ipipDecap ∧ (n.beforeLookup = true → m.df.dstVni = 0)

section Packets

variable {cf : Conf} {e : Env} {c : Config} {d d' : Dataplane} {n n' : Node} {m m' : Mbuf} {f : ℕ} {fv : FlowValue}

/-- A packet that is handed on unread stays one of its virtual function. -/
theorem VfPkt.handsOn (hm : cf.isPf m.port = false → m.df.dstVni = 0) (hport : m'.port = m.port)
    (hvni : m'.df.dstVni = m.df.dstVni) (hn : n' ≠ .ipipDecap) : VfPkt cf n' m' := by
  intro hp
  rw [hport] at hp
  exact ⟨hn, fun _ => hvni.trans (hm hp)⟩

/-- The nodes from routing on do not lead back to those that read the VNI. -/
theorem VfPkt.after (hd : n' ≠ .ipipDecap) (hb : n'.beforeLookup = false) : VfPkt cf n' m' :=
  fun _ => ⟨hd, fun h => by rw [hb] at h; cases h⟩

theorem ConntrackCase.vfPkt (hm : cf.isPf m.port = false → m.df.dstVni = 0)
    (h : ConntrackCase cf e c d m d' m' n') : VfPkt cf n' m' := by
  have hextract : ∀ {df}, (m.df.extractL3 m.frontHdr).extractL4 m.l4 = some df → df.dstVni = m.df.dstVni := by
    intro df hdf
    have hl3 : (m.df.extractL3 m.frontHdr).dstVni = m.df.dstVni := by cases m.frontHdr <;> rfl
    unfold DpFlow.extractL4 at hdf
    split at hdf
    · cases hdf
      exact hl3
    · split at hdf <;> cases hdf
      exact hl3
  cases h with
  | unread => exact .after nofun rfl
  | skip hdf hn => exact .handsOn hm rfl (hextract hdf) (by rcases hn with rfl | rfl <;> nofun)
  | @track _ b _ _ hdf _ _ h =>
    cases b with
    | false => exact .after nofun rfl
    | true =>
      obtain ⟨_, -, hr⟩ := h.effect
      obtain ⟨f, dir, off, -, rfl⟩ := hr rfl
      have hvni := hextract hdf
      refine .handsOn hm rfl hvni ?_
      rw [if_pos rfl]
      rcases conntrackNext_cases cf _ with h | h | h | h <;> rw [h] <;> nofun

theorem LbCase.vfPkt (hm : cf.isPf m.port = false → m.df.dstVni = 0) (h : LbCase c d m d' m' n') : VfPkt cf n' m' := by
  cases h with
  | pass => exact .handsOn hm rfl rfl nofun
  | drop | relay | known | none | recirc | forward => exact .after nofun rfl

/-- **A packet from a virtual function carries no VNI until it is routed**, whatever node handles it. -/
theorem runNode_vfPkt (hm : VfPkt cf n m) (h : runNode cf e c d m n = some (d', m', n')) : VfPkt cf n' m' := by
  cases n with
  | cls =>
    obtain ⟨-, hport, hl | ⟨rfl, rfl⟩ | ⟨rfl, hpf, -⟩⟩ := clsNode_cases h
    · refine .after (by rintro rfl; cases hl) ?_
      cases n' <;> first | rfl | cases hl
    · exact fun _ => ⟨nofun, fun _ => rfl⟩
    · intro hp
      rw [hport, hpf] at hp
      cases hp
  | ipipDecap =>
    intro hp
    rw [runNode_port h] at hp
    exact absurd rfl (hm hp).1
  | conntrack => exact (conntrackNode_cases h).vfPkt fun hp => (hm hp).2 rfl
  | lb => exact (lbNode_cases h).vfPkt fun hp => (hm hp).2 rfl
  | dnat =>
    have hcase := dnatNode_cases h
    refine .handsOn (fun hp => (hm hp).2 rfl) hcase.carried.port hcase.carried.dstVni ?_
    rcases hcase.next with rfl | rfl | rfl | rfl <;> nofun
  | ipv4Lookup => obtain ⟨-, ⟨rfl | rfl, -⟩ | ⟨rfl, -⟩⟩ := lookup_cases (.inl h) <;> exact .after nofun rfl
  | ipv6Lookup => obtain ⟨-, ⟨rfl | rfl, -⟩ | ⟨rfl, -⟩⟩ := lookup_cases (.inr h) <;> exact .after nofun rfl
  | snat => obtain ⟨-, rfl | rfl⟩ := (snatNode_cases h).known_pkt <;> exact .after nofun rfl
  | firewall =>
    rw [(firewallNode_cases h).2.1]
    split <;> exact .after nofun rfl
  | packetRelay => obtain ⟨-, -, rfl | rfl⟩ := packetRelayNode_cases h <;> exact .after nofun rfl
  | ipipEncap =>
    obtain ⟨-, ⟨rfl, -⟩ | ⟨⟨rfl, -⟩ | ⟨rfl, -⟩, -⟩⟩ := ipipEncapNode_cases h <;> exact .after nofun rfl
  | tx =>
    obtain ⟨d₁, -, heq⟩ := Option.map_eq_some_iff.mp h
    cases heq
    exact .after nofun rfl
  | arp | ipv6Nd | dhcp | dhcpv6 | drop => cases h

/-- The route that a lookup sends a packet over, if that is to a virtual function. -/
theorem routePacket_vf {r : Route} {b : Bool} {pf : PortId} (hpf : cf.isPf r.nh = true → cf.isPf pf = true)
    (h : routePacket cf e d m r b pf = some (d', m', .snat)) (hvf : cf.isPf m'.df.nxtHop = false) :
    m'.df.nxtHop = r.nh ∧ cf.isPf r.nh = false := by
  unfold routePacket at h
  split at h
  · cases h
  · cases h
    dsimp only at hvf ⊢
    split at hvf
    next hr => exact absurd (hvf.symm.trans (hpf hr)) nofun
    next hr => exact ⟨if_neg hr, Bool.eq_false_iff.mpr hr⟩

/-- **Routing stays in the VNI of the interface**: a packet from a virtual function that a lookup sends to another one
goes over a route of that VNI. -/
theorem lookup_route (hn : n = .ipv4Lookup ∨ n = .ipv6Lookup) (hp : cf.isPf m.port = false) (hm : VfPkt cf n m)
    (h : runNode cf e c d m n = some (d', m', .snat)) (hvf : cf.isPf m'.df.nxtHop = false) :
    ∃ k x, routeAt c.vniHandleTbl (ifaceVni c m) k = some x ∧ x.nh = m'.df.nxtHop := by
  rcases hn with rfl | rfl
  · replace h : ipv4LookupNode cf e c d m = _ := h
    unfold ipv4LookupNode at h
    split at h
    · cases h
    · split at h
      · cases h
      next key r hr =>
        have hpf : cf.isPf (if e.usePf1 = true then cf.pf1 else cf.pf0) = true := by
          split <;> simp [Conf.isPf]
        obtain ⟨hnh, -⟩ := routePacket_vf (fun _ => hpf) h hvf
        rw [pktVni, if_pos ((hm hp).2 rfl)] at hr
        unfold dpGetIp4OutPort at hr
        split at hr
        · cases hr
        next t ht =>
          obtain ⟨len, -, -, hat⟩ := Rib.lookup_entry (Option.eq_some_of_filter_eq_some hr)
          exact ⟨.inl (key, len), r, by rw [routeAt, ifaceVni, ht]; exact hat, hnh.symm⟩
  · replace h : ipv6LookupNode cf e c d m = _ := h
    unfold ipv6LookupNode at h
    dsimp only at h
    split at h
    · cases h
    next key r hr =>
      obtain ⟨hnh, -⟩ := routePacket_vf id h hvf
      rw [if_neg (by simp [hp])] at hr
      unfold dpGetIp6OutPort at hr
      split at hr
      · cases hr
      next t ht =>
        obtain ⟨len, -, -, hat⟩ := Rib.lookup_entry (Option.eq_some_of_filter_eq_some hr)
        exact ⟨.inr (key, len), r, by rw [routeAt, ifaceVni, ht]; exact hat, hnh.symm⟩

end Packets

/-! ## Runs -/

/-- An interface is deleted only after everything that leads to it. -/
def IsolationSafe (s : Service) : Event → Prop
  | .request (.deleteInterface id) _ _ => ∀ p ∈ s.cfg.ifaceIdTable id, Vacates s.cfg p
  | _ => True

/-- Tenants are apart: what a lookup sends from one virtual function to another one stays in the VNI, and what a
tunnelled packet is delivered to is an interface of the VNI that its underlay address stands for. -/
structure TenantsApart (cf : Conf) (s : Service) : Prop where
  routed : ∀ n m, (n, m) ∈ s.inflight → n = .ipv4Lookup ∨ n = .ipv6Lookup → cf.isPf m.port = false →
    ∀ e d' m', runNode cf e s.cfg s.dpl m n = some (d', m', .snat) → cf.isPf m'.df.nxtHop = false →
      (s.cfg.port m'.df.nxtHop).iface.ready = true ∧ (s.cfg.port m'.df.nxtHop).iface.vni = (s.cfg.port m.port).iface.vni
  tunnelled : ∀ ul f, s.cfg.vnf.handleTbl ul = some f → cf.isPf f.portId = false →
    (s.cfg.port f.portId).iface.ready = true ∧ (s.cfg.port f.portId).iface.vni = f.vni

section Runs

variable {cf : Conf} {s s' : Service} {ev : Event} {es : List Event}

theorem vfPkts_step (h : ∀ q ∈ s.inflight, VfPkt cf q.1 q.2) (hs : step cf s ev = some s') :
    ∀ q ∈ s'.inflight, VfPkt cf q.1 q.2 := by
  cases step_cases hs with
  | rx m =>
    intro q hq
    rcases List.mem_append.mp hq with hq | hq
    · exact h q hq
    · rw [List.mem_singleton.mp hq]
      exact .after nofun rfl
  | walk hi hr =>
    intro q hq
    rcases mem_inflight_walk hq with hq | ⟨-, rfl⟩
    · exact h q hq
    · exact runNode_vfPkt (h _ (List.mem_of_getElem? hi)) hr
  | request | flowAging => exact h

/-- In every run, packets from virtual functions carry no VNI before they are routed. -/
theorem vfPkts_run (h : run (step cf) (Service.init cf) es = some s) : ∀ q ∈ s.inflight, VfPkt cf q.1 q.2 :=
  run_invariant (I := fun s => ∀ q ∈ s.inflight, VfPkt cf q.1 q.2) (P := fun _ _ => True)
    (fun _ _ _ hi _ hs => vfPkts_step hi hs) (fun _ hq => absurd hq List.not_mem_nil) (along_true _ _) h

theorem isolated_run (hsafe : Along (step cf) IsolationSafe (Service.init cf) es)
    (h : run (step cf) (Service.init cf) es = some s) : Isolated cf s.cfg := by
  have hinv : PortsOk cf s.cfg ∧ Isolated cf s.cfg := by
    refine run_invariant (I := fun s => PortsOk cf s.cfg ∧ Isolated cf s.cfg) ?_ ⟨.init cf, .init cf⟩ hsafe h
    rintro s ev s' ⟨hc, hi⟩ hp hstep
    obtain heq | ⟨r, e, order, o, rfl, ho, heq⟩ := step_config hstep
    · rw [heq]
      exact ⟨hc, hi⟩
    · rw [heq]
      refine ⟨hc.request ho, hi.request hc ?_ ho⟩
      rintro id rfl
      exact hp
  exact hinv.2

/-- **Tenants are delivered to themselves only**, in every run in which no interface is deleted while something else
leads to it. -/
theorem tenant_isolation (hsafe : Along (step cf) IsolationSafe (Service.init cf) es)
    (hrun : run (step cf) (Service.init cf) es = some s) : TenantsApart cf s := by
  have hiso := isolated_run hsafe hrun
  refine ⟨fun n m hm hn hp e d' m' hr hvf => ?_, fun ul f hf hpf => hiso.vnfs hf hpf⟩
  obtain ⟨k, x, hx, hnh⟩ := lookup_route hn hp (vfPkts_run hrun _ hm) hr hvf
  rw [← hnh] at hvf ⊢
  exact hiso.routes hx hvf

/-! ### Interfaces without prefixes and addresses -/

/-- The only requests are those for interfaces, and an interface is deleted as the last user of its VNI. -/
def LastIface (s : Service) : Event → Prop
  | .request (.deleteInterface id) _ _ => ∀ p ∈ s.cfg.ifaceIdTable id,
      vniRefs s.cfg.vniHandleTbl (s.cfg.port p).iface.vni = some 1
  | .request (.createInterface ..) _ _ | .rx _ | .walk .. | .flowAging .. => True
  | .request .. => False

instance (s : Service) : ∀ ev, Decidable (LastIface s ev)
  | .request r _ _ => by unfold LastIface; split <;> infer_instance
  | .rx _ | .walk .. | .flowAging .. => .isTrue trivial

/-- Where there are only interfaces, nothing else leads to their ports. -/
theorem LastIface.safe (h : Along (step cf) LastIface (Service.init cf) es) :
    Along (step cf) IsolationSafe (Service.init cf) es := by
  refine Along.of_invariant (I := fun s => PortsOk cf s.cfg ∧ IfaceVnfs s.cfg ∧
    ∀ ul f, s.cfg.vnf.handleTbl ul = some f → f.type = .interfaceIp) ?_ ?_
    ⟨.init cf, fun _ _ h => (by cases h), fun _ _ h => (by cases h)⟩ h
  · rintro s ev s' ⟨hc, hi, hty⟩ hp hstep
    obtain heq | ⟨r, e, order, o, rfl, ho, heq⟩ := step_config hstep
    · rw [heq]
      exact ⟨hc, hi, hty⟩
    · rw [heq]
      refine ⟨hc.request ho, hi.request hc ho, fun ul f hf => ?_⟩
      obtain hf | hmk := (dpProcessRequest_vnf hc ho).handle_old hf
      · exact hty ul f hf
      · have hr : r.placesIface = true := by
          cases r with
          | createInterface | deleteInterface => rfl
          | _ => exact hp.elim
        obtain ⟨-, hty, -⟩ | ⟨hr', -⟩ | ⟨hr', -⟩ := requestVnf_owner hmk
        · exact hty
        · cases hr.symm.trans hr'
        · cases hr.symm.trans hr'
  · rintro s ev ⟨hc, hi, hty⟩ hp
    unfold IsolationSafe
    split
    · refine fun p hp' => ⟨fun hf hfp => ?_, .inl (hp p hp')⟩
      rw [← hfp]
      exact (hi _ _ hf (hty _ _ hf)).2.symm
    · trivial

end Runs

def udpFrom8To (dst : Ip4) : Mbuf :=
  { port := 3, l3 := .ipv4 0x0a000002 dst ipprotoUdp, l4 := { srcPort := 1000, dstPort := 53 } }

/-- Interfaces 7 and 8 in two VNIs; 7 is deleted, and its port given to interface 9 in the VNI of 8. -/
def movedIface : List Request :=
  [.createInterface 2 7 100 0x0a000001 0xfd00 0 0, .createInterface 3 8 200 0x0a000002 0xfd01 0 0, .deleteInterface 7,
    .createInterface 2 9 200 0x0a000009 0xfd00 0 0]

/-- A packet is on its way from interface 8 to interface 9: it is sent there, and both are in one VNI. -/
theorem tenant_isolation_moved : ∃ s m d' m',
    run (step smallConf) (Service.init smallConf) (requests movedIface ++ passes (udpFrom8To 0x0a000009) 3) = some s ∧
      (.ipv4Lookup, m) ∈ s.inflight ∧ runNode smallConf {} s.cfg s.dpl m .ipv4Lookup = some (d', m', .snat) ∧
      m'.df.nxtHop = 2 ∧ TenantsApart smallConf s := by
  obtain ⟨s, hs, ⟨n, m⟩, hi, rfl, ⟨d', m', n'⟩, hr, rfl, hnh⟩ : ∃ s,
      run (step smallConf) (Service.init smallConf) (requests movedIface ++ passes (udpFrom8To 0x0a000009) 3) = some s ∧
      ∃ q, s.inflight[0]? = some q ∧ q.1 = .ipv4Lookup ∧
      ∃ r, runNode smallConf {} s.cfg s.dpl q.2 .ipv4Lookup = some r ∧ r.2.2 = .snat ∧ r.2.1.df.nxtHop = 2 := by
    decide +kernel
  exact ⟨s, m, d', m', hs, List.mem_of_getElem? hi, hr, hnh, tenant_isolation (LastIface.safe (by decide +kernel)) hs⟩

/-- Interface 7 is deleted with its prefix 10.1.0.0/24, while interface 8 keeps the VNI. Its port is given to interface
9 of another tenant, who now gets what interface 8 sends to the prefix. -/
theorem tenant_isolation_prefix : ∃ s,
    run (step smallConf) (Service.init smallConf) (requests
      [.createInterface 2 7 100 0x0a000001 0xfd00 0 0, .createPrefix 7 (.v4 0x0a010000) 24,
        .createInterface 3 8 100 0x0a000002 0xfd01 0 0, .deleteInterface 7,
        .createInterface 2 9 200 0x0a000001 0xfd00 0 0] ++ passes (udpFrom8To 0x0a010005) 3) = some s ∧
      ¬ TenantsApart smallConf s := by
  refine exists_some_imp (P := fun s => ∃ q, s.inflight[0]? = some q ∧ q.1 = .ipv4Lookup ∧
    smallConf.isPf q.2.port = false ∧ ∃ r, runNode smallConf {} s.cfg s.dpl q.2 .ipv4Lookup = some r ∧ r.2.2 = .snat ∧
      smallConf.isPf r.2.1.df.nxtHop = false ∧
      (s.cfg.port r.2.1.df.nxtHop).iface.vni ≠ (s.cfg.port q.2.port).iface.vni) (by decide +kernel) ?_
  rintro s - ⟨⟨n, m⟩, hi, rfl, hp, ⟨d', m', n'⟩, hr, rfl, hvf, hvni⟩ h
  exact hvni (h.routed _ m (List.mem_of_getElem? hi) (.inl rfl) hp _ _ _ hr hvf).2

end Dpservice
