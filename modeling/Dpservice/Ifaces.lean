import Dpservice.Grpc

/-!
# Creating and deleting interfaces

`dp_process_create_interface` builds an interface in steps and takes them back where a later one fails.

- `HalfMade` describes the configuration between two steps: the interface `newIface` on port `p`, one more use of its
  VNI, and at most its two host routes in addition;
- taking the steps back (`HalfMade.rollback`) leaves what was there before (`Undone`), except for routes over `p` and
  for the neighbour-NAT entries of a VNI that only this request created;
- `dpProcessCreateInterface_cases` lists the ways the request ends, `dpProcessDeleteInterface_cases` those of a
  deletion.
-/

namespace Dpservice

/-! ## What the small steps leave alone -/

section Frames

variable {c : Config} {p q : PortId} {vni : Vni} {id : Id64} {i : Iface}

@[simp] theorem setIface_vnf : (c.setIface p i).vnf = c.vnf := rfl
@[simp] theorem setIface_ids : (c.setIface p i).ifaceIdTable = c.ifaceIdTable := rfl
@[simp] theorem setIface_vni : (c.setIface p i).vniHandleTbl = c.vniHandleTbl := rfl
@[simp] theorem setIface_nat : (c.setIface p i).nat = c.nat := rfl

@[simp] theorem setIface_port_self : (c.setIface p i).port p = { c.port p with iface := i } := Function.update_self ..

theorem setIface_port_ne (h : q ≠ p) : (c.setIface p i).port q = c.port q := Function.update_of_ne h ..

/-- The routing tables after the two host routes of an interface were deleted. -/
def vacatedTbl (c : Config) (p : PortId) : VniTbl :=
  let i := (c.port p).iface
  (dpGrpcDelRoute (dpGrpcDelRoute c.vniHandleTbl p i.vni (.v4 i.ownIp) 32).2 p i.vni (.v6 i.dhcpIpv6) 128).2

/-- `dp_delete_iface` in one step: the tables that it leaves, and the cleared record. -/
theorem dpDeleteIface_eq (c : Config) (p : PortId) :
    dpDeleteIface c p =
      ({ c with
          vniHandleTbl := (dpDeleteVniRouteTables (vacatedTbl c p) c.nat.natHeadp (c.port p).iface.vni).2.1
          nat := { c.nat with
            natHeadp := (dpDeleteVniRouteTables (vacatedTbl c p) c.nat.natHeadp (c.port p).iface.vni).2.2 }
        } : Config).setIface p {} := rfl

theorem vacatedTbl_fewer (c : Config) (p : PortId) : FewerVia p c.vniHandleTbl (vacatedTbl c p) :=
  (dpGrpcDelRoute_fewer ..).trans (dpGrpcDelRoute_fewer ..)

theorem vacatedTbl_gone4 {r : Route}
    (h : routeAt (vacatedTbl c p) (c.port p).iface.vni (pfxKey (.v4 (c.port p).iface.ownIp) 32) = some r) : r.nh ≠ p :=
  dpGrpcDelRoute_gone (.v4 (c.port p).iface.ownIp) 32 (Nat.le_refl 32) ((dpGrpcDelRoute_fewer ..).less h)

theorem vacatedTbl_gone6 {r : Route}
    (h : routeAt (vacatedTbl c p) (c.port p).iface.vni (pfxKey (.v6 (c.port p).iface.dhcpIpv6) 128) = some r) :
    r.nh ≠ p :=
  dpGrpcDelRoute_gone (.v6 (c.port p).iface.dhcpIpv6) 128 (Nat.le_refl 128) h

end Frames

/-! ## The steps of a creation -/

/-- The record of a new interface: what the port had, with the fields that the request sets. -/
def newIface (old : Iface) (id : Id64) (vni : Vni) (ip4 : Ip4) (ip6 ul : Ip6) (total pub : UInt64) : Iface :=
  { old with
    ready := true
    vni := vni
    id := id
    ownIp := ip4
    dhcpIpv6 := ip6
    ulIpv6 := ul
    totalFlowRateCap := total
    publicFlowRateCap := pub }

/-- The meter changes nothing but the two caps. -/
theorem dpPortMeterConfig_caps (cf : Conf) (e : Env) (i : Iface) (total pub : UInt64) :
    ∃ a b, (dpPortMeterConfig cf e i total pub).2 = { i with totalFlowRateCap := a, publicFlowRateCap := b } := by
  unfold dpPortMeterConfig
  split
  · exact ⟨_, _, rfl⟩
  · split
    · exact ⟨_, _, rfl⟩
    · split
      · exact ⟨_, _, rfl⟩
      · dsimp only
        split <;> split <;> first | exact ⟨_, _, rfl⟩ | (split <;> exact ⟨_, _, rfl⟩)

/-- What a creation works on: the port, the names and addresses of the interface, and the VNFs with the new one; `made`
tells whether it gets as far as its VNI. -/
structure NewIface where
  p : PortId
  id : Id64
  vni : Vni
  ip4 : Ip4
  ip6 : Ip6
  ul : Ip6
  vnf : VnfState
  made : Bool

/-- The prefixes of the two host routes. -/
def NewIface.IsHost (n : NewIface) (k : PfxKey) : Prop := k = pfxKey (.v4 n.ip4) 32 ∨ k = pfxKey (.v6 n.ip6) 128

/-- The routes are the same, away from the two host routes of a new interface. -/
def SameAway (n : NewIface) (t t' : VniTbl) : Prop :=
  ∀ v k, ¬ (v = n.vni ∧ n.IsHost k) → routeAt t' v k = routeAt t v k

/-- `x` is the configuration `c` with an interface half created. -/
structure HalfMade (c : Config) (n : NewIface) (x : Config) : Prop where
  made : n.made = true
  vnf : x.vnf = n.vnf
  other : ∀ {q}, q ≠ n.p → x.port q = c.port q
  port : ∃ a b, x.port n.p =
    { c.port n.p with iface := newIface (c.port n.p).iface n.id n.vni n.ip4 n.ip6 n.ul a b }
  ids : x.ifaceIdTable = c.ifaceIdTable.add n.id n.p
  nat : x.nat = c.nat
  refs : ∀ v, vniRefs x.vniHandleTbl v =
    if v = n.vni then some ((vniRefs c.vniHandleTbl n.vni).getD 0 + 1) else vniRefs c.vniHandleTbl v
  less : ∀ {v k r}, routeAt x.vniHandleTbl v k = some r →
    routeAt c.vniHandleTbl v k = some r ∨ (r.nh = n.p ∧ v = n.vni ∧ n.IsHost k)
  kept : ∀ {v k r}, routeAt c.vniHandleTbl v k = some r → r.nh ≠ n.p → routeAt x.vniHandleTbl v k = some r
  away : SameAway n c.vniHandleTbl x.vniHandleTbl

/-- What a creation leaves of the VNIs that was taken back after it had set up its own. -/
structure TakenBack (c : Config) (n : NewIface) (x : Config) : Prop where
  away : SameAway n c.vniHandleTbl x.vniHandleTbl
  gone : ∀ {k r}, n.IsHost k → routeAt x.vniHandleTbl n.vni k = some r → r.nh ≠ n.p
  headp : x.nat.natHeadp =
    if c.vniHandleTbl n.vni = none then dpDelAllNeighNatEntriesInVni c.nat.natHeadp n.vni else c.nat.natHeadp

/-- `x` is `c` after a creation was taken back. -/
structure Undone (c : Config) (n : NewIface) (x : Config) : Prop where
  vnf : x.vnf = (dpDelVnf n.vnf n.ul).2
  other : ∀ {q}, q ≠ n.p → x.port q = c.port q
  port : ∃ i, x.port n.p = { c.port n.p with iface := i } ∧
    (i = {} ∨ i = (c.port n.p).iface ∨ i = { (c.port n.p).iface with id := n.id })
  ids : x.ifaceIdTable = c.ifaceIdTable
  snat : x.nat.snatTbl = c.nat.snatTbl
  dnat : x.nat.dnatTbl = c.nat.dnatTbl
  fewer : FewerVia n.p c.vniHandleTbl x.vniHandleTbl
  early : n.made = false → x.vniHandleTbl = c.vniHandleTbl ∧ x.nat = c.nat
  late : n.made = true → TakenBack c n x

/-- `x` is `c` with the new interface. -/
structure Created (c : Config) (n : NewIface) (x : Config) : Prop where
  vnf : x.vnf = n.vnf
  other : ∀ {q}, q ≠ n.p → x.port q = c.port q
  port : ∃ a b, x.port n.p = { c.port n.p with
    allocated := true, iface := newIface (c.port n.p).iface n.id n.vni n.ip4 n.ip6 n.ul a b }
  ids : x.ifaceIdTable = c.ifaceIdTable.add n.id n.p
  fresh : c.ifaceIdTable n.id = none
  nat : x.nat = c.nat
  refs : ∀ v, vniRefs x.vniHandleTbl v =
    if v = n.vni then some ((vniRefs c.vniHandleTbl n.vni).getD 0 + 1) else vniRefs c.vniHandleTbl v
  less : ∀ {v k r}, routeAt x.vniHandleTbl v k = some r →
    routeAt c.vniHandleTbl v k = some r ∨ (r.nh = n.p ∧ v = n.vni ∧ n.IsHost k)
  kept : ∀ {v k r}, routeAt c.vniHandleTbl v k = some r → r.nh ≠ n.p → routeAt x.vniHandleTbl v k = some r
  -- an IPv4 address is announced by a host route, which nobody had before
  host : n.ip4 ≠ 0 → routeAt c.vniHandleTbl n.vni (pfxKey (.v4 n.ip4) 32) = none ∧
    ∃ r, routeAt x.vniHandleTbl n.vni (pfxKey (.v4 n.ip4) 32) = some r ∧ r.nh = n.p

/-- Every VNI that exists is in use. -/
def UsesPos (t : VniTbl) : Prop := ∀ v m, vniRefs t v = some m → 0 < m

section Steps

variable {cf : Conf} {e : Env} {c x : Config} {n : NewIface}

theorem Undone.headp (h : Undone c n x) : x.nat.natHeadp = c.nat.natHeadp ∨
    (c.vniHandleTbl n.vni = none ∧ x.nat.natHeadp = dpDelAllNeighNatEntriesInVni c.nat.natHeadp n.vni) := by
  cases hm : n.made with
  | false => exact .inl (by rw [(h.early hm).2])
  | true =>
    rw [(h.late hm).headp]
    split
    next hnone => exact .inr ⟨hnone, rfl⟩
    · exact .inl rfl

theorem SameAway.del {t : VniTbl} (addr : IpAddr) (depth : UInt8) (hk : n.IsHost (pfxKey addr depth.toNat)) :
    SameAway n t (dpGrpcDelRoute t n.p n.vni addr depth).2 := by
  intro v k hne
  obtain ⟨ht, -⟩ | ⟨-, -, hroutes⟩ := dpGrpcDelRoute_spec t n.p n.vni addr depth
  · rw [ht]
  · rw [hroutes, if_neg]
    rintro ⟨rfl, rfl⟩
    exact hne ⟨rfl, hk⟩

theorem HalfMade.iface_vni (h : HalfMade c n x) : (x.port n.p).iface.vni = n.vni := by
  obtain ⟨a, b, hp⟩ := h.port
  rw [hp]
  rfl

theorem HalfMade.iface_ownIp (h : HalfMade c n x) : (x.port n.p).iface.ownIp = n.ip4 := by
  obtain ⟨a, b, hp⟩ := h.port
  rw [hp]
  rfl

theorem HalfMade.iface_dhcpIpv6 (h : HalfMade c n x) : (x.port n.p).iface.dhcpIpv6 = n.ip6 := by
  obtain ⟨a, b, hp⟩ := h.port
  rw [hp]
  rfl

/-- The caps of the record change. -/
theorem HalfMade.setCaps (h : HalfMade c n x) {i : Iface} {a b : UInt64}
    (hi : i = { (x.port n.p).iface with totalFlowRateCap := a, publicFlowRateCap := b }) :
    HalfMade c n (x.setIface n.p i) :=
  { h with
    other := fun hq => (setIface_port_ne hq).trans (h.other hq)
    port := by
      obtain ⟨a', b', hp⟩ := h.port
      refine ⟨a, b, ?_⟩
      rw [setIface_port_self, hi, hp]
      rfl }

/-- A host route over the port is removed. -/
theorem HalfMade.delHost (h : HalfMade c n x) (addr : IpAddr) (depth : UInt8)
    (hk : n.IsHost (pfxKey addr depth.toNat)) :
    HalfMade c n { x with vniHandleTbl := (dpGrpcDelRoute x.vniHandleTbl n.p n.vni addr depth).2 } :=
  have ht := dpGrpcDelRoute_fewer x.vniHandleTbl n.p n.vni addr depth
  { h with
    refs := fun v => (congrFun ht.refs v).trans (h.refs v)
    less := fun hr => h.less (ht.less hr)
    kept := fun hr hne => ht.kept (h.kept hr hne) hne
    away := fun v k hne => (SameAway.del addr depth hk v k hne).trans (h.away v k hne) }

/-- One of the two host routes is added, or refused. -/
theorem HalfMade.addHost (h : HalfMade c n x) (addr : IpAddr) (depth : UInt8)
    (hk : n.IsHost (pfxKey addr depth.toNat)) :
    HalfMade c n { x with vniHandleTbl := (dpGrpcAddRoute cf e x.vniHandleTbl n.p n.vni 0 addr 0 depth).2 } := by
  rcases dpGrpcAddRoute_spec cf e x.vniHandleTbl n.p n.vni 0 addr 0 depth with ⟨-, ht⟩ | ⟨-, -, hfree, hrefs, hroutes⟩
  · rw [ht]
    exact h
  · refine ⟨h.made, h.vnf, h.other, h.port, h.ids, h.nat, fun v => (congrFun hrefs v).trans (h.refs v), ?_, ?_, ?_⟩
    · intro v k r hr
      rw [hroutes] at hr
      split at hr
      next hvk =>
        cases hr
        exact .inr ⟨mkRoute_nh, hvk.1, hvk.2 ▸ hk⟩
      · exact h.less hr
    · intro v k r hr hne
      have hx := h.kept hr hne
      rw [hroutes, if_neg, hx]
      rintro ⟨rfl, rfl⟩
      rw [hx] at hfree
      cases hfree
    · intro v k hne
      rw [hroutes, if_neg, h.away v k hne]
      rintro ⟨rfl, rfl⟩
      exact hne ⟨rfl, hk⟩

end Steps

/-! ## Taking a creation back -/

section Rollback

variable {c x : Config} {n : NewIface}

/-- Deleting the interface record of a half created interface. -/
theorem HalfMade.deleteIface (h : HalfMade c n x) (hpos : UsesPos c.vniHandleTbl) :
    FewerVia n.p c.vniHandleTbl (dpDeleteIface x n.p).vniHandleTbl ∧ TakenBack c n (dpDeleteIface x n.p) := by
  have hfew := vacatedTbl_fewer x n.p
  have hrefs : ∀ v, vniRefs (vacatedTbl x n.p) v =
      if v = n.vni then some ((vniRefs c.vniHandleTbl n.vni).getD 0 + 1) else vniRefs c.vniHandleTbl v :=
    fun v => (congrFun hfew.refs v).trans (h.refs v)
  have hgone : ∀ {k r}, n.IsHost k → routeAt (vacatedTbl x n.p) n.vni k = some r → r.nh ≠ n.p := by
    rintro k r (rfl | rfl) hr
    · exact vacatedTbl_gone4 (by rw [h.iface_vni, h.iface_ownIp]; exact hr)
    · exact vacatedTbl_gone6 (by rw [h.iface_vni, h.iface_dhcpIpv6]; exact hr)
  have hless : ∀ {v k r}, routeAt (vacatedTbl x n.p) v k = some r → routeAt c.vniHandleTbl v k = some r := by
    intro v k r hr
    rcases h.less (hfew.less hr) with hc | ⟨hp, rfl, hk⟩
    · exact hc
    · exact absurd hp (hgone hk hr)
  have haway : SameAway n c.vniHandleTbl (vacatedTbl x n.p) := by
    intro v k hk
    rw [← h.away v k hk, vacatedTbl, h.iface_vni, h.iface_ownIp, h.iface_dhcpIpv6]
    exact (SameAway.del (.v6 n.ip6) 128 (.inr rfl) v k hk).trans (SameAway.del (.v4 n.ip4) 32 (.inl rfl) v k hk)
  have hkept : ∀ {v k r}, routeAt c.vniHandleTbl v k = some r → r.nh ≠ n.p → routeAt (vacatedTbl x n.p) v k = some r :=
    fun hr hne => hfew.kept (h.kept hr hne) hne
  rw [dpDeleteIface_eq, h.iface_vni, h.nat]
  simp only [setIface_vni]
  rcases dpDeleteVniRouteTables_spec (vacatedTbl x n.p) c.nat.natHeadp n.vni with
    ⟨hnone, -⟩ | ⟨hone, heq⟩ | ⟨d, hd, hne, heq⟩
  · have := hrefs n.vni
    rw [vniRefs, hnone, if_pos rfl] at this
    cases this
  · rw [heq]
    have hnew : vniRefs c.vniHandleTbl n.vni = none := by
      have hn := hrefs n.vni
      rw [hone, if_pos rfl, Option.some.injEq] at hn
      cases hm : vniRefs c.vniHandleTbl n.vni with
      | none => rfl
      | some m =>
        have := hpos n.vni m hm
        rw [hm, Option.getD_some] at hn
        omega
    have htbl : c.vniHandleTbl n.vni = none := by simpa [vniRefs] using hnew
    refine ⟨⟨funext fun v => ?_, fun {v k r} hr => ?_, fun {v k r} hr hne => ?_⟩,
      ⟨fun v k hk => ?_, fun hk hr => ?_, (if_pos htbl).symm⟩⟩
    · rw [vniRefs_del, hrefs]
      split
      next hv => rw [hv, hnew]
      · rfl
    · rw [routeAt_del] at hr
      split at hr
      · cases hr
      · exact hless hr
    · rw [routeAt_del, if_neg]
      · exact hkept hr hne
      · rintro rfl
        simp [routeAt, htbl] at hr
    · rw [setIface_vni, routeAt_del]
      split
      next hv => simp [hv, routeAt, htbl]
      · exact haway v k hk
    · rw [setIface_vni, routeAt_del, if_pos rfl] at hr
      cases hr
  · rw [heq]
    have hd' : vniRefs (vacatedTbl x n.p) n.vni = some d.refCount := by rw [vniRefs, hd]; rfl
    rw [hrefs, if_pos rfl, Option.some.injEq] at hd'
    have hroutes : ∀ v k, routeAt ((vacatedTbl x n.p).add n.vni { d with refCount := d.refCount - 1 }) v k =
        routeAt (vacatedTbl x n.p) v k := by
      intro v k
      rw [routeAt_add]
      split
      next hv => rw [hv, routeAt, hd]; rfl
      · rfl
    refine ⟨⟨funext fun v => ?_, fun hr => hless (hroutes .. ▸ hr), fun hr hne => ?_⟩,
      ⟨fun v k hk => (hroutes v k).trans (haway v k hk), fun hk hr => hgone hk (hroutes .. ▸ hr), (if_neg ?_).symm⟩⟩
    · rw [vniRefs_add, hrefs]
      split
      next hv =>
        cases hm : vniRefs c.vniHandleTbl n.vni with
        | none =>
          rw [hm, Option.getD_none] at hd'
          omega
        | some m =>
          rw [hm, Option.getD_some] at hd'
          rw [hv, hm, Option.some.injEq]
          show d.refCount - 1 = m
          omega
      · rfl
    · rw [hroutes]
      exact hkept hr hne
    · intro hnone
      rw [show vniRefs c.vniHandleTbl n.vni = none by rw [vniRefs, hnone]; rfl] at hd'
      exact hne hd'.symm

/-- **Taking back** a half created interface leaves what was there before it. -/
theorem HalfMade.rollback (h : HalfMade c n x) (hfresh : c.ifaceIdTable n.id = none) (hpos : UsesPos c.vniHandleTbl) :
    Undone c n (createIfaceIfaceErr x n.p n.id n.ul) := by
  obtain ⟨hfew, htaken⟩ := h.deleteIface hpos
  refine ⟨?_, fun hq => ?_, ⟨{}, ?_, .inl rfl⟩, ?_, ?_, ?_, hfew, fun hm => ?_,
    fun _ => ⟨htaken.away, htaken.gone, htaken.headp⟩⟩
  · exact congrArg (fun s => (dpDelVnf s n.ul).2) h.vnf
  · exact (setIface_port_ne hq).trans (h.other hq)
  · obtain ⟨a, b, hp⟩ := h.port
    refine (setIface_port_self ..).trans ?_
    show { x.port n.p with iface := {} } = _
    rw [hp]
  · show x.ifaceIdTable.del n.id = c.ifaceIdTable
    rw [h.ids, Table.del_add, Table.del_of_none hfresh]
  · show x.nat.snatTbl = c.nat.snatTbl
    rw [h.nat]
  · show x.nat.dnatTbl = c.nat.dnatTbl
    rw [h.nat]
  · rw [h.made] at hm
    cases hm

/-- The two later error labels delete the host routes once more. -/
theorem HalfMade.rollbackRoutes (h : HalfMade c n x) (hfresh : c.ifaceIdTable n.id = none)
    (hpos : UsesPos c.vniHandleTbl) :
    Undone c n (createIfaceRouteErr x n.p n.id n.vni n.ip4 n.ul) ∧
      Undone c n (createIfaceRoute6Err x n.p n.id n.vni n.ip4 n.ip6 n.ul) := by
  have h6 : HalfMade c n (x.delRoute6 n.p n.vni n.ip6 128) := h.delHost (.v6 n.ip6) 128 (.inr rfl)
  have h4 : ∀ {y}, HalfMade c n y → HalfMade c n (y.delRoute n.p n.vni n.ip4 32) := fun hy =>
    hy.delHost (.v4 n.ip4) 32 (.inl rfl)
  exact ⟨(h4 h).rollback hfresh hpos, (h4 h6).rollback hfresh hpos⟩

end Rollback

/-! ## How the requests end -/

section Cases

variable {cf : Conf} {e : Env} {c x : Config} {n : NewIface} {total pub : UInt64}

/-- The port is started: the interface is there. -/
theorem HalfMade.start (h : HalfMade c n x) (hfresh : c.ifaceIdTable n.id = none)
    (hhost : n.ip4 ≠ 0 → routeAt c.vniHandleTbl n.vni (pfxKey (.v4 n.ip4) 32) = none ∧
      ∃ r, routeAt x.vniHandleTbl n.vni (pfxKey (.v4 n.ip4) 32) = some r ∧ r.nh = n.p) :
    Created c n { x with port := Function.update x.port n.p { x.port n.p with allocated := true } } where
  vnf := h.vnf
  other hq := (Function.update_of_ne hq ..).trans (h.other hq)
  port := by
    obtain ⟨a, b, hp⟩ := h.port
    refine ⟨a, b, (Function.update_self ..).trans ?_⟩
    rw [hp]
  ids := h.ids
  fresh := hfresh
  nat := h.nat
  refs := h.refs
  less := h.less
  kept := h.kept
  host := hhost

/-- The rates of the port are set, unless it is a physical one. -/
theorem meter_caps (cf : Conf) (e : Env) (p : PortId) (i : Iface) (total pub : UInt64) :
    ∃ a b, (if cf.isPf p = true then (true, i) else dpPortMeterConfig cf e i total pub).2 =
      { i with totalFlowRateCap := a, publicFlowRateCap := b } := by
  split
  · exact ⟨_, _, rfl⟩
  · exact dpPortMeterConfig_caps ..

/-- The steps end with the interface, or with an error and all of them taken back. -/
def Ends (c : Config) (n : NewIface) (r : Resp × Config) : Prop :=
  (∃ er, r.1 = .err er ∧ (UsesPos c.vniHandleTbl → Undone c n r.2)) ∨ (r.1 = .ulAddr n.ul ∧ Created c n r.2)

theorem createIfaceStart_ends (h : HalfMade c n x) (hfresh : c.ifaceIdTable n.id = none)
    (hhost : n.ip4 ≠ 0 → routeAt c.vniHandleTbl n.vni (pfxKey (.v4 n.ip4) 32) = none ∧
      ∃ r, routeAt x.vniHandleTbl n.vni (pfxKey (.v4 n.ip4) 32) = some r ∧ r.nh = n.p) :
    Ends c n (createIfaceStart cf e x n.p n.id n.vni n.ip4 n.ip6 n.ul total pub) := by
  unfold createIfaceStart
  dsimp only
  obtain ⟨a, b, hab⟩ := meter_caps cf e n.p (x.port n.p).iface total pub
  generalize (if cf.isPf n.p = true then (true, (x.port n.p).iface)
    else dpPortMeterConfig cf e (x.port n.p).iface total pub) = m at hab ⊢
  have hm := h.setCaps hab
  by_cases hok : m.1 = true
  · rw [hok, if_neg (by decide : ¬(!true) = true)]
    cases hs : dpStartPort e (x.setIface n.p m.2) n.p with
    | some c' =>
      unfold dpStartPort at hs
      split at hs
      · cases hs
        exact .inr ⟨rfl, hm.start hfresh hhost⟩
      · cases hs
    | none =>
      obtain ⟨a', b', hab'⟩ := dpPortMeterConfig_caps cf e ((x.setIface n.p m.2).port n.p).iface 0 0
      exact .inl ⟨_, rfl, fun hpos => ((hm.setCaps hab').rollbackRoutes hfresh hpos).2⟩
  · rw [Bool.not_eq_true] at hok
    rw [hok]
    exact .inl ⟨_, rfl, fun hpos => (hm.rollbackRoutes hfresh hpos).2⟩

theorem createIfaceRoutes_ends
    (h : HalfMade c n (x.setIface n.p { (x.port n.p).iface with ulIpv6 := n.ul, ownIp := n.ip4, dhcpIpv6 := n.ip6 }))
    (hroutes : ∀ v k, routeAt x.vniHandleTbl v k = routeAt c.vniHandleTbl v k)
    (hfresh : c.ifaceIdTable n.id = none) :
    Ends c n (createIfaceRoutes cf e x n.p n.id n.vni n.ip4 n.ip6 n.ul total pub) := by
  unfold createIfaceRoutes
  dsimp only
  generalize hr4 : (if n.ip4 ≠ 0 then dpAddRoute cf e _ n.p n.vni 0 n.ip4 0 32 else (none, _)) = r4
  have h4 : HalfMade c n { x.setIface n.p
      { (x.port n.p).iface with ulIpv6 := n.ul, ownIp := n.ip4, dhcpIpv6 := n.ip6 } with vniHandleTbl := r4.2 } := by
    rw [← hr4]
    split
    · exact h.addHost (.v4 n.ip4) 32 (.inl rfl)
    · exact h
  have hhost4 : n.ip4 ≠ 0 → r4.1 = none → routeAt c.vniHandleTbl n.vni (pfxKey (.v4 n.ip4) 32) = none ∧
      ∃ r, routeAt r4.2 n.vni (pfxKey (.v4 n.ip4) 32) = some r ∧ r.nh = n.p := by
    intro hne hnone
    rw [if_pos hne] at hr4
    subst hr4
    rcases dpGrpcAddRoute_spec cf e x.vniHandleTbl n.p n.vni 0 (.v4 n.ip4) 0 32 with ⟨her, -⟩ | ⟨-, -, hfree, -, hadd⟩
    · exact absurd hnone her
    · exact ⟨(hroutes ..).symm.trans hfree, _, (hadd ..).trans (if_pos ⟨rfl, rfl⟩), mkRoute_nh⟩
  split
  · exact .inl ⟨_, rfl, h4.rollback hfresh⟩
  next hnone4 =>
    generalize hr6 : (if n.ip6 ≠ 0 then dpAddRoute6 cf e _ n.p n.vni 0 n.ip6 0 128 else (none, _)) = r6
    have h6 : HalfMade c n { x.setIface n.p
        { (x.port n.p).iface with ulIpv6 := n.ul, ownIp := n.ip4, dhcpIpv6 := n.ip6 } with vniHandleTbl := r6.2 } := by
      rw [← hr6]
      split
      · exact h4.addHost (.v6 n.ip6) 128 (.inr rfl)
      · exact h4
    split
    · exact .inl ⟨_, rfl, fun hpos => (h6.rollbackRoutes hfresh hpos).1⟩
    · refine createIfaceStart_ends h6 hfresh fun hne => ?_
      obtain ⟨hfree, r, hr, hp⟩ := hhost4 hne hnone4
      refine ⟨hfree, r, ?_, hp⟩
      rw [← hr6]
      split
      · rcases dpGrpcAddRoute_spec cf e r4.2 n.p n.vni 0 (.v6 n.ip6) 0 128 with ⟨-, ht⟩ | ⟨-, -, -, -, hadd⟩
        · exact (congrArg (routeAt · _ _) ht).trans hr
        · refine (hadd ..).trans ((if_neg ?_).trans hr)
          rintro ⟨-, hk⟩
          cases hk
      · exact hr

abbrev ifaceVnf (p : PortId) (vni : Vni) : Vnf :=
  { type := .interfaceIp, vni := vni, portId := p, pfx := .v4 0, length := 0 }

/-- What a creation on port `p` works on, once its VNF is there. -/
def newIfaceOf (cf : Conf) (e : Env) (c : Config) (p : PortId) (id : Id64) (vni : Vni) (ip4 : Ip4) (ip6 : Ip6) :
    NewIface :=
  let v := dpCreateVnfRoute cf e c.vnf (ifaceVnf p vni)
  ⟨p, id, vni, ip4, ip6, v.2.1, v.2.2, (c.ifaceIdTable id).isNone && e.ok .ifaceIdAdd &&
    (dpCreateVniRouteTables e c.vniHandleTbl vni).isSome⟩

/-- **How a creation ends.** It is refused before anything changed, its VNF cannot be made, or it is taken back, or the
interface is there. -/
inductive CreateIfaceCase (cf : Conf) (e : Env) (c : Config) (pciName id : Id64) (vni : Vni) (ip4 : Ip4) (ip6 : Ip6) :
    Resp × Config → Prop
  | refused {er : Ret} (hno : ∀ p, cf.dpGetPortByName pciName = some p → (c.port p).allocated = true) :
    CreateIfaceCase cf e c pciName id vni ip4 ip6 (.err er, c)
  | noVnf {p : PortId} (hname : cf.dpGetPortByName pciName = some p) (hal : (c.port p).allocated = false)
    (hok : (dpCreateVnfRoute cf e c.vnf (ifaceVnf p vni)).1 = false) :
    CreateIfaceCase cf e c pciName id vni ip4 ip6
      (.err .vnfInsert, { c with vnf := (dpCreateVnfRoute cf e c.vnf (ifaceVnf p vni)).2.2 })
  | undone {p : PortId} {er : Ret} {x : Config} (hname : cf.dpGetPortByName pciName = some p)
    (hal : (c.port p).allocated = false) (hok : (dpCreateVnfRoute cf e c.vnf (ifaceVnf p vni)).1 = true)
    (hun : UsesPos c.vniHandleTbl → Undone c (newIfaceOf cf e c p id vni ip4 ip6) x) :
    CreateIfaceCase cf e c pciName id vni ip4 ip6 (.err er, x)
  | created {p : PortId} {x : Config} (hname : cf.dpGetPortByName pciName = some p)
    (hal : (c.port p).allocated = false) (hok : (dpCreateVnfRoute cf e c.vnf (ifaceVnf p vni)).1 = true)
    (hcr : Created c (newIfaceOf cf e c p id vni ip4 ip6) x) :
    CreateIfaceCase cf e c pciName id vni ip4 ip6 (.ulAddr (newIfaceOf cf e c p id vni ip4 ip6).ul, x)

theorem Ends.case {pciName id : Id64} {vni : Vni} {ip4 : Ip4} {ip6 : Ip6} {p : PortId} {r : Resp × Config}
    (hname : cf.dpGetPortByName pciName = some p) (hal : (c.port p).allocated = false)
    (hok : (dpCreateVnfRoute cf e c.vnf (ifaceVnf p vni)).1 = true)
    (h : Ends c (newIfaceOf cf e c p id vni ip4 ip6) r) : CreateIfaceCase cf e c pciName id vni ip4 ip6 r := by
  obtain ⟨resp, x⟩ := r
  obtain ⟨er, her, hun⟩ | ⟨hul, hcr⟩ := h
  · cases her
    exact .undone hname hal hok hun
  · cases hul
    exact .created hname hal hok hcr

/-- Every creation ends in one of these ways. -/
theorem dpProcessCreateInterface_cases (cf : Conf) (e : Env) (c : Config) (pciName id : Id64) (vni : Vni) (ip4 : Ip4)
    (ip6 : Ip6) (total pub : UInt64) :
    CreateIfaceCase cf e c pciName id vni ip4 ip6
      (dpProcessCreateInterface cf e c pciName id vni ip4 ip6 total pub) := by
  unfold dpProcessCreateInterface
  split
  next hname => exact .refused fun p hp => by rw [hname] at hp; cases hp
  next p hname =>
    dsimp only
    split
    next hal => exact .refused fun q hq => by rw [hname] at hq; cases hq; exact hal
    next hal =>
      have hal := Bool.eq_false_iff.mpr hal
      cases hv : (dpCreateVnfRoute cf e c.vnf (ifaceVnf p vni)).1 with
      | false => exact .noVnf hname hal hv
      | true =>
        refine Ends.case hname hal hv ?_
        rw [if_neg (by decide : ¬(!true) = true)]
        unfold dpMapIfaceId
        by_cases hid : ((c.ifaceIdTable id).isSome || !e.ok .ifaceIdAdd) = true
        · rw [if_pos hid]
          refine .inl ⟨_, rfl, fun _ => ⟨rfl, fun _ => rfl, ⟨_, rfl, .inr (.inl rfl)⟩, rfl, rfl, rfl, .refl ..,
            fun _ => ⟨rfl, rfl⟩, fun hm => ?_⟩⟩
          cases hi : c.ifaceIdTable id <;> cases he : e.ok .ifaceIdAdd <;> simp [newIfaceOf, hi, he] at hm hid
        rw [if_neg hid]
        simp only [Bool.or_eq_true, not_or, Bool.not_eq_true, Bool.not_eq_false', Option.isSome_eq_false_iff,
          Option.isNone_iff_eq_none] at hid
        obtain ⟨hfresh, hadd⟩ := hid
        dsimp only
        unfold dpSetupIface
        simp only [setIface_vni, setIface_port_self]
        cases ht : dpCreateVniRouteTables e c.vniHandleTbl vni with
        | none =>
          refine .inl ⟨_, rfl, fun _ =>
            ⟨rfl, fun hq => setIface_port_ne hq, ⟨_, setIface_port_self, .inr (.inr rfl)⟩, ?_,
            rfl, rfl, .refl .., fun _ => ⟨rfl, rfl⟩, fun hm => ?_⟩⟩
          · exact (Table.del_add ..).trans (Table.del_of_none hfresh)
          · simp [newIfaceOf, ht] at hm
        | some t =>
          obtain ⟨hrefs, hroutes⟩ := dpCreateVniRouteTables_spec ht
          dsimp only
          refine createIfaceRoutes_ends (n := newIfaceOf cf e c p id vni ip4 ip6) ?_ hroutes hfresh
          refine ⟨by simp [newIfaceOf, hfresh, hadd, ht], rfl, fun hq => ?_,
            ⟨(c.port p).iface.totalFlowRateCap, (c.port p).iface.publicFlowRateCap, ?_⟩, rfl, rfl, hrefs,
            fun hr => .inl ((hroutes ..).symm.trans hr), fun hr _ => (hroutes ..).trans hr, fun v k _ => hroutes v k⟩
          · exact (setIface_port_ne hq).trans ((setIface_port_ne hq).trans (setIface_port_ne hq))
          · simp [Config.setIface, newIfaceOf, newIface]

/-- `x` is `c` without the interface `id` on port `p`. -/
structure Deleted (c : Config) (p : PortId) (id : Id64) (x : Config) : Prop where
  vnf : x.vnf = (dpDelVnf c.vnf (c.port p).iface.ulIpv6).2
  other : ∀ {q}, q ≠ p → x.port q = c.port q
  port : ∃ a, x.port p = { c.port p with allocated := a, iface := {} }
  ids : x.ifaceIdTable = c.ifaceIdTable.del id
  tbl : x.vniHandleTbl = (dpDeleteVniRouteTables (vacatedTbl c p) c.nat.natHeadp (c.port p).iface.vni).2.1
  nat : x.nat = { c.nat with
    natHeadp := (dpDeleteVniRouteTables (vacatedTbl c p) c.nat.natHeadp (c.port p).iface.vni).2.2 }

/-- **How a deletion ends.** The interface is unknown, or it is gone, whatever the port or its meter answered. -/
theorem dpProcessDeleteInterface_cases (cf : Conf) (e : Env) (c : Config) (id : Id64) :
    let r := dpProcessDeleteInterface cf e c id
    (c.ifaceIdTable id = none ∧ r = (.err .notFound, c, [])) ∨
      ∃ p, c.ifaceIdTable id = some p ∧ Deleted c p id r.2.1 ∧
        r.2.2 = [.iface p (c.port p).iface.ownIp (c.port p).iface.vni] := by
  intro r
  unfold r dpProcessDeleteInterface
  cases hid : c.ifaceIdTable id with
  | none => exact .inl ⟨rfl, rfl⟩
  | some p =>
    refine .inr ⟨p, rfl, ?_, rfl⟩
    dsimp only
    obtain ⟨a, b, hab⟩ := meter_caps cf e p (c.port p).iface 0 0
    rw [hab]
    unfold dpStopPort
    split
    · refine ⟨rfl, fun hq => ?_, ⟨false, ?_⟩, rfl, ?_, ?_⟩
      · exact (setIface_port_ne hq).trans ((Function.update_of_ne hq ..).trans (setIface_port_ne hq))
      · simp [dpDeleteIface, Config.setIface, Config.delVnf, Config.delRoute, Config.delRoute6, Config.deleteVni,
          dpUnmapIfaceId]
      all_goals
        simp only [dpDeleteIface_eq, vacatedTbl, dpUnmapIfaceId, Config.delVnf, Config.setIface, Function.update_self]
    · refine ⟨rfl, fun hq => ?_, ⟨(c.port p).allocated, ?_⟩, rfl, ?_, ?_⟩
      · exact (setIface_port_ne hq).trans (setIface_port_ne hq)
      · simp [dpDeleteIface, Config.setIface, Config.delVnf, Config.delRoute, Config.delRoute6, Config.deleteVni,
          dpUnmapIfaceId]
      all_goals
        simp only [dpDeleteIface_eq, vacatedTbl, dpUnmapIfaceId, Config.delVnf, Config.setIface, Function.update_self]

end Cases

end Dpservice
