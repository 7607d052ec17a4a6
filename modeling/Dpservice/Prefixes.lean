import Dpservice.RouteReset
import Dpservice.IfaceAtomic

/-!
# Alias prefixes

An alias prefix is a route over the port of an interface and a VNF. `CreatePrefix` enters both, `DeletePrefix` deletes
each of the two that it finds. The route is kept under the masked address, the VNF under the address as it was given.

- `dpGrpcDelRoute_none_iff`: when a route is deleted;
- `PrefixOk`: a prefix that was created can be deleted, and a request that fails changes nothing;
- `prefix_requests_iff`: this holds for a prefix exactly where the route and the VNF are both there or both missing.
-/

namespace Dpservice

def RouteOver (t : VniTbl) (p : PortId) (vni : Vni) (addr : IpAddr) (depth : UInt8) : Prop :=
  depth.toNat ≤ addr.width ∧ ∃ r, routeAt t vni (pfxKey addr depth.toNat) = some r ∧ r.nh = p

abbrev aliasVnf (p : PortId) (vni : Vni) (addr : IpAddr) (length : UInt8) : Vnf :=
  { type := .aliasPfx, vni := vni, portId := p, pfx := addr, length := length }

/-- The same routes, use counts and VNFs. -/
structure SameRouting (c c' : Config) : Prop where
  routes : ∀ v k, routeAt c'.vniHandleTbl v k = routeAt c.vniHandleTbl v k
  refs : vniRefs c'.vniHandleTbl = vniRefs c.vniHandleTbl
  handles : c'.vnf.handleTbl = c.vnf.handleTbl
  values : c'.vnf.valueTbl = c.vnf.valueTbl

/-- A prefix that was created is deleted without trace, and a request that fails changes nothing. -/
structure PrefixOk (cf : Conf) (c : Config) (id : Id64) (addr : IpAddr) (length : UInt8) : Prop where
  inverse : ∀ e ul c', dpProcessCreatePrefix cf e c id addr length = (.ulAddr ul, c') →
    ∃ c'', dpProcessDeletePrefix c' id addr length = (.ok, c'') ∧ SameRouting c c''
  createFails : ∀ e er c', dpProcessCreatePrefix cf e c id addr length = (.err er, c') → SameRouting c c'
  deleteFails : ∀ er c', dpProcessDeletePrefix c id addr length = (.err er, c') → SameRouting c c'

section Routes

variable {cf : Conf} {e : Env} {t : VniTbl} {p : PortId} {vni tVni : Vni} {addr : IpAddr} {tIp6 : Ip6} {depth : UInt8}

/-- A route that was added has a length that its family allows. -/
theorem dpGrpcAddRoute_le (h : (dpGrpcAddRoute cf e t p vni tVni addr tIp6 depth).1 = none) :
    depth.toNat ≤ addr.width := by
  cases addr with
  | v4 ip =>
    simp only [dpGrpcAddRoute, dpAddRoute] at h
    split at h
    · cases h
    · split at h
      · cases h
      · split at h
        · cases h
        next hok =>
          simp only [Bool.or_eq_true, decide_eq_true_eq, not_or] at hok
          exact Nat.not_lt.mp hok.1
  | v6 ip =>
    simp only [dpGrpcAddRoute, dpAddRoute6] at h
    split at h
    · cases h
    · split at h
      · cases h
      · split at h
        · cases h
        next hok =>
          simp only [Bool.or_eq_true, decide_eq_true_eq, not_or] at hok
          exact Nat.not_lt.mp hok.1

/-- A route is deleted if it leads over the port; otherwise an error is returned and nothing changes. -/
theorem dpGrpcDelRoute_cases (t : VniTbl) (p : PortId) (vni : Vni) (addr : IpAddr) (depth : UInt8) :
    (RouteOver t p vni addr depth ∧ (dpGrpcDelRoute t p vni addr depth).1 = none) ∨
      (¬ RouteOver t p vni addr depth ∧ (dpGrpcDelRoute t p vni addr depth).1 ≠ none ∧
        (dpGrpcDelRoute t p vni addr depth).2 = t) := by
  unfold RouteOver
  cases addr with
  | v4 ip =>
    simp only [dpGrpcDelRoute, dpDelRoute, routeAt, pfxKey, IpAddr.width]
    cases t vni with
    | none => simp
    | some d =>
      dsimp only
      by_cases hle : depth.toNat ≤ 32
      · rw [Rib.lookupExact_of_le hle]
        cases hr : d.ipv4 (ribMask depth.toNat ip, depth.toNat) with
        | none => simp [hr]
        | some r => by_cases hp : r.nh = p <;> simp [hr, hp, hle]
      · have hnone : d.ipv4.lookupExact ip depth.toNat = none :=
          Option.eq_none_iff_forall_ne_some.mpr fun r hl => hle (Rib.le_of_lookupExact hl)
        simp [hnone, hle]
  | v6 ip =>
    simp only [dpGrpcDelRoute, dpDelRoute6, routeAt, pfxKey, IpAddr.width]
    cases t vni with
    | none => simp
    | some d =>
      dsimp only
      by_cases hle : depth.toNat ≤ 128
      · rw [Rib.lookupExact_of_le hle]
        cases hr : d.ipv6 (ribMask depth.toNat ip, depth.toNat) with
        | none => simp [hr]
        | some r => by_cases hp : r.nh = p <;> simp [hr, hp, hle]
      · have hnone : d.ipv6.lookupExact ip depth.toNat = none :=
          Option.eq_none_iff_forall_ne_some.mpr fun r hl => hle (Rib.le_of_lookupExact hl)
        simp [hnone, hle]

/-- A route over the port is gone after its deletion. -/
theorem dpGrpcDelRoute_over (h : RouteOver t p vni addr depth) :
    routeAt (dpGrpcDelRoute t p vni addr depth).2 vni (pfxKey addr depth.toNat) = none := by
  obtain ⟨hle, r, hr, hp⟩ := h
  obtain ⟨-, hno⟩ | ⟨-, -, hdel⟩ := dpGrpcDelRoute_spec t p vni addr depth
  · exact absurd hp (hno hle hr)
  · exact (hdel ..).trans (if_pos ⟨rfl, rfl⟩)

/-- Deleting a route that was just added leaves the routes as they were. -/
theorem dpGrpcDelRoute_added {t' : VniTbl} (h : dpGrpcAddRoute cf e t p vni tVni addr tIp6 depth = (none, t')) :
    routeAt t vni (pfxKey addr depth.toNat) = none ∧ RouteOver t' p vni addr depth ∧
      vniRefs (dpGrpcDelRoute t' p vni addr depth).2 = vniRefs t ∧
      ∀ v k, routeAt (dpGrpcDelRoute t' p vni addr depth).2 v k = routeAt t v k := by
  have hret : (dpGrpcAddRoute cf e t p vni tVni addr tIp6 depth).1 = none := by rw [h]
  have hle := dpGrpcAddRoute_le hret
  obtain ⟨her, -⟩ | ⟨-, -, hfree, hrefs, hadd⟩ := dpGrpcAddRoute_spec cf e t p vni tVni addr tIp6 depth
  · exact absurd hret her
  rw [h] at hrefs hadd
  have hat : routeAt t' vni (pfxKey addr depth.toNat) = some (mkRoute cf p tVni tIp6) :=
    (hadd ..).trans (if_pos ⟨rfl, rfl⟩)
  refine ⟨hfree, ⟨hle, _, hat, mkRoute_nh⟩, (dpGrpcDelRoute_fewer ..).refs.trans hrefs, fun v k => ?_⟩
  obtain ⟨-, hno⟩ | ⟨-, -, hdel⟩ := dpGrpcDelRoute_spec t' p vni addr depth
  · exact absurd mkRoute_nh (hno hle hat)
  · rw [hdel, hadd]
    split
    next hk => rw [hk.1, hk.2, hfree]
    · rfl

end Routes

/-! ## The requests -/

/-- A VNF that both tables know is deleted from both. -/
theorem dpDelVnfByValue_found {x : VnfState} {v : Vnf} {ul : Ip6} (hv : x.valueTbl v = some ul)
    (hh : x.handleTbl ul = some v) :
    dpDelVnfByValue x v = (none, { x with handleTbl := x.handleTbl.del ul, valueTbl := x.valueTbl.del v }) := by
  simp [dpDelVnfByValue, dpDelVnf, dpDeleteVnfValue, hv, hh]

section Requests

variable {cf : Conf} {e : Env} {c : Config} {id : Id64} {p : PortId} {vni : Vni} {addr : IpAddr} {length : UInt8}

/-- The route of a prefix and its VNF are both there, or both missing. -/
def PrefixWhole (c : Config) (p : PortId) (addr : IpAddr) (length : UInt8) : Prop :=
  RouteOver c.vniHandleTbl p (c.port p).iface.vni addr length ↔
    (c.vnf.valueTbl (aliasVnf p (c.port p).iface.vni addr length)).isSome = true

/-- A prefix that can be added has no VNF yet. -/
theorem PrefixWhole.no_vnf (h : PrefixWhole c p addr length)
    (hfree : routeAt c.vniHandleTbl (c.port p).iface.vni (pfxKey addr length.toNat) = none) :
    c.vnf.valueTbl (aliasVnf p (c.port p).iface.vni addr length) = none := by
  rw [← Option.not_isSome_iff_eq_none]
  intro hsome
  obtain ⟨-, r, hr, -⟩ := h.mpr hsome
  rw [hfree] at hr
  cases hr

/-- Deleting a prefix that is whole and there succeeds. -/
theorem dpProcessDeletePrefix_found {ul : Ip6} (hp : c.ifaceIdTable id = some p) (hvni : (c.port p).iface.vni = vni)
    (hover : RouteOver c.vniHandleTbl p vni addr length) (hv : c.vnf.valueTbl (aliasVnf p vni addr length) = some ul)
    (hh : c.vnf.handleTbl ul = some (aliasVnf p vni addr length)) :
    dpProcessDeletePrefix c id addr length =
      (.ok, { c with
        vniHandleTbl := (dpGrpcDelRoute c.vniHandleTbl p vni addr length).2
        vnf := { c.vnf with
          handleTbl := c.vnf.handleTbl.del ul, valueTbl := c.vnf.valueTbl.del (aliasVnf p vni addr length) } }) := by
  obtain ⟨-, hret⟩ | ⟨hno, -, -⟩ := dpGrpcDelRoute_cases c.vniHandleTbl p vni addr length
  · subst hvni
    simp only [dpProcessDeletePrefix, hp, dpDelVnfByValue_found hv hh, hret]
    rfl
  · exact absurd hover hno

/-- A prefix that is whole after its creation is deleted without trace. -/
theorem dpProcessCreatePrefix_inverse (hwhole : ∀ p, c.ifaceIdTable id = some p → PrefixWhole c p addr length)
    {ul : Ip6} {c' : Config} (h : dpProcessCreatePrefix cf e c id addr length = (.ulAddr ul, c')) :
    ∃ c'', dpProcessDeletePrefix c' id addr length = (.ok, c'') ∧ SameRouting c c'' := by
  unfold dpProcessCreatePrefix at h
  cases hp : c.ifaceIdTable id with
  | none => simp [hp] at h
  | some p =>
    simp only [hp] at h
    split at h
    · cases h
    next t hadd =>
      split at h
      next hok =>
        obtain rfl := (Prod.mk.inj h).2
        obtain ⟨hfree, hover, hrefs, hroutes⟩ := dpGrpcDelRoute_added hadd
        have hnone := (hwhole p hp).no_vnf hfree
        obtain ⟨-, hf, -⟩ | ⟨-, -, -, hul, hh, hv⟩ | ⟨-, -, hf, -⟩ :=
          dpCreateVnfRoute_cases cf e c.vnf (aliasVnf p (c.port p).iface.vni addr length)
        · exact absurd hok (by rw [hf]; decide)
        · have hvalue := (congrFun hv (aliasVnf p (c.port p).iface.vni addr length)).trans (Table.add_self ..)
          have hhandle := (congrFun hh (dpCreateVnfRoute cf e c.vnf _).2.1).trans (Table.add_self ..)
          refine ⟨_, dpProcessDeletePrefix_found hp rfl hover hvalue hhandle, hroutes, hrefs, ?_, ?_⟩
          · exact (congrArg (Table.del · _) hh).trans ((Table.del_add ..).trans (Table.del_of_none hul))
          · exact (congrArg (Table.del · _) hv).trans ((Table.del_add ..).trans (Table.del_of_none hnone))
        · exact absurd hok (by rw [hf]; decide)
      · cases h

/-- A creation that fails takes the route back, and has not entered the VNF. -/
theorem dpProcessCreatePrefix_fails (hwhole : ∀ p, c.ifaceIdTable id = some p → PrefixWhole c p addr length)
    {er : Ret} {c' : Config} (h : dpProcessCreatePrefix cf e c id addr length = (.err er, c')) : SameRouting c c' := by
  unfold dpProcessCreatePrefix at h
  cases hp : c.ifaceIdTable id with
  | none =>
    simp only [hp] at h
    obtain rfl := (Prod.mk.inj h).2
    exact ⟨fun _ _ => rfl, rfl, rfl, rfl⟩
  | some p =>
    simp only [hp] at h
    split at h
    next r t hadd =>
      obtain rfl := (Prod.mk.inj h).2
      obtain ⟨-, hsame⟩ | ⟨hret, -⟩ := dpGrpcAddRoute_spec cf e c.vniHandleTbl p (c.port p).iface.vni 0 addr 0 length
      · rw [hadd] at hsame
        obtain rfl : t = c.vniHandleTbl := hsame
        exact ⟨fun _ _ => rfl, rfl, rfl, rfl⟩
      · rw [hadd] at hret
        cases hret
    next t hadd =>
      split at h
      · cases h
      next hbad =>
        obtain rfl := (Prod.mk.inj h).2
        obtain ⟨hfree, -, hrefs, hroutes⟩ := dpGrpcDelRoute_added hadd
        have hnone := (hwhole p hp).no_vnf hfree
        obtain ⟨-, -, hh, hv⟩ | ⟨-, -, hok, -⟩ | ⟨-, -, -, hh, hv⟩ :=
          dpCreateVnfRoute_cases cf e c.vnf (aliasVnf p (c.port p).iface.vni addr length)
        · exact ⟨hroutes, hrefs, hh, hv⟩
        · exact absurd hok hbad
        · exact ⟨hroutes, hrefs, hh, hv.trans (Table.del_of_none hnone)⟩

/-- A deletion that fails has found neither the route nor the VNF. -/
theorem dpProcessDeletePrefix_fails (hval : ValueOk c.vnf)
    (hwhole : ∀ p, c.ifaceIdTable id = some p → PrefixWhole c p addr length) {er : Ret} {c' : Config}
    (h : dpProcessDeletePrefix c id addr length = (.err er, c')) : SameRouting c c' := by
  cases hp : c.ifaceIdTable id with
  | none =>
    simp only [dpProcessDeletePrefix, hp] at h
    obtain rfl := (Prod.mk.inj h).2
    exact ⟨fun _ _ => rfl, rfl, rfl, rfl⟩
  | some p =>
    cases hv : c.vnf.valueTbl (aliasVnf p (c.port p).iface.vni addr length) with
    | some ul =>
      have hover := (hwhole p hp).mpr (by rw [hv]; rfl)
      rw [dpProcessDeletePrefix_found hp rfl hover hv (hval hv)] at h
      cases h
    | none =>
      have hno : ¬ RouteOver c.vniHandleTbl p (c.port p).iface.vni addr length := fun hover => by
        have hsome := (hwhole p hp).mp hover
        rw [hv] at hsome
        cases hsome
      obtain ⟨hover, -⟩ | ⟨-, -, hsame⟩ := dpGrpcDelRoute_cases c.vniHandleTbl p (c.port p).iface.vni addr length
      · exact absurd hover hno
      · simp only [dpProcessDeletePrefix, hp, hsame, dpDelVnfByValue, hv] at h
        obtain rfl := (Prod.mk.inj h).2
        exact ⟨fun _ _ => rfl, rfl, rfl, rfl⟩

/-- If deletions that fail change nothing, the prefix is whole. -/
theorem PrefixOk.whole (hval : ValueOk c.vnf) (h : PrefixOk cf c id addr length) (hp : c.ifaceIdTable id = some p) :
    PrefixWhole c p addr length := by
  have hdel := h.deleteFails
  simp only [dpProcessDeletePrefix, hp] at hdel
  constructor
  · intro hover
    cases hv : c.vnf.valueTbl (aliasVnf p (c.port p).iface.vni addr length) with
    | some ul => rfl
    | none =>
      -- the route is deleted before the VNF is missed
      exfalso
      obtain ⟨-, hret⟩ | ⟨hno, -⟩ := dpGrpcDelRoute_cases c.vniHandleTbl p (c.port p).iface.vni addr length
      · have hsame := hdel .notFound _ (by simp only [hret, dpDelVnfByValue, hv]; rfl)
        have ⟨_, r, hr, _⟩ := hover
        have hroute := hsame.routes (c.port p).iface.vni (pfxKey addr length.toNat)
        rw [hr] at hroute
        rw [show routeAt _ _ _ = none from dpGrpcDelRoute_over hover] at hroute
        cases hroute
      · exact hno hover
  · intro hsome
    obtain ⟨ul, hv⟩ := Option.isSome_iff_exists.mp hsome
    obtain ⟨hover, -⟩ | ⟨-, hret, -⟩ := dpGrpcDelRoute_cases c.vniHandleTbl p (c.port p).iface.vni addr length
    · exact hover
    · -- the VNF is deleted although there is no route
      exfalso
      obtain ⟨er, her⟩ := Option.ne_none_iff_exists'.mp hret
      have hsame := hdel er _ (by simp only [her, dpDelVnfByValue_found hv (hval hv)]; rfl)
      have hhandle : c.vnf.handleTbl.del ul ul = c.vnf.handleTbl ul := congrFun hsame.handles ul
      rw [hval hv, Table.del_self] at hhandle
      cases hhandle

/-- **A prefix can be created and deleted, and requests for it that fail change nothing, exactly where its route and its
VNF are both there or both missing.** -/
theorem prefix_requests_iff {es : List Call} {s : Ctl} (h : run (ctlStep cf) (Ctl.init cf) es = some s) (id : Id64)
    (addr : IpAddr) (length : UInt8) :
    PrefixOk cf s.cfg id addr length ↔ ∀ p, s.cfg.ifaceIdTable id = some p → PrefixWhole s.cfg p addr length := by
  have hval : ValueOk s.cfg.vnf := (ifaceVnfs_run h).2
  constructor
  · exact fun hok p hp => hok.whole hval hp
  · intro hwhole
    exact ⟨fun e ul c' => dpProcessCreatePrefix_inverse hwhole, fun e er c' => dpProcessCreatePrefix_fails hwhole,
      fun er c' => dpProcessDeletePrefix_fails hval hwhole⟩

end Requests

/-- A prefix with host bits set, created next to its interface. -/
theorem prefix_requests_host_bits : ∃ s, run (ctlStep smallConf) (Ctl.init smallConf)
      (calls [.createInterface 2 1 100 0x0a000001 0 0 0, .createPrefix 1 (.v4 0x0a000105) 24]) = some s ∧
    PrefixOk smallConf s.cfg 1 (.v4 0x0a000105) 24 := by
  refine exists_some_imp (P := fun s => s.cfg.ifaceIdTable 1 = some 2 ∧
    routeAt s.cfg.vniHandleTbl (s.cfg.port 2).iface.vni (pfxKey (.v4 0x0a000105) 24) = some { nh := 2 } ∧
    (s.cfg.vnf.valueTbl (aliasVnf 2 (s.cfg.port 2).iface.vni (.v4 0x0a000105) 24)).isSome = true) (by decide +kernel) ?_
  rintro s hs ⟨hid, hroute, hvnf⟩
  refine (prefix_requests_iff hs ..).mpr fun p hp => ?_
  obtain rfl : p = 2 := Option.some.inj (hp.symm.trans hid)
  exact ⟨fun _ => hvnf, fun _ => ⟨by decide, _, hroute, rfl⟩⟩

/-- `DeletePrefix` of the own address of an interface fails, and deletes the host route of the interface. -/
theorem prefix_requests_own_route : ∃ s, run (ctlStep smallConf) (Ctl.init smallConf)
      (calls [.createInterface 2 1 100 0x0a000001 0 0 0]) = some s ∧
    (dpProcessDeletePrefix s.cfg 1 (.v4 0x0a000001) 32).1 = .err .notFound ∧
    routeAt s.cfg.vniHandleTbl 100 (pfxKey (.v4 0x0a000001) 32) = some { nh := 2 } ∧
    routeAt (dpProcessDeletePrefix s.cfg 1 (.v4 0x0a000001) 32).2.vniHandleTbl 100 (pfxKey (.v4 0x0a000001) 32) =
      none := by
  decide +kernel

end Dpservice
