import Dpservice.VniCount

/-!
# Resetting routes

`ResetVni` and `Initialize` empty routing tables and enter the host routes of the ready interfaces again. A zero address
stands for an interface without that family: `CreateInterface` enters no route for it, the resets do.

- `dpGrpcAddRoute_none_iff`: when a route can be added;
- `fillPorts_spec`: when the loop over the ports succeeds, and the routes it leaves;
- `route_reset_iff`: for which interfaces a reset leaves the routes that their creation installs.
-/

namespace Dpservice

/-! ## Adding one route -/

section Add

variable {cf : Conf} {e : Env} {t : VniTbl} {p : PortId} {vni tVni : Vni} {addr : IpAddr} {tIp6 : Ip6} {depth : UInt8}

/-- The allocation of a tree node for a route. -/
def insertOp (p : PortId) : IpAddr → Op
  | .v4 _ => .ribInsert p
  | .v6 _ => .rib6Insert p

/-- A route can be added in a VNI that exists, for a prefix that has none. -/
theorem dpGrpcAddRoute_none_iff (hd : depth.toNat ≤ addr.width) :
    (dpGrpcAddRoute cf e t p vni tVni addr tIp6 depth).1 = none ↔
      (t vni).isSome = true ∧ routeAt t vni (pfxKey addr depth.toNat) = none ∧ e.ok (insertOp p addr) = true := by
  cases addr with
  | v4 ip =>
    simp only [dpGrpcAddRoute, dpAddRoute, insertOp, routeAt, pfxKey]
    replace hd : depth.toNat ≤ 32 := hd
    have hle : ¬ depth.toNat > 32 := Nat.not_lt.mpr hd
    cases t vni with
    | none => simp
    | some d =>
      dsimp only
      rw [Rib.lookupExact_of_le hd]
      cases hr : d.ipv4 (ribMask depth.toNat ip, depth.toNat) <;> cases e.ok (.ribInsert p) <;> simp [hr, hle]
  | v6 ip =>
    simp only [dpGrpcAddRoute, dpAddRoute6, insertOp, routeAt, pfxKey]
    replace hd : depth.toNat ≤ 128 := hd
    have hle : ¬ depth.toNat > 128 := Nat.not_lt.mpr hd
    cases t vni with
    | none => simp
    | some d =>
      dsimp only
      rw [Rib.lookupExact_of_le hd]
      cases hr : d.ipv6 (ribMask depth.toNat ip, depth.toNat) <;> cases e.ok (.rib6Insert p) <;> simp [hr, hle]

end Add

/-! ## Host routes -/

structure Host where
  port : PortId
  vni : Vni
  addr : IpAddr

def hostDepth : IpAddr → UInt8
  | .v4 _ => 32
  | .v6 _ => 128

def hostKey : IpAddr → PfxKey
  | .v4 ip => .inl (ip, 32)
  | .v6 ip => .inr (ip, 128)

/-- The host routes are added one by one, until one of them cannot be. -/
def addHosts (cf : Conf) (e : Env) : VniTbl → List Host → Option Ret × VniTbl
  | t, [] => (none, t)
  | t, x :: xs =>
    match dpGrpcAddRoute cf e t x.port x.vni 0 x.addr 0 (hostDepth x.addr) with
    | (some r, t) => (some r, t)
    | (none, t) => addHosts cf e t xs

/-- The host routes can be added: their VNIs exist, they are new and different, and there is memory for them. -/
structure CanAdd (e : Env) (t : VniTbl) (xs : List Host) : Prop where
  each : ∀ x ∈ xs, (t x.vni).isSome = true ∧ routeAt t x.vni (hostKey x.addr) = none ∧
    e.ok (insertOp x.port x.addr) = true
  nodup : (xs.map fun x => (x.vni, x.addr)).Nodup

section Hosts

variable {cf : Conf} {e : Env} {t : VniTbl} {xs : List Host}

theorem ribMask_self {w : ℕ} (ip : BitVec w) : ribMask w ip = ip := by
  simp [ribMask]

theorem pfxKey_host (addr : IpAddr) : pfxKey addr (hostDepth addr).toNat = hostKey addr := by
  cases addr with
  | v4 ip => exact congrArg (fun x => Sum.inl (x, 32)) (ribMask_self ip)
  | v6 ip => exact congrArg (fun x => Sum.inr (x, 128)) (ribMask_self ip)

theorem hostKey_inj {a b : IpAddr} : hostKey a = hostKey b ↔ a = b := by
  cases a <;> cases b <;> simp [hostKey]

theorem hostDepth_le (addr : IpAddr) : (hostDepth addr).toNat ≤ addr.width := by
  cases addr <;> simp [hostDepth, IpAddr.width]

/-- **When host routes can be added, and what is in the tables then.** -/
theorem addHosts_spec (cf : Conf) (e : Env) (t : VniTbl) (xs : List Host) :
    ((addHosts cf e t xs).1 = none ↔ CanAdd e t xs) ∧
    ((addHosts cf e t xs).1 = none → ∀ v k r, routeAt (addHosts cf e t xs).2 v k = some r ↔
      routeAt t v k = some r ∨ ∃ x ∈ xs, x.vni = v ∧ hostKey x.addr = k ∧ mkRoute cf x.port 0 0 = r) := by
  induction xs generalizing t with
  | nil => exact ⟨iff_of_true rfl ⟨by simp, by simp⟩, fun _ v k r => by simp [addHosts]⟩
  | cons x xs ih =>
    have hiff : (dpGrpcAddRoute cf e t x.port x.vni 0 x.addr 0 (hostDepth x.addr)).1 = none ↔ _ :=
      dpGrpcAddRoute_none_iff (hostDepth_le x.addr)
    have hspec := dpGrpcAddRoute_spec cf e t x.port x.vni 0 x.addr 0 (hostDepth x.addr)
    rw [pfxKey_host] at hiff hspec
    unfold addHosts
    generalize dpGrpcAddRoute cf e t x.port x.vni 0 x.addr 0 (hostDepth x.addr) = a at hiff hspec
    obtain ⟨ret, t'⟩ := a
    cases ret with
    | some er =>
      have hno : ¬ CanAdd e t (x :: xs) := fun h => by
        have := hiff.mpr (h.each x List.mem_cons_self)
        cases this
      exact ⟨by simp [hno], fun h => by cases h⟩
    | none =>
      obtain ⟨h, -⟩ | ⟨-, -, hfree, hrefs, hroutes⟩ := hspec
      · exact absurd rfl h
      · have hsome : ∀ v, (t' v).isSome = (t v).isSome := fun v => by
          rw [← isSome_vniRefs, ← isSome_vniRefs, hrefs]
        have hfree' : ∀ y : Host, routeAt t' y.vni (hostKey y.addr) = none ↔
            ¬ (y.vni = x.vni ∧ y.addr = x.addr) ∧ routeAt t y.vni (hostKey y.addr) = none := by
          intro y
          rw [hroutes]
          simp only [hostKey_inj]
          split <;> simp [*]
        obtain ⟨ih₁, ih₂⟩ := ih t'
        have hcan : CanAdd e t' xs ↔ CanAdd e t (x :: xs) := by
          constructor
          · intro h
            refine ⟨fun y hy => ?_, ?_⟩
            · obtain rfl | hy := List.mem_cons.mp hy
              · exact hiff.mp rfl
              · obtain ⟨h1, h2, h3⟩ := h.each y hy
                exact ⟨hsome _ ▸ h1, ((hfree' y).mp h2).2, h3⟩
            · rw [List.map_cons, List.nodup_cons]
              refine ⟨fun hx => ?_, h.nodup⟩
              obtain ⟨y, hy, heq⟩ := List.mem_map.mp hx
              exact ((hfree' y).mp (h.each y hy).2.1).1 (Prod.mk.inj heq)
          · intro h
            have hnd := h.nodup
            rw [List.map_cons, List.nodup_cons] at hnd
            refine ⟨fun y hy => ?_, hnd.2⟩
            obtain ⟨h1, h2, h3⟩ := h.each y (List.mem_cons_of_mem _ hy)
            refine ⟨(hsome _).trans h1, (hfree' y).mpr ⟨fun heq => hnd.1 ?_, h2⟩, h3⟩
            exact List.mem_map.mpr ⟨y, hy, Prod.ext heq.1 heq.2⟩
        refine ⟨ih₁.trans hcan, fun h v k r => ?_⟩
        rw [ih₂ h v k r, hroutes]
        rw [List.exists_mem_cons_iff]
        by_cases hx : v = x.vni ∧ k = hostKey x.addr
        · obtain ⟨rfl, rfl⟩ := hx
          simp [hfree]
        · rw [if_neg hx]
          have hx' : ¬ (x.vni = v ∧ hostKey x.addr = k ∧ mkRoute cf x.port 0 0 = r) :=
            fun h => hx ⟨h.1.symm, h.2.1.symm⟩
          rw [or_iff_right hx']

end Hosts

/-! ## The ports -/

/-- The two routes that a reset enters for an interface. -/
def Iface.hosts (p : PortId) (i : Iface) : List Host := [⟨p, i.vni, .v4 i.ownIp⟩, ⟨p, i.vni, .v6 i.dhcpIpv6⟩]

section Ports

variable {cf : Conf} {e : Env} {t : VniTbl} {port : PortId → Port} {sel : Iface → Bool} {ps : List PortId}

/-- The loop over the ports adds the host routes of those that are selected. -/
theorem fillPorts_eq (t : VniTbl) (ps : List PortId) : fillPorts cf e port sel t ps =
    addHosts cf e t ((ps.filter fun p => (port p).iface.ready && sel (port p).iface).flatMap
      fun p => (port p).iface.hosts p) := by
  induction ps generalizing t with
  | nil => rfl
  | cons p ps ih =>
    rw [fillPorts, List.filter_cons]
    split
    · rw [List.flatMap_cons, Iface.hosts, List.cons_append, List.cons_append, List.nil_append, addHosts]
      unfold dpLpmFillRouteTables
      change (match (match dpGrpcAddRoute cf e t p (port p).iface.vni 0 (.v4 (port p).iface.ownIp) 0 32 with
          | (some r, t) => (some r, t)
          | (none, t) => dpGrpcAddRoute cf e t p (port p).iface.vni 0 (.v6 (port p).iface.dhcpIpv6) 0 128) with
        | (some r, t) => (some r, t)
        | (none, t) => fillPorts cf e port sel t ps) = _
      simp only [hostDepth]
      generalize dpGrpcAddRoute cf e t p (port p).iface.vni 0 (.v4 (port p).iface.ownIp) 0 32 = a
      obtain ⟨_ | r, t₁⟩ := a
      · dsimp only
        rw [addHosts]
        simp only [hostDepth]
        generalize dpGrpcAddRoute cf e t₁ p (port p).iface.vni 0 (.v6 (port p).iface.dhcpIpv6) 0 128 = b
        obtain ⟨_ | r, t₂⟩ := b
        · exact ih t₂
        · rfl
      · rfl
    · exact ih t

/-- The host routes of different ports do not get in each other's way. -/
theorem hosts_nodup (hps : ps.Nodup) :
    ((ps.flatMap fun p => (port p).iface.hosts p).map fun x => (x.vni, x.addr)).Nodup ↔
      ∀ p ∈ ps, ∀ q ∈ ps, p ≠ q → (port p).iface.vni = (port q).iface.vni →
        (port p).iface.ownIp ≠ (port q).iface.ownIp ∧ (port p).iface.dhcpIpv6 ≠ (port q).iface.dhcpIpv6 := by
  rw [List.map_flatMap, List.nodup_flatMap]
  have hself : ∀ p ∈ ps, (((port p).iface.hosts p).map fun x => (x.vni, x.addr)).Nodup := by
    intro p _
    simp [Iface.hosts]
  have hdis : ∀ p q, List.Disjoint (((port p).iface.hosts p).map fun x => (x.vni, x.addr))
      (((port q).iface.hosts q).map fun x => (x.vni, x.addr)) ↔ ((port p).iface.vni = (port q).iface.vni →
        (port p).iface.ownIp ≠ (port q).iface.ownIp ∧ (port p).iface.dhcpIpv6 ≠ (port q).iface.dhcpIpv6) := by
    intro p q
    by_cases hv : (port p).iface.vni = (port q).iface.vni
    · simp [Iface.hosts, hv, eq_comm]
    · simp [Iface.hosts, hv, Ne.symm hv]
  rw [and_iff_right hself]
  constructor
  · intro h p hp q hq hne
    have : Std.Symm (Function.onFun List.Disjoint
        fun p => ((port p).iface.hosts p).map fun x => (x.vni, x.addr)) := ⟨fun _ _ h => h.symm⟩
    exact (hdis p q).mp (h.forall hp hq hne)
  · intro h
    exact hps.pairwise_of_forall_ne fun p hp q hq hne => (hdis p q).mpr (h p hp q hq hne)

end Ports

/-! ## The two resets -/

/-- The route is one that the creation of a ready interface installs: its own address, where it has one. -/
def HostRoute (c : Config) (v : Vni) (k : PfxKey) (r : Route) : Prop :=
  ∃ p, (c.port p).iface.ready = true ∧ (c.port p).iface.vni = v ∧ r = { nh := p } ∧
    ((c.port p).iface.ownIp ≠ 0 ∧ k = .inl ((c.port p).iface.ownIp, 32) ∨
      (c.port p).iface.dhcpIpv6 ≠ 0 ∧ k = .inr ((c.port p).iface.dhcpIpv6, 128))

/-- The request succeeds, the VNIs in its scope have exactly the host routes of their ready interfaces, the others have
the routes they had. -/
def ResetOk (c : Config) (scope : Vni → Prop) (res : Option (Resp × Config)) : Prop :=
  ∃ c', res = some (.ok, c') ∧ vniRefs c'.vniHandleTbl = vniRefs c.vniHandleTbl ∧
    (∀ v, scope v → ∀ k r, routeAt c'.vniHandleTbl v k = some r ↔ HostRoute c v k r) ∧
    ∀ v, ¬ scope v → ∀ k, routeAt c'.vniHandleTbl v k = routeAt c.vniHandleTbl v k

/-- Every ready interface in scope has addresses of both families, no two in one VNI share one, and there is memory for
their routes. -/
structure HostsFit (e : Env) (c : Config) (scope : Vni → Prop) : Prop where
  nonzero : ∀ p, (c.port p).iface.ready = true → scope (c.port p).iface.vni →
    (c.port p).iface.ownIp ≠ 0 ∧ (c.port p).iface.dhcpIpv6 ≠ 0
  apart : ∀ p q, (c.port p).iface.ready = true → (c.port q).iface.ready = true → scope (c.port p).iface.vni → p ≠ q →
    (c.port p).iface.vni = (c.port q).iface.vni →
      (c.port p).iface.ownIp ≠ (c.port q).iface.ownIp ∧ (c.port p).iface.dhcpIpv6 ≠ (c.port q).iface.dhcpIpv6
  room : ∀ p, (c.port p).iface.ready = true → scope (c.port p).iface.vni →
    e.ok (.ribInsert p) = true ∧ e.ok (.rib6Insert p) = true

def resetHosts (cf : Conf) (c : Config) (sel : Iface → Bool) : List Host :=
  (cf.portList.filter fun p => (c.port p).iface.ready && sel (c.port p).iface).flatMap fun p => (c.port p).iface.hosts p

section Resets

variable {cf : Conf} {e : Env} {s : Ctl} {t : VniTbl} {sel : Iface → Bool} {scope : Vni → Prop}

section Scope

variable (hsel : ∀ i, sel i = true ↔ scope i.vni)
include hsel

theorem mem_selected (h : VniHeld cf s) (p : PortId) :
    p ∈ cf.portList.filter (fun p => (s.cfg.port p).iface.ready && sel (s.cfg.port p).iface) ↔
      (s.cfg.port p).iface.ready = true ∧ scope (s.cfg.port p).iface.vni := by
  rw [List.mem_filter, Bool.and_eq_true, hsel]
  exact and_iff_right_of_imp fun hp => by simpa [Conf.hasPort] using (h.ports.ready hp.1).2.2

theorem mem_resetHosts (h : VniHeld cf s) (x : Host) : x ∈ resetHosts cf s.cfg sel ↔
    ∃ p, ((s.cfg.port p).iface.ready = true ∧ scope (s.cfg.port p).iface.vni) ∧
      (x = ⟨p, (s.cfg.port p).iface.vni, .v4 (s.cfg.port p).iface.ownIp⟩ ∨
        x = ⟨p, (s.cfg.port p).iface.vni, .v6 (s.cfg.port p).iface.dhcpIpv6⟩) := by
  rw [resetHosts, List.mem_flatMap]
  refine exists_congr fun p => and_congr (mem_selected hsel h p) ?_
  simp [Iface.hosts]

/-- When the host routes fit into tables that were emptied. -/
theorem canAdd_resetHosts (hports : cf.portList.Nodup) (h : VniHeld cf s)
    (hrefs : vniRefs t = vniRefs s.cfg.vniHandleTbl) (hempty : ∀ v, scope v → ∀ k, routeAt t v k = none) :
    CanAdd e t (resetHosts cf s.cfg sel) ↔
      (∀ p, (s.cfg.port p).iface.ready = true → scope (s.cfg.port p).iface.vni →
        e.ok (.ribInsert p) = true ∧ e.ok (.rib6Insert p) = true) ∧
      ∀ p q, (s.cfg.port p).iface.ready = true → (s.cfg.port q).iface.ready = true → scope (s.cfg.port p).iface.vni →
        p ≠ q → (s.cfg.port p).iface.vni = (s.cfg.port q).iface.vni →
          (s.cfg.port p).iface.ownIp ≠ (s.cfg.port q).iface.ownIp ∧
            (s.cfg.port p).iface.dhcpIpv6 ≠ (s.cfg.port q).iface.dhcpIpv6 := by
  have hnodup : ((resetHosts cf s.cfg sel).map fun x => (x.vni, x.addr)).Nodup ↔ _ := hosts_nodup (hports.filter _)
  constructor
  · intro hc
    refine ⟨fun p hr hs => ?_, fun p q hp hq hs hne hv => ?_⟩
    · have h4 := (mem_resetHosts hsel h _).mpr ⟨p, ⟨hr, hs⟩, .inl rfl⟩
      have h6 := (mem_resetHosts hsel h _).mpr ⟨p, ⟨hr, hs⟩, .inr rfl⟩
      exact ⟨(hc.each _ h4).2.2, (hc.each _ h6).2.2⟩
    · have hp' := (mem_selected hsel h p).mpr ⟨hp, hs⟩
      have hq' := (mem_selected hsel h q).mpr ⟨hq, hv ▸ hs⟩
      exact hnodup.mp hc.nodup p hp' q hq' hne hv
  · rintro ⟨hroom, hapart⟩
    refine ⟨fun x hx => ?_, hnodup.mpr fun p hp q hq hne hv => ?_⟩
    · obtain ⟨p, ⟨hr, hs⟩, hx⟩ := (mem_resetHosts hsel h x).mp hx
      obtain ⟨d, hd⟩ := h.exists_vni hr
      have hsome : (t (s.cfg.port p).iface.vni).isSome = true := by
        rw [← isSome_vniRefs, hrefs, isSome_vniRefs, hd]
        rfl
      obtain rfl | rfl := hx
      · exact ⟨hsome, hempty _ hs _, (hroom p hr hs).1⟩
      · exact ⟨hsome, hempty _ hs _, (hroom p hr hs).2⟩
    · obtain ⟨hp, hs⟩ := (mem_selected hsel h p).mp hp
      exact hapart p q hp ((mem_selected hsel h q).mp hq).1 hs hne hv

/-- **What the loop of a reset does to tables that were emptied.** -/
theorem fill_reset (hports : cf.portList.Nodup) (h : VniHeld cf s)
    (hrefs : vniRefs t = vniRefs s.cfg.vniHandleTbl) (hempty : ∀ v, scope v → ∀ k, routeAt t v k = none)
    (hkept : ∀ v, ¬ scope v → ∀ k, routeAt t v k = routeAt s.cfg.vniHandleTbl v k) {c : Config}
    (hc : c.vniHandleTbl = (fillPorts cf e s.cfg.port sel t cf.portList).2) :
    ResetOk s.cfg scope (some (Resp.ofRet (fillPorts cf e s.cfg.port sel t cf.portList).1, c)) ↔
      HostsFit e s.cfg scope := by
  have heq : fillPorts cf e s.cfg.port sel t cf.portList = addHosts cf e t (resetHosts cf s.cfg sel) := fillPorts_eq ..
  have hroute : ∀ p : PortId, mkRoute cf p 0 0 = { nh := p } := fun p => by
    unfold mkRoute
    split <;> rfl
  obtain ⟨hok, hroutes⟩ := addHosts_spec cf e t (resetHosts cf s.cfg sel)
  rw [canAdd_resetHosts hsel hports h hrefs hempty] at hok
  rw [← heq, ← hc] at hroutes
  rw [← heq] at hok
  constructor
  · rintro ⟨c', hres, -, hin, -⟩
    obtain ⟨hret, rfl⟩ := Prod.mk.inj (Option.some.inj hres)
    have hnone : (fillPorts cf e s.cfg.port sel t cf.portList).1 = none := by
      cases hf : (fillPorts cf e s.cfg.port sel t cf.portList).1 with
      | none => rfl
      | some r =>
        rw [hf] at hret
        cases hret
    obtain ⟨hroom, hapart⟩ := hok.mp hnone
    refine ⟨fun p hr hs => ⟨?_, ?_⟩, hapart, hroom⟩
    · have hmem := (mem_resetHosts hsel h _).mpr ⟨p, ⟨hr, hs⟩, .inl rfl⟩
      obtain ⟨q, -, -, -, ⟨hq, hk⟩ | ⟨-, hk⟩⟩ :=
        (hin _ hs _ _).mp ((hroutes hnone _ _ _).mpr (.inr ⟨_, hmem, rfl, rfl, rfl⟩))
      · obtain ⟨hk, -⟩ := Prod.mk.inj (Sum.inl.inj hk)
        exact hk ▸ hq
      · cases hk
    · have hmem := (mem_resetHosts hsel h _).mpr ⟨p, ⟨hr, hs⟩, .inr rfl⟩
      obtain ⟨q, -, -, -, ⟨-, hk⟩ | ⟨hq, hk⟩⟩ :=
        (hin _ hs _ _).mp ((hroutes hnone _ _ _).mpr (.inr ⟨_, hmem, rfl, rfl, rfl⟩))
      · cases hk
      · obtain ⟨hk, -⟩ := Prod.mk.inj (Sum.inr.inj hk)
        exact hk ▸ hq
  · intro hfit
    have hnone := hok.mpr ⟨hfit.room, hfit.apart⟩
    refine ⟨c, by rw [hnone]; rfl, ?_, fun v hs k r => ?_, fun v hs k => ?_⟩
    · rw [hc]
      exact fillPorts_refs.trans hrefs
    · rw [hroutes hnone, hempty v hs k]
      constructor
      · rintro (hx | ⟨x, hx, hv, hk, hr⟩)
        · cases hx
        · obtain ⟨p, ⟨hp, hsp⟩, rfl | rfl⟩ := (mem_resetHosts hsel h x).mp hx
          · exact ⟨p, hp, hv, hr.symm.trans (hroute p), .inl ⟨(hfit.nonzero p hp hsp).1, hk.symm⟩⟩
          · exact ⟨p, hp, hv, hr.symm.trans (hroute p), .inr ⟨(hfit.nonzero p hp hsp).2, hk.symm⟩⟩
      · rintro ⟨p, hp, rfl, rfl, ⟨-, rfl⟩ | ⟨-, rfl⟩⟩
        · exact .inr ⟨_, (mem_resetHosts hsel h _).mpr ⟨p, ⟨hp, hs⟩, .inl rfl⟩, rfl, rfl, hroute p⟩
        · exact .inr ⟨_, (mem_resetHosts hsel h _).mpr ⟨p, ⟨hp, hs⟩, .inr rfl⟩, rfl, rfl, hroute p⟩
    · rw [← hkept v hs k]
      refine Option.ext fun r => (hroutes hnone v k r).trans (or_iff_left ?_)
      rintro ⟨x, hx, hv, -⟩
      obtain ⟨p, ⟨-, hsp⟩, rfl | rfl⟩ := (mem_resetHosts hsel h x).mp hx
      · exact hs (hv ▸ hsp)
      · exact hs (hv ▸ hsp)

end Scope

theorem routeAt_reset (t : VniTbl) (vni v : Vni) (k : PfxKey) :
    routeAt (dpResetVniRouteTables t vni) v k = if v = vni then none else routeAt t v k := by
  unfold dpResetVniRouteTables
  cases hd : t vni with
  | none =>
    dsimp only
    split
    next hv => simp [hv, routeAt, hd]
    · rfl
  | some d =>
    rw [routeAt_add]
    split
    · cases k <;> rfl
    · rfl

theorem routeAt_resetAll (t : VniTbl) (v : Vni) (k : PfxKey) : routeAt (dpResetAllVniRouteTables t) v k = none := by
  unfold routeAt dpResetAllVniRouteTables
  cases t v with
  | none => rfl
  | some d => cases k <;> rfl

/-- **A reset leaves exactly the host routes of the ready interfaces, if all of these have two addresses and no two
share one.** -/
theorem route_reset_iff {es : List Call} (hports : cf.portList.Nodup)
    (h : run (ctlStep cf) (Ctl.init cf) es = some s) (hrib : e.ok .ribCreate = true) :
    (∀ vni, ResetOk s.cfg (· = vni) (dpProcessResetVni cf e s.cfg vni true) ↔ HostsFit e s.cfg (· = vni)) ∧
    (ResetOk s.cfg (fun _ => True) (dpProcessInitialize cf e s.cfg) ↔ HostsFit e s.cfg fun _ => True) := by
  have hheld := vniHeld_run h
  constructor
  · intro vni
    simp only [dpProcessResetVni, if_true, dpLpmResetRouteTables, hrib, Option.map_some]
    refine fill_reset (by simp) hports hheld vniRefs_reset (fun v hv k => ?_) (fun v hv k => ?_) rfl
    · rw [routeAt_reset, if_pos hv]
    · rw [routeAt_reset, if_neg hv]
  · simp only [dpProcessInitialize, dpLpmResetAllRouteTables, hrib, if_true, Option.map_some]
    exact fill_reset (by simp) hports hheld vniRefs_resetAll (fun v _ k => routeAt_resetAll ..)
      (fun v hv => absurd trivial hv) rfl

end Resets

/-- Two interfaces with two addresses each. -/
def dualCalls : List Call :=
  calls [.createInterface 2 1 100 0x0a000001 1 0 0, .createInterface 3 2 100 0x0a000002 2 0 0]

theorem route_reset_dual : ∃ s, run (ctlStep smallConf) (Ctl.init smallConf) dualCalls = some s ∧
    (s.cfg.port 3).iface.ready = true ∧ ResetOk s.cfg (· = 100) (dpProcessResetVni smallConf {} s.cfg 100 true) := by
  have hrun : (run (ctlStep smallConf) (Ctl.init smallConf) dualCalls).any (fun s =>
      (s.cfg.port 3).iface.ready &&
      smallConf.portList.all (fun p => !(s.cfg.port p).iface.ready ||
        (s.cfg.port p).iface.ownIp != 0 && (s.cfg.port p).iface.dhcpIpv6 != 0 &&
        smallConf.portList.all (fun q => !(s.cfg.port q).iface.ready || p == q ||
          (s.cfg.port p).iface.ownIp != (s.cfg.port q).iface.ownIp &&
            (s.cfg.port p).iface.dhcpIpv6 != (s.cfg.port q).iface.dhcpIpv6))) = true := by decide +kernel
  obtain ⟨s, hs, hp⟩ := (Option.any_eq_true _ _).mp hrun
  rw [Bool.and_eq_true, List.all_eq_true] at hp
  have hlisted : ∀ p, (s.cfg.port p).iface.ready = true → p ∈ smallConf.portList := fun p hr => by
    simpa [Conf.hasPort] using ((portsOk_run hs).ready hr).2.2
  have hfit : HostsFit {} s.cfg (· = 100) := by
    refine ⟨fun p hr _ => ?_, fun p q hr hq _ hne _ => ?_, fun p _ _ => ⟨rfl, rfl⟩⟩
    · have hone := hp.2 p (hlisted p hr)
      simp only [hr, Bool.not_true, Bool.false_or, Bool.and_eq_true, bne_iff_ne] at hone
      exact hone.1
    · have hone := hp.2 p (hlisted p hr)
      simp only [hr, Bool.not_true, Bool.false_or, Bool.and_eq_true, List.all_eq_true] at hone
      have htwo := hone.2 q (hlisted q hq)
      simpa [hq, hne] using htwo
  exact ⟨s, hs, hp.1, ((route_reset_iff (by decide) hs rfl).1 100).mpr hfit⟩

/-- Two interfaces without IPv6: the reset enters a route for the zero address and cannot enter it again. -/
theorem route_reset_zero : ∃ s, run (ctlStep smallConf) (Ctl.init smallConf)
      (calls [.createInterface 2 1 100 0x0a000001 0 0 0, .createInterface 3 2 100 0x0a000002 0 0 0]) = some s ∧
    (dpProcessResetVni smallConf {} s.cfg 100 true).map (·.1) = some (.err .routeExists) ∧
    (dpProcessInitialize smallConf {} s.cfg).map (·.1) = some (.err .routeExists) := by
  decide +kernel

end Dpservice
