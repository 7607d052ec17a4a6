import Dpservice.Config

/-!
# VNIs and routes

A VNI is created by its first interface or load balancer, counted by the others, and released with the last one,
which also removes the neighbour-NAT entries of the VNI. Routes live in the two routing tables of a VNI.
-/

namespace Dpservice

abbrev VniTbl := Table Vni VniData

/-! ## VNIs -/

/-- `dp_create_vni_route_tables`; `none` is failure. -/
def dpCreateVniRouteTables (e : Env) (t : VniTbl) (vni : Vni) : Option VniTbl :=
  match t vni with
  | some d => some (t.add vni { d with refCount := d.refCount + 1 })
  | none => if e.ok .vniAlloc then some (t.add vni {}) else none

/-- `dp_del_all_neigh_nat_entries_in_vni`; VNI 0 stands for all of them. -/
def dpDelAllNeighNatEntriesInVni (l : List NetworkNatEntry) (vni : Vni) : List NetworkNatEntry :=
  l.filter fun n => !(n.vni == vni || vni == 0)

/-- `dp_delete_vni_route_tables` with `dp_free_vni_data`; `false` when the VNI does not exist. -/
def dpDeleteVniRouteTables (t : VniTbl) (l : List NetworkNatEntry) (vni : Vni) :
    Bool × VniTbl × List NetworkNatEntry :=
  match t vni with
  | none => (false, t, l)
  | some d =>
    if d.refCount - 1 = 0 then (true, t.del vni, dpDelAllNeighNatEntriesInVni l vni)
    else (true, t.add vni { d with refCount := d.refCount - 1 }, l)

/-- The VNI with fresh, empty routing tables. -/
def VniData.reset (d : VniData) : VniData := { d with ipv4 := Table.empty, ipv6 := Table.empty }

/-- `dp_reset_vni_route_tables`; an unknown VNI is not an error. -/
def dpResetVniRouteTables (t : VniTbl) (vni : Vni) : VniTbl :=
  match t vni with
  | none => t
  | some d => t.add vni d.reset

def dpResetAllVniRouteTables (t : VniTbl) : VniTbl := fun v => (t v).map VniData.reset

/-! ## Routes -/

/-- What is stored for a route over `port`: external routes keep their target. -/
def mkRoute (cf : Conf) (port : PortId) (tVni : Vni) (tIp6 : Ip6) : Route :=
  if cf.isPf port then { nh := port, vni := tVni, nhIpv6 := tIp6 } else { nh := port }

def dpAddRoute (cf : Conf) (e : Env) (t : VniTbl) (port : PortId) (vni tVni : Vni) (ip : Ip4) (tIp6 : Ip6)
    (depth : UInt8) : Option Ret × VniTbl :=
  match t vni with
  | none => (some .noVni, t)
  | some d =>
    if (d.ipv4.lookupExact ip depth.toNat).isSome then (some .routeExists, t)
    else if depth.toNat > 32 || !e.ok (.ribInsert port) then (some .routeInsert, t)
    else (none, t.add vni { d with ipv4 := d.ipv4.insert ip depth.toNat (mkRoute cf port tVni tIp6) })

def dpDelRoute (t : VniTbl) (port : PortId) (vni : Vni) (ip : Ip4) (depth : UInt8) : Option Ret × VniTbl :=
  match t vni with
  | none => (some .noVni, t)
  | some d =>
    match d.ipv4.lookupExact ip depth.toNat with
    | none => (some .routeNotFound, t)
    | some r =>
      if r.nh ≠ port then (some .routeBadPort, t)
      else (none, t.add vni { d with ipv4 := d.ipv4.remove ip depth.toNat })

def dpAddRoute6 (cf : Conf) (e : Env) (t : VniTbl) (port : PortId) (vni tVni : Vni) (ip : Ip6) (tIp6 : Ip6)
    (depth : UInt8) : Option Ret × VniTbl :=
  match t vni with
  | none => (some .noVni, t)
  | some d =>
    if (d.ipv6.lookupExact ip depth.toNat).isSome then (some .routeExists, t)
    else if depth.toNat > 128 || !e.ok (.rib6Insert port) then (some .routeInsert, t)
    else (none, t.add vni { d with ipv6 := d.ipv6.insert ip depth.toNat (mkRoute cf port tVni tIp6) })

def dpDelRoute6 (t : VniTbl) (port : PortId) (vni : Vni) (ip : Ip6) (depth : UInt8) : Option Ret × VniTbl :=
  match t vni with
  | none => (some .noVni, t)
  | some d =>
    match d.ipv6.lookupExact ip depth.toNat with
    | none => (some .routeNotFound, t)
    | some r =>
      if r.nh ≠ port then (some .routeBadPort, t)
      else (none, t.add vni { d with ipv6 := d.ipv6.remove ip depth.toNat })

def dpGrpcAddRoute (cf : Conf) (e : Env) (t : VniTbl) (port : PortId) (vni tVni : Vni) (addr : IpAddr) (tIp6 : Ip6)
    (depth : UInt8) : Option Ret × VniTbl :=
  match addr with
  | .v6 ip => dpAddRoute6 cf e t port vni tVni ip tIp6 depth
  | .v4 ip => dpAddRoute cf e t port vni tVni ip tIp6 depth

def dpGrpcDelRoute (t : VniTbl) (port : PortId) (vni : Vni) (addr : IpAddr) (depth : UInt8) : Option Ret × VniTbl :=
  match addr with
  | .v6 ip => dpDelRoute6 t port vni ip depth
  | .v4 ip => dpDelRoute t port vni ip depth

def dpLpmFillRouteTables (cf : Conf) (e : Env) (t : VniTbl) (p : PortId) (i : Iface) : Option Ret × VniTbl :=
  match dpAddRoute cf e t p i.vni 0 i.ownIp 0 32 with
  | (some r, t) => (some r, t)
  | (none, t) => dpAddRoute6 cf e t p i.vni 0 i.dhcpIpv6 0 128

/-- The loop of the two resets: fill the tables for every ready port that `sel` selects, stop at the first error. -/
def fillPorts (cf : Conf) (e : Env) (port : PortId → Port) (sel : Iface → Bool) :
    VniTbl → List PortId → Option Ret × VniTbl
  | t, [] => (none, t)
  | t, p :: ps =>
    if (port p).iface.ready && sel (port p).iface then
      match dpLpmFillRouteTables cf e t p (port p).iface with
      | (some r, t) => (some r, t)
      | (none, t) => fillPorts cf e port sel t ps
    else fillPorts cf e port sel t ps

/-- `dp_lpm_reset_all_route_tables`. Where a table cannot be created again, its freed predecessor stays in use: there is
no defined result. -/
def dpLpmResetAllRouteTables (cf : Conf) (e : Env) (c : Config) : Option (Option Ret × VniTbl) :=
  if e.ok .ribCreate then
    some (fillPorts cf e c.port (fun _ => true) (dpResetAllVniRouteTables c.vniHandleTbl) cf.portList)
  else none

def dpLpmResetRouteTables (cf : Conf) (e : Env) (c : Config) (vni : Vni) : Option (Option Ret × VniTbl) :=
  if e.ok .ribCreate then
    some (fillPorts cf e c.port (fun i => i.vni == vni) (dpResetVniRouteTables c.vniHandleTbl vni) cf.portList)
  else none

/-! ## Routes of both families -/

/-- A prefix of either family: masked address and length. -/
abbrev PfxKey := (Ip4 × ℕ) ⊕ (Ip6 × ℕ)

/-- The key of a prefix in the routing tables. -/
def pfxKey (addr : IpAddr) (depth : ℕ) : PfxKey :=
  match addr with
  | .v4 ip => .inl (ribMask depth ip, depth)
  | .v6 ip => .inr (ribMask depth ip, depth)

/-- The number of bits of an address. -/
def IpAddr.width : IpAddr → ℕ
  | .v4 _ => 32
  | .v6 _ => 128

/-- The route of a VNI for exactly this prefix. -/
def routeAt (t : VniTbl) (vni : Vni) (k : PfxKey) : Option Route :=
  (t vni).bind fun d => k.elim d.ipv4 d.ipv6

def vniRefs (t : VniTbl) (vni : Vni) : Option Int := (t vni).map (·.refCount)

/-- `t'` lacks some of the routes over `p` that `t` has, and differs in nothing else. -/
structure FewerVia (p : PortId) (t t' : VniTbl) : Prop where
  refs : vniRefs t' = vniRefs t
  less : ∀ {vni k r}, routeAt t' vni k = some r → routeAt t vni k = some r
  kept : ∀ {vni k r}, routeAt t vni k = some r → r.nh ≠ p → routeAt t' vni k = some r

theorem FewerVia.refl (p : PortId) (t : VniTbl) : FewerVia p t t := ⟨rfl, id, fun h _ => h⟩

theorem FewerVia.trans {p : PortId} {t₁ t₂ t₃ : VniTbl} (h : FewerVia p t₁ t₂) (h' : FewerVia p t₂ t₃) :
    FewerVia p t₁ t₃ :=
  ⟨h'.refs.trans h.refs, fun hr => h.less (h'.less hr), fun hr hn => h'.kept (h.kept hr hn) hn⟩

section Specs

variable {cf : Conf} {e : Env} {t : VniTbl} {p : PortId} {vni tVni : Vni} {addr : IpAddr} {tIp6 : Ip6} {depth : UInt8}

@[simp] theorem mkRoute_nh : (mkRoute cf p tVni tIp6).nh = p := by
  unfold mkRoute
  split <;> rfl

theorem isSome_vniRefs (t : VniTbl) (vni : Vni) : (vniRefs t vni).isSome = (t vni).isSome := by simp [vniRefs]

/-- What a write to the entry of one VNI does to the routes. -/
theorem routeAt_add (t : VniTbl) (vni : Vni) (d : VniData) (v : Vni) (k : PfxKey) :
    routeAt (t.add vni d) v k = if v = vni then k.elim d.ipv4 d.ipv6 else routeAt t v k := by
  unfold routeAt
  rw [Table.add_apply]
  split <;> rfl

theorem vniRefs_add (t : VniTbl) (vni : Vni) (d : VniData) (v : Vni) :
    vniRefs (t.add vni d) v = if v = vni then some d.refCount else vniRefs t v := by
  unfold vniRefs
  rw [Table.add_apply]
  split <;> rfl

theorem routeAt_del (t : VniTbl) (vni : Vni) (v : Vni) (k : PfxKey) :
    routeAt (t.del vni) v k = if v = vni then none else routeAt t v k := by
  unfold routeAt
  rw [Table.del_apply]
  split <;> rfl

theorem vniRefs_del (t : VniTbl) (vni : Vni) (v : Vni) :
    vniRefs (t.del vni) v = if v = vni then none else vniRefs t v := by
  unfold vniRefs
  rw [Table.del_apply]
  split <;> rfl

/-- A write that keeps the use count keeps all use counts. -/
theorem vniRefs_add_same {d d' : VniData} (hd : t vni = some d) (hr : d'.refCount = d.refCount) :
    vniRefs (t.add vni d') = vniRefs t := by
  funext v
  rw [vniRefs_add]
  split
  next hv => rw [hv, vniRefs, hd, hr]; rfl
  · rfl

/-- The routes after one prefix of an existing VNI was written (`o` is a route, or `none` for a removal). -/
theorem routeAt_write {d d' : VniData} {o : Option Route} {key : PfxKey} (hd : t vni = some d)
    (hw : ∀ k, k.elim d'.ipv4 d'.ipv6 = if k = key then o else k.elim d.ipv4 d.ipv6) (v : Vni) (k : PfxKey) :
    routeAt (t.add vni d') v k = if v = vni ∧ k = key then o else routeAt t v k := by
  rw [routeAt_add]
  by_cases hv : v = vni
  · subst hv
    rw [if_pos rfl, hw]
    by_cases hk : k = key
    · simp [hk]
    · simp [hk, routeAt, hd]
  · simp [hv]

/-- Adding a route fails and changes nothing, or adds one route under a prefix of the VNI that had none. -/
theorem dpGrpcAddRoute_spec (cf : Conf) (e : Env) (t : VniTbl) (p : PortId) (vni tVni : Vni) (addr : IpAddr)
    (tIp6 : Ip6) (depth : UInt8) :
    ((dpGrpcAddRoute cf e t p vni tVni addr tIp6 depth).1 ≠ none ∧
        (dpGrpcAddRoute cf e t p vni tVni addr tIp6 depth).2 = t) ∨
      ((dpGrpcAddRoute cf e t p vni tVni addr tIp6 depth).1 = none ∧ (t vni).isSome ∧
        routeAt t vni (pfxKey addr depth.toNat) = none ∧
        vniRefs (dpGrpcAddRoute cf e t p vni tVni addr tIp6 depth).2 = vniRefs t ∧
        ∀ v k, routeAt (dpGrpcAddRoute cf e t p vni tVni addr tIp6 depth).2 v k =
          if v = vni ∧ k = pfxKey addr depth.toNat then some (mkRoute cf p tVni tIp6) else routeAt t v k) := by
  cases addr with
  | v4 ip =>
    simp only [dpGrpcAddRoute, dpAddRoute]
    cases hd : t vni with
    | none => exact .inl ⟨by simp, rfl⟩
    | some d =>
      dsimp only
      split
      · exact .inl ⟨by simp, rfl⟩
      next hfree =>
        split
        · exact .inl ⟨by simp, rfl⟩
        next hok =>
          have hle : depth.toNat ≤ 32 := by
            simp only [Bool.or_eq_true, decide_eq_true_eq, not_or] at hok
            omega
          refine .inr ⟨rfl, rfl, ?_, vniRefs_add_same hd rfl, routeAt_write hd ?_⟩
          · simpa [Rib.lookupExact_of_le hle, routeAt, hd, pfxKey] using hfree
          · rintro (k | k)
            · simp [Rib.insert, Table.add_apply, pfxKey]
            · simp [pfxKey]
  | v6 ip =>
    simp only [dpGrpcAddRoute, dpAddRoute6]
    cases hd : t vni with
    | none => exact .inl ⟨by simp, rfl⟩
    | some d =>
      dsimp only
      split
      · exact .inl ⟨by simp, rfl⟩
      next hfree =>
        split
        · exact .inl ⟨by simp, rfl⟩
        next hok =>
          have hle : depth.toNat ≤ 128 := by
            simp only [Bool.or_eq_true, decide_eq_true_eq, not_or] at hok
            omega
          refine .inr ⟨rfl, rfl, ?_, vniRefs_add_same hd rfl, routeAt_write hd ?_⟩
          · simpa [Rib.lookupExact_of_le hle, routeAt, hd, pfxKey] using hfree
          · rintro (k | k)
            · simp [pfxKey]
            · simp [Rib.insert, Table.add_apply, pfxKey]

/-- Deleting a route removes it if it leads over the port, and changes nothing otherwise. -/
theorem dpGrpcDelRoute_spec (t : VniTbl) (p : PortId) (vni : Vni) (addr : IpAddr) (depth : UInt8) :
    ((dpGrpcDelRoute t p vni addr depth).2 = t ∧
        (depth.toNat ≤ addr.width → ∀ {r}, routeAt t vni (pfxKey addr depth.toNat) = some r → r.nh ≠ p)) ∨
      ((∃ r, routeAt t vni (pfxKey addr depth.toNat) = some r ∧ r.nh = p) ∧
        vniRefs (dpGrpcDelRoute t p vni addr depth).2 = vniRefs t ∧
        ∀ v k, routeAt (dpGrpcDelRoute t p vni addr depth).2 v k =
          if v = vni ∧ k = pfxKey addr depth.toNat then none else routeAt t v k) := by
  cases addr with
  | v4 ip =>
    simp only [dpGrpcDelRoute, dpDelRoute]
    cases hd : t vni with
    | none => exact .inl ⟨rfl, fun _ r hr => by simp [routeAt, hd] at hr⟩
    | some d =>
      dsimp only
      have hat : routeAt t vni (pfxKey (.v4 ip) depth.toNat) = d.ipv4 (ribMask depth.toNat ip, depth.toNat) := by
        simp [routeAt, hd, pfxKey]
      rw [hat]
      cases hl : d.ipv4.lookupExact ip depth.toNat with
      | none =>
        refine .inl ⟨rfl, fun (hle : depth.toNat ≤ 32) r hr => ?_⟩
        rw [Rib.lookupExact_of_le hle, hr] at hl
        cases hl
      | some r =>
        rw [Rib.lookupExact_of_le (Rib.le_of_lookupExact hl)] at hl
        rw [hl]
        dsimp only
        split
        next hne => exact .inl ⟨rfl, fun _ _ hr => by cases hr; exact hne⟩
        next heq =>
          refine .inr ⟨⟨r, rfl, not_not.mp heq⟩, vniRefs_add_same hd rfl, routeAt_write hd ?_⟩
          rintro (k | k)
          · simp [Rib.remove, Table.del_apply, pfxKey]
          · simp [pfxKey]
  | v6 ip =>
    simp only [dpGrpcDelRoute, dpDelRoute6]
    cases hd : t vni with
    | none => exact .inl ⟨rfl, fun _ r hr => by simp [routeAt, hd] at hr⟩
    | some d =>
      dsimp only
      have hat : routeAt t vni (pfxKey (.v6 ip) depth.toNat) = d.ipv6 (ribMask depth.toNat ip, depth.toNat) := by
        simp [routeAt, hd, pfxKey]
      rw [hat]
      cases hl : d.ipv6.lookupExact ip depth.toNat with
      | none =>
        refine .inl ⟨rfl, fun (hle : depth.toNat ≤ 128) r hr => ?_⟩
        rw [Rib.lookupExact_of_le hle, hr] at hl
        cases hl
      | some r =>
        rw [Rib.lookupExact_of_le (Rib.le_of_lookupExact hl)] at hl
        rw [hl]
        dsimp only
        split
        next hne => exact .inl ⟨rfl, fun _ _ hr => by cases hr; exact hne⟩
        next heq =>
          refine .inr ⟨⟨r, rfl, not_not.mp heq⟩, vniRefs_add_same hd rfl, routeAt_write hd ?_⟩
          rintro (k | k)
          · simp [pfxKey]
          · simp [Rib.remove, Table.del_apply, pfxKey]

/-- A deletion takes routes over one port away. -/
theorem dpGrpcDelRoute_fewer (t : VniTbl) (p : PortId) (vni : Vni) (addr : IpAddr) (depth : UInt8) :
    FewerVia p t (dpGrpcDelRoute t p vni addr depth).2 := by
  rcases dpGrpcDelRoute_spec t p vni addr depth with ⟨h, -⟩ | ⟨⟨r, hr, hp⟩, hrefs, hroutes⟩
  · rw [h]
    exact .refl p t
  · refine ⟨hrefs, fun {v k r'} h => ?_, fun {v k r'} h hne => ?_⟩
    · rw [hroutes] at h
      split at h
      · cases h
      · exact h
    · rw [hroutes, if_neg, h]
      rintro ⟨rfl, rfl⟩
      rw [hr, Option.some.injEq] at h
      exact hne (h ▸ hp)

@[simp] theorem dpGrpcAddRoute_refs :
    vniRefs (dpGrpcAddRoute cf e t p vni tVni addr tIp6 depth).2 = vniRefs t := by
  rcases dpGrpcAddRoute_spec cf e t p vni tVni addr tIp6 depth with ⟨-, h⟩ | ⟨-, -, -, h, -⟩
  · rw [h]
  · exact h

@[simp] theorem dpGrpcDelRoute_refs : vniRefs (dpGrpcDelRoute t p vni addr depth).2 = vniRefs t :=
  (dpGrpcDelRoute_fewer ..).refs

/-- No route over the port is left for the deleted prefix. -/
theorem dpGrpcDelRoute_gone (addr : IpAddr) (depth : UInt8) (hle : depth.toNat ≤ addr.width) {r : Route}
    (h : routeAt (dpGrpcDelRoute t p vni addr depth).2 vni (pfxKey addr depth.toNat) = some r) : r.nh ≠ p := by
  rcases dpGrpcDelRoute_spec t p vni addr depth with ⟨ht, hn⟩ | ⟨-, -, hroutes⟩
  · rw [ht] at h
    exact hn hle h
  · rw [hroutes, if_pos ⟨rfl, rfl⟩] at h
    cases h

end Specs

/-! ## Uses of a VNI -/

section Uses

variable {e : Env} {t t' : VniTbl} {vni : Vni} {l : List NetworkNatEntry}

/-- One more use of a VNI: it is counted, or the VNI is created without routes. -/
theorem dpCreateVniRouteTables_spec (h : dpCreateVniRouteTables e t vni = some t') :
    (∀ v, vniRefs t' v = if v = vni then some ((vniRefs t vni).getD 0 + 1) else vniRefs t v) ∧
      ∀ v k, routeAt t' v k = routeAt t v k := by
  unfold dpCreateVniRouteTables at h
  cases hd : t vni with
  | some d =>
    rw [hd] at h
    cases h
    refine ⟨fun v => ?_, fun v k => ?_⟩
    · rw [vniRefs_add]
      simp [vniRefs, hd]
    · rw [routeAt_add]
      split
      next hv => simp [routeAt, hv, hd]
      · rfl
  | none =>
    rw [hd] at h
    dsimp only at h
    split at h
    · cases h
      refine ⟨fun v => ?_, fun v k => ?_⟩
      · rw [vniRefs_add]
        simp [vniRefs, hd]
      · rw [routeAt_add]
        split
        next hv => cases k <;> simp [routeAt, hv, hd]
        · rfl
    · cases h

/-- One use less of a VNI: it is counted, or the VNI is released with its routes and neighbour-NAT entries. -/
theorem dpDeleteVniRouteTables_spec (t : VniTbl) (l : List NetworkNatEntry) (vni : Vni) :
    (t vni = none ∧ dpDeleteVniRouteTables t l vni = (false, t, l)) ∨
      (vniRefs t vni = some 1 ∧
        dpDeleteVniRouteTables t l vni = (true, t.del vni, dpDelAllNeighNatEntriesInVni l vni)) ∨
      ∃ d, t vni = some d ∧ d.refCount ≠ 1 ∧
        dpDeleteVniRouteTables t l vni = (true, t.add vni { d with refCount := d.refCount - 1 }, l) := by
  unfold dpDeleteVniRouteTables
  cases hd : t vni with
  | none => exact .inl ⟨rfl, rfl⟩
  | some d =>
    dsimp only
    split
    next h => exact .inr (.inl ⟨by simp [vniRefs, hd]; omega, rfl⟩)
    next h => exact .inr (.inr ⟨d, rfl, by omega, rfl⟩)

end Uses

/-! ## Resets -/

section Resets

variable {cf : Conf} {e : Env} {t : VniTbl} {vni : Vni}

@[simp] theorem vniRefs_reset : vniRefs (dpResetVniRouteTables t vni) = vniRefs t := by
  unfold dpResetVniRouteTables
  split
  · rfl
  next d hd => exact vniRefs_add_same hd rfl

@[simp] theorem vniRefs_resetAll : vniRefs (dpResetAllVniRouteTables t) = vniRefs t := by
  funext v
  simp only [vniRefs, dpResetAllVniRouteTables, Option.map_map]
  rfl

/-- What holds before the loop of a reset and survives the host routes of each selected port holds after it. -/
theorem fillPorts_invariant {I : VniTbl → Prop} {port : PortId → Port} {sel : Iface → Bool}
    (hstep : ∀ t p addr depth, (port p).iface.ready = true → sel (port p).iface = true →
      (addr = .v4 (port p).iface.ownIp ∧ depth = 32 ∨ addr = .v6 (port p).iface.dhcpIpv6 ∧ depth = 128) → I t →
        I (dpGrpcAddRoute cf e t p (port p).iface.vni 0 addr 0 depth).2) {ps : List PortId} :
    ∀ {t : VniTbl}, I t → I (fillPorts cf e port sel t ps).2 := by
  induction ps with
  | nil => exact id
  | cons p ps ih =>
    intro t ht
    unfold fillPorts
    split
    next hsel =>
      rw [Bool.and_eq_true] at hsel
      have h4 := hstep t p (.v4 (port p).iface.ownIp) 32 hsel.1 hsel.2 (.inl ⟨rfl, rfl⟩) ht
      have h6 : I (dpLpmFillRouteTables cf e t p (port p).iface).2 := by
        unfold dpLpmFillRouteTables
        split
        next heq => rwa [show dpGrpcAddRoute cf e t p _ 0 (.v4 _) 0 32 = _ from heq] at h4
        next t' heq =>
          rw [show dpGrpcAddRoute cf e t p _ 0 (.v4 _) 0 32 = _ from heq] at h4
          exact hstep t' p (.v6 (port p).iface.dhcpIpv6) 128 hsel.1 hsel.2 (.inr ⟨rfl, rfl⟩) h4
      split
      next heq => rwa [heq] at h6
      next heq =>
        rw [heq] at h6
        exact ih h6
    · exact ih ht

@[simp] theorem fillPorts_refs {port : PortId → Port} {sel : Iface → Bool} {ps : List PortId} :
    vniRefs (fillPorts cf e port sel t ps).2 = vniRefs t :=
  fillPorts_invariant (I := fun t' => vniRefs t' = vniRefs t) (fun _ _ _ _ _ _ _ h => dpGrpcAddRoute_refs.trans h) rfl

end Resets

end Dpservice
