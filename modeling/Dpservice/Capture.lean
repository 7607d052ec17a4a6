import Dpservice.Control

/-!
# Packet capture

A port has up to two default rules in the hardware: a jump rule (virtual functions only, installed when the port is
started) and a capture rule (while packets of the port are captured). The port record keeps the handles of both.

- `Rules` holds the stored handles and the history of all `rte_flow_destroy` calls, the failed ones included; which
  calls fail is a parameter of each step (`RuleEnv`). What a rule matches and does is left to the hardware;
- `dpDisablePktCaptureOnAllIfaces_eq` says what the loop over all ports does: it calls `dp_enable_pkt_capture`, which
  refuses a captured port, so the loop succeeds exactly when it has nothing to do;
- `RulesOk A r`: no handle is passed to the hardware after it was destroyed, and the stored handles of the rules in `A`
  are not destroyed. A handle stays stored when its rule is destroyed, so a rule leaves `A` there and comes back with
  the next installation;
- `CaptureInv` is the invariant of runs: the rules in `A` are those of ready and of physical ports.
-/

namespace Dpservice

/-- The default rules of a port: `default_jump_flow` and `default_capture_flow`. -/
inductive RuleKind where
  | jump | capture
  deriving DecidableEq, Repr

/-- A default rule of a port. -/
abbrev RuleKey := PortId × RuleKind

/-- The default rules. Installations are numbered, and a handle is the number of its installation. -/
structure Rules where
  /-- The handles that the port records hold. -/
  handle : Table RuleKey ℕ := Table.empty
  next : ℕ := 0
  /-- The calls of `rte_flow_destroy` so far, the last one first, with their success. -/
  destroys : List (ℕ × Bool) := []

/-- The calls into the hardware that fail: installations by number, destructions by number. -/
structure RuleEnv where
  installFails : List (RuleKind × ℕ) := []
  destroyFails : List ℕ := []
  deriving DecidableEq

/-- The errors of the capture requests. -/
inductive CaptureErr where
  | noVm | notFound | alreadyActive | notActive | rteRuleDel | rteRuleAdd | rollback
  deriving DecidableEq, Repr

/-- The state that the capture requests share with the creation and deletion of interfaces. -/
structure CaptureSys where
  cfg : Config
  rules : Rules := {}
  enabled : Bool := false

def CaptureSys.init (cf : Conf) : CaptureSys := { cfg := Config.init cf }

/-! ## Default rules -/

/-- `dp_install_rte_flow` for a default rule; the handle is stored in the port record. -/
def installDefault (re : RuleEnv) (r : Rules) (p : PortId) (k : RuleKind) : Bool × Rules :=
  if re.installFails.contains (k, r.next) then (false, { r with next := r.next + 1 })
  else (true, { r with handle := r.handle.add (p, k) r.next, next := r.next + 1 })

/-- `dp_install_jump_rule_in_default_group`, and `dp_install_vf_default_jump_flow` for either group. -/
def dpInstallVfDefaultJumpFlow (re : RuleEnv) (r : Rules) (p : PortId) : Bool × Rules := installDefault re r p .jump

def dpInstallVfDefaultCaptureFlow (re : RuleEnv) (r : Rules) (p : PortId) : Bool × Rules :=
  installDefault re r p .capture

def dpInstallPfDefaultFlow (re : RuleEnv) (r : Rules) (p : PortId) : Bool × Rules := installDefault re r p .capture

/-- `rte_flow_destroy` on a stored handle. The port record keeps the handle. -/
def destroyDefault (re : RuleEnv) (r : Rules) (k : RuleKey) : Bool × Rules :=
  match r.handle k with
  | none => (true, r)
  | some h =>
    let ok := !re.destroyFails.contains r.destroys.length
    (ok, { r with destroys := (h, ok) :: r.destroys })

def dpDestroyDefaultFlow (re : RuleEnv) (r : Rules) (p : PortId) : Bool × Rules :=
  let j := destroyDefault re r (p, .jump)
  if !j.1 then j else destroyDefault re j.2 (p, .capture)

/-! ## Turning capture on and off -/

/-- The installation of the two rules of a virtual function in `dp_enable_pkt_capture`; where the second one fails, the
jump rule to the normal group is put back. -/
def installVfCapture (re : RuleEnv) (r : Rules) (p : PortId) : Option CaptureErr × Rules :=
  let j := dpInstallVfDefaultJumpFlow re r p
  if !j.1 then (some .rteRuleAdd, j.2)
  else
    let k := dpInstallVfDefaultCaptureFlow re j.2 p
    if k.1 then (none, k.2)
    else
      let d := dpDestroyDefaultFlow re k.2 p
      if !d.1 then (some .rollback, d.2)
      else
        let b := dpInstallVfDefaultJumpFlow re d.2 p
        (some (if b.1 then .rteRuleAdd else .rollback), b.2)

/-- The installation of the rule of a physical function in `dp_enable_pkt_capture`. -/
def installPfCapture (re : RuleEnv) (r : Rules) (p : PortId) : Option CaptureErr × Rules :=
  let i := dpInstallPfDefaultFlow re r p
  (if i.1 then none else some .rteRuleAdd, i.2)

def Config.setCaptured (c : Config) (p : PortId) : Config :=
  { c with port := Function.update c.port p { c.port p with captured := true } }

def dpEnablePktCapture (cf : Conf) (re : RuleEnv) (s : CaptureSys) (p : PortId) : Option CaptureErr × CaptureSys :=
  if !(s.cfg.port p).allocated then (some .noVm, s)
  else if (s.cfg.port p).captured then (some .alreadyActive, s)
  else
    let d := dpDestroyDefaultFlow re s.rules p
    if !d.1 then (some .rteRuleDel, { s with rules := d.2 })
    else
      let i := if cf.isPf p then installPfCapture re d.2 p else installVfCapture re d.2 p
      match i.1 with
      | some er => (some er, { s with rules := i.2 })
      | none => (none, { s with rules := i.2, cfg := s.cfg.setCaptured p })

/-- `dp_disable_pkt_capture_on_all_ifaces` from the port list onwards, with the count so far. It calls
`dp_enable_pkt_capture`. -/
def dpDisablePktCaptureOnAllIfaces (cf : Conf) (re : RuleEnv) :
    List PortId → ℕ → CaptureSys → Except CaptureErr ℕ × CaptureSys
  | [], count, s => (.ok count, s)
  | p :: ps, count, s =>
    if (s.cfg.port p).allocated && (s.cfg.port p).captured then
      match dpEnablePktCapture cf re s p with
      | (some er, s) => (.error er, s)
      | (none, s) => dpDisablePktCaptureOnAllIfaces cf re ps (count + 1) s
    else dpDisablePktCaptureOnAllIfaces cf re ps count s

/-- An interface named by a capture request. -/
inductive CaptureIface where
  | singleVf (id : Id64)
  | singlePf (index : UInt16)
  deriving DecidableEq

def Conf.dpGetPortByPfIndex (cf : Conf) (index : UInt16) : Option PortId :=
  if index = 0 then some cf.pf0 else if index = 1 then some cf.pf1 else none

def capturePort (cf : Conf) (c : Config) : CaptureIface → Option PortId
  | .singleVf id => c.ifaceIdTable id
  | .singlePf index => cf.dpGetPortByPfIndex index

/-- The loop of `dp_process_capture_start`; it ends at the first failure. -/
def captureStartLoop (cf : Conf) (re : RuleEnv) : List CaptureIface → CaptureSys → Option CaptureErr × CaptureSys
  | [], s => (none, s)
  | i :: is, s =>
    match capturePort cf s.cfg i with
    | none => (some .notFound, s)
    | some p =>
      match dpEnablePktCapture cf re s p with
      | (some er, s) => (some er, s)
      | (none, s) => captureStartLoop cf re is s

/-- `dp_process_capture_start`; `none` is success. -/
def CaptureSys.dpProcessCaptureStart (cf : Conf) (re : RuleEnv) (s : CaptureSys) (ifaces : List CaptureIface) :
    Option CaptureErr × CaptureSys :=
  if !cf.offloadEnabled then (some .notActive, s)
  else if s.enabled then (some .alreadyActive, s)
  else
    match captureStartLoop cf re ifaces s with
    | (none, s) => (none, { s with enabled := true })
    | (some er, s) =>
      match dpDisablePktCaptureOnAllIfaces cf re cf.portList 0 s with
      | (.error _, s) => (some .rollback, s)
      | (.ok _, s) => (some er, s)

/-- `dp_process_capture_stop`: the number of ports that were turned off, or an error. -/
def CaptureSys.dpProcessCaptureStop (cf : Conf) (re : RuleEnv) (s : CaptureSys) : Except CaptureErr ℕ × CaptureSys :=
  if !s.enabled then (.error .notActive, s)
  else
    match dpDisablePktCaptureOnAllIfaces cf re cf.portList 0 s with
    | (.error er, s) => (.error er, s)
    | (.ok count, s) => (.ok count, { s with enabled := false })

/-! ## The requests together -/

/-- The requests that touch the default rules. -/
inductive CaptureEvent where
  | captureStart (ifaces : List CaptureIface) (re : RuleEnv)
  | captureStop (re : RuleEnv)
  | createInterface (pciName id : Id64) (vni : Vni) (ip4 : Ip4) (ip6 : Ip6) (total pub : UInt64) (e : Env)
    (re : RuleEnv)
  | deleteInterface (id : Id64) (e : Env) (re : RuleEnv)

/-- `dp_process_create_interface` with the jump rule that `dp_start_port` installs as its last call; the process is
aborted where the rule cannot be installed. -/
def captureCreate (cf : Conf) (e : Env) (re : RuleEnv) (s : CaptureSys) (pciName id : Id64) (vni : Vni) (ip4 : Ip4)
    (ip6 : Ip6) (total pub : UInt64) : Option CaptureSys :=
  match dpProcessCreateInterface cf e s.cfg pciName id vni ip4 ip6 total pub, cf.dpGetPortByName pciName with
  | (.ulAddr _, c), some p =>
    if cf.offloadEnabled && !cf.isPf p then
      let i := dpInstallVfDefaultJumpFlow re s.rules p
      if i.1 then some { s with cfg := c, rules := i.2 } else none
    else some { s with cfg := c }
  | (_, c), _ => some { s with cfg := c }

/-- `dp_process_delete_interface` with the rules that `dp_stop_port` destroys first; where that fails, the port is not
stopped. -/
def captureDelete (cf : Conf) (e : Env) (re : RuleEnv) (s : CaptureSys) (id : Id64) : CaptureSys :=
  match s.cfg.ifaceIdTable id with
  | none => s
  | some p =>
    let d := dpDestroyDefaultFlow re s.rules p
    let e := if d.1 then e else { e with fails := .portStop :: e.fails }
    { s with cfg := (dpProcessDeleteInterface cf e s.cfg id).2.1, rules := d.2 }

def captureStep (cf : Conf) (s : CaptureSys) : CaptureEvent → Option CaptureSys
  | .captureStart ifaces re => some (s.dpProcessCaptureStart cf re ifaces).2
  | .captureStop re => some (s.dpProcessCaptureStop cf re).2
  | .createInterface pciName id vni ip4 ip6 total pub e re => captureCreate cf e re s pciName id vni ip4 ip6 total pub
  | .deleteInterface id e re => some (captureDelete cf e re s id)

/-- Capture is disabled, and no running port is captured. -/
def CaptureSys.Stopped (cf : Conf) (s : CaptureSys) : Prop :=
  s.enabled = false ∧ ∀ p ∈ cf.portList, (s.cfg.port p).allocated = true → (s.cfg.port p).captured = false

/-- After a handle was destroyed it is not passed to the hardware again. -/
def Rules.Once (r : Rules) : Prop := r.destroys.Pairwise fun later d => later.1 = d.1 → d.2 = false

/-! ## The loop over all ports -/

section Loop

variable {cf : Conf} {re : RuleEnv} {s : CaptureSys} {p : PortId}

def Config.capturing (c : Config) (p : PortId) : Bool := (c.port p).allocated && (c.port p).captured

theorem dpEnablePktCapture_capturing (h : s.cfg.capturing p = true) :
    dpEnablePktCapture cf re s p = (some .alreadyActive, s) := by
  rw [Config.capturing, Bool.and_eq_true] at h
  rw [dpEnablePktCapture, h.1, h.2]
  rfl

/-- **The loop fails at the first captured port**, and changes nothing in any case. -/
theorem dpDisablePktCaptureOnAllIfaces_eq (ps : List PortId) (count : ℕ) :
    dpDisablePktCaptureOnAllIfaces cf re ps count s =
      (if ps.any s.cfg.capturing then .error .alreadyActive else .ok count, s) := by
  induction ps with
  | nil => rfl
  | cons p ps ih =>
    rw [dpDisablePktCaptureOnAllIfaces, List.any_cons]
    change (if s.cfg.capturing p = true then _ else _) = _
    cases hp : s.cfg.capturing p with
    | true => rw [if_pos rfl, dpEnablePktCapture_capturing hp]; rfl
    | false => rw [if_neg Bool.false_ne_true, ih, Bool.false_or]

theorem stopped_iff : s.Stopped cf ↔ s.enabled = false ∧ cf.portList.any s.cfg.capturing = false := by
  refine and_congr_right fun _ => ?_
  rw [List.any_eq_false]
  refine forall₂_congr fun p _ => ?_
  rw [Config.capturing]
  cases (s.cfg.port p).allocated <;> simp

/-- **Stopping succeeds exactly when there is nothing to stop**, whatever the hardware does. -/
theorem dpProcessCaptureStop_ok_iff :
    (∃ count, (s.dpProcessCaptureStop cf re).1 = .ok count) ↔
      s.enabled = true ∧ cf.portList.any s.cfg.capturing = false := by
  unfold CaptureSys.dpProcessCaptureStop
  rw [dpDisablePktCaptureOnAllIfaces_eq]
  cases s.enabled with
  | false => simp
  | true =>
    cases cf.portList.any s.cfg.capturing with
    | true => simp
    | false => simp

theorem dpProcessCaptureStop_state (cf : Conf) (re : RuleEnv) (s : CaptureSys) :
    (s.dpProcessCaptureStop cf re).2.cfg = s.cfg ∧ (s.dpProcessCaptureStop cf re).2.rules = s.rules ∧
      ((s.dpProcessCaptureStop cf re).2.enabled = true → s.enabled = true) := by
  unfold CaptureSys.dpProcessCaptureStop
  rw [dpDisablePktCaptureOnAllIfaces_eq]
  split
  · exact ⟨rfl, rfl, id⟩
  · split
    next heq =>
      rw [Prod.mk.injEq] at heq
      exact heq.2 ▸ ⟨rfl, rfl, id⟩
    next heq =>
      rw [Prod.mk.injEq] at heq
      exact heq.2 ▸ ⟨rfl, rfl, nofun⟩

/-- After a successful stop nothing is captured. -/
theorem dpProcessCaptureStop_stopped {count : ℕ} (h : (s.dpProcessCaptureStop cf re).1 = .ok count) :
    (s.dpProcessCaptureStop cf re).2.Stopped cf := by
  obtain ⟨hen, hnone⟩ := dpProcessCaptureStop_ok_iff.mp ⟨count, h⟩
  rw [stopped_iff, (dpProcessCaptureStop_state cf re s).1, hnone]
  refine ⟨?_, rfl⟩
  simp [CaptureSys.dpProcessCaptureStop, dpDisablePktCaptureOnAllIfaces_eq, hen, hnone]

end Loop

/-! ## Handles -/

/-- The history is in order, and the stored handles of the rules in `A` are not destroyed. -/
structure RulesOk (A : RuleKey → Prop) (r : Rules) : Prop where
  once : r.Once
  old : ∀ {d}, d ∈ r.destroys → d.1 < r.next
  held : ∀ {k h}, r.handle k = some h → h < r.next
  distinct : ∀ {k k' h}, r.handle k = some h → r.handle k' = some h → k = k'
  alive : ∀ {k h}, A k → r.handle k = some h → (h, true) ∉ r.destroys

section Rules

variable {A B : RuleKey → Prop} {re : RuleEnv} {r : Rules} {p : PortId} {k : RuleKind} {q : RuleKey}

theorem RulesOk.init (A : RuleKey → Prop) : RulesOk A {} where
  once := .nil
  old := nofun
  held := nofun
  distinct := nofun
  alive _ := nofun

theorem RulesOk.mono (h : RulesOk A r) (hBA : ∀ q, B q → A q) : RulesOk B r :=
  { h with alive := fun hB => h.alive (hBA _ hB) }

/-- A rule without a stored handle may be counted as alive. -/
theorem RulesOk.of_none (h : RulesOk A r) (hBA : ∀ q, B q → A q ∨ r.handle q = none) : RulesOk B r :=
  { h with
    alive := fun {q _} hB hq => by
      rcases hBA q hB with hA | hnone
      · exact h.alive hA hq
      · rw [hnone] at hq
        cases hq }

theorem installDefault_handle_ne (hq : q ≠ (p, k)) : (installDefault re r p k).2.handle q = r.handle q := by
  unfold installDefault
  split
  · rfl
  · exact Table.add_of_ne hq ..

theorem installDefault_fail (h : (installDefault re r p k).1 = false) :
    (installDefault re r p k).2.handle = r.handle := by
  unfold installDefault at h ⊢
  split at h
  next hf => rw [if_pos hf]
  · cases h

theorem installDefault_ok (h : ∀ f ∈ re.installFails, f.1 ≠ k) : (installDefault re r p k).1 = true := by
  unfold installDefault
  rw [if_neg]
  rw [List.contains_iff_mem]
  exact fun hm => h _ hm rfl

/-- An installed rule is alive. -/
theorem RulesOk.install (h : RulesOk A r)
    (hB : ∀ q, B q → A q ∨ (q = (p, k) ∧ (installDefault re r p k).1 = true)) :
    RulesOk B (installDefault re r p k).2 := by
  unfold installDefault at hB ⊢
  split at hB
  next hf =>
    rw [if_pos hf]
    refine ⟨h.once, fun hd => Nat.lt_succ_of_lt (h.old hd), fun hq => Nat.lt_succ_of_lt (h.held hq), h.distinct, ?_⟩
    intro q n hq
    exact h.alive ((hB q hq).resolve_right fun hn => Bool.false_ne_true hn.2)
  next hf =>
    rw [if_neg hf]
    refine ⟨h.once, fun hd => Nat.lt_succ_of_lt (h.old hd), fun {q n} hq => ?_, fun {q q' n} hq hq' => ?_,
      fun {q n} hBq hq => ?_⟩
    · rcases Table.add_eq_some.mp hq with ⟨-, rfl⟩ | ⟨-, hq⟩
      · exact Nat.lt_succ_self _
      · exact Nat.lt_succ_of_lt (h.held hq)
    · rcases Table.add_eq_some.mp hq with ⟨rfl, hn⟩ | ⟨-, hq⟩ <;>
        rcases Table.add_eq_some.mp hq' with ⟨rfl, hn'⟩ | ⟨-, hq'⟩
      · rfl
      · exact absurd (h.held hq') (hn ▸ Nat.lt_irrefl _)
      · exact absurd (h.held hq) (hn' ▸ Nat.lt_irrefl _)
      · exact h.distinct hq hq'
    · rcases Table.add_eq_some.mp hq with ⟨-, rfl⟩ | ⟨hne, hq⟩
      · exact fun hd => Nat.lt_irrefl _ (h.old hd)
      · exact h.alive ((hB q hBq).resolve_right fun hn => hne hn.1) hq

@[simp] theorem destroyDefault_handle : (destroyDefault re r q).2.handle = r.handle := by
  unfold destroyDefault
  split <;> rfl

theorem destroyDefault_none (h : r.handle q = none) : destroyDefault re r q = (true, r) := by
  unfold destroyDefault
  rw [h]

/-- A destroyed rule is not alive any more; a rule whose destruction fails stays alive. -/
theorem RulesOk.destroy (h : RulesOk A r) (hq : A q)
    (hB : ∀ q', B q' → A q' ∧ (q' = q → (destroyDefault re r q).1 = false)) : RulesOk B (destroyDefault re r q).2 := by
  unfold destroyDefault at hB ⊢
  cases hr : r.handle q with
  | none => exact h.mono fun q' hq' => (hB q' hq').1
  | some n =>
    rw [hr] at hB
    dsimp only at hB ⊢
    refine ⟨List.pairwise_cons.mpr ⟨fun d hd hdn => ?_, h.once⟩, fun {d} hd => ?_, h.held, h.distinct,
      fun {q' m} hBq hm => ?_⟩
    · obtain ⟨m, ok⟩ := d
      cases hdn
      cases ok with
      | false => rfl
      | true => exact absurd hd (h.alive hq hr)
    · rcases List.mem_cons.mp hd with rfl | hd
      · exact h.held hr
      · exact h.old hd
    · obtain ⟨hA, hkeep⟩ := hB q' hBq
      intro hd
      rcases List.mem_cons.mp hd with heq | hd
      · rw [Prod.mk.injEq] at heq
        have hqq : q' = q := h.distinct hm (heq.1 ▸ hr)
        rw [hkeep hqq] at heq
        cases heq.2
      · exact h.alive hA hm hd

@[simp] theorem dpDestroyDefaultFlow_handle : (dpDestroyDefaultFlow re r p).2.handle = r.handle := by
  unfold dpDestroyDefaultFlow
  dsimp only
  split
  · exact destroyDefault_handle
  · rw [destroyDefault_handle, destroyDefault_handle]

/-- After its rules were destroyed, a port is left alone. -/
theorem RulesOk.destroyBoth (h : RulesOk A r) (hp : ∀ k, A (p, k)) (hB : ∀ q, B q → A q ∧ q.1 ≠ p) :
    RulesOk B (dpDestroyDefaultFlow re r p).2 := by
  unfold dpDestroyDefaultFlow
  dsimp only
  have hj : RulesOk (fun q => A q ∧ q ≠ (p, .jump)) (destroyDefault re r (p, .jump)).2 :=
    h.destroy (hp .jump) fun q hq => ⟨hq.1, fun heq => absurd heq hq.2⟩
  split
  · exact hj.mono fun q hq => ⟨(hB q hq).1, fun heq => (hB q hq).2 (congrArg Prod.fst heq)⟩
  · refine hj.destroy ⟨hp .capture, nofun⟩ fun q hq => ⟨⟨(hB q hq).1, fun heq => ?_⟩, fun heq => ?_⟩
    · exact (hB q hq).2 (congrArg Prod.fst heq)
    · exact absurd (congrArg Prod.fst heq) (hB q hq).2

/-- A port that is not captured has only its jump rule destroyed. -/
theorem RulesOk.destroyJump (h : RulesOk A r) (hp : A (p, .jump)) (hcap : r.handle (p, .capture) = none)
    (hB : ∀ q, B q → A q ∧ (q = (p, .jump) → (dpDestroyDefaultFlow re r p).1 = false)) :
    RulesOk B (dpDestroyDefaultFlow re r p).2 := by
  have heq : dpDestroyDefaultFlow re r p = destroyDefault re r (p, .jump) := by
    unfold dpDestroyDefaultFlow
    dsimp only
    split
    · rfl
    next hok =>
      rw [destroyDefault_none (by rw [destroyDefault_handle, hcap])]
      rw [Bool.not_eq_true, Bool.not_eq_false'] at hok
      rw [← hok]
  rw [heq] at hB ⊢
  exact h.destroy hp hB

end Rules

/-! ## The invariant -/

/-- The rules that a request may still destroy. -/
def Alive (cf : Conf) (c : Config) (q : RuleKey) : Prop := (c.port q.1).iface.ready = true ∨ cf.isPf q.1 = true

/-- What the requests keep, as long as no handle of a destroyed rule is used again. -/
structure CaptureInv (cf : Conf) (s : CaptureSys) : Prop where
  ports : PortsOk cf s.cfg
  rules : RulesOk (Alive cf s.cfg) s.rules
  plain : ∀ {p}, (s.cfg.port p).captured = false → s.rules.handle (p, .capture) = none
  pfJump : ∀ {p}, cf.isPf p = true → s.rules.handle (p, .jump) = none
  off : cf.offloadEnabled = false →
    s.enabled = false ∧ (∀ p, (s.cfg.port p).captured = false) ∧ ∀ q, s.rules.handle q = none

theorem CaptureInv.init (cf : Conf) : CaptureInv cf (CaptureSys.init cf) where
  ports := .init cf
  rules := .init _
  plain _ := rfl
  pfJump _ := rfl
  off _ := ⟨rfl, fun _ => rfl, fun _ => rfl⟩

section Enable

variable {cf : Conf} {re : RuleEnv} {s : CaptureSys} {A : RuleKey → Prop} {r : Rules} {p : PortId}

/-- What turning capture on does to the rules of port `p`: afterwards all rules are alive, and without success there is
no capture rule. -/
structure Enabled (A : RuleKey → Prop) (p : PortId) (r : Rules) (i : Option CaptureErr × Rules) : Prop where
  rules : RulesOk A i.2
  plain : i.1 ≠ none → i.2.handle (p, .capture) = none
  other : ∀ {q : RuleKey}, q.1 ≠ p → i.2.handle q = r.handle q

/-- The jump rule was destroyed and is installed again, twice where the capture rule is refused. -/
theorem installVfCapture_enabled (h : RulesOk (fun q => A q ∧ q ≠ (p, .jump)) r) (hp : A (p, .jump))
    (hcap : r.handle (p, .capture) = none) (hre : ∀ f ∈ re.installFails, f.1 ≠ .jump) :
    Enabled A p r (installVfCapture re r p) := by
  have hne : ∀ {q : RuleKey} {k}, q.1 ≠ p → q ≠ (p, k) := fun hq heq => hq (congrArg Prod.fst heq)
  have hcj : ((p, .capture) : RuleKey) ≠ (p, .jump) := nofun
  have hback : ∀ {r : Rules}, RulesOk (fun q => A q ∧ q ≠ (p, .jump)) r →
      RulesOk A (installDefault re r p .jump).2 := by
    intro r hr
    refine hr.install fun q hq => ?_
    by_cases hj : q = (p, .jump)
    · exact .inr ⟨hj, installDefault_ok hre⟩
    · exact .inl ⟨hq, hj⟩
  unfold installVfCapture dpInstallVfDefaultJumpFlow dpInstallVfDefaultCaptureFlow
  dsimp only
  rw [installDefault_ok hre, if_neg (by decide : ¬(!true) = true)]
  have hj := hback h
  have hjcap : (installDefault re r p .jump).2.handle (p, .capture) = none :=
    (installDefault_handle_ne hcj).trans hcap
  have hjother : ∀ {q : RuleKey}, q.1 ≠ p → (installDefault re r p .jump).2.handle q = r.handle q := fun hq =>
    installDefault_handle_ne (hne hq)
  generalize (installDefault re r p .jump).2 = rj at hj hjcap hjother
  have hk : RulesOk A (installDefault re rj p .capture).2 := hj.install fun q hq => .inl hq
  have hkother : ∀ {q : RuleKey}, q.1 ≠ p → (installDefault re rj p .capture).2.handle q = r.handle q := fun hq =>
    (installDefault_handle_ne (hne hq)).trans (hjother hq)
  cases hok : (installDefault re rj p .capture).1 with
  | true =>
    rw [if_pos rfl]
    exact ⟨hk, fun hn => absurd rfl hn, hkother⟩
  | false =>
    rw [if_neg Bool.false_ne_true]
    have hkcap : (installDefault re rj p .capture).2.handle (p, .capture) = none := by
      rw [installDefault_fail hok]
      exact hjcap
    generalize (installDefault re rj p .capture).2 = rk at hk hkother hkcap
    cases hd : (dpDestroyDefaultFlow re rk p).1 with
    | false =>
      rw [if_pos (by decide : (!false) = true)]
      refine ⟨hk.destroyJump hp hkcap fun q hq => ⟨hq, fun _ => hd⟩, fun _ => ?_, fun hq => ?_⟩
      · rw [dpDestroyDefaultFlow_handle]
        exact hkcap
      · rw [dpDestroyDefaultFlow_handle]
        exact hkother hq
    | true =>
      rw [if_neg (by decide : ¬(!true) = true)]
      refine ⟨hback (hk.destroyJump hp hkcap fun q hq => ⟨hq.1, fun heq => absurd heq hq.2⟩), fun _ => ?_, fun hq => ?_⟩
      · exact (installDefault_handle_ne hcj).trans (by rw [dpDestroyDefaultFlow_handle]; exact hkcap)
      · exact (installDefault_handle_ne (hne hq)).trans (by rw [dpDestroyDefaultFlow_handle]; exact hkother hq)

theorem installPfCapture_enabled (h : RulesOk A r) (hcap : r.handle (p, .capture) = none) :
    Enabled A p r (installPfCapture re r p) := by
  unfold installPfCapture dpInstallPfDefaultFlow
  refine ⟨h.install fun q hq => .inl hq, fun hn => ?_, fun hq => ?_⟩
  · cases hok : (installDefault re r p .capture).1 with
    | true => simp [hok] at hn
    | false =>
      show (installDefault re r p .capture).2.handle _ = none
      rw [installDefault_fail hok]
      exact hcap
  · exact installDefault_handle_ne fun heq => hq (congrArg Prod.fst heq)

@[simp] theorem setCaptured_iface (c : Config) (p q : PortId) :
    ((c.setCaptured p).port q).iface = (c.port q).iface := by
  unfold Config.setCaptured
  by_cases hq : q = p
  · subst hq
    simp
  · simp [Function.update_of_ne hq]

@[simp] theorem setCaptured_allocated (c : Config) (p q : PortId) :
    ((c.setCaptured p).port q).allocated = (c.port q).allocated := by
  unfold Config.setCaptured
  by_cases hq : q = p
  · subst hq
    simp
  · simp [Function.update_of_ne hq]

theorem PortsOk.setCaptured {c : Config} (h : PortsOk cf c) (p : PortId) : PortsOk cf (c.setCaptured p) where
  ready := by
    simp only [setCaptured_iface, setCaptured_allocated]
    exact h.ready
  idle := by
    simp only [setCaptured_iface]
    exact h.idle
  mapped := by
    simp only [setCaptured_iface]
    exact h.mapped
  pf := by
    simp only [setCaptured_allocated]
    exact h.pf
  uses := h.uses

/-- The rules of a port change, and it is noted whether it is captured now. -/
theorem CaptureInv.enabled (h : CaptureInv cf s) (hoff : cf.offloadEnabled = true)
    {i : Option CaptureErr × Rules} (hi : Enabled (Alive cf s.cfg) p s.rules i)
    (hj : cf.isPf p = true → i.2.handle (p, .jump) = none) :
    CaptureInv cf (match i.1 with
      | some _ => { s with rules := i.2 }
      | none => { s with rules := i.2, cfg := s.cfg.setCaptured p }) := by
  have hpf : ∀ {q}, cf.isPf q = true → i.2.handle (q, .jump) = none := by
    intro q hq
    by_cases hqp : q = p
    · exact hqp ▸ hj (hqp ▸ hq)
    · exact (hi.other hqp).trans (h.pfJump hq)
  have hplain : ∀ {q}, q ≠ p → (s.cfg.port q).captured = false → i.2.handle (q, .capture) = none := fun hqp hq =>
    (hi.other hqp).trans (h.plain hq)
  split
  next er heq =>
    refine ⟨h.ports, hi.rules, fun {q} hq => ?_, hpf, fun hn => ?_⟩
    · by_cases hqp : q = p
      · subst hqp
        exact hi.plain (by rw [heq]; nofun)
      · exact hplain hqp hq
    · rw [hoff] at hn
      cases hn
  next heq =>
    refine ⟨h.ports.setCaptured p, hi.rules.mono fun q hq => ?_, fun {q} hq => ?_, hpf, fun hn => ?_⟩
    · simpa [Alive] using hq
    · by_cases hqp : q = p
      · subst hqp
        simp [Config.setCaptured] at hq
      · exact hplain hqp (by simpa [Config.setCaptured, Function.update_of_ne hqp] using hq)
    · rw [hoff] at hn
      cases hn

theorem dpDestroyDefaultFlow_none (hj : r.handle (p, .jump) = none) (hc : r.handle (p, .capture) = none) :
    dpDestroyDefaultFlow re r p = (true, r) := by
  unfold dpDestroyDefaultFlow
  rw [destroyDefault_none hj]
  exact destroyDefault_none hc

/-- Capture is turned on for a port that is in use. -/
theorem CaptureInv.enable (h : CaptureInv cf s) (hoff : cf.offloadEnabled = true)
    (hre : ∀ f ∈ re.installFails, f.1 ≠ .jump) (hp : ∀ k, Alive cf s.cfg (p, k)) :
    CaptureInv cf (dpEnablePktCapture cf re s p).2 ∧ (dpEnablePktCapture cf re s p).2.enabled = s.enabled := by
  unfold dpEnablePktCapture
  dsimp only
  split
  · exact ⟨h, rfl⟩
  · split
    · exact ⟨h, rfl⟩
    next hal hcapt =>
      have hcap : s.rules.handle (p, .capture) = none := h.plain (Bool.eq_false_iff.mpr hcapt)
      cases hpf : cf.isPf p with
      | true =>
        rw [dpDestroyDefaultFlow_none (h.pfJump hpf) hcap, if_neg (by decide : ¬(!true) = true), if_pos rfl]
        have hi : Enabled (Alive cf s.cfg) p s.rules (installPfCapture re s.rules p) :=
          installPfCapture_enabled h.rules hcap
        have hjc : ((p, .jump) : RuleKey) ≠ (p, .capture) := nofun
        have hinv := h.enabled hoff hi fun _ => (installDefault_handle_ne hjc).trans (h.pfJump hpf)
        split
        next heq =>
          rw [heq] at hinv
          exact ⟨hinv, rfl⟩
        next heq =>
          rw [heq] at hinv
          exact ⟨hinv, rfl⟩
      | false =>
        have hother : ∀ q, (dpDestroyDefaultFlow re s.rules p).2.handle q = s.rules.handle q := fun q =>
          congrFun dpDestroyDefaultFlow_handle q
        split
        next hd =>
          rw [Bool.not_eq_true'] at hd
          refine ⟨⟨h.ports, h.rules.destroyJump (hp .jump) hcap fun q hq => ⟨hq, fun _ => hd⟩, fun hq => ?_,
            fun hq => ?_, fun hn => ?_⟩, rfl⟩
          · exact (hother _).trans (h.plain hq)
          · exact (hother _).trans (h.pfJump hq)
          · rw [hoff] at hn
            cases hn
        · rw [if_neg Bool.false_ne_true]
          have hi : Enabled (Alive cf s.cfg) p s.rules
              (installVfCapture re (dpDestroyDefaultFlow re s.rules p).2 p) := by
            have hrest : RulesOk (fun q => Alive cf s.cfg q ∧ q ≠ (p, .jump)) (dpDestroyDefaultFlow re s.rules p).2 :=
              h.rules.destroyJump (hp .jump) hcap fun q hq => ⟨hq.1, fun heq => absurd heq hq.2⟩
            have hd := installVfCapture_enabled hrest (hp .jump) ((hother _).trans hcap) hre
            exact ⟨hd.rules, hd.plain, fun hq => (hd.other hq).trans (hother _)⟩
          have hinv := h.enabled hoff hi fun hq => absurd hq (by rw [hpf]; decide)
          split
          next heq =>
            rw [heq] at hinv
            exact ⟨hinv, rfl⟩
          next heq =>
            rw [heq] at hinv
            exact ⟨hinv, rfl⟩

/-- The ports that a capture request can name are in use. -/
theorem CaptureInv.alive (h : CaptureInv cf s) {i : CaptureIface} (hi : capturePort cf s.cfg i = some p)
    (k : RuleKind) : Alive cf s.cfg (p, k) := by
  cases i with
  | singleVf id => exact .inl (h.ports.mapped.mp hi).1
  | singlePf index =>
    refine .inr ?_
    simp only [capturePort, Conf.dpGetPortByPfIndex] at hi
    split at hi
    · cases hi
      simp [Conf.isPf]
    · split at hi
      · cases hi
        simp [Conf.isPf]
      · cases hi

theorem CaptureInv.startLoop (hoff : cf.offloadEnabled = true) (hre : ∀ f ∈ re.installFails, f.1 ≠ .jump) :
    ∀ (is : List CaptureIface) {s : CaptureSys}, CaptureInv cf s →
      CaptureInv cf (captureStartLoop cf re is s).2 ∧ (captureStartLoop cf re is s).2.enabled = s.enabled
  | [], s, h => ⟨h, rfl⟩
  | i :: is, s, h => by
    rw [captureStartLoop]
    split
    · exact ⟨h, rfl⟩
    next p hp =>
      have he := h.enable hoff hre (h.alive hp)
      split
      next heq =>
        rw [heq] at he
        exact he
      next heq =>
        rw [heq] at he
        have hl := startLoop hoff hre is he.1
        exact ⟨hl.1, hl.2.trans he.2⟩

end Enable

/-! ## The requests keep the invariant -/

/-- The steps that do not run into a handle of a destroyed rule or into the call of the wrong function: capture is
started while it is off and gets its jump rules, it is stopped while nothing is captured, and no interface is created on
a port that was captured before. -/
def CaptureSafe (cf : Conf) (s : CaptureSys) : CaptureEvent → Prop
  | .captureStart _ re => s.enabled = false ∧ ∀ f ∈ re.installFails, f.1 ≠ .jump
  | .captureStop _ => ∀ p ∈ cf.portList, (s.cfg.port p).allocated = true → (s.cfg.port p).captured = false
  | .createInterface pciName .. =>
    ∀ p ∈ cf.dpGetPortByName pciName, (s.cfg.port p).allocated = false → (s.cfg.port p).captured = false
  | .deleteInterface .. => True

instance (cf : Conf) (s : CaptureSys) : ∀ ev, Decidable (CaptureSafe cf s ev)
  | .captureStart _ re => inferInstanceAs (Decidable (s.enabled = false ∧ ∀ f ∈ re.installFails, f.1 ≠ .jump))
  | .captureStop _ => inferInstanceAs (Decidable (∀ p ∈ cf.portList, _ → _))
  | .createInterface pciName .. => inferInstanceAs (Decidable (∀ p ∈ cf.dpGetPortByName pciName, _ → _))
  | .deleteInterface .. => inferInstanceAs (Decidable True)

section Steps

variable {cf : Conf} {re : RuleEnv} {e : Env} {s s' : CaptureSys} {c : Config} {p : PortId}

/-- The configuration changes without new ports in use. -/
theorem CaptureInv.setCfg (h : CaptureInv cf s) (hc : PortsOk cf c)
    (hready : ∀ q, (c.port q).iface.ready = true → (s.cfg.port q).iface.ready = true)
    (hcap : ∀ q, (c.port q).captured = (s.cfg.port q).captured) : CaptureInv cf { s with cfg := c } where
  ports := hc
  rules := h.rules.mono fun _ hq => hq.imp_left (hready _)
  plain hq := h.plain ((hcap _).symm.trans hq)
  pfJump := h.pfJump
  off hn := ⟨(h.off hn).1, fun q => (hcap q).trans ((h.off hn).2.1 q), (h.off hn).2.2⟩

theorem CaptureInv.undone {n : NewIface} (h : CaptureInv cf s) (hal : (s.cfg.port n.p).allocated = false)
    (hu : Undone s.cfg n c) : CaptureInv cf { s with cfg := c } := by
  obtain ⟨i, hi, hcases⟩ := hu.port
  refine h.setCfg (h.ports.undone hal hu) (fun q hq => ?_) fun q => ?_
  all_goals by_cases hqp : q = n.p
  · subst hqp
    rw [hi] at hq
    rcases hcases with rfl | rfl | rfl
    · cases hq
    · exact hq
    · exact hq
  · exact hu.other hqp ▸ hq
  · rw [hqp, hi]
  · rw [hu.other hqp]

/-- A new interface on a port that was not captured: it has a fresh jump rule, or there are no rules at all. -/
theorem CaptureInv.created {n : NewIface} (re : RuleEnv) (h : CaptureInv cf s)
    (hal : (s.cfg.port n.p).allocated = false)
    (hport : cf.hasPort n.p = true) (hcapt : (s.cfg.port n.p).captured = false) (hc : Created s.cfg n c) {r : Rules}
    (hr : (cf.offloadEnabled = true ∧ r = (installDefault re s.rules n.p .jump).2 ∧
        (installDefault re s.rules n.p .jump).1 = true) ∨ (cf.offloadEnabled = false ∧ r = s.rules)) :
    CaptureInv cf { s with cfg := c, rules := r } := by
  obtain ⟨a, b, hi⟩ := hc.port
  have hcap : ∀ q, (c.port q).captured = (s.cfg.port q).captured := by
    intro q
    by_cases hqp : q = n.p
    · rw [hqp, hi]
    · rw [hc.other hqp]
  have hpf : cf.isPf n.p = false := by
    cases hpf : cf.isPf n.p with
    | false => rfl
    | true =>
      rw [h.ports.pf hpf] at hal
      cases hal
  have halive : ∀ q : RuleKey, Alive cf c q → Alive cf s.cfg q ∨ q.1 = n.p := by
    intro q hq
    by_cases hqp : q.1 = n.p
    · exact .inr hqp
    · exact .inl (hq.imp_left (hc.other hqp ▸ ·))
  rcases hr with ⟨hoff, rfl, hok⟩ | ⟨hoff, rfl⟩
  · have hcj : ∀ {q}, ((q, .capture) : RuleKey) ≠ (n.p, .jump) := nofun
    refine ⟨h.ports.created hal hport hc, ?_, fun hq => ?_, fun {q} hq => ?_, fun hn => ?_⟩
    · have hbase : RulesOk (fun q => Alive cf s.cfg q ∨ q = (n.p, .capture)) s.rules := by
        refine h.rules.of_none ?_
        rintro q (hq | rfl)
        · exact .inl hq
        · exact .inr (h.plain hcapt)
      refine hbase.install fun q hq => ?_
      rcases halive q hq with hold | hqp
      · exact .inl (.inl hold)
      · obtain ⟨q, k⟩ := q
        cases hqp
        cases k with
        | jump => exact .inr ⟨rfl, hok⟩
        | capture => exact .inl (.inr rfl)
    · exact (installDefault_handle_ne hcj).trans (h.plain ((hcap _).symm.trans hq))
    · refine (installDefault_handle_ne fun heq => ?_).trans (h.pfJump hq)
      cases heq
      rw [hpf] at hq
      cases hq
    · rw [hoff] at hn
      cases hn
  · obtain ⟨hen, hnone, hempty⟩ := h.off hoff
    exact ⟨h.ports.created hal hport hc, h.rules.of_none fun q _ => .inr (hempty q), fun _ => hempty _,
      fun _ => hempty _, fun _ => ⟨hen, fun q => (hcap q).trans (hnone q), hempty⟩⟩

theorem CaptureInv.create {pciName id : Id64} {vni : Vni} {ip4 : Ip4} {ip6 : Ip6} {total pub : UInt64}
    (h : CaptureInv cf s)
    (hsafe : ∀ p ∈ cf.dpGetPortByName pciName, (s.cfg.port p).allocated = false → (s.cfg.port p).captured = false)
    (hs : captureCreate cf e re s pciName id vni ip4 ip6 total pub = some s') : CaptureInv cf s' := by
  have hcase := dpProcessCreateInterface_cases cf e s.cfg pciName id vni ip4 ip6 total pub
  unfold captureCreate at hs
  generalize dpProcessCreateInterface cf e s.cfg pciName id vni ip4 ip6 total pub = r at hcase hs
  cases hcase with
  | refused =>
    cases hs
    exact h
  | noVnf =>
    cases hs
    exact h.setCfg (h.ports.same (.refl rfl rfl h.ports.uses)) (fun _ hq => hq) fun _ => rfl
  | undone _ hal _ hun =>
    cases hs
    exact h.undone hal (hun h.ports.uses)
  | @created p _ hname hal _ hcr =>
    have hport : cf.hasPort p = true := dpGetPortByName_hasPort hname
    have hcapt := hsafe p hname hal
    have hcreated := fun r => h.created re hal hport hcapt hcr (r := r)
    rw [hname] at hs
    dsimp only at hs
    have hpf : cf.isPf p = false := by
      cases hpf : cf.isPf p with
      | false => rfl
      | true =>
        rw [h.ports.pf hpf] at hal
        cases hal
    cases hoff : cf.offloadEnabled with
    | true =>
      rw [hoff, hpf] at hs
      simp only [Bool.not_false, Bool.and_self, if_true] at hs
      split at hs
      next hok =>
        cases hs
        exact hcreated _ (.inl ⟨hoff, rfl, hok⟩)
      · cases hs
    | false =>
      rw [hoff] at hs
      simp only [Bool.false_and, Bool.false_eq_true, if_false] at hs
      cases hs
      exact hcreated _ (.inr ⟨hoff, rfl⟩)

/-- A deletion destroys the rules of a port that is not in use afterwards. -/
theorem CaptureInv.delete (h : CaptureInv cf s) (id : Id64) : CaptureInv cf (captureDelete cf e re s id) := by
  unfold captureDelete
  split
  · exact h
  next p hp =>
    dsimp only
    generalize (if (dpDestroyDefaultFlow re s.rules p).1 = true then e else { e with fails := .portStop :: e.fails }) =
      e'
    rcases dpProcessDeleteInterface_cases cf e' s.cfg id with ⟨hnone, -⟩ | ⟨q, hq, hd, -⟩
    · rw [hp] at hnone
      cases hnone
    · rw [hp] at hq
      cases hq
      obtain ⟨a, hi⟩ := hd.port
      have hother : ∀ q, (dpDestroyDefaultFlow re s.rules p).2.handle q = s.rules.handle q := fun q =>
        congrFun dpDestroyDefaultFlow_handle q
      have hready := (h.ports.mapped.mp hp).1
      have hcap : ∀ q, ((dpProcessDeleteInterface cf e' s.cfg id).2.1.port q).captured = (s.cfg.port q).captured := by
        intro q
        by_cases hqp : q = p
        · rw [hqp, hi]
        · rw [hd.other hqp]
      refine ⟨h.ports.deleted hp hd, h.rules.destroyBoth (fun _ => .inl hready) fun q hq => ?_, fun {q} hq => ?_,
        fun hq => (hother _).trans (h.pfJump hq), fun hn => ?_⟩
      · have hqp : q.1 ≠ p := by
          intro hqp
          rcases hq with hr | hpf
          · rw [hqp, hi] at hr
            cases hr
          · rw [hqp, (h.ports.ready hready).2.1] at hpf
            cases hpf
        exact ⟨hq.imp_left (hd.other hqp ▸ ·), hqp⟩
      · exact (hother _).trans (h.plain ((hcap q).symm.trans hq))
      · obtain ⟨hen, hcapt, hempty⟩ := h.off hn
        exact ⟨hen, fun q => (hcap q).trans (hcapt q), fun q => (hother q).trans (hempty q)⟩

theorem CaptureInv.setEnabled (h : CaptureInv cf s) {b : Bool} (hb : b = true → cf.offloadEnabled = true) :
    CaptureInv cf { s with enabled := b } :=
  { h with
    off := fun hn => ⟨Bool.eq_false_iff.mpr fun ht => (by rw [hb ht] at hn; cases hn), (h.off hn).2⟩ }

/-- Starting keeps the invariant, and leaves nothing captured where it fails without `ROLLBACK`. -/
theorem CaptureInv.start (h : CaptureInv cf s) (hen : s.enabled = false) (hre : ∀ f ∈ re.installFails, f.1 ≠ .jump)
    (is : List CaptureIface) :
    CaptureInv cf (s.dpProcessCaptureStart cf re is).2 ∧
      ∀ er, (s.dpProcessCaptureStart cf re is).1 = some er → er ≠ .rollback →
        (s.dpProcessCaptureStart cf re is).2.Stopped cf := by
  unfold CaptureSys.dpProcessCaptureStart
  cases hoff : cf.offloadEnabled with
  | false =>
    refine ⟨h, fun er _ _ => ⟨hen, fun p _ _ => (h.off hoff).2.1 p⟩⟩
  | true =>
    rw [if_neg (by decide : ¬(!true) = true), hen, if_neg Bool.false_ne_true]
    have hl := CaptureInv.startLoop hoff hre is h
    generalize captureStartLoop cf re is s = l at hl
    obtain ⟨res, s₁⟩ := l
    cases res with
    | none => exact ⟨hl.1.setEnabled fun _ => hoff, nofun⟩
    | some er =>
      dsimp only
      rw [dpDisablePktCaptureOnAllIfaces_eq]
      cases hany : cf.portList.any s₁.cfg.capturing with
      | true => exact ⟨hl.1, fun er' her hne => absurd (Option.some.inj her).symm hne⟩
      | false => exact ⟨hl.1, fun _ _ _ => stopped_iff.mpr ⟨hl.2.trans hen, hany⟩⟩

theorem CaptureInv.stop (h : CaptureInv cf s) : CaptureInv cf (s.dpProcessCaptureStop cf re).2 := by
  obtain ⟨hcfg, hrules, hen⟩ := dpProcessCaptureStop_state cf re s
  generalize (s.dpProcessCaptureStop cf re).2 = s₁ at hcfg hrules hen
  obtain ⟨c, r, b⟩ := s₁
  cases hcfg
  cases hrules
  refine h.setEnabled fun hb => ?_
  cases hoff : cf.offloadEnabled with
  | true => rfl
  | false => exact absurd ((h.off hoff).1) (by rw [hen hb]; decide)

theorem CaptureInv.step (h : CaptureInv cf s) {ev : CaptureEvent} (hev : CaptureSafe cf s ev)
    (hs : captureStep cf s ev = some s') : CaptureInv cf s' := by
  cases ev with
  | captureStart is re =>
    cases hs
    exact (h.start hev.1 hev.2 is).1
  | captureStop re =>
    cases hs
    exact h.stop
  | createInterface pciName id vni ip4 ip6 total pub e re => exact h.create hev hs
  | deleteInterface id e re =>
    cases hs
    exact h.delete id

end Steps

/-! ## The lifecycle of a capture -/

/-- What the answer to a capture request promises. -/
def CaptureOk (cf : Conf) (s : CaptureSys) : CaptureEvent → Prop
  | .captureStart is re => ∀ er, (s.dpProcessCaptureStart cf re is).1 = some er → er ≠ .rollback →
      (s.dpProcessCaptureStart cf re is).2.Stopped cf
  | .captureStop re =>
    (∀ count, (s.dpProcessCaptureStop cf re).1 = .ok count → (s.dpProcessCaptureStop cf re).2.Stopped cf) ∧
      (s.enabled = true → re = {} → ∃ count, (s.dpProcessCaptureStop cf re).1 = .ok count)
  | .createInterface .. | .deleteInterface .. => True

section Main

variable {cf : Conf} {es : List CaptureEvent} {s : CaptureSys} {ev : CaptureEvent}

/-- **Captures are started and stopped cleanly**, and no handle is used after its rule was destroyed, as long as the
steps are safe. -/
theorem capture_lifecycle (hP : Along (captureStep cf) (CaptureSafe cf) (CaptureSys.init cf) es)
    (h : run (captureStep cf) (CaptureSys.init cf) es = some s) (hev : CaptureSafe cf s ev) :
    s.rules.Once ∧ CaptureOk cf s ev := by
  have hinv : CaptureInv cf s := run_invariant (fun _ _ _ hi hp hs => hi.step hp hs) (.init cf) hP h
  refine ⟨hinv.rules.once, ?_⟩
  cases ev with
  | captureStart is re => exact (hinv.start hev.1 hev.2 is).2
  | captureStop re =>
    refine ⟨fun _ hok => dpProcessCaptureStop_stopped hok, fun hen _ => dpProcessCaptureStop_ok_iff.mpr ⟨hen, ?_⟩⟩
    exact (stopped_iff (s := { s with enabled := false }).mp ⟨rfl, hev⟩).2
  | createInterface | deleteInterface => trivial

end Main

def createSeven : CaptureEvent := .createInterface 2 7 100 0x0a000001 0xfd00 0 0 {} {}

def captureSeven : List CaptureEvent :=
  [createSeven, .captureStart [.singleVf 7] {}, .deleteInterface 7 {} {}]

/-- After the deletion of the only captured interface, the capture can be stopped. -/
theorem capture_lifecycle_deleted :
    ∃ s, run (captureStep offloadConf) (CaptureSys.init offloadConf) captureSeven = some s ∧
      s.enabled = true ∧ s.rules.destroys.length = 3 ∧ s.rules.Once ∧ CaptureOk offloadConf s (.captureStop {}) := by
  refine exists_some_imp (P := fun s => s.enabled = true ∧ s.rules.destroys.length = 3 ∧
    CaptureSafe offloadConf s (.captureStop {})) (by decide +kernel) ?_
  rintro s hs ⟨hon, hlen, hsafe⟩
  exact ⟨hon, hlen, capture_lifecycle (by decide +kernel) hs hsafe⟩

/-- A running capture cannot be stopped although every call into the hardware succeeds; and an interface that is created
on a captured port has the rules of the former interface destroyed once more. -/
theorem capture_not_stopped :
    (∃ s, run (captureStep offloadConf) (CaptureSys.init offloadConf)
        [createSeven, .captureStart [.singleVf 7] {}] = some s ∧
      s.enabled = true ∧ (s.dpProcessCaptureStop offloadConf {}).1 = .error .alreadyActive) ∧
    ∃ s, run (captureStep offloadConf) (CaptureSys.init offloadConf)
        (captureSeven ++ [createSeven, .deleteInterface 7 {} {}]) = some s ∧ ¬s.rules.Once := by
  constructor
  · refine exists_some_imp (P := fun s => s.enabled = true ∧ offloadConf.portList.any s.cfg.capturing = true)
      (by decide +kernel) ?_
    rintro s - ⟨hon, hany⟩
    exact ⟨hon, by simp [CaptureSys.dpProcessCaptureStop, dpDisablePktCaptureOnAllIfaces_eq, hon, hany]⟩
  · refine exists_some_imp
      (P := fun s => s.rules.destroys = [(2, true), (3, true), (2, true), (1, true), (0, true)]) (by decide +kernel) ?_
    intro s _ hd
    rw [Rules.Once, hd]
    decide

end Dpservice
