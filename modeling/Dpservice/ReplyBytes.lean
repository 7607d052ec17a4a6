import Dpservice.GrpcReply
import Dpservice.GrpcCases
import Dpservice.Service

/-!
# Replies hold only data written for them

Every byte that a call reads from a reply was written by the handler of its request, with one exception: the call that
creates a firewall rule reads the name of the rule, which the handler does not write.

- `within_get`, `within_str`, `within_addr`: a field, a string or an address that was written may be read.
- `captureStatus_within`: the reply whose layout depends on its contents.
- `reply_written`: all requests.
-/

namespace Dpservice

open Reader

/-! ## Fields that were written -/

section Fields

variable {S : ℕ → Prop} {m : Buffer} {ws ws' : List Write} {f : Field} {v a : ℕ}

theorem within_get (h : ∀ i < f.size, S (f.off + i)) : f.get.Within S m := within_readBytes f.size h

/-- A number that was written can be read. -/
theorem within_num (h : f.num v ∈ ws) : f.get.Within (Written ws) m :=
  within_get fun _ hi => .of_mem h (Nat.le_add_right ..) (by simpa [Field.num] using hi)

theorem within_raw (h : f.raw v ∈ ws) : f.get.Within (Written ws) m :=
  within_get fun _ hi => .of_mem h (Nat.le_add_right ..) (by simpa [Field.raw] using hi)

/-- A string ends where its array has a zero byte that no later write touches. -/
theorem within_str (ws ws' : List Write) {w : Write} (hoff : w.off = f.off) (hz : 0 ∈ w.bytes)
    (hlater : ∀ i < w.bytes.length, ¬ Written ws' (f.off + i)) (m : Buffer) :
    f.str.Within (Written (ws ++ w :: ws')) (writeAll (ws ++ w :: ws') m) := by
  obtain ⟨j, hj⟩ := List.mem_iff_getElem?.mp hz
  have hlt : j < w.bytes.length := (List.getElem?_eq_some_iff.mp hj).1
  refine within_readStr j ?_ fun i hi => ?_
  · rw [← hoff]
    exact writeAll_at ws ws' hj (hoff ▸ hlater j hlt) m
  · exact .of_mem (List.mem_append_right _ List.mem_cons_self) (by omega) (by omega)

/-- What is read from a field that no later write touches. -/
theorem run_get_num (ws ws' : List Write) (hlater : ∀ i < f.size, ¬ Written ws' (f.off + i)) (m : Buffer) :
    f.get.run (writeAll (ws ++ f.num v :: ws') m) = leBytes f.size v := by
  rw [Field.get, run_readBytes]
  refine List.ext_getElem (by simp) fun i hi hi' => ?_
  rw [List.getElem_map, List.getElem_range]
  have hlt : i < f.size := by simpa using hi
  exact writeAll_at ws ws' (w := f.num v) (List.getElem?_eq_getElem hi') (hlater i hlt) m

theorem within_readAll {rs : List (Reader (List UInt8))} (h : ∀ r ∈ rs, r.Within S m) : (readAll rs).Within S m := by
  induction rs with
  | nil => trivial
  | cons r rs ih =>
    exact within_bind.mpr ⟨h r List.mem_cons_self,
      within_bind.mpr ⟨ih fun r hr => h r (List.mem_cons_of_mem _ hr), trivial⟩⟩

/-- An address is read from 17 bytes. -/
theorem within_addr (h : ∀ i < 17, S (f.off + i)) : f.addr.Within S m := by
  refine within_bind.mpr ⟨(within_byte _).mpr (h 16 (by decide)), ?_⟩
  split
  · exact within_get fun i (hi : i < 4) => h i (by omega)
  · exact within_get fun i (hi : i < 16) => h i (by omega)

theorem written_dpSetIpaddr4 (f : Field) (ip : Ip4) : ∀ i < 17, Written (dpSetIpaddr4 f ip) (f.off + i) := by
  intro i hi
  by_cases h16 : i = 16
  · exact .of_mem (w := f.isV6.num 0) (by simp [dpSetIpaddr4]) (by simp [Field.num, Field.isV6, h16])
      (by simp [Field.num, Field.isV6, h16])
  · exact .of_mem (w := ⟨f.off, List.replicate 16 0⟩) (by simp [dpSetIpaddr4]) (Nat.le_add_right ..) (by simp; omega)

theorem written_dpSetIpaddr6 (f : Field) (ip : Ip6) : ∀ i < 17, Written (dpSetIpaddr6 f ip) (f.off + i) := by
  intro i hi
  by_cases h16 : i = 16
  · exact .of_mem (w := f.isV6.num 1) (by simp [dpSetIpaddr6]) (by simp [Field.num, Field.isV6, h16])
      (by simp [Field.num, Field.isV6, h16])
  · exact .of_mem (w := f.ipv6.raw ip.toNat) (by simp [dpSetIpaddr6]) (by simp [Field.raw, Field.ipv6])
      (by simp [Field.raw, Field.ipv6]; omega)

theorem written_dpCopyIpaddr (f : Field) (ip : IpAddr) : ∀ i < 17, Written (dpCopyIpaddr f ip) (f.off + i) := by
  cases ip with
  | v6 ip => exact written_dpSetIpaddr6 f ip
  | v4 ip =>
    intro i hi
    by_cases h16 : i = 16
    · exact .of_mem (w := f.isV6.num 0) (by simp [dpCopyIpaddr]) (by simp [Field.num, Field.isV6, h16])
        (by simp [Field.num, Field.isV6, h16])
    · exact .of_mem (w := ⟨f.off, leBytes 4 ip.toNat ++ List.replicate 12 0⟩) (by simp [dpCopyIpaddr])
        (Nat.le_add_right ..) (by simp; omega)

end Fields

/-! ## Replies with a fixed layout -/

section Replies

variable {w : Worker} {p : PortId} {m : Buffer}

/-- All that is read of an interface was written. -/
theorem ifaceReply_within : dpToGrpcInterface.Within (Written (ifaceReply w p)) (writeAll (ifaceReply w p) m) := by
  have hget : ∀ {f : Field}, f ∈ [ifaceIp4Addr, ifaceIp6Addr, ifaceVniField, ifaceUlAddr6, ifaceTotalFlowRateCap,
      ifacePublicFlowRateCap] → f.get.Within (Written (ifaceReply w p)) (writeAll (ifaceReply w p) m) := by
    intro f hf
    refine within_get fun i hi => ?_
    simp only [List.mem_cons, List.not_mem_nil, or_false] at hf
    rcases hf with rfl | rfl | rfl | rfl | rfl | rfl <;>
      simp [ifaceReply, written_cons, Write.Covers] at hi ⊢ <;> omega
  refine within_readAll ?_
  simp only [List.forall_mem_cons]
  refine ⟨hget (by simp), hget (by simp), ?_, hget (by simp), ?_, hget (by simp), hget (by simp),
    hget (by simp), by simp⟩
  · refine within_str [_, _, _] _ rfl (w.ids p) (fun i hi => ?_) m
    simp [written_cons, Write.Covers, not_written_nil, (w.devName p).length_eq] at hi ⊢
    omega
  · refine within_str [_, _, _, _] _ rfl (w.devName p).terminated (fun i hi => ?_) m
    simp [written_cons, Write.Covers, not_written_nil, (w.devName p).length_eq] at hi ⊢
    omega

theorem fwruleReply_within (rule : FwallRule) :
    dpToGrpcFwrule.Within (Written (fwruleReply rule)) (writeAll (fwruleReply rule) m) := by
  have hall : ∀ a < 176, Written (fwruleReply rule) a := fun a ha => by
    simp [fwruleReply, written_cons, Write.Covers, rule.length_eq, ha]
  have hget : ∀ {f : Field} {m : Buffer}, f.off + f.size ≤ 176 → f.get.Within (Written (fwruleReply rule)) m :=
    fun hf => within_get fun i hi => hall _ (by omega)
  have hip : ∀ {ip mask : Field} {m : Buffer}, ip.off + 17 ≤ 176 → mask.off + 16 ≤ 176 → mask.size = 16 →
      (setupIpAndPrefix ip mask).Within (Written (fwruleReply rule)) m := by
    intro ip mask m hip hmask hsize
    refine within_bind.mpr ⟨(within_byte _).mpr (hall _ (by simp; omega)), ?_⟩
    split
    · exact within_bind.mpr ⟨hget (by simp; omega), hget (by simp; omega)⟩
    · exact within_bind.mpr ⟨hget (by simp; omega), hget (by omega)⟩
  refine within_bind.mpr ⟨within_readAll ?_, ?_⟩
  · simp only [List.forall_mem_cons]
    refine ⟨?_, hget (by simp), hget (by simp), hget (by simp), hip (by simp) (by simp) rfl,
      hip (by simp) (by simp) rfl, by simp⟩
    exact within_str [] [] rfl (List.mem_of_mem_take rule.terminated) (fun _ _ => not_written_nil) m
  · refine within_bind.mpr ⟨(within_byte _).mpr (hall _ (by simp)), ?_⟩
    dsimp only
    split
    · refine within_bind.mpr ⟨within_readAll ?_, trivial⟩
      simp only [List.forall_mem_cons]
      exact ⟨hget (by simp), hget (by simp), by simp⟩
    · split
      · refine within_bind.mpr ⟨within_readAll ?_, trivial⟩
        simp only [List.forall_mem_cons]
        exact ⟨hget (by simp), by simp⟩
      · trivial

/-- The same for a load balancer. -/
theorem lbReply_within (key : LbKey) (v : LbValue) :
    (parseReply .getLoadBalancer).Within (Written (lbReply key v)) (writeAll (lbReply key v) m) := by
  have hsub : ∀ w ∈ dpCopyIpaddr lbAddr key.ip, w ∈ lbReply key v := fun w hw =>
    List.mem_append_left _ (List.mem_append_left _ (List.mem_cons_of_mem _ hw))
  have hport : ∀ i < lbMaxPorts, (lbLbportsPort i).num (v.ports.getD i {}).port.toNat ∈ lbReply key v := by
    intro i hi
    simp only [lbReply, List.cons_append, List.mem_cons, List.mem_append, List.mem_flatMap, List.mem_range]
    exact .inr (.inr ⟨i, hi, .inl rfl⟩)
  have hproto : ∀ i < lbMaxPorts, (lbLbportsProtocol i).num (v.ports.getD i {}).protocol.toNat ∈ lbReply key v := by
    intro i hi
    simp only [lbReply, List.cons_append, List.mem_cons, List.mem_append, List.mem_flatMap, List.mem_range]
    exact .inr (.inr ⟨i, hi, .inr (.inl rfl)⟩)
  refine within_bind.mpr ⟨within_readAll ?_, within_bind.mpr ⟨within_readMany _ fun i hi => ?_,
    within_bind.mpr ⟨?_, trivial⟩⟩⟩
  · simp only [List.forall_mem_cons]
    exact ⟨within_num List.mem_cons_self, within_addr fun i hi => (written_dpCopyIpaddr _ _ i hi).mono hsub, by simp⟩
  · refine within_bind.mpr ⟨within_num (hport i hi), ?_⟩
    split
    · trivial
    · exact within_num (hproto i hi)
  · exact within_raw (v := v.lbUlAddr.toNat) (by simp [lbReply])

theorem versionReply_within :
    (parseReply .getVersion).Within (Written (dpProcessGetVersion w)) (writeAll (dpProcessGetVersion w) m) := by
  have hfits : w.versionLen ≤ 64 := w.versionFits
  refine within_readAll ?_
  simp only [List.forall_mem_cons]
  refine ⟨?_, ?_, by simp⟩
  · refine within_str [] _ rfl w.version.terminated (fun i hi => ?_) m
    simp [written_cons, Write.Covers, not_written_nil, w.version.length_eq] at hi ⊢
    omega
  · exact within_str [_] [] rfl w.version.terminated (fun _ _ => not_written_nil) m

/-- The reply with the name of the virtual function, which `snprintf` writes up to its end. -/
theorem vfPciReply_within (ul : Ip6) (name : CStr 16) :
    (parseReply .createInterface).Within (Written [vfPciUlAddr6.raw ul.toNat, ⟨vfPciName.off, name.text⟩])
      (writeAll [vfPciUlAddr6.raw ul.toNat, ⟨vfPciName.off, name.text⟩] m) := by
  refine within_readAll ?_
  simp only [List.forall_mem_cons]
  refine ⟨?_, within_raw List.mem_cons_self, by simp⟩
  exact within_str [_] [] rfl (List.mem_append_right _ (List.mem_singleton.mpr rfl)) (fun _ _ => not_written_nil) m

end Replies

/-! ## The status of packet capture

How many entries are read, and which member of an entry, depends on bytes of the reply itself. -/

section Capture

variable {w : Worker} {ps : List PortId} {i k a : ℕ}

theorem captureIfaces_append (w : Worker) (ps ps' : List PortId) (k : ℕ) :
    captureIfaces w k (ps ++ ps') = captureIfaces w k ps ++ captureIfaces w (k + ps.length) ps' := by
  induction ps generalizing k with
  | nil => rfl
  | cons p ps ih =>
    rw [List.cons_append, captureIfaces, captureIfaces, ih, List.append_assoc, List.length_cons, Nat.add_comm ps.length,
      Nat.add_assoc]

theorem written_captureIface {p : PortId} (h : Written (captureIface w i p) a) : 24 + 68 * i ≤ a ∧ a < 92 + 68 * i := by
  unfold captureIface at h
  split at h <;> simp [written_cons, Write.Covers, not_written_nil] at h <;> omega

/-- The entries have their places in the array to themselves. -/
theorem written_captureIfaces (h : Written (captureIfaces w k ps) a) :
    24 + 68 * k ≤ a ∧ a < 24 + 68 * (k + ps.length) := by
  induction ps generalizing k with
  | nil => exact absurd h not_written_nil
  | cons p ps ih =>
    rw [List.length_cons]
    rcases written_append.mp h with h | h
    · have := written_captureIface h
      omega
    · have := ih h
      omega

/-- The members that are written after the entries. -/
def captureTail (w : Worker) (n : ℕ) : List Write :=
  [captureDstAddr6.raw w.captureNodeIpv6Addr.toNat, captureUdpSrcPort.num w.captureUdpSrcPort.toNat,
    captureUdpDstPort.num w.captureUdpDstPort.toNat, captureInterfaceCount.num n, captureIsActive.num 1]

theorem written_captureTail {n : ℕ} (h : Written (captureTail w n) a) : a < 24 ∨ 1112 ≤ a := by
  simp [captureTail, written_cons, Write.Covers, not_written_nil] at h
  omega

/-- The writes after an entry do not touch it. -/
theorem not_written_later {n : ℕ} (hi : i < captureMaxPortNum) (hl : 24 + 68 * i ≤ a) (hr : a < 92 + 68 * i) :
    ¬ Written (captureIfaces w (i + 1) ps ++ captureTail w n) a := by
  intro h
  have hi' : i < 16 := hi
  rcases written_append.mp h with h | h
  · have := written_captureIfaces h
    omega
  · have := written_captureTail h
    omega

/-- **An entry** is read as the handler wrote it. -/
theorem captureIface_within {n : ℕ} (ws : List Write) (p : PortId) (ps : List PortId) (hi : i < captureMaxPortNum)
    (m : Buffer) : (parseCaptureIface i).Within
      (Written (ws ++ captureIface w i p ++ (captureIfaces w (i + 1) ps ++ captureTail w n)))
      (writeAll (ws ++ captureIface w i p ++ (captureIfaces w (i + 1) ps ++ captureTail w n)) m) := by
  generalize hws : captureIfaces w (i + 1) ps ++ captureTail w n = ws'
  have hlater : ∀ a, 24 + 68 * i ≤ a → a < 92 + 68 * i → ¬ Written ws' a := fun a hl hr =>
    hws ▸ not_written_later hi hl hr
  have hsize : (captureIfaceType i).size = 4 := rfl
  unfold captureIface
  split
  · refine within_bind.mpr ⟨within_num (v := captureSinglePf.toNat) (by simp), ?_⟩
    rw [List.append_assoc, List.cons_append, run_get_num _ _ (fun j hj => ?_), hsize, if_pos rfl]
    · exact within_num (v := if p = w.cf.pf0 then 0 else 1) (by simp)
    · simp [written_cons, Write.Covers] at hj ⊢
      exact ⟨by omega, hlater _ (by omega) (by omega)⟩
  · refine within_bind.mpr ⟨within_num (v := captureSingleVf.toNat) (by simp), ?_⟩
    rw [List.append_assoc, List.cons_append, run_get_num _ _ (fun j hj => ?_), hsize, if_neg (by decide),
      if_pos rfl]
    · have h := within_str (f := captureIfaceId i) (ws ++ [(captureIfaceType i).num captureSingleVf.toNat]) ws'
        (w := (captureIfaceId i).raw (w.cfg.port p).iface.id.toNat) rfl (w.ids p)
        (fun j hj => hlater _ (by simp; omega) (by simp at hj ⊢; omega)) m
      simpa using h
    · simp [written_cons, Write.Covers] at hj ⊢
      exact ⟨by omega, hlater _ (by omega) (by omega)⟩

theorem captureActive_within (hfew : ps.length ≤ captureMaxPortNum) (m : Buffer) :
    parseCaptureStatus.Within (Written (captureIfaces w 0 ps ++ captureTail w ps.length))
      (writeAll (captureIfaces w 0 ps ++ captureTail w ps.length) m) := by
  have hmem : ∀ x ∈ captureTail w ps.length, x ∈ captureIfaces w 0 ps ++ captureTail w ps.length := fun _ =>
    List.mem_append_right _
  refine within_bind.mpr ⟨(within_byte _).mpr (.of_mem (w := captureIsActive.num 1) (hmem _ (by simp [captureTail]))
    (by simp) (by simp)), ?_⟩
  split
  · trivial
  refine within_bind.mpr ⟨within_readAll ?_, within_bind.mpr ⟨?_, within_bind.mpr ⟨within_readMany _ ?_, trivial⟩⟩⟩
  · simp only [List.forall_mem_cons]
    exact ⟨within_num (v := w.captureUdpSrcPort.toNat) (hmem _ (by simp [captureTail])),
      within_num (v := w.captureUdpDstPort.toNat) (hmem _ (by simp [captureTail])),
      within_raw (v := w.captureNodeIpv6Addr.toNat) (hmem _ (by simp [captureTail])), by simp⟩
  · exact (within_byte _).mpr (.of_mem (w := captureInterfaceCount.num ps.length) (hmem _ (by simp [captureTail]))
      (by simp) (by simp))
  · have hcount : writeAll (captureIfaces w 0 ps ++ captureTail w ps.length) m captureInterfaceCount.off
        = UInt8.ofNat ps.length := by
      have := writeAll_at (captureIfaces w 0 ps ++ (captureTail w ps.length).take 3) [captureIsActive.num 1]
        (w := captureInterfaceCount.num ps.length) (i := 0) (b := UInt8.ofNat ps.length)
        (by simp [Field.num, leBytes]) (by simp [written_cons, Write.Covers, not_written_nil]) m
      simpa [captureTail] using this
    rw [run_byte, hcount]
    intro i hi
    have hlt : i < ps.length := by
      have hsmall : ps.length < UInt8.size := Nat.lt_of_le_of_lt hfew (by decide)
      rwa [UInt8.toNat_ofNat', Nat.mod_eq_of_lt hsmall] at hi
    have hsplit : ps = ps.take i ++ ps[i] :: ps.drop (i + 1) := by simp
    have h := captureIface_within (w := w) (n := ps.length) (captureIfaces w 0 (ps.take i)) ps[i] (ps.drop (i + 1))
      (Nat.lt_of_lt_of_le hlt hfew) m
    have hws : captureIfaces w 0 ps ++ captureTail w ps.length = captureIfaces w 0 (ps.take i) ++
        captureIface w i ps[i] ++ (captureIfaces w (i + 1) (ps.drop (i + 1)) ++ captureTail w ps.length) := by
      conv_lhs => rw [hsplit]
      rw [captureIfaces_append, captureIfaces]
      simp [Nat.min_eq_left (Nat.le_of_lt hlt)]
    rwa [hws]

theorem captureStatus_within {ws : List Write} (h : dpProcessCaptureStatus w = .ok ws) (m : Buffer) :
    parseCaptureStatus.Within (Written ws) (writeAll ws m) := by
  unfold dpProcessCaptureStatus at h
  split at h
  · cases h
    have hlt : captureIsActive.off < capture.size := by decide
    generalize capture.size = n at hlt
    have hzero : writeAll [⟨0, List.replicate n 0⟩] m (0 + captureIsActive.off) = 0 :=
      writeAll_at [] [] (w := ⟨0, List.replicate n 0⟩) (List.getElem?_replicate_of_lt hlt) not_written_nil m
    refine within_bind.mpr ⟨(within_byte _).mpr (.of_mem List.mem_cons_self (Nat.zero_le _) ?_), ?_⟩
    · simpa using hlt
    · rw [Nat.zero_add] at hzero
      rw [run_byte, if_pos (show writeAll [⟨capture.off, List.replicate n 0⟩] m _ = 0 from hzero)]
      trivial
  · dsimp only at h
    split at h
    · cases h
    next hfew =>
      generalize w.cf.portList.filter _ = ps at h hfew
      cases h
      exact captureActive_within (Nat.le_of_not_lt hfew) m

end Capture

/-! ## Configuration requests -/

section Config

theorem getVip_resp (c : Config) (id : Id64) :
    (∃ x, dpProcessGetVip c id = .err x) ∨ ∃ ip ul, dpProcessGetVip c id = .vip ip ul := by
  unfold dpProcessGetVip
  split
  · exact .inl ⟨_, rfl⟩
  · split
    · exact .inl ⟨_, rfl⟩
    · split
      · exact .inl ⟨_, rfl⟩
      · exact .inr ⟨_, _, rfl⟩

theorem getNat_resp (c : Config) (id : Id64) :
    (∃ x, dpProcessGetNat c id = .err x) ∨ ∃ ip lo hi ul, dpProcessGetNat c id = .nat ip lo hi ul := by
  unfold dpProcessGetNat
  split
  · exact .inl ⟨_, rfl⟩
  · split
    · exact .inl ⟨_, rfl⟩
    · split
      · exact .inl ⟨_, rfl⟩
      · exact .inr ⟨_, _, _, _, rfl⟩

end Config

section ConfigReplies

variable {w : Worker} {e : Env} {r : Request} {o : Outcome} {m : Buffer}

theorem ulAddrReply_within {t : RequestType} (ht : parseReply t = readAll [ulAddrAddr6.get]) (ul : Ip6) :
    (parseReply t).Within (Written (ulAddrReply ul)) (writeAll (ulAddrReply ul) m) := by
  rw [ht]
  refine within_readAll ?_
  simp only [List.forall_mem_cons]
  exact ⟨within_raw List.mem_cons_self, by simp⟩

/-- The same for the replies of requests that change the configuration. -/
theorem config_within (h : dpProcessRequest w.cf e w.cfg w.lb r = some o) (hok : ∀ x, o.resp ≠ .err x) :
    (parseReply r.type).Within (Written (configReply w r o.resp)) (writeAll (configReply w r o.resp) m) := by
  cases dpProcessRequest_cases h with
  | refused | noVnf | undone | ifaceUndone | prefixRefused | prefixUndone | vipUndone | natUndone | neighUndone =>
    exact absurd rfl (hok _)
  | @ifaceCreated _ _ _ _ _ _ _ p _ hname =>
    rw [configReply, hname]
    exact vfPciReply_within _ (w.vfName p)
  | prefixCreated | vipCreated | natCreated => exact ulAddrReply_within rfl _
  | lbprefixCreated =>
    refine within_readAll ?_
    simp only [List.forall_mem_cons]
    exact ⟨within_get fun i (hi : i < 16) => written_dpSetIpaddr6 routeTrgtAddr _ i (by omega), by simp⟩
  | createLb hx =>
    cases hx with
    | noVnf _ hresp | refused _ _ hresp | dead _ _ _ hresp | noVni _ _ _ _ hresp => exact absurd hresp (hok _)
    | created _ _ _ _ hresp =>
      dsimp only
      rw [hresp]
      exact ulAddrReply_within rfl _
  | @vipShown id =>
    rcases getVip_resp w.cfg id with ⟨x, hx⟩ | ⟨ip, ul, hr⟩
    · exact absurd hx (hok x)
    · dsimp only
      rw [hr]
      refine within_readAll ?_
      simp only [List.forall_mem_cons]
      exact ⟨within_num (.tail _ (.tail _ (.head _))), within_raw (.tail _ (.tail _ (.tail _ (.head _)))), by simp⟩
  | @natShown id =>
    rcases getNat_resp w.cfg id with ⟨x, hx⟩ | ⟨ip, lo, hi, ul, hr⟩
    · exact absurd hx (hok x)
    · dsimp only
      rw [hr]
      refine within_readAll ?_
      simp only [List.forall_mem_cons]
      exact ⟨within_num (.tail _ (.tail _ (.head _))), within_num (v := hi.toNat) (by simp [configReply]),
        within_num (v := lo.toNat) (by simp [configReply]), within_raw (v := ul.toNat) (by simp [configReply]), by simp⟩
  | _ => trivial

end ConfigReplies

/-! ## Lists -/

section Lists

variable {w : Worker} {m : Buffer}

/-- The same for a prefix in a list. -/
theorem prefixMessage_within {t : RequestType} (ht : parseMessage t = parseMessage .listPrefixes) (ul : Ip6) (v : Vnf) :
    (parseMessage t).Within (Written (prefixMessage ul v)) (writeAll (prefixMessage ul v) m) := by
  rw [ht]
  refine within_readAll ?_
  simp only [List.forall_mem_cons]
  refine ⟨within_addr fun i hi => ?_, within_num (v := v.length.toNat) (by simp [prefixMessage]),
    within_get fun i (hi : i < 16) => ?_, by simp⟩
  · exact written_append.mpr (.inl (written_append.mpr (.inl (written_dpCopyIpaddr _ _ i hi))))
  · exact written_append.mpr (.inr (written_dpSetIpaddr6 routeTrgtAddr ul i (by omega)))

theorem routeMessage_within (k : Ip4 × ℕ) (r : Route) :
    (parseMessage .listRoutes).Within (Written (routeMessage k r)) (writeAll (routeMessage k r) m) := by
  refine within_readAll ?_
  simp only [List.forall_mem_cons]
  refine ⟨within_num (v := r.vni.toNat) (by simp [routeMessage]), within_addr fun i hi => ?_,
    within_addr fun i hi => ?_, within_num (v := k.2) (by simp [routeMessage]), by simp⟩
  · exact written_append.mpr (.inl (written_append.mpr (.inr (written_dpSetIpaddr6 _ _ i hi))))
  · exact written_append.mpr
      (.inl (written_append.mpr (.inl (written_append.mpr (.inl (written_dpSetIpaddr4 _ _ i hi))))))

/-- Only routes that leave the host are listed, each with a message of its own. -/
theorem mem_dpListRouteEntries {cf : Conf} {rib : Rib 32 Route} {ks : List (Ip4 × ℕ)} {ms : List (List Write)}
    (h : dpListRouteEntries cf rib ks = .ok ms) : ∀ ws ∈ ms, ∃ k r, ws = routeMessage k r := by
  induction ks generalizing ms with
  | nil =>
    cases h
    simp
  | cons k ks ih =>
    unfold dpListRouteEntries at h
    split at h
    · exact ih h
    next r hr =>
      split at h
      · cases h
      · cases hks : dpListRouteEntries cf rib ks with
        | error x =>
          rw [hks] at h
          cases h
        | ok ms' =>
          rw [hks] at h
          cases h
          split
          · rintro ws (_ | ⟨_, hws⟩)
            · exact ⟨k, r, rfl⟩
            · exact ih hks ws hws
          · exact ih hks

/-- Every message of a list is read as it was written. -/
theorem list_within {e : Env} {r : WorkerRequest} {ms : List (List Write)} (h : answer w e r = some (.ok (.multi ms))) :
    ∀ ws ∈ ms, (parseMessage r.type).Within (Written ws) (writeAll ws m) := by
  cases r with
  | config r =>
    obtain ⟨o, -, h⟩ := Option.map_eq_some_iff.mp h
    split at h <;> cases h
  | listInterfaces =>
    cases h
    simp only [dpProcessListInterfaces, List.forall_mem_map]
    exact fun p _ => ifaceReply_within
  | listPrefixes id order =>
    simp only [answer, dpProcessListPrefixes] at h
    split at h
    · cases h
    next p hp =>
      cases h
      rintro ws hws
      obtain ⟨ul, -, hws⟩ := List.mem_filterMap.mp hws
      obtain ⟨v, -, rfl⟩ := Option.map_eq_some_iff.mp hws
      exact prefixMessage_within rfl ul v
  | listLbprefixes id order =>
    simp only [answer, dpProcessListLbprefixes] at h
    split at h
    · cases h
    next p hp =>
      cases h
      rintro ws hws
      obtain ⟨ul, -, hws⟩ := List.mem_filterMap.mp hws
      obtain ⟨v, -, rfl⟩ := Option.map_eq_some_iff.mp hws
      exact prefixMessage_within rfl ul v
  | listRoutes vni order =>
    simp only [answer, dpProcessListRoutes] at h
    split at h
    · cases h
    next d hd =>
      cases hms : dpListRouteEntries w.cf d.ipv4 order with
      | error x =>
        rw [hms] at h
        cases h
      | ok ms' =>
        rw [hms] at h
        cases h
        rintro ws hws
        obtain ⟨k, rt, rfl⟩ := mem_dpListRouteEntries hms ws hws
        exact routeMessage_within k rt
  | listLocalnats addr order =>
    cases addr with
    | v6 ip => cases h
    | v4 ip =>
      cases h
      rintro ws hws
      obtain ⟨k, -, hws⟩ := List.mem_filterMap.mp hws
      obtain ⟨d, -, rfl⟩ := Option.map_eq_some_iff.mp hws
      refine within_readAll ?_
      simp only [List.forall_mem_cons]
      exact ⟨within_num (v := k.ip.toNat) (by simp [dpSetIpaddr4]), within_num (v := d.natMinPort.toNat) (by simp),
        within_num (v := d.natMaxPort.toNat) (by simp), within_num (v := k.vni.toNat) (by simp), by simp⟩
  | listNeighnats addr =>
    cases addr with
    | v6 ip => cases h
    | v4 ip =>
      cases h
      simp only [List.forall_mem_map]
      intro n _
      refine within_readAll ?_
      simp only [List.forall_mem_cons]
      exact ⟨within_raw (v := n.dstIpv6.toNat) (by simp), within_num (v := n.minPort.toNat) (by simp),
        within_num (v := n.maxPort.toNat) (by simp), within_num (v := n.vni.toNat) (by simp), by simp⟩
  | listLbtargets id =>
    obtain ⟨x, -, h⟩ := Option.map_eq_some_iff.mp h
    cases x with
    | error x => cases h
    | ok ips =>
      cases h
      simp only [List.forall_mem_map]
      intro ip _
      refine within_readAll ?_
      simp only [List.forall_mem_cons]
      exact ⟨within_raw List.mem_cons_self, by simp⟩
  | listFwrules id =>
    simp only [answer, dpProcessListFwrules] at h
    split at h
    · cases h
    next p hp =>
      cases h
      simp only [List.forall_mem_map]
      exact fun rule _ => fwruleReply_within rule
  | _ => exact fun _ _ => trivial

end Lists

/-! ## All requests -/

/-- Every byte that the call for a request of type `t` reads from a reply or from a message with these writes was
written, and a list has no messages but those. A place for a message that was not written has `none`. -/
def Answer.AllRead (t : RequestType) : Answer → Prop
  | .single ws => ∀ old, (parseReply t).Within (Written ws) (writeAll ws old)
  | .multi ms => (∀ ws ∈ ms, ∀ old, (parseMessage t).Within (Written ws) (writeAll ws old)) ∧
    ∀ (buf : Reply (Option (List Write))) (h : Handling (Option (List Write))), h.adds.map Prod.fst = ms.map some →
      ∀ b ∈ (handle t buf h).1.response grpcOk, ∀ x ∈ b.parse, ∃ ws ∈ ms, x = some ws

section Slots

variable {M : Type} {t : RequestType} {buf b : Reply M} {h : Handling M} {x : M}

theorem mem_addAll (as : List (M × Option (Reply M))) : ∀ {r : Responder M}, x ∈ (r.addAll as).2 →
    x ∈ as.map Prod.fst := by
  induction as with
  | nil => exact fun hx => hx
  | cons a as ih =>
    intro r hx
    unfold Responder.addAll at hx
    rw [List.map_cons]
    split at hx
    · exact List.mem_cons_of_mem _ (ih hx)
    · rcases List.mem_cons.mp hx with rfl | hx
      · exact List.mem_cons_self
      · exact List.mem_cons_of_mem _ (ih hx)

theorem mem_setErrCode {ret : UInt32} {bs : List (Reply M)} (hb : b ∈ setErrCode ret bs) :
    ∃ b' ∈ bs, b'.parse = b.parse := by
  cases bs with
  | nil => cases hb
  | cons b' bs =>
    rcases List.mem_cons.mp hb with rfl | hb
    · exact ⟨b', List.mem_cons_self, rfl⟩
    · exact ⟨b, List.mem_cons_of_mem _ hb, rfl⟩

/-- The places that the gRPC thread looks at hold messages that the handler added. -/
theorem mem_parse_response (hb : b ∈ (handle t buf h).1.response grpcOk) (hx : x ∈ b.parse) :
    x ∈ h.adds.map Prod.fst := by
  have hadded : x ∈ (handle t buf h).2 := by
    rw [← (handle_filling t buf h).messages, List.mem_append, List.mem_flatMap]
    obtain ⟨b', hb', hparse⟩ := mem_setErrCode hb
    rw [← hparse] at hx
    rcases List.mem_append.mp hb' with hb' | hb'
    · exact .inl ⟨b', hb', hx⟩
    · rw [List.mem_singleton.mp hb'] at hx
      exact .inr hx
  exact mem_addAll h.adds hadded

end Slots

section Requests

variable {w : Worker} {e : Env} {r : WorkerRequest} {a : Answer}

/-- A single reply is read as it was written. -/
theorem single_within {ws : List Write} (h : answer w e r = some (.ok (.single ws)))
    (hne : r.type ≠ .createFirewallRule) (m : Buffer) : (parseReply r.type).Within (Written ws) (writeAll ws m) := by
  cases r with
  | config r =>
    obtain ⟨o, ho, h⟩ := Option.map_eq_some_iff.mp h
    split at h
    · cases h
    next resp hok =>
      cases h
      exact config_within ho hok
  | getVersion =>
    cases h
    exact versionReply_within
  | getInterface id =>
    simp only [answer, dpProcessGetInterface] at h
    split at h
    · cases h
    · cases h
      exact ifaceReply_within
  | getLb id =>
    simp only [answer, dpProcessGetLb] at h
    split at h
    · cases h
    · split at h <;> cases h
      exact lbReply_within ..
  | createFwrule id rule => exact absurd rfl hne
  | getFwrule id ruleId =>
    simp only [answer, dpProcessGetFwrule] at h
    split at h
    · cases h
    · split at h <;> cases h
      exact fwruleReply_within _
  | checkVniinuse vni type =>
    cases type <;> cases h
    all_goals
      refine within_readAll ?_
      simp only [List.forall_mem_cons]
      exact ⟨within_num List.mem_cons_self, by simp⟩
  | captureStop disabled =>
    simp only [answer, dpProcessCaptureStop] at h
    split at h
    · cases h
    · cases disabled <;> cases h
      refine within_readAll ?_
      simp only [List.forall_mem_cons]
      exact ⟨within_num List.mem_cons_self, by simp⟩
  | captureStatus =>
    simp only [answer, Option.some.injEq] at h
    cases hs : dpProcessCaptureStatus w with
    | error x =>
      rw [hs] at h
      cases h
    | ok ws' =>
      rw [hs] at h
      cases h
      exact captureStatus_within hs m
  | _ => trivial

/-- The one call that reads what its handler does not write. -/
theorem createFwrule_not_within {id : Id64} {rule : FwallRule} (h : answer w e (.createFwrule id rule) = some (.ok a)) :
    a = .single [] ∧ ¬ a.AllRead .createFirewallRule := by
  have ha : a = .single [] := by
    simp only [answer, dpProcessCreateFwrule] at h
    split at h
    · cases h
    · split at h
      · cases h
      · split at h <;> cases h
        rfl
  refine ⟨ha, ?_⟩
  subst ha
  intro hread
  exact not_written_nil (hread fun _ => 0).1

/-- **Replies hold only data written for them**, except for the reply to the creation of a firewall rule. -/
theorem reply_written_iff (h : answer w e r = some (.ok a)) : a.AllRead r.type ↔ r.type ≠ .createFirewallRule := by
  refine ⟨fun hread hne => ?_, fun hne => ?_⟩
  · cases r with
    | createFwrule id rule => exact (createFwrule_not_within h).2 hread
    | config r => cases r <;> cases hne
    | _ => cases hne
  · cases a with
    | single ws => exact fun old => single_within h hne old
    | multi ms =>
      refine ⟨fun ws hws old => list_within h ws hws, fun buf hd hadds b hb x hx => ?_⟩
      obtain ⟨ws, hws, rfl⟩ := List.mem_map.mp (hadds ▸ mem_parse_response hb hx)
      exact ⟨ws, hws, rfl⟩

end Requests

def fwallConfig : Config :=
  (dpProcessCreateInterface smallConf {} (Config.init smallConf) 2 7 100 0x0a000001 0xfd00 0 0).2

theorem fwallConfig_port {p : PortId} (hp : p ≠ 2) : fwallConfig.port p = (Config.init smallConf).port p := by
  have hcase := dpProcessCreateInterface_cases smallConf {} (Config.init smallConf) 2 7 100 0x0a000001 0xfd00 0 0
  have hport : ∀ {q}, smallConf.dpGetPortByName 2 = some q → p ≠ q := by
    rintro q hq rfl
    exact hp (Option.some.inj ((by decide +kernel : some 2 = smallConf.dpGetPortByName 2).trans hq)).symm
  unfold fwallConfig
  generalize dpProcessCreateInterface smallConf {} (Config.init smallConf) 2 7 100 0x0a000001 0xfd00 0 0 = r at hcase ⊢
  cases hcase with
  | refused | noVnf => rfl
  | undone hname _ _ hun => exact (hun fun _ _ hm => by cases hm).other (hport hname)
  | created hname _ _ hcr => exact hcr.other (hport hname)

/-- An empty string. -/
def CStr.empty (n : ℕ) : CStr (n + 1) :=
  ⟨List.replicate (n + 1) 0, List.length_replicate, List.mem_replicate.mpr ⟨Nat.succ_ne_zero n, rfl⟩⟩

def acceptRule : FwallRule := ⟨List.replicate 152 0 ++ [1] ++ List.replicate 23 0, by decide +kernel, by decide⟩

/-- A worker with this configuration and no firewall rules. -/
def fwallWorker : Worker where
  cf := smallConf
  cfg := fwallConfig
  lb := {}
  versionLen := 1
  version := .empty 0
  vfName _ := .empty 15
  devName _ := .empty 63
  fwallHead _ := []
  captureEnabled := false
  captureNodeIpv6Addr := 0
  captureUdpSrcPort := 0
  captureUdpDstPort := 0
  versionFits := by decide
  ids p := by
    by_cases hp : p = 2
    · rw [hp]
      decide +kernel
    · rw [fwallConfig_port hp]
      exact (by decide +kernel : 0 ∈ beBytes 64 (0 : Id64).toNat)

theorem fwallWorker_cfg : fwallWorker.cfg = fwallConfig := by simp only [fwallWorker]

theorem fwallConfig_ifaceIdTable : fwallConfig.ifaceIdTable 7 = some 2 := by decide +kernel

/-- The reply with the interface that was created. -/
theorem reply_written_get_interface :
    (Answer.single (ifaceReply fwallWorker 2)).AllRead .getInterface ↔
    RequestType.getInterface ≠ .createFirewallRule := by
  refine reply_written_iff (w := fwallWorker) (e := {}) (r := .getInterface 7) ?_
  rw [answer, dpProcessGetInterface, fwallWorker_cfg, fwallConfig_ifaceIdTable]
  rfl

/-- A rule is created, and the name in the answer is what the buffer held before. -/
theorem fwrule_reply_unwritten :
    answer fwallWorker {} (.createFwrule 7 acceptRule) = some (.ok (.single [])) ∧
      ¬ (Answer.single []).AllRead .createFirewallRule ∧
      ∀ old, (parseReply .createFirewallRule).run (writeAll [] old) = [(List.range 64).map old] := by
  have hok : answer fwallWorker {} (.createFwrule 7 acceptRule) = some (.ok (.single [])) := by
    rw [answer, dpProcessCreateFwrule, fwallWorker_cfg, fwallConfig_ifaceIdTable]
    have haccept : acceptRule.isDrop = false := by decide
    simp [dpGetFirewallRule, fwallWorker, haccept]
    rfl
  refine ⟨hok, (createFwrule_not_within hok).2, fun old => ?_⟩
  rw [parseReply, readAll, run_bind, Field.get, run_readBytes]
  simp only [fwruleRuleId, Nat.zero_add]
  rfl

end Dpservice
