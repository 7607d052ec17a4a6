import Dpservice.Firewall

/-!
# Which packets a firewall rule matches

`FirewallRule.Matches` says what a rule is meant to match, in terms of the message: the addresses of the packet lie in
the prefixes, and the packet is accepted by the protocol filter. `dp_is_rule_matching` matches all of these packets, and
more: it does not look at the addresses of most ICMP packets, it accepts a packet of the version of one of the two
prefixes, reading the other prefix as bytes of that version, and it reads the type and the code of an ICMP rule as a
port range.

- `dpIsRuleMatching_iff`: what it matches, in terms of the message;
- `rule_matching_iff`: for which packets that is what the rule is meant to match.
-/

namespace Dpservice

/-! ## Masks and numbers -/

theorem getLsbD_one_shiftLeft_sub_one {k : ℕ} (hk : k < 32) (j : ℕ) :
    (((1 : Ip4) <<< k) - 1).getLsbD j = decide (j < k) := by
  have hlt : (2 : ℕ) ^ k < 4294967296 := Nat.pow_lt_pow_right (by decide) hk
  have hnat : ((1 : Ip4) <<< k).toNat = 2 ^ k := by simp [Nat.shiftLeft_eq, Nat.mod_eq_of_lt hlt]
  have hone : (1 : Ip4).toNat ≤ ((1 : Ip4) <<< k).toNat := by
    rw [hnat]
    exact Nat.one_le_two_pow
  rw [BitVec.getLsbD, BitVec.toNat_sub_of_le hone, hnat]
  exact Nat.testBit_two_pow_sub_one k j

/-- The mask of an IPv4 prefix length. -/
theorem ipv4PrefixLenToMask_isMask {length : UInt32} {m : Ip4} (h : ipv4PrefixLenToMask length = some m) :
    IsMask length.toNat m := by
  unfold ipv4PrefixLenToMask at h
  split at h
  · cases h
  next hle =>
    have hn : length.toNat ≤ 32 := by simpa [UInt32.lt_iff_toNat_lt] using hle
    split at h
    next h0 =>
      cases h
      intro i _
      simp [h0]
    next h0 =>
      cases h
      have hpos : length.toNat ≠ 0 := fun hz => h0 (UInt32.toNat_inj.mp hz)
      intro i hi
      rw [BitVec.getMsbD_eq_getLsbD, BitVec.getLsbD_not, getLsbD_one_shiftLeft_sub_one (by omega), Bool.eq_iff_iff]
      simp
      omega

theorem ipv6Mask_isMask {n : ℕ} (hn : n ≤ 128) :
    IsMask n ((List.range n).foldl (fun m i => m ||| (1 : Ip6) <<< ((15 - i / 8) * 8 + (7 - i % 8))) 0) := by
  induction n with
  | zero =>
    intro i _
    simp
  | succ n ih =>
    intro i hi
    have hpos : (15 - n / 8) * 8 + (7 - n % 8) = 127 - n := by omega
    have hbit : ((1 : Ip6) <<< (127 - n)).getMsbD i = decide (i = n) := by
      change (1#128 <<< (127 - n)).getMsbD i = _
      rw [BitVec.getMsbD_eq_getLsbD, ← BitVec.twoPow_eq, BitVec.getLsbD_twoPow, Bool.eq_iff_iff]
      simp
      omega
    rw [List.range_succ, List.foldl_append]
    simp only [List.foldl_cons, List.foldl_nil]
    rw [BitVec.getMsbD_or, ih (by omega) i hi, hpos, hbit, Bool.eq_iff_iff]
    simp
    omega

theorem ipv6PrefixLenToMask_isMask {length : UInt32} {m : Ip6} (h : ipv6PrefixLenToMask length = some m) :
    IsMask length.toNat m := by
  unfold ipv6PrefixLenToMask at h
  split at h
  · cases h
  next hle =>
    cases h
    exact ipv6Mask_isMask (by simpa [UInt32.lt_iff_toNat_lt] using hle)

theorem int32_toInt (x : Int32) : x.toInt =
    if x.toUInt32.toNat < 2147483648 then (x.toUInt32.toNat : Int) else x.toUInt32.toNat - 4294967296 := by
  have hnat : x.toBitVec.toNat = x.toUInt32.toNat := rfl
  have h := BitVec.toInt_eq_toNat_cond x.toBitVec
  rw [hnat] at h
  change x.toBitVec.toInt = _
  rw [h]
  split <;> split <;> omega

/-- Only -1 stands for all. -/
theorem toUInt32_eq_any {x : Int32} : x.toUInt32 = fwallMatchAny ↔ x = -1 := by
  constructor
  · intro h
    rw [show x = .ofUInt32 x.toUInt32 from rfl, h]
    rfl
  · rintro rfl
    rfl

/-! ## What a rule is meant to match -/

/-- The source and destination address of a packet. -/
def DpFlow.srcIp (df : DpFlow) : IpAddr := if df.l3Type = .ipv6 then .v6 df.srcAddr6 else .v4 df.srcAddr
def DpFlow.dstIp (df : DpFlow) : IpAddr := if df.l3Type = .ipv6 then .v6 df.dstAddr6 else .v4 df.dstAddr

def GrpcPrefix.SameVersion (p : GrpcPrefix) (ip : IpAddr) : Prop := p.ipver = if ip.isV6 then .ipv6 else .ipv4

def GrpcPrefix.Covers (inet : Inet) (p : GrpcPrefix) (ip : IpAddr) : Prop :=
  match p.ipver, ip with
  | .ipv4, .v4 a => ∃ b, inet.aton p.address = some b ∧ AgreeOn p.length.toNat a b
  | .ipv6, .v6 a => ∃ b, inet.pton p.address = some b ∧ AgreeOn p.length.toNat a b
  | _, _ => False

/-- A port lies between two bounds; -1 as the lower one stands for all ports, as the upper one for no bound. -/
def PortWithin (lower upper : Int32) (port : UInt16) : Prop :=
  lower = -1 ∨ (lower.toInt ≤ port.toNat ∧ (upper = -1 ∨ (port.toNat : Int) ≤ upper.toInt))

/-- The ports of a packet lie in the ranges. -/
def GrpcPortFilter.Accepts (f : GrpcPortFilter) (df : DpFlow) : Prop :=
  PortWithin f.srcPortLower f.srcPortUpper df.srcPort ∧ PortWithin f.dstPortLower f.dstPortUpper df.dstPort

/-- The type and the code of a packet are the given ones, or -1 is given. -/
def GrpcIcmpFilter.Accepts (f : GrpcIcmpFilter) (df : DpFlow) : Prop :=
  (f.icmpType = -1 ∨ f.icmpType.toInt = df.icmpType.toNat) ∧ (f.icmpCode = -1 ∨ f.icmpCode.toInt = df.icmpCode.toNat)

/-- The protocol that ICMP rules are for. -/
def DpFlow.IsIcmpOf (df : DpFlow) : Prop :=
  df.l4Type = ipprotoIcmp ∨ df.l3Type = .ipv6 ∧ df.l4Type = ipprotoIcmpv6

def ProtocolFilter.Accepts (f : ProtocolFilter) (df : DpFlow) : Prop :=
  match f with
  | .tcp r => df.l4Type = ipprotoTcp ∧ r.Accepts df
  | .udp r => df.l4Type = ipprotoUdp ∧ r.Accepts df
  | .icmp r => df.IsIcmpOf ∧ r.Accepts df
  | .notSet => True

/-- Both addresses of the packet lie in the prefixes of the rule. -/
def FirewallRule.Covers (inet : Inet) (r : FirewallRule) (df : DpFlow) : Prop :=
  r.sourcePrefix.Covers inet df.srcIp ∧ r.destinationPrefix.Covers inet df.dstIp

def FirewallRule.Matches (inet : Inet) (r : FirewallRule) (df : DpFlow) : Prop :=
  r.Covers inet df ∧ r.protocolFilter.Accepts df

/-! ## What it matches besides -/

/-- The address lies in the prefix, where the bytes of a prefix of the other version are read as an address of this
one. -/
def GrpcPrefix.CoversBytes (inet : Inet) (p : GrpcPrefix) (ip : IpAddr) : Prop :=
  match p.ipver, ip with
  | .ipv4, .v4 a => ∃ b, inet.aton p.address = some b ∧ AgreeOn p.length.toNat a b
  | .ipv6, .v6 a => ∃ b, inet.pton p.address = some b ∧ AgreeOn p.length.toNat a b
  | .ipv4, .v6 a => ∃ b, inet.aton p.address = some b ∧ AgreeOn p.length.toNat (bswap (a.extractLsb' 96 32)) b
  | .ipv6, .v4 a => ∃ b, inet.pton p.address = some b ∧ AgreeOn p.length.toNat (bswap a) (b.extractLsb' 96 32)
  | .other, _ => False

def FirewallRule.CoversBytes (inet : Inet) (r : FirewallRule) (df : DpFlow) : Prop :=
  r.sourcePrefix.CoversBytes inet df.srcIp ∧ r.destinationPrefix.CoversBytes inet df.dstIp

def FirewallRule.OneVersion (r : FirewallRule) (df : DpFlow) : Prop :=
  r.sourcePrefix.SameVersion df.srcIp ∨ r.destinationPrefix.SameVersion df.dstIp

def FirewallRule.BothVersions (r : FirewallRule) (df : DpFlow) : Prop :=
  r.sourcePrefix.SameVersion df.srcIp ∧ r.destinationPrefix.SameVersion df.dstIp

/-- An ICMP packet that matches whatever its addresses are: type and code are those of an ICMP rule, or the rule has no
filter and the code is 0, the word that a rule without filter has where ICMP rules have the code. -/
def ProtocolFilter.AcceptsBlindly (f : ProtocolFilter) (df : DpFlow) : Prop :=
  isIcmp df.l4Type = true ∧
    match f with
    | .icmp r => df.IsIcmpOf ∧ r.Accepts df
    | .notSet => df.icmpCode = 0
    | _ => False

/-- A packet that matches if its addresses do: for an ICMP rule these are the packets of type 0 and code 0 whose
identifier lies in the range from the type to the code of the rule. -/
def ProtocolFilter.AcceptsRest (f : ProtocolFilter) (df : DpFlow) : Prop :=
  match f with
  | .tcp r => df.l4Type = ipprotoTcp ∧ r.Accepts df
  | .udp r => df.l4Type = ipprotoUdp ∧ r.Accepts df
  | .icmp r => df.IsIcmpOf ∧ df.icmpType = 0 ∧ df.icmpCode = 0 ∧ PortWithin r.icmpType r.icmpCode df.icmpIdent
  | .notSet => True

/-! ## Conversion -/

section Conversion

variable {inet : Inet} {p : GrpcPrefix} {name : String} {ip : IpAddr} {m : DpIpMask}

theorem bind_eq_ok {α β : Type} {x : Except String α} {f : α → Except String β} {b : β} :
    (x >>= f) = .ok b ↔ ∃ a, x = .ok a ∧ f a = .ok b := by
  cases x with
  | error e => simp [bind, Except.bind]
  | ok a => simp [bind, Except.bind]

/-- The address and the mask of a prefix that was accepted. -/
theorem fillPrefix_ok (h : fillPrefix inet p name = .ok (ip, m)) :
    (∃ a m4, p.ipver = .ipv4 ∧ inet.aton p.address = some a ∧ IsMask p.length.toNat m4 ∧ ip = .v4 a ∧ m = .ofIp4 m4) ∨
    (∃ a m6, p.ipver = .ipv6 ∧ inet.pton p.address = some a ∧ IsMask p.length.toNat m6 ∧ ip = .v6 a ∧ m = ⟨m6⟩) := by
  unfold fillPrefix at h
  split at h
  · cases h
  next hv =>
    split at h
    · cases h
    next a ha =>
      split at h
      · cases h
      next m4 hm =>
        cases h
        exact .inl ⟨a, m4, hv, ha, ipv4PrefixLenToMask_isMask hm, rfl, rfl⟩
  next hv =>
    split at h
    · cases h
    next a ha =>
      split at h
      · cases h
      next m6 hm =>
        cases h
        exact .inr ⟨a, m6, hv, ha, ipv6PrefixLenToMask_isMask hm, rfl, rfl⟩

/-- The address of a packet, masked, is that of the rule. -/
def maskedEq (x ip : IpAddr) (m : DpIpMask) : Prop :=
  match x with
  | .v4 a => a &&& m.ip4 = ip.ipv4 &&& m.ip4
  | .v6 a => a &&& m.ip6 = ip.ipv6 &&& m.ip6

theorem ofIp4_ip4 (m : Ip4) : (DpIpMask.ofIp4 m).ip4 = m := by
  rw [DpIpMask.ip4, DpIpMask.ofIp4, BitVec.extractLsb'_append_eq_left, bswap_bswap]

theorem getMsbD_extract (a : Ip6) {i : ℕ} (hi : i < 32) : (a.extractLsb' 96 32).getMsbD i = a.getMsbD i := by
  rw [BitVec.getMsbD_eq_getLsbD, BitVec.getMsbD_eq_getLsbD, BitVec.getLsbD_extractLsb']
  have h1 : 32 - 1 - i < 32 := by omega
  have h2 : 96 + (32 - 1 - i) = 128 - 1 - i := by omega
  have h3 : i < 128 := by omega
  simp only [hi, h1, h2, h3, decide_true, Bool.true_and]

theorem isMask_extract {n : ℕ} {m : Ip6} (hm : IsMask n m) : IsMask n (m.extractLsb' 96 32) := by
  intro i hi
  rw [getMsbD_extract m hi, hm i (by omega)]

/-- A mask of 32 bits in front of 96 zeros compares the first 32 bits. -/
theorem and_append_zero {a : Ip6} {b m : Ip4} :
    a &&& (m ++ 0#96) = (b ++ 0#96) &&& (m ++ 0#96) ↔ a.extractLsb' 96 32 &&& m = b &&& m := by
  have hlow : ∀ (x : Ip4) {i : ℕ}, i < 32 → (x ++ 0#96).getMsbD i = x.getMsbD i := by
    intro x i hi
    rw [BitVec.getMsbD_append]
    simp [hi]
  have hhigh : ∀ {i : ℕ}, ¬ i < 32 → (m ++ 0#96).getMsbD i = false := by
    intro i hi
    rw [BitVec.getMsbD_append]
    simp [Nat.not_lt.mp hi]
  rw [and_eq_and_iff, and_eq_and_iff]
  constructor
  · intro h i hi hm
    have hbit := h i (by omega) (by rw [hlow m hi]; exact hm)
    rw [getMsbD_extract a hi, hbit, hlow b hi]
  · intro h i _ hm
    by_cases hi : i < 32
    · rw [hlow m hi] at hm
      rw [hlow b hi, ← getMsbD_extract a hi]
      exact h i hi hm
    · rw [hhigh hi] at hm
      cases hm

/-- Comparing masked addresses decides whether the prefix covers the address, read as bytes. -/
theorem maskedEq_iff (h : fillPrefix inet p name = .ok (ip, m)) (x : IpAddr) :
    maskedEq x ip m ↔ p.CoversBytes inet x := by
  rcases fillPrefix_ok h with ⟨a, m4, hv, ha, hm, rfl, rfl⟩ | ⟨a, m6, hv, ha, hm, rfl, rfl⟩
  · unfold GrpcPrefix.CoversBytes
    rw [hv, ha]
    cases x with
    | v4 x =>
      simp only [maskedEq, IpAddr.ipv4, ofIp4_ip4, Option.some.injEq, exists_eq_left']
      exact and_eq_and_iff_agreeOn hm
    | v6 x =>
      simp only [maskedEq, IpAddr.ipv6, DpIpMask.ofIp4, Option.some.injEq, exists_eq_left']
      rw [and_append_zero, ← and_eq_and_iff_agreeOn hm, ← bswap_inj, bswap_and, bswap_and, bswap_bswap, bswap_bswap]
  · unfold GrpcPrefix.CoversBytes
    rw [hv, ha]
    cases x with
    | v4 x =>
      simp only [maskedEq, IpAddr.ipv4, DpIpMask.ip4, Option.some.injEq, exists_eq_left']
      rw [← and_eq_and_iff_agreeOn (isMask_extract hm), ← bswap_inj, bswap_and, bswap_and, bswap_bswap, bswap_bswap]
    | v6 x =>
      simp only [maskedEq, IpAddr.ipv6, Option.some.injEq, exists_eq_left']
      exact and_eq_and_iff_agreeOn hm

/-- A port, type or code of a message after its check: -1, or at most 65535. -/
def Int32.Checked (x : Int32) : Prop := x = -1 ∨ x.toUInt32.toNat ≤ 65535

/-- A check of a word against a bound, passed. -/
theorem word_ok {x : Int32} {u b : UInt32}
    (h : (if x.toUInt32 ≠ fwallMatchAny ∧ x.toUInt32 > b then .error name else .ok x.toUInt32 : Except String UInt32) =
    .ok u) : u = x.toUInt32 ∧ (x = -1 ∨ x.toUInt32.toNat ≤ b.toNat) := by
  split at h
  · cases h
  next hc =>
    cases h
    refine ⟨rfl, ?_⟩
    by_cases hx : x.toUInt32 = fwallMatchAny
    · exact .inl (toUInt32_eq_any.mp hx)
    · refine .inr ?_
      have hle := fun hgt => hc ⟨hx, hgt⟩
      simpa [UInt32.lt_iff_toNat_lt] using hle

/-- A port that is accepted. -/
theorem grpcToDpFwallPort_ok {x : Int32} {u : UInt32} (h : grpcToDpFwallPort x name = .ok u) :
    u = x.toUInt32 ∧ Int32.Checked x := word_ok h

theorem fillIcmpField_ok {x : Int32} {u : UInt32} (h : fillIcmpField x name = .ok u) :
    u = x.toUInt32 ∧ Int32.Checked x := by
  obtain ⟨hu, hx⟩ := word_ok h
  exact ⟨hu, hx.imp_right fun hle => Nat.le_trans hle (by decide)⟩

/-- Comparing with the words of a rule is comparing with the numbers of the message. -/
theorem fwallPortMatches_iff {lower upper : Int32} {port : UInt16} (hl : Int32.Checked lower)
    (hu : Int32.Checked upper) :
    fwallPortMatches lower.toUInt32 upper.toUInt32 port = true ↔ PortWithin lower upper port := by
  unfold fwallPortMatches PortWithin
  simp only [Bool.or_eq_true, beq_iff_eq, Bool.and_eq_true, decide_eq_true_eq, toUInt32_eq_any, ge_iff_le,
    UInt32.le_iff_toNat_le]
  have hport : port.toUInt32.toNat = port.toNat := by simp
  have hlt := port.toNat_lt
  rw [hport]
  refine or_congr_right' fun hne => ?_
  have hl' := hl.resolve_left hne
  have hlow := int32_toInt lower
  rw [if_pos (by omega)] at hlow
  by_cases hup : upper = -1
  · subst hup
    have hany : (-1 : Int32).toUInt32.toNat = 4294967295 := rfl
    rw [hany, hlow]
    simp only [true_or, and_true]
    omega
  · have hu' := hu.resolve_left hup
    have hhigh := int32_toInt upper
    rw [if_pos (by omega)] at hhigh
    rw [hlow, hhigh]
    simp only [hup, false_or]
    omega

theorem icmpField_iff {x : Int32} {t : UInt8} :
    (x.toUInt32 = fwallMatchAny ∨ t.toUInt32 = x.toUInt32) ↔ (x = -1 ∨ x.toInt = t.toNat) := by
  rw [toUInt32_eq_any]
  refine or_congr_right ?_
  have ht : t.toUInt32.toNat = t.toNat := by simp
  have hlt := t.toNat_lt
  have hx := int32_toInt x
  have hlt' := x.toUInt32.toNat_lt
  rw [← UInt32.toNat_inj, ht, hx]
  split <;> omega

/-- The filter of a rule in terms of the message. -/
inductive FilledFilter : ProtocolFilter → UInt8 → FwallFilter → Prop
  | tcp {f : GrpcPortFilter} (hsl : Int32.Checked f.srcPortLower) (hsu : Int32.Checked f.srcPortUpper)
    (hdl : Int32.Checked f.dstPortLower) (hdu : Int32.Checked f.dstPortUpper) :
    FilledFilter (.tcp f) ipprotoTcp ⟨f.srcPortLower.toUInt32, f.srcPortUpper.toUInt32, f.dstPortLower.toUInt32,
      f.dstPortUpper.toUInt32⟩
  | udp {f : GrpcPortFilter} (hsl : Int32.Checked f.srcPortLower) (hsu : Int32.Checked f.srcPortUpper)
    (hdl : Int32.Checked f.dstPortLower) (hdu : Int32.Checked f.dstPortUpper) :
    FilledFilter (.udp f) ipprotoUdp ⟨f.srcPortLower.toUInt32, f.srcPortUpper.toUInt32, f.dstPortLower.toUInt32,
      f.dstPortUpper.toUInt32⟩
  | icmp {f : GrpcIcmpFilter} (ht : Int32.Checked f.icmpType) (hc : Int32.Checked f.icmpCode) :
    FilledFilter (.icmp f) ipprotoIcmp (.ofIcmp f.icmpType.toUInt32 f.icmpCode.toUInt32)
  | notSet : FilledFilter .notSet fwallMatchAnyProtocol { srcPortLower := fwallMatchAny, dstPortLower := fwallMatchAny }

theorem fillPortFilter_ok {f : GrpcPortFilter} {g : FwallFilter} (h : fillPortFilter f name = .ok g) :
    (Int32.Checked f.srcPortLower ∧ Int32.Checked f.srcPortUpper ∧ Int32.Checked f.dstPortLower ∧
      Int32.Checked f.dstPortUpper) ∧ g = ⟨f.srcPortLower.toUInt32, f.srcPortUpper.toUInt32, f.dstPortLower.toUInt32,
      f.dstPortUpper.toUInt32⟩ := by
  unfold fillPortFilter at h
  obtain ⟨sl, hsl, h⟩ := bind_eq_ok.mp h
  obtain ⟨dl, hdl, h⟩ := bind_eq_ok.mp h
  obtain ⟨su, hsu, h⟩ := bind_eq_ok.mp h
  obtain ⟨du, hdu, h⟩ := bind_eq_ok.mp h
  obtain ⟨-, -, h⟩ := bind_eq_ok.mp h
  obtain ⟨-, -, h⟩ := bind_eq_ok.mp h
  cases h
  obtain ⟨rfl, csl⟩ := grpcToDpFwallPort_ok hsl
  obtain ⟨rfl, cdl⟩ := grpcToDpFwallPort_ok hdl
  obtain ⟨rfl, csu⟩ := grpcToDpFwallPort_ok hsu
  obtain ⟨rfl, cdu⟩ := grpcToDpFwallPort_ok hdu
  exact ⟨⟨csl, csu, cdl, cdu⟩, rfl⟩

/-- A filter that is accepted. -/
theorem fillFilter_ok {f : ProtocolFilter} {proto : UInt8} {g : FwallFilter} (h : fillFilter f = .ok (proto, g)) :
    FilledFilter f proto g := by
  cases f with
  | tcp f =>
    obtain ⟨g', hg, h⟩ := bind_eq_ok.mp h
    cases h
    obtain ⟨⟨hsl, hsu, hdl, hdu⟩, rfl⟩ := fillPortFilter_ok hg
    exact .tcp hsl hsu hdl hdu
  | udp f =>
    obtain ⟨g', hg, h⟩ := bind_eq_ok.mp h
    cases h
    obtain ⟨⟨hsl, hsu, hdl, hdu⟩, rfl⟩ := fillPortFilter_ok hg
    exact .udp hsl hsu hdl hdu
  | icmp f =>
    obtain ⟨t, ht, h⟩ := bind_eq_ok.mp h
    obtain ⟨c, hc, h⟩ := bind_eq_ok.mp h
    cases h
    obtain ⟨rfl, ct⟩ := fillIcmpField_ok ht
    obtain ⟨rfl, cc⟩ := fillIcmpField_ok hc
    exact .icmp ct cc
  | notSet =>
    cases h
    exact .notSet

/-- A rule that was made from a message. -/
structure FilledRule (inet : Inet) (r : FirewallRule) (rule : DpFwallRule) : Prop where
  src : fillPrefix inet r.sourcePrefix "source_prefix" = .ok (rule.srcIp, rule.srcMask)
  dest : fillPrefix inet r.destinationPrefix "destination_prefix" = .ok (rule.destIp, rule.destMask)
  filter : FilledFilter r.protocolFilter rule.protocol rule.filter

/-- A rule that is accepted. -/
theorem fillRequest_ok {req : CreateFirewallRuleRequest} {id : List UInt8} {rule : DpFwallRule}
    (h : fillRequest inet req = .ok (id, rule)) : FilledRule inet req.rule rule := by
  unfold fillRequest at h
  obtain ⟨ifaceId, -, h⟩ := bind_eq_ok.mp h
  obtain ⟨ruleId, -, h⟩ := bind_eq_ok.mp h
  obtain ⟨src, hsrc, h⟩ := bind_eq_ok.mp h
  obtain ⟨dest, hdest, h⟩ := bind_eq_ok.mp h
  obtain ⟨dir, -, h⟩ := bind_eq_ok.mp h
  obtain ⟨action, -, h⟩ := bind_eq_ok.mp h
  obtain ⟨priority, -, h⟩ := bind_eq_ok.mp h
  obtain ⟨filter, hfilter, h⟩ := bind_eq_ok.mp h
  cases h
  exact ⟨hsrc, hdest, fillFilter_ok hfilter⟩

end Conversion

/-! ## Matching -/

def DpFlow.Known (df : DpFlow) : Prop :=
  (df.l3Type = .ipv4 ∨ df.l3Type = .ipv6) ∧ (df.l4Type = ipprotoTcp ∨ df.l4Type = ipprotoUdp ∨ isIcmp df.l4Type = true)

section Matching

variable {inet : Inet} {r : FirewallRule} {rule : DpFwallRule} {df : DpFlow}

theorem fillPrefix_l3Type {p : GrpcPrefix} {name : String} {ip : IpAddr} {m : DpIpMask}
    (h : fillPrefix inet p name = .ok (ip, m)) (x : IpAddr) : p.SameVersion x ↔ ip.l3Type = x.l3Type := by
  unfold GrpcPrefix.SameVersion IpAddr.l3Type
  rcases fillPrefix_ok h with ⟨a, m4, hv, -, -, rfl, -⟩ | ⟨a, m6, hv, -, -, rfl, -⟩ <;> rw [hv] <;> cases x <;>
    simp [IpAddr.isV6]

theorem DpFlow.Known.l3Type (h : df.Known) : df.srcIp.l3Type = df.l3Type ∧ df.dstIp.l3Type = df.l3Type := by
  rcases h.1 with h | h <;> simp [DpFlow.srcIp, DpFlow.dstIp, IpAddr.l3Type, h, IpAddr.isV6]

/-- The addresses match in the bytes that are compared. -/
theorem addrsMatch_iff (h : FilledRule inet r rule) (hk : df.Known) :
    rule.addrsMatch df = true ↔ r.CoversBytes inet df := by
  unfold FirewallRule.CoversBytes
  rw [← maskedEq_iff h.src, ← maskedEq_iff h.dest]
  unfold DpFwallRule.addrsMatch
  rcases hk.1 with h3 | h3 <;> simp [h3, DpFlow.srcIp, DpFlow.dstIp, maskedEq]

/-- Ports and protocol of a TCP or UDP packet. -/
theorem acceptsRest_ports {f : ProtocolFilter} {g : FwallFilter} {proto : UInt8} (h : FilledFilter f proto g)
    (hp : df.l4Type = ipprotoTcp ∨ df.l4Type = ipprotoUdp) :
    (proto = fwallMatchAnyProtocol ∨ proto = df.l4Type) ∧ g.portsMatch df = true ↔ f.AcceptsRest df := by
  have hi : isIcmp df.l4Type = false := by rcases hp with h | h <;> rw [h] <;> rfl
  unfold FwallFilter.portsMatch DpFlow.transSrcPort DpFlow.transDstPort
  simp only [hi, Bool.false_eq_true, if_false, Bool.and_eq_true]
  cases h with
  | tcp hsl hsu hdl hdu =>
    rw [fwallPortMatches_iff hsl hsu, fwallPortMatches_iff hdl hdu]
    refine and_congr_left' ?_
    simp +decide [eq_comm]
  | udp hsl hsu hdl hdu =>
    rw [fwallPortMatches_iff hsl hsu, fwallPortMatches_iff hdl hdu]
    refine and_congr_left' ?_
    simp +decide [eq_comm]
  | icmp ht hc =>
    rcases hp with hp | hp <;> simp +decide [ProtocolFilter.AcceptsRest, DpFlow.IsIcmpOf, hp]
  | notSet => simp [ProtocolFilter.AcceptsRest, fwallPortMatches]

/-- The protocol that an ICMP packet is compared as. -/
theorem isIcmpOf_iff (hi : isIcmp df.l4Type = true) :
    ipprotoIcmp = (if df.l3Type = .ipv6 then ipprotoIcmp else df.l4Type) ↔ df.IsIcmpOf := by
  unfold DpFlow.IsIcmpOf
  rw [isIcmp, Bool.or_eq_true, beq_iff_eq, beq_iff_eq] at hi
  by_cases h6 : df.l3Type = .ipv6
  · simpa [h6] using hi
  · simp [h6, eq_comm]

theorem icmpMatches_iff {f : GrpcIcmpFilter} :
    (FwallFilter.ofIcmp f.icmpType.toUInt32 f.icmpCode.toUInt32).icmpMatches df = true ↔ f.Accepts df := by
  simp only [FwallFilter.icmpMatches, FwallFilter.icmpType, FwallFilter.icmpCode, FwallFilter.ofIcmp, Bool.and_eq_true,
    Bool.or_eq_true, beq_iff_eq]
  rw [icmpField_iff, icmpField_iff]
  rfl

/-- An ICMP packet, read as ports. -/
theorem ofIcmp_portsMatch_iff {f : GrpcIcmpFilter} (ht : Int32.Checked f.icmpType) (hc : Int32.Checked f.icmpCode)
    (hi : isIcmp df.l4Type = true) :
    (FwallFilter.ofIcmp f.icmpType.toUInt32 f.icmpCode.toUInt32).portsMatch df = true ↔
      df.icmpType = 0 ∧ df.icmpCode = 0 ∧ PortWithin f.icmpType f.icmpCode df.icmpIdent := by
  unfold FwallFilter.portsMatch DpFlow.transSrcPort DpFlow.transDstPort
  simp only [hi, if_true, Bool.and_eq_true, FwallFilter.ofIcmp]
  rw [fwallPortMatches_iff ht hc]
  have hz : fwallPortMatches 0 0 (df.icmpType.toUInt16 <<< 8 ||| df.icmpCode.toUInt16) = true ↔
      df.icmpType = 0 ∧ df.icmpCode = 0 := by
    have hle : ∀ x : UInt16, fwallPortMatches 0 0 x = true ↔ x = 0 := by
      intro x
      simp +decide [fwallPortMatches, UInt32.le_iff_toNat_le, ← UInt16.toNat_inj]
    have hshift : (df.icmpType.toUInt16 <<< 8).toNat = df.icmpType.toNat * 256 := by
      have hlt := df.icmpType.toNat_lt
      simp [Nat.shiftLeft_eq]
      omega
    rw [hle, UInt16.or_eq_zero_iff, ← UInt16.toNat_inj, ← UInt16.toNat_inj, ← UInt8.toNat_inj,
      ← UInt8.toNat_inj, hshift]
    simp
  rw [hz]
  tauto

/-- What is left of the comparison for an ICMP packet. -/
theorem icmpRest_iff {f : ProtocolFilter} {b : Bool} (h : FilledFilter f rule.protocol rule.filter)
    (hi : isIcmp df.l4Type = true) (hb : rule.addrsMatch df = b) :
    (if (!rule.protocolMatches ipprotoIcmp) = true then false
      else if (rule.filter.icmpMatches df &&
        rule.protocolMatches (if df.l3Type = .ipv6 then ipprotoIcmp else df.l4Type)) = true then true
      else rule.restMatches df (if df.l3Type = .ipv6 then ipprotoIcmp else df.l4Type)) = true ↔
    f.AcceptsBlindly df ∨ f.AcceptsRest df ∧ b = true := by
  have hof := isIcmpOf_iff hi
  generalize (if df.l3Type = .ipv6 then ipprotoIcmp else df.l4Type) = t at hof
  unfold DpFwallRule.restMatches DpFwallRule.protocolMatches
  rw [hb]
  generalize rule.protocol = proto at h
  generalize rule.filter = g at h
  cases h with
  | tcp =>
    have hne : df.l4Type ≠ ipprotoTcp := by
      intro heq
      rw [heq] at hi
      cases hi
    simp +decide [ProtocolFilter.AcceptsBlindly, ProtocolFilter.AcceptsRest, hne]
  | udp =>
    have hne : df.l4Type ≠ ipprotoUdp := by
      intro heq
      rw [heq] at hi
      cases hi
    simp +decide [ProtocolFilter.AcceptsBlindly, ProtocolFilter.AcceptsRest, hne]
  | icmp ht hc =>
    simp only [ProtocolFilter.AcceptsBlindly, ProtocolFilter.AcceptsRest, hi, true_and, ← hof, ← icmpMatches_iff,
      ← ofIcmp_portsMatch_iff ht hc hi]
    by_cases heq : ipprotoIcmp = t
    · simp +decide [← heq, and_comm]
    · simp +decide [heq]
  | notSet =>
    have hcode : df.icmpCode.toUInt32 = 0 ↔ df.icmpCode = 0 := by
      rw [← UInt32.toNat_inj, ← UInt8.toNat_inj]
      simp
    simp +decide [ProtocolFilter.AcceptsBlindly, ProtocolFilter.AcceptsRest, hi, FwallFilter.icmpMatches,
      FwallFilter.icmpType, FwallFilter.icmpCode, FwallFilter.portsMatch, fwallPortMatches, hcode]

/-- **The packets that a rule matches, in terms of the message.** -/
theorem dpIsRuleMatching_iff (h : FilledRule inet r rule) (hk : df.Known) :
    dpIsRuleMatching rule df = true ↔ r.OneVersion df ∧
      (r.protocolFilter.AcceptsBlindly df ∨ r.protocolFilter.AcceptsRest df ∧ r.CoversBytes inet df) := by
  have hone : r.OneVersion df ↔ ¬ (rule.srcIp.l3Type ≠ df.l3Type ∧ rule.destIp.l3Type ≠ df.l3Type) := by
    unfold FirewallRule.OneVersion
    rw [fillPrefix_l3Type h.src, fillPrefix_l3Type h.dest, hk.l3Type.1, hk.l3Type.2]
    tauto
  rw [hone, ← addrsMatch_iff h hk]
  have hfill := h.filter
  unfold dpIsRuleMatching
  split
  next hne => simp [hne]
  next hne =>
    simp only [hne, not_false_eq_true, true_and]
    split
    next hp =>
      rw [← acceptsRest_ports hfill hp]
      have hb : ¬ r.protocolFilter.AcceptsBlindly df := by
        rintro ⟨hi, -⟩
        rcases hp with h | h <;> rw [h] at hi <;> cases hi
      simp only [hb, false_or, DpFwallRule.restMatches]
      have hpm : rule.protocolMatches df.l4Type = true ↔ rule.protocol = fwallMatchAnyProtocol ∨
          rule.protocol = df.l4Type := by
        simp [DpFwallRule.protocolMatches]
      rw [← hpm]
      cases rule.protocolMatches df.l4Type <;> cases rule.addrsMatch df <;> simp
    next hp =>
      have hi : isIcmp df.l4Type = true := (or_assoc.mpr hk.2).resolve_left hp
      rw [if_pos hi, ← icmpRest_iff hfill hi rfl]

theorem GrpcPrefix.Covers.sameVersion {p : GrpcPrefix} {ip : IpAddr} (h : p.Covers inet ip) : p.SameVersion ip := by
  unfold GrpcPrefix.Covers at h
  unfold GrpcPrefix.SameVersion
  cases hv : p.ipver <;> cases ip <;> simp_all [IpAddr.isV6]

/-- For addresses of its own version the bytes of a prefix are the prefix. -/
theorem GrpcPrefix.coversBytes_iff {p : GrpcPrefix} {ip : IpAddr} (h : p.SameVersion ip) :
    p.CoversBytes inet ip ↔ p.Covers inet ip := by
  unfold GrpcPrefix.SameVersion at h
  unfold GrpcPrefix.CoversBytes GrpcPrefix.Covers
  cases ip <;> rw [h] <;> rfl

theorem FirewallRule.Covers.bothVersions (h : r.Covers inet df) : r.BothVersions df :=
  ⟨h.1.sameVersion, h.2.sameVersion⟩

theorem FirewallRule.coversBytes_iff (h : r.BothVersions df) : r.CoversBytes inet df ↔ r.Covers inet df :=
  and_congr (GrpcPrefix.coversBytes_iff h.1) (GrpcPrefix.coversBytes_iff h.2)

theorem ProtocolFilter.AcceptsBlindly.accepts {f : ProtocolFilter} (h : f.AcceptsBlindly df) : f.Accepts df := by
  obtain ⟨-, h⟩ := h
  cases f with
  | tcp f | udp f => cases h
  | icmp f => exact h
  | notSet => trivial

theorem ProtocolFilter.Accepts.blindly_or_rest {f : ProtocolFilter} (h : f.Accepts df) :
    f.AcceptsBlindly df ∨ f.AcceptsRest df := by
  cases f with
  | tcp f | udp f | notSet => exact .inr h
  | icmp f =>
    refine .inl ⟨?_, h⟩
    rcases h.1 with hp | ⟨-, hp⟩ <;> rw [hp] <;> rfl

/-- The three ways in which a rule matches too much do not concern the packet: it does not match blindly with an address
outside the prefixes, it does not fit a prefix of another version, and an ICMP packet does not fit a rule for other
types and codes that are read as ports. -/
structure FirewallRule.Exact (inet : Inet) (r : FirewallRule) (df : DpFlow) : Prop where
  blind : r.OneVersion df → r.protocolFilter.AcceptsBlindly df → r.Covers inet df
  mixed : r.OneVersion df → ¬ r.BothVersions df → r.protocolFilter.AcceptsRest df → ¬ r.CoversBytes inet df
  misread : r.Covers inet df → ¬ r.protocolFilter.Accepts df → ¬ r.protocolFilter.AcceptsRest df

/-- **A rule matches the packets it is meant to match, except in the three ways.** -/
theorem rule_matching_iff {req : CreateFirewallRuleRequest} {id : List UInt8}
    (h : fillRequest inet req = .ok (id, rule)) (hk : df.Known) :
    (dpIsRuleMatching rule df = true ↔ req.rule.Matches inet df) ↔ req.rule.Exact inet df := by
  rw [dpIsRuleMatching_iff (fillRequest_ok h) hk]
  constructor
  · intro hiff
    refine ⟨fun hone hb => (hiff.mp ⟨hone, .inl hb⟩).1, fun hone hmixed hrest hc => ?_, fun hcov hna hrest => ?_⟩
    · exact hmixed (hiff.mp ⟨hone, .inr ⟨hrest, hc⟩⟩).1.bothVersions
    · have hboth := hcov.bothVersions
      exact hna (hiff.mp ⟨.inl hboth.1, .inr ⟨hrest, (FirewallRule.coversBytes_iff hboth).mpr hcov⟩⟩).2
  · intro hexact
    constructor
    · rintro ⟨hone, hb | ⟨hrest, hc⟩⟩
      · exact ⟨hexact.blind hone hb, hb.accepts⟩
      · have hboth : req.rule.BothVersions df := by
          by_contra hmixed
          exact hexact.mixed hone hmixed hrest hc
        have hcov := (FirewallRule.coversBytes_iff hboth).mp hc
        refine ⟨hcov, ?_⟩
        by_contra hna
        exact hexact.misread hcov hna hrest
    · rintro ⟨hcov, hacc⟩
      have hboth := hcov.bothVersions
      exact ⟨.inl hboth.1, hacc.blindly_or_rest.imp_right fun hrest =>
        ⟨hrest, (FirewallRule.coversBytes_iff hboth).mpr hcov⟩⟩

end Matching

/-! ## Two rules -/

/-- The two addresses that the rules below mention. -/
def sampleInet : Inet where
  aton s := if s = "10.0.0.0" then some 0x0a000000 else if s = "0.0.0.0" then some 0 else none
  pton _ := none

/-- A rule for what comes from 10.0.0.0/8. -/
def sampleRule (filter : ProtocolFilter) : CreateFirewallRuleRequest where
  interfaceId := [118, 109]
  rule := {
    id := [114]
    direction := .ingress
    action := .accept
    priority := 1000
    sourcePrefix := ⟨.ipv4, "10.0.0.0", 8⟩
    destinationPrefix := ⟨.ipv4, "0.0.0.0", 0⟩
    protocolFilter := filter }

/-- The rule for TCP port 80. -/
def httpRule : CreateFirewallRuleRequest := sampleRule (.tcp ⟨-1, -1, 80, 80⟩)

def pingRule : CreateFirewallRuleRequest := sampleRule (.icmp ⟨-1, -1⟩)

/-- A request to port 80. -/
def httpPacket (src : Ip4) : DpFlow :=
  { l3Type := .ipv4, srcAddr := src, dstAddr := 0x0a000001, l4Type := ipprotoTcp, srcPort := 1000, dstPort := 80 }

def pingPacket (src : Ip4) : DpFlow :=
  { l3Type := .ipv4, srcAddr := src, dstAddr := 0x0a000001, l4Type := ipprotoIcmp, icmpType := icmpEchoRequest }

/-- The words of the rules above. -/
def sampleDpRule (protocol : UInt8) (filter : FwallFilter) : DpFwallRule where
  ruleId := [114]
  srcIp := .v4 0x0a000000
  destIp := .v4 0
  srcMask := .ofIp4 0xff000000
  destMask := .ofIp4 0
  priority := 1000
  protocol := protocol
  filter := filter
  action := .accept
  dir := .ingress

theorem rule_matching_http :
    fillRequest sampleInet httpRule = .ok ([118, 109], sampleDpRule ipprotoTcp ⟨0xffffffff, 0xffffffff, 80, 80⟩) ∧
    dpIsRuleMatching (sampleDpRule ipprotoTcp ⟨0xffffffff, 0xffffffff, 80, 80⟩) (httpPacket 0x0a000005) = true ∧
    httpRule.rule.Matches sampleInet (httpPacket 0x0a000005) := by
  have hfill : fillRequest sampleInet httpRule =
      .ok ([118, 109], sampleDpRule ipprotoTcp ⟨0xffffffff, 0xffffffff, 80, 80⟩) := by rfl
  have hmatch : dpIsRuleMatching (sampleDpRule ipprotoTcp ⟨0xffffffff, 0xffffffff, 80, 80⟩)
      (httpPacket 0x0a000005) = true := by decide
  have hexact : httpRule.rule.Exact sampleInet (httpPacket 0x0a000005) := by
    refine ⟨fun _ hb => ?_, fun _ hmixed => ?_, fun _ hna => ?_⟩
    · cases hb.1
    · exact absurd ⟨rfl, rfl⟩ hmixed
    · exact absurd ⟨rfl, .inl rfl, .inr ⟨by decide, .inr (by decide)⟩⟩ hna
  exact ⟨hfill, hmatch, ((rule_matching_iff hfill ⟨.inl rfl, .inl rfl⟩).mpr hexact).mp hmatch⟩

/-- An echo request from outside the prefix matches. -/
theorem rule_matching_ping :
    fillRequest sampleInet pingRule = .ok ([118, 109], sampleDpRule ipprotoIcmp ⟨0xffffffff, 0xffffffff, 0, 0⟩) ∧
    (pingPacket 0x0b000001).Known ∧
    dpIsRuleMatching (sampleDpRule ipprotoIcmp ⟨0xffffffff, 0xffffffff, 0, 0⟩) (pingPacket 0x0b000001) = true ∧
    ¬ pingRule.rule.Matches sampleInet (pingPacket 0x0b000001) := by
  refine ⟨by rfl, ⟨.inl rfl, .inr (.inr rfl)⟩, by decide, fun h => ?_⟩
  obtain ⟨b, hb, hagree⟩ := h.1.1
  cases hb
  exact absurd (hagree 7 (by decide)) (by decide)

end Dpservice
