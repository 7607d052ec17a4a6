import Dpservice.Frame
import Dpservice.Lib.Checksum

/-!
# NAT64 header translation

`dp_nat_chg_ipv6_to_ipv4_hdr` and `dp_nat_chg_ipv4_to_ipv6_hdr` rewrite a packet in its own memory: the Ethernet header
is moved by the 20 bytes in which the headers differ, and the new header is written over the old one while fields of the
old one are still read.

- `Frame.setupIpv4Hdr`, `Frame.setupIpv6Hdr`: the stores in the order of the source, and what each field holds
  afterwards (`setupIpv4Hdr_tos`, `setupIpv6Hdr_vtc`, …);
- `nat64L4To4_spec`, `nat64L4To6_spec`: the bytes behind the header that are set;
- `Nat64Ok`: the IPv4 packet has what the IPv6 packet had (`Nat64To4`), and so have the IPv6 packets made from its
  answers (`Nat64To6`);
- `nat64_header_iff`: the hop limit is lost, everything else is kept.
-/

namespace Dpservice

/-- `DP_NAT64_PREFIX`: the first 12 bytes of `64:ff9b::/96`. -/
def nat64Prefix : List UInt8 := [0x00, 0x64, 0xff, 0x9b, 0, 0, 0, 0, 0, 0, 0, 0]

/-- `dp_calculate_icmp_checksum`: the words are added in host order; for an odd length the byte behind the message is
added too. -/
def dpCalculateIcmpChecksum (m : Buffer) (icmp len : ℕ) : Buffer :=
  let m := m.put (icmp + 2) [0, 0]
  let word := fun i => le16 m (icmp + 2 * i)
  let sum := foldCarries 3 (((List.range ((len + 1) / 2)).map word).sum % 2 ^ 32)
  m.put (icmp + 2) (le16Bytes (65535 - sum))

namespace Frame

/-- The layer-4 part of `dp_nat_chg_ipv6_to_ipv4_hdr`. -/
def nat64L4To4 (l4Type : UInt8) (m : Buffer) (ip4 : ℕ) : Option Buffer :=
  if l4Type = ipprotoTcp then some (m.put (ip4 + 36) [0, 0])
  else if l4Type = ipprotoUdp then some (m.put (ip4 + 26) [0, 0])
  else if l4Type = ipprotoIcmpv6 then
    let m := m.put (ip4 + 9) [ipprotoIcmp]
    let m := m.put (ip4 + 21) [0]
    let cksum := fun m => dpCalculateIcmpChecksum m (ip4 + 20) (be16 m (ip4 + 2) - (m ip4).toNat % 16 * 4)
    if m (ip4 + 20) = icmpv6EchoRequest then some (cksum (m.put (ip4 + 20) [icmpEchoRequest]))
    else if m (ip4 + 20) = icmpv6EchoReply then some (cksum (m.put (ip4 + 20) [icmpEchoReply]))
    else none
  else none

/-- The memory where `dp_nat_chg_ipv6_to_ipv4_hdr` has set up the IPv4 header: the Ethernet header is moved 20 bytes up,
over the IPv6 header, before the new header is written. -/
def setupIpv4Hdr (f : Frame) (natIp : Ip4) : Buffer :=
  let ip6 := f.l3
  let m := f.mem.put (f.off + 12) [0x08, 0x00]
  let destIp := m.slice (ip6 + 36) 4
  let l4Proto := m (ip6 + 6)
  let off := f.off + 20
  let len := f.len - 20
  let m := m.put off (m.slice f.off 14)
  let ip4 := off + 14
  let m := m.put ip4 [0x45]
  let m := m.put (ip4 + 1) [UInt8.ofNat (be32 m ip6 / 2 ^ 20 % 256)]
  let m := m.put (ip4 + 2) (be16Bytes (len - 14))
  let m := m.put (ip4 + 4) [0, 0]
  let m := m.put (ip4 + 6) [0, 0]
  let m := m.put (ip4 + 8) [m (ip6 + 7)]
  let m := m.put (ip4 + 9) [l4Proto]
  let m := m.put (ip4 + 12) (be32Bytes natIp.toNat)
  let m := m.put (ip4 + 16) destIp
  m.put (ip4 + 10) [0, 0]

def dpNatChgIpv6ToIpv4Hdr (f : Frame) (l4Type : UInt8) (natIp : Ip4) : Option Frame :=
  -- rte_pktmbuf_adj
  if 20 > f.len then none
  else
    (nat64L4To4 l4Type (f.setupIpv4Hdr natIp) (f.off + 34)).map fun m =>
      { mem := m, off := f.off + 20, len := f.len - 20 }

/-- The layer-4 part of `dp_nat_chg_ipv4_to_ipv6_hdr`; `cksum6` is DPDK's `rte_ipv6_udptcp_cksum`, on the memory and the
places of the two headers. -/
def nat64L4To6 (cksum6 : Buffer → ℕ → ℕ → ℕ) (l4Type : UInt8) (m : Buffer) (ip6 : ℕ) : Option Buffer :=
  if l4Type = ipprotoTcp then some (m.put (ip6 + 56) [0, 0])
  else if l4Type = ipprotoUdp then some (m.put (ip6 + 46) [0, 0])
  else if l4Type = ipprotoIcmp then
    let m := m.put (ip6 + 6) [ipprotoIcmpv6]
    let m := m.put (ip6 + 41) [0]
    let m := m.put (ip6 + 42) [0, 0]
    let cksum := fun m => m.put (ip6 + 42) (be16Bytes (cksum6 m ip6 (ip6 + 40)))
    if m (ip6 + 40) = icmpEchoRequest then some (cksum (m.put (ip6 + 40) [icmpv6EchoRequest]))
    else if m (ip6 + 40) = icmpEchoReply then some (cksum (m.put (ip6 + 40) [icmpv6EchoReply]))
    else none
  else none

/-- The memory where `dp_nat_chg_ipv4_to_ipv6_hdr` has set up the IPv6 header, over the IPv4 header and the old place of
the Ethernet header, which is moved 20 bytes down. -/
def setupIpv6Hdr (f : Frame) (ipv6Addr : List UInt8) : Buffer :=
  let ip4 := f.l3
  let m := f.mem.put (f.off + 12) [0x86, 0xdd]
  let srcIpv4 := m.slice (ip4 + 12) 4
  let l4Proto := m (ip4 + 9)
  let off := f.off - 20
  let len := f.len + 20
  let m := m.put off (m.slice f.off 14)
  let ip6 := off + 14
  let m := m.put ip6 (be32Bytes (6 * 2 ^ 28 + (m (ip4 + 1)).toNat * 2 ^ 20))
  let m := m.put (ip6 + 4) (be16Bytes (len - 14 - 40))
  let m := m.put (ip6 + 6) [l4Proto]
  let m := m.put (ip6 + 7) [m (ip4 + 8)]
  let m := m.put (ip6 + 8) nat64Prefix
  let m := m.put (ip6 + 20) srcIpv4
  m.put (ip6 + 24) ipv6Addr

def dpNatChgIpv4ToIpv6Hdr (cksum6 : Buffer → ℕ → ℕ → ℕ) (f : Frame) (l4Type : UInt8) (ipv6Addr : List UInt8) :
    Option Frame :=
  -- rte_pktmbuf_prepend: the headroom is what lies before the data
  if 20 > f.off then none
  else
    (nat64L4To6 cksum6 l4Type (f.setupIpv6Hdr ipv6Addr) (f.off - 20 + 14)).map fun m =>
      { mem := m, off := f.off - 20, len := f.len + 20 }

end Frame

/-! ## The header -/

section Header

open Buffer Frame

variable (f : Frame) (natIp : Ip4)

theorem setupIpv4Hdr_mac {i : ℕ} (hi : i < 12) : f.setupIpv4Hdr natIp (f.off + 20 + i) = f.mem (f.off + i) := by
  unfold setupIpv4Hdr
  simp (disch := first | (simp; done) | (simp; omega)) only [put_outside]
  rw [put_inside (by simp; omega), getElem_slice, put_outside (by omega)]

theorem setupIpv4Hdr_l4 (i : ℕ) : f.setupIpv4Hdr natIp (f.off + 54 + i) = f.mem (f.off + 54 + i) := by
  unfold setupIpv4Hdr
  simp (disch := first | (simp; done) | (simp; omega)) only [put_outside]

theorem setupIpv4Hdr_type : be16 (f.setupIpv4Hdr natIp) (f.off + 32) = 0x0800 := by
  simp [setupIpv4Hdr, put_apply, be16, Nat.add_assoc]

theorem setupIpv4Hdr_version : f.setupIpv4Hdr natIp (f.off + 34) = 0x45 := by
  simp [setupIpv4Hdr, put_apply, Nat.add_assoc]

/-- The traffic class becomes the type of service. -/
theorem setupIpv4Hdr_tos : (f.setupIpv4Hdr natIp (f.off + 35)).toNat = f.trafficClass := by
  simp [setupIpv4Hdr, put_apply, be32, be16, trafficClass, Nat.add_assoc]

/-- The total length. -/
theorem setupIpv4Hdr_len (h : f.len ≤ 65535) : be16 (f.setupIpv4Hdr natIp) (f.off + 36) = f.len - 34 := by
  simp [setupIpv4Hdr, put_apply, be16, be16Bytes, Nat.add_assoc]
  omega

/-- The hop limit is read where the Ethernet header already stands. -/
theorem setupIpv4Hdr_ttl : f.setupIpv4Hdr natIp (f.off + 42) = f.mem (f.off + 1) := by
  simp [setupIpv4Hdr, put_apply, Nat.add_assoc]

theorem setupIpv4Hdr_proto : f.setupIpv4Hdr natIp (f.off + 43) = f.proto := by
  simp [setupIpv4Hdr, put_apply, proto, Nat.add_assoc]

/-- The bytes of the destination stay where they are. -/
theorem setupIpv4Hdr_dst {i : ℕ} (hi : i < 4) : f.setupIpv4Hdr natIp (f.off + 50 + i) = f.mem (f.off + 50 + i) := by
  unfold setupIpv4Hdr
  simp (disch := first | (simp; done) | (simp; omega)) only [put_outside]
  rw [show f.off + 50 + i = f.off + 20 + 14 + 16 + i by omega, put_inside (by simpa using hi), getElem_slice,
    put_outside (by simp [Frame.l3]; omega)]

end Header

section Header6

open Buffer Frame

variable {f : Frame} {o : ℕ} {addr : List UInt8}

theorem setupIpv6Hdr_mac (ho : f.off = o + 20) (haddr : addr.length = 16) {i : ℕ} (hi : i < 12) :
    f.setupIpv6Hdr addr (o + i) = f.mem (f.off + i) := by
  unfold setupIpv6Hdr
  rw [ho, Nat.add_sub_cancel]
  simp (disch := first | (simp [nat64Prefix, haddr]; done) | (simp [nat64Prefix, haddr]; omega)) only [put_outside]
  rw [put_inside (by simp; omega), getElem_slice, put_outside (by omega)]

theorem setupIpv6Hdr_l4 (ho : f.off = o + 20) (haddr : addr.length = 16) (i : ℕ) :
    f.setupIpv6Hdr addr (o + 54 + i) = f.mem (o + 54 + i) := by
  unfold setupIpv6Hdr
  rw [ho, Nat.add_sub_cancel]
  simp (disch := first | (simp [nat64Prefix, haddr]; done) | (simp [nat64Prefix, haddr]; omega)) only [put_outside]

theorem setupIpv6Hdr_type (ho : f.off = o + 20) (haddr : addr.length = 16) :
    be16 (f.setupIpv6Hdr addr) (o + 12) = 0x86dd := by
  simp [setupIpv6Hdr, put_apply, be16, haddr, nat64Prefix, ho, Nat.add_assoc]

/-- Version and traffic class. -/
theorem setupIpv6Hdr_vtc (ho : f.off = o + 20) (haddr : addr.length = 16) :
    be32 (f.setupIpv6Hdr addr) (o + 14) = 6 * 2 ^ 28 + f.typeOfService.toNat * 2 ^ 20 := by
  have htos := f.typeOfService.toNat_lt
  simp [setupIpv6Hdr, put_apply, be32, be16, be32Bytes, be16Bytes, haddr, nat64Prefix, ho, typeOfService,
    Nat.add_assoc] at htos ⊢
  omega

theorem setupIpv6Hdr_len (ho : f.off = o + 20) (haddr : addr.length = 16) (h : f.len ≤ 65535) :
    be16 (f.setupIpv6Hdr addr) (o + 18) = f.len - 34 := by
  simp [setupIpv6Hdr, put_apply, be16, be16Bytes, haddr, nat64Prefix, ho, Nat.add_assoc]
  omega

theorem setupIpv6Hdr_proto (ho : f.off = o + 20) (haddr : addr.length = 16) :
    f.setupIpv6Hdr addr (o + 20) = f.nextProtoId := by
  simp [setupIpv6Hdr, put_apply, haddr, nat64Prefix, ho, nextProtoId, Nat.add_assoc]

theorem setupIpv6Hdr_hops (ho : f.off = o + 20) (haddr : addr.length = 16) :
    f.setupIpv6Hdr addr (o + 21) = f.timeToLive := by
  simp [setupIpv6Hdr, put_apply, be32Bytes, haddr, nat64Prefix, ho, timeToLive, Nat.add_assoc]

/-- The source is in the NAT64 prefix. -/
theorem setupIpv6Hdr_src (ho : f.off = o + 20) :
    (f.setupIpv6Hdr addr).slice (o + 22) 16 = nat64Prefix ++ f.srcAddr4 := by
  unfold setupIpv6Hdr srcAddr4
  rw [ho, Nat.add_sub_cancel, slice_put_outside (by omega), slice_add _ _ 12 4]
  congr 1
  · rw [slice_put_outside (by simp), slice_put (by rfl)]
  · rw [slice_put (by simp), slice_put_outside (by simp; omega)]

theorem setupIpv6Hdr_dst (ho : f.off = o + 20) (haddr : addr.length = 16) :
    (f.setupIpv6Hdr addr).slice (o + 38) 16 = addr := by
  unfold setupIpv6Hdr
  rw [ho, Nat.add_sub_cancel, slice_put haddr]

end Header6

/-! ## Layer 4 -/

/-- The bytes of a layer-4 header that a translation sets: the checksum, for ICMP also type and code. -/
def L4Owned (l4Type : UInt8) (i : ℕ) : Prop :=
  (l4Type = ipprotoTcp ∧ (i = 16 ∨ i = 17)) ∨ (l4Type = ipprotoUdp ∧ (i = 6 ∨ i = 7)) ∨
    (l4Type = ipprotoIcmpv6 ∧ i < 4)

/-- The IPv4 protocol that an IPv6 protocol is translated to. -/
def l4TypeOf4 (l4Type : UInt8) : UInt8 := if l4Type = ipprotoIcmpv6 then ipprotoIcmp else l4Type

/-- The echo types correspond. -/
def EchoTypes (t6 t4 : UInt8) : Prop :=
  (t6 = icmpv6EchoRequest ∧ t4 = icmpEchoRequest) ∨ (t6 = icmpv6EchoReply ∧ t4 = icmpEchoReply)

/-- TCP, UDP or an ICMPv6 echo with its type byte at `t`. -/
def Translatable (l4Type : UInt8) (t : UInt8) : Prop :=
  l4Type = ipprotoTcp ∨ l4Type = ipprotoUdp ∨
    (l4Type = ipprotoIcmpv6 ∧ (t = icmpv6EchoRequest ∨ t = icmpv6EchoReply))

section L4

open Buffer Frame

variable {l4Type : UInt8} {m : Buffer} {ip4 ip6 icmp len a : ℕ}

/-- Only the checksum is written. -/
theorem dpCalculateIcmpChecksum_outside (h : a < icmp + 2 ∨ icmp + 4 ≤ a) :
    dpCalculateIcmpChecksum m icmp len a = m a := by
  unfold dpCalculateIcmpChecksum
  rw [put_outside (by simpa using h), put_outside (by simpa using h)]

/-- The layer-4 step changes the bytes that the translation owns, and for ICMP the protocol number. -/
theorem nat64L4To4_spec (h : Translatable l4Type (m (ip4 + 20))) :
    ∃ m', nat64L4To4 l4Type m ip4 = some m' ∧
      (m (ip4 + 9) = l4Type → m' (ip4 + 9) = l4TypeOf4 l4Type) ∧
      (∀ a, a ≠ ip4 + 9 → (∀ i, a = ip4 + 20 + i → ¬ L4Owned l4Type i) → m' a = m a) ∧
      (l4Type = ipprotoIcmpv6 → EchoTypes (m (ip4 + 20)) (m' (ip4 + 20))) := by
  obtain rfl | rfl | ⟨rfl, ht⟩ := h
  · refine ⟨m.put (ip4 + 36) [0, 0], by simp [nat64L4To4], fun hp => ?_, fun a _ ha => ?_, fun hne => ?_⟩
    · rwa [put_outside (by omega)]
    · refine put_outside ?_
      by_contra hc
      exact ha (a - (ip4 + 20)) (by simp at hc; omega) (.inl ⟨rfl, by simp at hc; omega⟩)
    · exact absurd hne (by decide)
  · refine ⟨m.put (ip4 + 26) [0, 0], by simp +decide [nat64L4To4], fun hp => ?_, fun a _ ha => ?_, fun hne => ?_⟩
    · rwa [put_outside (by omega)]
    · refine put_outside ?_
      by_contra hc
      exact ha (a - (ip4 + 20)) (by simp at hc; omega) (.inr (.inl ⟨rfl, by simp at hc; omega⟩))
    · exact absurd hne (by decide)
  · obtain ⟨t, het, hres⟩ : ∃ t, EchoTypes (m (ip4 + 20)) t ∧ ∃ len, nat64L4To4 ipprotoIcmpv6 m ip4 =
        some (dpCalculateIcmpChecksum (((m.put (ip4 + 9) [ipprotoIcmp]).put (ip4 + 21) [0]).put (ip4 + 20) [t])
          (ip4 + 20) len) := by
      have hread : (m.put (ip4 + 9) [ipprotoIcmp]).put (ip4 + 21) [0] (ip4 + 20) = m (ip4 + 20) := by
        rw [put_outside (by omega), put_outside (by simp)]
      obtain ht | ht := ht
      · exact ⟨icmpEchoRequest, .inl ⟨ht, rfl⟩, _, by simp +decide [nat64L4To4, hread, ht]; rfl⟩
      · exact ⟨icmpEchoReply, .inr ⟨ht, rfl⟩, _, by simp +decide [nat64L4To4, hread, ht]; rfl⟩
    obtain ⟨len, hres⟩ := hres
    refine ⟨_, hres, fun _ => ?_, fun a hproto ha => ?_, fun _ => ?_⟩
    · rw [dpCalculateIcmpChecksum_outside (by omega), put_outside (by omega), put_outside (by omega), put_head]
      rfl
    · have hown : a < ip4 + 20 ∨ ip4 + 24 ≤ a := by
        by_contra hc
        exact ha (a - (ip4 + 20)) (by omega) (.inr (.inr ⟨rfl, by omega⟩))
      rw [dpCalculateIcmpChecksum_outside (by omega), put_outside (by simp; omega), put_outside (by simp; omega),
        put_outside (by simp; omega)]
    · rw [dpCalculateIcmpChecksum_outside (by omega), put_head]
      exact het

/-- The same for the way back. -/
theorem nat64L4To6_spec (cksum6 : Buffer → ℕ → ℕ → ℕ)
    (h : ∃ t, Translatable l4Type t ∧ (l4Type = ipprotoIcmpv6 → EchoTypes t (m (ip6 + 40)))) :
    ∃ m', nat64L4To6 cksum6 (l4TypeOf4 l4Type) m ip6 = some m' ∧
      (m (ip6 + 6) = l4TypeOf4 l4Type → m' (ip6 + 6) = l4Type) ∧
      (∀ a, a ≠ ip6 + 6 → (∀ i, a = ip6 + 40 + i → ¬ L4Owned l4Type i) → m' a = m a) ∧
      (l4Type = ipprotoIcmpv6 → EchoTypes (m' (ip6 + 40)) (m (ip6 + 40))) := by
  obtain ⟨t, rfl | rfl | ⟨rfl, -⟩, hecho⟩ := h
  · refine ⟨m.put (ip6 + 56) [0, 0], by simp +decide [nat64L4To6], fun hp => ?_, fun a _ ha => ?_, fun hne => ?_⟩
    · rwa [put_outside (by omega)]
    · refine put_outside ?_
      by_contra hc
      exact ha (a - (ip6 + 40)) (by simp at hc; omega) (.inl ⟨rfl, by simp at hc; omega⟩)
    · exact absurd hne (by decide)
  · refine ⟨m.put (ip6 + 46) [0, 0], by simp +decide [nat64L4To6], fun hp => ?_, fun a _ ha => ?_, fun hne => ?_⟩
    · rwa [put_outside (by omega)]
    · refine put_outside ?_
      by_contra hc
      exact ha (a - (ip6 + 40)) (by simp at hc; omega) (.inr (.inl ⟨rfl, by simp at hc; omega⟩))
    · exact absurd hne (by decide)
  · obtain ⟨t', het, hres⟩ : ∃ t', EchoTypes t' (m (ip6 + 40)) ∧ ∃ n, nat64L4To6 cksum6 ipprotoIcmp m ip6 =
        some (((((m.put (ip6 + 6) [ipprotoIcmpv6]).put (ip6 + 41) [0]).put (ip6 + 42) [0, 0]).put (ip6 + 40) [t']).put
          (ip6 + 42) (be16Bytes n)) := by
      have hread : ((m.put (ip6 + 6) [ipprotoIcmpv6]).put (ip6 + 41) [0]).put (ip6 + 42) [0, 0] (ip6 + 40) =
          m (ip6 + 40) := by
        rw [put_outside (by omega), put_outside (by omega), put_outside (by simp)]
      obtain ⟨-, ht⟩ | ⟨-, ht⟩ := hecho rfl
      · exact ⟨icmpv6EchoRequest, .inl ⟨rfl, ht⟩, _, by simp +decide [nat64L4To6, hread, ht]; rfl⟩
      · exact ⟨icmpv6EchoReply, .inr ⟨rfl, ht⟩, _, by simp +decide [nat64L4To6, hread, ht]; rfl⟩
    obtain ⟨n, hres⟩ := hres
    refine ⟨_, hres, fun _ => ?_, fun a hproto ha => ?_, fun _ => ?_⟩
    · rw [put_outside (by omega), put_outside (by omega), put_outside (by omega), put_outside (by omega), put_head]
    · have hown : a < ip6 + 40 ∨ ip6 + 44 ≤ a := by
        by_contra hc
        exact ha (a - (ip6 + 40)) (by omega) (.inr (.inr ⟨rfl, by omega⟩))
      rw [put_outside (by simp; omega), put_outside (by simp; omega), put_outside (by simp; omega),
        put_outside (by simp; omega), put_outside (by simp; omega)]
    · rw [put_outside (by omega), put_head]
      exact het

end L4

/-! ## Translation and back -/

/-- The layer-4 bytes are the same, but for those that a translation sets. -/
def SameL4 (l4Type : UInt8) (bs cs : List UInt8) : Prop :=
  cs.length = bs.length ∧ ∀ i, ¬ L4Owned l4Type i → cs[i]? = bs[i]?

/-- `g` is the IPv4 packet for the IPv6 packet `f`. -/
structure Nat64To4 (l4Type : UInt8) (f g : Frame) : Prop where
  dstMac : g.dstMac = f.dstMac
  srcMac : g.srcMac = f.srcMac
  etherType : g.etherType = 0x0800
  versionIhl : g.versionIhl = 0x45
  timeToLive : g.timeToLive = f.hopLimits
  typeOfService : g.typeOfService.toNat = f.trafficClass
  nextProtoId : g.nextProtoId = l4TypeOf4 l4Type
  dstAddr : g.dstAddr4 = f.dstAddr6.drop 12
  len : g.len + 20 = f.len
  totalLength : g.totalLength + 14 = g.len
  l4 : SameL4 l4Type f.l4OfIpv6 g.l4OfIpv4
  echo : l4Type = ipprotoIcmpv6 → ∃ t t', f.l4OfIpv6[0]? = some t ∧ g.l4OfIpv4[0]? = some t' ∧ EchoTypes t t'

/-- `r` carries what `g` carried back from its destination; Ethernet header and destination are free. -/
structure Answers (g r : Frame) : Prop where
  len : r.len = g.len
  timeToLive : r.timeToLive = g.timeToLive
  typeOfService : r.typeOfService = g.typeOfService
  nextProtoId : r.nextProtoId = g.nextProtoId
  srcAddr : r.srcAddr4 = g.dstAddr4
  l4 : r.l4OfIpv4 = g.l4OfIpv4
  /-- The mbuf has the headroom for a longer header. -/
  room : 20 ≤ r.off

/-- `g` is the IPv6 packet for the IPv4 packet `r`, with what the IPv6 packet `f` had. -/
structure Nat64To6 (l4Type : UInt8) (addr : List UInt8) (f r g : Frame) : Prop where
  dstMac : g.dstMac = r.dstMac
  srcMac : g.srcMac = r.srcMac
  etherType : g.etherType = 0x86dd
  version : g.ipVersion = 6
  hopLimits : g.hopLimits = f.hopLimits
  trafficClass : g.trafficClass = f.trafficClass
  proto : g.proto = l4Type
  srcAddr : g.srcAddr6 = f.dstAddr6
  dstAddr : g.dstAddr6 = addr
  len : g.len = f.len
  payloadLen : g.payloadLen + 54 = g.len
  l4 : SameL4 l4Type f.l4OfIpv6 g.l4OfIpv6
  echo : l4Type = ipprotoIcmpv6 → g.l4OfIpv6[0]? = f.l4OfIpv6[0]?

/-- An IPv6 packet to the NAT64 prefix that can be translated. -/
structure Nat64Packet (l4Type : UInt8) (f : Frame) : Prop where
  proto : f.proto = l4Type
  range : f.dstAddr6.take 12 = nat64Prefix
  l4 : Translatable l4Type (f.mem (f.l3 + 40))
  hdr : 54 < f.len
  len : f.len ≤ 65535

/-- The packet is translated to IPv4, and its answers back, whatever the ICMPv6 checksum is. -/
def Nat64Ok (l4Type : UInt8) (natIp : Ip4) (f : Frame) : Prop :=
  ∃ g, f.dpNatChgIpv6ToIpv4Hdr l4Type natIp = some g ∧ Nat64To4 l4Type f g ∧
    ∀ cksum6 r addr, Answers g r → addr.length = 16 →
      ∃ g', r.dpNatChgIpv4ToIpv6Hdr cksum6 (l4TypeOf4 l4Type) addr = some g' ∧ Nat64To6 l4Type addr f r g'

section Main

open Buffer Frame

variable {l4Type : UInt8} {natIp : Ip4} {f g r : Frame} {addr : List UInt8}

/-- The bytes that the translation does not own are the same. -/
theorem sameL4_of_mem {m m' : Buffer} {a b n : ℕ} (h : ∀ i < n, ¬ L4Owned l4Type i → m' (b + i) = m (a + i)) :
    SameL4 l4Type (m.slice a n) (m'.slice b n) := by
  refine ⟨by simp, fun i hi => ?_⟩
  by_cases hn : i < n
  · rw [List.getElem?_eq_getElem (by simpa using hn), List.getElem?_eq_getElem (by simpa using hn), getElem_slice,
      getElem_slice, h i hn hi]
  · rw [List.getElem?_eq_none (by simpa using hn), List.getElem?_eq_none (by simpa using hn)]

theorem SameL4.trans {bs cs ds : List UInt8} (h : SameL4 l4Type bs cs) (h' : SameL4 l4Type cs ds) :
    SameL4 l4Type bs ds :=
  ⟨h'.1.trans h.1, fun i hi => (h'.2 i hi).trans (h.2 i hi)⟩

/-- An IPv4 type comes from one type of ICMPv6. -/
theorem EchoTypes.unique {t t' t4 : UInt8} (h : EchoTypes t t4) (h' : EchoTypes t' t4) : t = t' := by
  obtain ⟨rfl, rfl⟩ | ⟨rfl, rfl⟩ := h
  · obtain ⟨rfl, -⟩ | ⟨-, h4⟩ := h'
    · rfl
    · exact absurd h4 (by decide)
  · obtain ⟨-, h4⟩ | ⟨rfl, -⟩ := h'
    · exact absurd h4 (by decide)
    · rfl

theorem getElem?_slice_zero {m : Buffer} {a n : ℕ} (h : 0 < n) : (m.slice a n)[0]? = some (m a) := by
  rw [List.getElem?_eq_getElem (by simpa using h), getElem_slice, Nat.add_zero]

/-- The IPv4 packet has everything of the IPv6 packet, but its time to live is a byte of the Ethernet header. -/
theorem Frame.dpNatChgIpv6ToIpv4Hdr_spec (natIp : Ip4) (h : Nat64Packet l4Type f) :
    ∃ g, f.dpNatChgIpv6ToIpv4Hdr l4Type natIp = some g ∧ g.timeToLive = f.mem (f.off + 1) ∧
      (f.mem (f.off + 1) = f.hopLimits → Nat64To4 l4Type f g) := by
  have hgt := h.hdr
  have hfirst : f.setupIpv4Hdr natIp (f.off + 34 + 20) = f.mem (f.l3 + 40) := setupIpv4Hdr_l4 f natIp 0
  have htrans : Translatable l4Type (f.setupIpv4Hdr natIp (f.off + 34 + 20)) := by
    rw [hfirst]
    exact h.l4
  obtain ⟨m, hm, hproto, hsame, hecho⟩ := nat64L4To4_spec htrans
  have hlow : ∀ a, a < f.off + 54 → a ≠ f.off + 43 → m a = f.setupIpv4Hdr natIp a := by
    refine fun a ha hne => hsame a hne fun i hi => ?_
    omega
  have hhigh : ∀ i, ¬ L4Owned l4Type i → m (f.off + 54 + i) = f.mem (f.off + 54 + i) := by
    intro i hi
    rw [hsame _ (by omega) fun j hj => ?_, setupIpv4Hdr_l4]
    obtain rfl : j = i := by omega
    exact hi
  have hmac : ∀ i < 12, m (f.off + 20 + i) = f.mem (f.off + i) := by
    intro i hi
    rw [hlow _ (by omega) (by omega), setupIpv4Hdr_mac f natIp hi]
  have httl : m (f.off + 42) = f.mem (f.off + 1) := by
    rw [hlow _ (by omega) (by omega), setupIpv4Hdr_ttl]
  refine ⟨⟨m, f.off + 20, f.len - 20⟩, ?_, httl, fun hhop => ⟨?_, ?_, ?_, ?_, ?_, ?_, ?_, ?_, ?_, ?_, ?_, ?_⟩⟩
  · rw [dpNatChgIpv6ToIpv4Hdr, if_neg (by omega), hm]
    rfl
  · exact slice_congr fun i hi => hmac i (by omega)
  · refine slice_congr fun i hi => ?_
    have hi' := hmac (6 + i) (by omega)
    rwa [← Nat.add_assoc, ← Nat.add_assoc] at hi'
  · exact (be16_congr (hlow _ (by simp) (by simp)) (hlow _ (by simp) (by simp))).trans (setupIpv4Hdr_type f natIp)
  · exact (hlow _ (by simp) (by simp)).trans (setupIpv4Hdr_version f natIp)
  · exact httl.trans hhop
  · exact (congrArg UInt8.toNat (hlow _ (by simp) (by simp))).trans (setupIpv4Hdr_tos f natIp)
  · exact hproto ((setupIpv4Hdr_proto f natIp).trans h.proto)
  · rw [dstAddr6, show (16 : ℕ) = 12 + 4 from rfl, slice_add, List.drop_left' (length_slice ..)]
    refine slice_congr fun i hi => ?_
    show m (f.off + 50 + i) = f.mem (f.off + 50 + i)
    rw [hlow _ (by omega) (by omega), setupIpv4Hdr_dst f natIp hi]
  · exact Nat.sub_add_cancel (by omega)
  · have hlen : be16 m (f.off + 36) = f.len - 34 :=
      (be16_congr (hlow _ (by simp) (by simp)) (hlow _ (by simp) (by simp))).trans (setupIpv4Hdr_len f natIp h.len)
    show be16 m (f.off + 36) + 14 = f.len - 20
    omega
  · show SameL4 l4Type (f.mem.slice (f.off + 54) (f.len - 54)) (m.slice (f.off + 54) (f.len - 20 - 34))
    rw [Nat.sub_sub]
    exact sameL4_of_mem fun i _ hi => hhigh i hi
  · intro hicmp
    refine ⟨f.mem (f.off + 54), m (f.off + 54), getElem?_slice_zero (by omega), ?_, ?_⟩
    · exact getElem?_slice_zero (by show 0 < f.len - 20 - 34; omega)
    · have het := hecho hicmp
      rwa [hfirst] at het

/-- The way back gives the packet that `Nat64To6` describes. -/
theorem Frame.dpNatChgIpv4ToIpv6Hdr_spec (cksum6 : Buffer → ℕ → ℕ → ℕ) (h : Nat64Packet l4Type f)
    (hg : Nat64To4 l4Type f g) (hr : Answers g r) (haddr : addr.length = 16) :
    ∃ g', r.dpNatChgIpv4ToIpv6Hdr cksum6 (l4TypeOf4 l4Type) addr = some g' ∧ Nat64To6 l4Type addr f r g' := by
  obtain ⟨o, ho⟩ : ∃ o, r.off = o + 20 := ⟨r.off - 20, (Nat.sub_add_cancel hr.room).symm⟩
  have hoff : r.off - 20 = o := by omega
  have hgt := h.hdr
  have hlen := hg.len
  have hrlen : r.len + 20 = f.len := by rw [hr.len, hlen]
  have hfirst : r.setupIpv6Hdr addr (o + 14 + 40) = r.mem (o + 54) := setupIpv6Hdr_l4 ho haddr 0
  have hr0 : r.l4OfIpv4[0]? = some (r.mem (o + 54)) := by
    unfold l4OfIpv4
    rw [getElem?_slice_zero (by omega), l3, ho]
  have hf0 : f.l4OfIpv6[0]? = some (f.mem (f.l3 + 40)) := getElem?_slice_zero (by omega)
  have htypes : l4Type = ipprotoIcmpv6 → EchoTypes (f.mem (f.l3 + 40)) (r.setupIpv6Hdr addr (o + 14 + 40)) := by
    intro hicmp
    obtain ⟨t, t', ht, ht', het⟩ := hg.echo hicmp
    rw [← hr.l4, hr0, Option.some.injEq] at ht'
    rw [hf0, Option.some.injEq] at ht
    rw [hfirst, ht', ht]
    exact het
  obtain ⟨m, hm, hproto, hsame, hecho⟩ := nat64L4To6_spec cksum6 ⟨_, h.l4, htypes⟩
  have hlow : ∀ a, a < o + 54 → a ≠ o + 20 → m a = r.setupIpv6Hdr addr a := by
    refine fun a ha hne => hsame a (by omega) fun i hi => ?_
    omega
  have hmac : ∀ i < 12, m (o + i) = r.mem (r.off + i) := by
    intro i hi
    rw [hlow _ (by omega) (by omega), setupIpv6Hdr_mac ho haddr hi]
  have hvtc : be32 m (o + 14) = 6 * 2 ^ 28 + r.typeOfService.toNat * 2 ^ 20 := by
    rw [← setupIpv6Hdr_vtc ho haddr]
    unfold be32
    rw [be16_congr (hlow _ (by simp) (by simp)) (hlow _ (by simp) (by simp)),
      be16_congr (hlow _ (by simp) (by simp)) (hlow _ (by simp) (by simp))]
  have htos : r.typeOfService.toNat < 256 := r.typeOfService.toNat_lt
  refine ⟨⟨m, o, r.len + 20⟩, ?_, ?_, ?_, ?_, ?_, ?_, ?_, ?_, ?_, ?_, ?_, ?_, ?_, ?_⟩
  · rw [dpNatChgIpv4ToIpv6Hdr, if_neg (by omega), hoff, hm]
    rfl
  · exact slice_congr fun i hi => hmac i (by omega)
  · refine slice_congr fun i hi => ?_
    have hi' := hmac (6 + i) (by omega)
    rwa [← Nat.add_assoc, ← Nat.add_assoc] at hi'
  · exact (be16_congr (hlow _ (by simp) (by simp)) (hlow _ (by simp) (by simp))).trans (setupIpv6Hdr_type ho haddr)
  · show be32 m (o + 14) / 2 ^ 28 = 6
    rw [hvtc]
    omega
  · refine (hlow _ (by simp) (by simp)).trans ((setupIpv6Hdr_hops ho haddr).trans ?_)
    rw [hr.timeToLive, hg.timeToLive]
  · show be32 m (o + 14) / 2 ^ 20 % 256 = f.trafficClass
    rw [hvtc, ← hg.typeOfService, ← hr.typeOfService]
    omega
  · refine hproto ((setupIpv6Hdr_proto ho haddr).trans ?_)
    rw [hr.nextProtoId, hg.nextProtoId]
  · have hsrc : m.slice (o + 22) 16 = (r.setupIpv6Hdr addr).slice (o + 22) 16 :=
      slice_congr fun i hi => hlow _ (by omega) (by omega)
    refine hsrc.trans ((setupIpv6Hdr_src ho).trans ?_)
    rw [hr.srcAddr, hg.dstAddr, ← h.range, List.take_append_drop]
  · have hdst : m.slice (o + 38) 16 = (r.setupIpv6Hdr addr).slice (o + 38) 16 :=
      slice_congr fun i hi => hlow _ (by omega) (by omega)
    exact hdst.trans (setupIpv6Hdr_dst ho haddr)
  · exact hrlen
  · have hplen : be16 m (o + 18) = r.len - 34 :=
      (be16_congr (hlow _ (by simp) (by simp)) (hlow _ (by simp) (by simp))).trans
        (setupIpv6Hdr_len ho haddr (by have := h.len; omega))
    show be16 m (o + 18) + 54 = r.len + 20
    omega
  · refine hg.l4.trans ?_
    rw [← hr.l4]
    show SameL4 l4Type (r.mem.slice (r.off + 34) (r.len - 34)) (m.slice (o + 54) (r.len + 20 - 54))
    rw [ho, show r.len + 20 - 54 = r.len - 34 by omega]
    refine sameL4_of_mem fun i _ hi => ?_
    rw [hsame _ (by omega) fun j hj => ?_, setupIpv6Hdr_l4 ho haddr]
    obtain rfl : j = i := by omega
    exact hi
  · intro hicmp
    have hg0 : (⟨m, o, r.len + 20⟩ : Frame).l4OfIpv6[0]? = some (m (o + 54)) :=
      getElem?_slice_zero (by show 0 < r.len + 20 - 54; omega)
    rw [hg0, hf0, Option.some.injEq]
    exact (hecho hicmp).unique (htypes hicmp)

/-- **A packet is translated as it should be, and its answers back, exactly if its hop limit happens to be the second
byte of the destination MAC address.** -/
theorem nat64_header_iff (natIp : Ip4) (h : Nat64Packet l4Type f) :
    Nat64Ok l4Type natIp f ↔ f.mem (f.off + 1) = f.hopLimits := by
  obtain ⟨g, hg, httl, hto4⟩ := Frame.dpNatChgIpv6ToIpv4Hdr_spec natIp h
  constructor
  · rintro ⟨g', hg', hto, -⟩
    rw [hg, Option.some.injEq] at hg'
    rw [← httl, hg', hto.timeToLive]
  · intro hhop
    refine ⟨g, hg, hto4 hhop, ?_⟩
    intro cksum6 r addr hr haddr
    exact Frame.dpNatChgIpv4ToIpv6Hdr_spec cksum6 h (hto4 hhop) hr haddr

end Main

/-- A TCP packet from a VM to 1.2.3.4 through NAT64, with traffic class 0x12 and hop limit 64. -/
def nat64Syn (mac : UInt8) : Frame where
  mem i := ([0x66, mac, 0, 0, 0, 1, 0x66, 0x77, 0, 0, 0, 2, 0x86, 0xdd, 0x61, 0x20, 0, 0, 0, 20, 6, 64] ++
    [0xfd, 0, 0, 0, 0, 0, 0, 0, 0, 0, 0, 0, 0, 0, 0, 1] ++ nat64Prefix ++ [1, 2, 3, 4] ++
    [0x12, 0x34, 0, 80, 0, 0, 0, 1, 0, 0, 0, 0, 0x50, 2, 0xff, 0xff, 0xab, 0xcd, 0, 0] : List UInt8).getD i 0
  off := 0
  len := 74

theorem nat64Syn_packet (mac : UInt8) : Nat64Packet ipprotoTcp (nat64Syn mac) :=
  ⟨rfl, rfl, .inl rfl, by simp [nat64Syn], by simp [nat64Syn]⟩

/-- A destination MAC address whose second byte is the hop limit. -/
theorem nat64_header_same_byte : Nat64Ok ipprotoTcp 0x0a0b0c0d (nat64Syn 64) :=
  (nat64_header_iff 0x0a0b0c0d (nat64Syn_packet 64)).mpr rfl

/-- The time to live is the second byte of the destination MAC address, here 0x5e, and not the hop limit 64. -/
theorem nat64_header_mac_byte : Nat64Packet ipprotoTcp (nat64Syn 0x5e) ∧ (nat64Syn 0x5e).hopLimits = 64 ∧
    ∃ g, (nat64Syn 0x5e).dpNatChgIpv6ToIpv4Hdr ipprotoTcp 0x0a0b0c0d = some g ∧ g.timeToLive = 0x5e := by
  obtain ⟨g, hg, httl, -⟩ := Frame.dpNatChgIpv6ToIpv4Hdr_spec 0x0a0b0c0d (nat64Syn_packet 0x5e)
  exact ⟨nat64Syn_packet 0x5e, rfl, g, hg, httl⟩

end Dpservice
