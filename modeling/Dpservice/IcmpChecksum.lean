import Dpservice.IcmpError
import Dpservice.Nat64Header
import Dpservice.Lib.OnesComplement

/-!
# ICMP checksums

The checksum of an echo message is updated when its identifier or its type changes, and computed anew when the message
was translated from ICMPv6.

- `icmp_checksum_updates`: an updated checksum verifies, unless the message has become zero in all other bytes: the
  update then gives zero, which stands for a sum of `0xffff`;
- `dpCalculateIcmpChecksum_stored`: the computed checksum is the one of the message and, for an odd length, of the byte
  behind it;
- `icmp_checksum_computed`: so it is right for even lengths, or if the byte behind the message is zero.
-/

namespace Dpservice

open Buffer

/-! ## Updates -/

namespace Frame

variable (f : Frame)

/-- The first `n` bytes of the ICMP message. -/
def icmp (n : ℕ) : List UInt8 := f.mem.slice f.afterHdr n

/-- `lb_nnat_icmp_reply`: an echo request to a load balancer or to a NAT address is answered; anything else is
dropped. -/
def lbNnatIcmpReply : Option Frame :=
  if f.mem f.afterHdr ≠ icmpEchoRequest then none
  else
    let m := f.mem.put f.afterHdr [icmpEchoReply]
    -- the words of which the types are the first bytes, in the byte order of the host
    let m := m.put (f.afterHdr + 2) (le16Bytes (updateCksum (le16 m (f.afterHdr + 2)) 8 0))
    let tempIp := m.slice (f.l3 + 16) 4
    let m := m.put (f.l3 + 16) (m.slice (f.l3 + 12) 4)
    let m := m.put (f.l3 + 12) tempIp
    some (dpNatChgIp { f with mem := m } ipprotoIcmp)

end Frame

section Updates

variable {f : Frame} {n : ℕ}

theorem updateCksum_add (cksum : ℕ) {old d : ℕ} (new : ℕ) (h : old + d ≤ 65535) :
    updateCksum cksum (old + d) (new + d) = updateCksum cksum old new := by
  have hsum : (65535 - cksum) + (65535 - (old + d)) + (new + d) = (65535 - cksum) + (65535 - old) + new := by omega
  unfold updateCksum
  rw [hsum]

theorem Frame.icmp_dpChangeIcmpIdentifier (new : UInt16) :
    (f.dpChangeIcmpIdentifier new).icmp n =
    (updateWord f.mem f.afterHdr 4 (be16Bytes new.toNat)).slice f.afterHdr n := rfl

/-- A byte stored is a word stored that has the old second byte. -/
theorem put_byte (m : Buffer) (a : ℕ) (x : UInt8) : m.put a [x] = m.put a [x, m (a + 1)] := by
  funext b
  by_cases h₀ : b = a
  · rw [h₀, put_head, put_head]
  · rw [put_outside (by simp only [List.length_cons, List.length_nil]; omega)]
    by_cases h₁ : b = a + 1
    · rw [h₁]
      exact (Write.apply_at (w := ⟨a, [x, m (a + 1)]⟩) (i := 1) rfl).symm
    · rw [put_outside (by simp only [List.length_cons, List.length_nil]; omega)]

/-- A request is answered, and the reply is the request with another first word. -/
theorem Frame.icmp_lbNnatIcmpReply (h : f.mem f.afterHdr = icmpEchoRequest) (n : ℕ) :
    ∃ g, f.lbNnatIcmpReply = some g ∧
      g.icmp n = (updateWord f.mem f.afterHdr 0 [icmpEchoReply, f.mem (f.afterHdr + 1)]).slice f.afterHdr n := by
  refine ⟨_, by rw [lbNnatIcmpReply, if_neg (not_not.mpr h)], ?_⟩
  change ((((_ : Buffer).put _ _).put _ _).put _ _).slice f.afterHdr n = _
  rw [slice_put_outside (.inr (by simp)), slice_put_outside (.inr (by simp)), slice_put_outside (.inr (by simp))]
  unfold updateWord
  have hcode : f.mem.put f.afterHdr [icmpEchoReply] (f.afterHdr + 1) = f.mem (f.afterHdr + 1) :=
    put_outside (by simp)
  have hck : le16 (f.mem.put f.afterHdr [icmpEchoReply]) (f.afterHdr + 2) = le16 f.mem (f.afterHdr + 2) := by
    unfold le16
    rw [put_outside (by simp), put_outside (by simp)]
  have hold : le16 f.mem (f.afterHdr + 0) = 8 + 256 * (f.mem (f.afterHdr + 1)).toNat := by
    unfold le16
    rw [Nat.add_zero, h]
    rfl
  have hnew : le16 (f.mem.put f.afterHdr [icmpEchoReply]) f.afterHdr = 0 + 256 * (f.mem (f.afterHdr + 1)).toNat := by
    unfold le16
    rw [put_head, hcode]
    rfl
  have hle := (f.mem (f.afterHdr + 1)).toNat_lt
  dsimp only
  rw [hck, hold, Nat.add_zero, ← put_byte, hnew, updateCksum_add _ _ (by omega)]

/-- **Updated checksums.** The checksum of a message that verifies verifies again after the identifier was changed,
unless the new identifier and all bytes but the identifier and the checksum are zero (and these are not both `0xffff`);
and after a request was made a reply, unless all bytes but the type and the checksum are zero. -/
theorem icmp_checksum_updates (f : Frame) {n : ℕ} (hn : 8 ≤ n) (hok : Verifies (f.icmp n)) :
    (∀ new, Verifies ((f.dpChangeIcmpIdentifier new).icmp n) ↔
      new ≠ 0 ∨ (∃ j < n, (j < 2 ∨ 6 ≤ j) ∧ f.mem (f.afterHdr + j) ≠ 0) ∨
        (be16 f.mem (f.afterHdr + 2) = 65535 ∧ be16 f.mem (f.afterHdr + 4) = 65535)) ∧
    (f.mem f.afterHdr = icmpEchoRequest → ∃ g, f.lbNnatIcmpReply = some g ∧
      (Verifies (g.icmp n) ↔ ∃ j < n, (j = 1 ∨ 4 ≤ j) ∧ f.mem (f.afterHdr + j) ≠ 0)) := by
  constructor
  · intro new
    have hnew : sum16 (be16Bytes new.toNat) ≠ 0 ↔ new ≠ 0 := by
      rw [sum16_be16Bytes new.toNat_lt, Ne, Ne, ← UInt16.toNat_inj (b := 0)]
      rfl
    rw [Frame.icmp_dpChangeIcmpIdentifier,
      verifies_updateWord_iff rfl rfl (.inr le_rfl) (by omega) (by omega) hok, hnew, or_left_comm]
    refine or_congr_right (or_congr_left (exists_congr fun j => and_congr_right fun _ => and_congr_left fun _ => ?_))
    omega
  · intro h
    obtain ⟨g, hg, hslice⟩ := Frame.icmp_lbNnatIcmpReply h n
    refine ⟨g, hg, ?_⟩
    have hfirst : be16 f.mem (f.afterHdr + 0) ≠ 65535 := by
      unfold be16
      rw [Nat.add_zero, h]
      have := (f.mem (f.afterHdr + 1)).toNat_lt
      have : icmpEchoRequest.toNat = 8 := rfl
      omega
    have hcode : sum16 [icmpEchoReply, f.mem (f.afterHdr + 1)] ≠ 0 ↔ f.mem (f.afterHdr + 1) ≠ 0 := by
      rw [Ne, sum16_eq_zero_iff]
      simp
    rw [hslice, verifies_updateWord_iff rfl rfl (.inl rfl) (by omega) (by omega) hok, hcode]
    constructor
    · rintro (⟨j, hj, hout, hne⟩ | hne | ⟨-, hmax⟩)
      · exact ⟨j, hj, by omega, hne⟩
      · exact ⟨1, by omega, .inl rfl, hne⟩
      · exact absurd hmax hfirst
    · rintro ⟨j, hj, rfl | hge, hne⟩
      · exact .inr (.inl hne)
      · exact .inl ⟨j, hj, by omega, hne⟩

/-- A packet without options that has the given ICMP message. -/
def icmpFrame (message : List UInt8) : Frame where
  mem i := if i < 34 then 0 else message.getD (i - 34) 0
  off := 0
  len := 34 + message.length

/-- An echo request with some payload gets another identifier and is answered. -/
theorem icmp_checksum_updates_ping :
    Verifies (((icmpFrame [8, 0, 0xb5, 0xca, 0, 1, 0, 0, 0x42, 0x34]).dpChangeIcmpIdentifier 100).icmp 10) ∧
      ∃ g, (icmpFrame [8, 0, 0xb5, 0xca, 0, 1, 0, 0, 0x42, 0x34]).lbNnatIcmpReply = some g ∧ Verifies (g.icmp 10) := by
  have hall := icmp_checksum_updates (icmpFrame [8, 0, 0xb5, 0xca, 0, 1, 0, 0, 0x42, 0x34]) (n := 10) (by decide)
    (by decide)
  refine ⟨(hall.1 100).mpr (.inl (by decide)), ?_⟩
  obtain ⟨g, hg, hiff⟩ := hall.2 (by decide)
  exact ⟨g, hg, hiff.mpr ⟨8, by decide, .inr (by decide), by decide⟩⟩

/-- The identifier 0 is restored in an echo reply with sequence number 0 and no payload, and a request with identifier
and sequence number 0 is answered: both checksums become zero. -/
theorem icmp_checksum_updates_zero :
    Verifies ((icmpFrame [0, 0, 0xff, 0x9b, 0, 100, 0, 0]).icmp 8) ∧
    ((icmpFrame [0, 0, 0xff, 0x9b, 0, 100, 0, 0]).dpChangeIcmpIdentifier 0).icmp 8 = [0, 0, 0, 0, 0, 0, 0, 0] ∧
    Verifies ((icmpFrame [8, 0, 0xf7, 0xff, 0, 0, 0, 0]).icmp 8) ∧
    (icmpFrame [8, 0, 0xf7, 0xff, 0, 0, 0, 0]).lbNnatIcmpReply.map (·.icmp 8) = some [0, 0, 0, 0, 0, 0, 0, 0] ∧
    ¬Verifies [0, 0, 0, 0, 0, 0, 0, 0] := by
  decide

end Updates

/-! ## The computed checksum -/

section Computed

variable (m : Buffer) (icmp len : ℕ)

/-- The message with its checksum field taken as zero. -/
def icmpMessage : List UInt8 := (m.put (icmp + 2) [0, 0]).slice icmp len

/-- The sum of `dp_calculate_icmp_checksum` after `k` rounds, if it had any number of bits. -/
def icmpAccumulator (k : ℕ) : ℕ := ((List.range k).map fun i => le16 (m.put (icmp + 2) [0, 0]) (icmp + 2 * i)).sum

/-- The stored checksum is the one's complement of the sum of the message. -/
def CksumOfMessage : Prop :=
  be16 (dpCalculateIcmpChecksum m icmp len) (icmp + 2) = 65535 - onesSum (icmpMessage m icmp len)

/-- The stored checksum is the same in every other memory that has the message. -/
def CksumWithin : Prop :=
  ∀ m' : Buffer, (∀ i < len, m' (icmp + i) = m (icmp + i)) →
    be16 (dpCalculateIcmpChecksum m' icmp len) (icmp + 2) = be16 (dpCalculateIcmpChecksum m icmp len) (icmp + 2)

variable {m icmp len}

/-- The words read so far, in both byte orders. -/
theorem icmpAccumulator_mod (m : Buffer) (icmp k : ℕ) :
    icmpAccumulator m icmp k % 65535 = 256 * sum16 (icmpMessage m icmp (2 * k)) % 65535 ∧
      (icmpAccumulator m icmp k = 0 ↔ sum16 (icmpMessage m icmp (2 * k)) = 0) := by
  induction k with
  | zero => exact ⟨rfl, Iff.rfl⟩
  | succ k ih =>
    set m₀ := m.put (icmp + 2) [0, 0] with hm₀
    have hacc : icmpAccumulator m icmp (k + 1) = icmpAccumulator m icmp k + le16 m₀ (icmp + 2 * k) := by
      unfold icmpAccumulator
      rw [List.range_succ, List.map_append, List.sum_append, List.map_singleton, List.sum_singleton]
    have hsum : sum16 (icmpMessage m icmp (2 * (k + 1))) =
        sum16 (icmpMessage m icmp (2 * k)) + be16 m₀ (icmp + 2 * k) := by
      unfold icmpMessage
      rw [Nat.mul_succ, slice_add, sum16_append (by simp), sum16_slice_two]
    have hword := le16_mod m₀ (icmp + 2 * k)
    have hzero := le16_eq_zero_iff m₀ (icmp + 2 * k)
    omega

theorem icmpAccumulator_le (m : Buffer) (icmp k : ℕ) : icmpAccumulator m icmp k ≤ 65535 * k := by
  induction k with
  | zero => exact le_rfl
  | succ k ih =>
    have hword := le16_le (m.put (icmp + 2) [0, 0]) (icmp + 2 * k)
    unfold icmpAccumulator at ih ⊢
    rw [List.range_succ, List.map_append, List.sum_append, List.map_singleton, List.sum_singleton]
    omega

/-- The stored checksum is the one of the words that were read. -/
theorem dpCalculateIcmpChecksum_stored (m : Buffer) (icmp : ℕ) (hlen : len ≤ 65515) :
    be16 (dpCalculateIcmpChecksum m icmp len) (icmp + 2) =
      65535 - onesSum (icmpMessage m icmp (2 * ((len + 1) / 2))) := by
  set k := (len + 1) / 2 with hk
  set acc := icmpAccumulator m icmp k with hacc
  set m₀ := m.put (icmp + 2) [0, 0] with hm₀
  obtain ⟨hmod, hzero⟩ := icmpAccumulator_mod m icmp k
  have hle := icmpAccumulator_le m icmp k
  have hacc32 : acc % 2 ^ 32 = acc := Nat.mod_eq_of_lt (by omega)
  have hcalc : dpCalculateIcmpChecksum m icmp len =
      m₀.put (icmp + 2) (le16Bytes (65535 - foldCarries 3 (acc % 2 ^ 32))) :=
    rfl
  have hfold : foldCarries 3 acc % 65535 = acc % 65535 := foldCarries_mod 3 acc
  have hlt : foldCarries 3 acc < 65536 := foldCarries_lt (by omega)
  have hfold0 : foldCarries 3 acc = 0 ↔ acc = 0 := by
    constructor
    · intro h
      by_contra hne
      exact absurd h (Nat.pos_iff_ne_zero.mp (foldCarries_pos 3 (Nat.pos_of_ne_zero hne)))
    · intro h
      rw [h]
      rfl
  have hsum := onesSum_mod (icmpMessage m icmp (2 * k))
  have hsum0 := onesSum_eq_zero_iff (icmpMessage m icmp (2 * k))
  have hsumle := onesSum_le (icmpMessage m icmp (2 * k))
  -- the bytes of the stored number are exchanged, and so are those of the words that were added up
  have hput : le16 (dpCalculateIcmpChecksum m icmp len) (icmp + 2) = 65535 - foldCarries 3 acc := by
    rw [hcalc, hacc32, le16_put (Nat.sub_le _ _)]
  have hswap := le16_mod (dpCalculateIcmpChecksum m icmp len) (icmp + 2)
  have hswap0 := le16_eq_zero_iff (dpCalculateIcmpChecksum m icmp len) (icmp + 2)
  have hlt' := be16_lt (dpCalculateIcmpChecksum m icmp len) (icmp + 2)
  rw [hput] at hswap hswap0
  refine eq_of_mod_eq (by omega) (Nat.sub_le _ _) ?_ ?_
  · clear hzero hfold0 hsum0 hswap0
    omega
  · have hmax : foldCarries 3 acc = 65535 ↔ onesSum (icmpMessage m icmp (2 * k)) = 65535 := by
      clear hswap hswap0 hlt' hput
      omega
    omega

/-- The byte that is read behind a message of odd length. -/
def byteBehind (m : Buffer) (icmp len : ℕ) : ℕ := if len % 2 = 0 then 0 else (m (icmp + len)).toNat

/-- The words that were read are the message and the byte behind it. -/
theorem sum16_icmpMessage (m : Buffer) (icmp : ℕ) (h : 8 ≤ len) :
    sum16 (icmpMessage m icmp (2 * ((len + 1) / 2))) = sum16 (icmpMessage m icmp len) + byteBehind m icmp len := by
  unfold byteBehind
  split
  next heven => rw [show 2 * ((len + 1) / 2) = len by omega, Nat.add_zero]
  next hodd =>
    have hlen : (icmpMessage m icmp len).length % 2 = 1 := by
      unfold icmpMessage
      rw [length_slice]
      omega
    rw [show 2 * ((len + 1) / 2) = len + 1 by omega, ← sum16_concat_odd _ hlen]
    unfold icmpMessage
    rw [slice_add, slice_succ, slice_zero, put_outside (b := icmp + len) (.inr (by simp; omega))]

theorem byteBehind_eq_zero_iff : byteBehind m icmp len = 0 ↔ len % 2 = 0 ∨ m (icmp + len) = 0 := by
  unfold byteBehind
  split
  next heven => exact iff_of_true rfl (.inl heven)
  next hodd =>
    rw [← UInt8.toNat_inj (b := 0)]
    exact (or_iff_right hodd).symm

theorem byteBehind_lt (m : Buffer) (icmp len : ℕ) : byteBehind m icmp len < 256 := by
  unfold byteBehind
  split
  · omega
  · exact (m (icmp + len)).toNat_lt

theorem icmpMessage_congr {m' : Buffer} (h : ∀ i < len, m' (icmp + i) = m (icmp + i)) :
    icmpMessage m' icmp len = icmpMessage m icmp len := by
  refine slice_congr fun i hi => ?_
  rw [put_apply, put_apply, h i hi]

/-- Complements of one's complement sums are equal if these are. -/
theorem complement_eq_iff (bs cs : List UInt8) : 65535 - onesSum bs = 65535 - onesSum cs ↔ onesSum bs = onesSum cs := by
  have hle := onesSum_le bs
  have hle' := onesSum_le cs
  omega

/-- The stored checksum tells the bytes behind a message apart. -/
theorem stored_eq_iff {m' : Buffer} (h8 : 8 ≤ len) (hlen : len ≤ 65515) (h : ∀ i < len, m' (icmp + i) = m (icmp + i)) :
    be16 (dpCalculateIcmpChecksum m' icmp len) (icmp + 2) = be16 (dpCalculateIcmpChecksum m icmp len) (icmp + 2) ↔
      byteBehind m' icmp len = byteBehind m icmp len := by
  rw [dpCalculateIcmpChecksum_stored m' icmp hlen, dpCalculateIcmpChecksum_stored m icmp hlen, complement_eq_iff]
  have hsum' := sum16_icmpMessage m' icmp h8
  rw [icmpMessage_congr h] at hsum'
  exact onesSum_eq_iff hsum' (sum16_icmpMessage m icmp h8) ((byteBehind_lt _ _ _).trans (by decide))
    ((byteBehind_lt _ _ _).trans (by decide))

theorem cksumOfMessage_iff (h8 : 8 ≤ len) (hlen : len ≤ 65515) :
    CksumOfMessage m icmp len ↔ byteBehind m icmp len = 0 := by
  unfold CksumOfMessage
  rw [dpCalculateIcmpChecksum_stored m icmp hlen, complement_eq_iff]
  exact onesSum_eq_iff (sum16_icmpMessage m icmp h8) (Nat.add_zero _).symm
    ((byteBehind_lt _ _ _).trans (by decide)) (by decide)

theorem cksumWithin_iff (h8 : 8 ≤ len) (hlen : len ≤ 65515) : CksumWithin m icmp len ↔ len % 2 = 0 := by
  constructor
  · intro h
    by_contra hodd
    have hsame : ∀ i < len, m.put (icmp + len) [m (icmp + len) + 1] (icmp + i) = m (icmp + i) := fun i hi =>
      put_outside (.inl (by omega))
    have heq := (stored_eq_iff h8 hlen hsame).mp (h _ hsame)
    unfold byteBehind at heq
    rw [if_neg hodd, if_neg hodd, put_head, UInt8.toNat_inj] at heq
    exact absurd heq (by simp)
  · intro heven m' hsame
    rw [stored_eq_iff h8 hlen hsame, byteBehind, byteBehind, if_pos heven, if_pos heven]

/-- A message with its computed checksum verifies if the byte behind it was zero or not read. -/
theorem verifies_dpCalculateIcmpChecksum (h8 : 8 ≤ len) (hlen : len ≤ 65515) :
    Verifies ((dpCalculateIcmpChecksum m icmp len).slice icmp len) ↔ byteBehind m icmp len = 0 := by
  have hstored := dpCalculateIcmpChecksum_stored m icmp hlen
  obtain ⟨v, hv⟩ : ∃ v, dpCalculateIcmpChecksum m icmp len = (m.put (icmp + 2) [0, 0]).put (icmp + 2) (le16Bytes v) :=
    ⟨_, rfl⟩
  have hput : sum16 ((dpCalculateIcmpChecksum m icmp len).slice icmp len) =
      sum16 (icmpMessage m icmp len) + be16 (dpCalculateIcmpChecksum m icmp len) (icmp + 2) := by
    have hbytes : (dpCalculateIcmpChecksum m icmp len).slice (icmp + 2) 2 = le16Bytes v := by
      rw [hv, slice_put (length_le16Bytes v)]
    have hzeros : sum16 ((m.put (icmp + 2) [0, 0]).slice (icmp + 2) (le16Bytes v).length) = 0 := by
      rw [length_le16Bytes, slice_put (by rfl)]
      rfl
    have hsum := sum16_put (m.put (icmp + 2) [0, 0]) icmp (le16Bytes v) (i := 2) (n := len) rfl
      (by rw [length_le16Bytes]) (by rw [length_le16Bytes]; omega)
    rw [← sum16_slice_two, hbytes, hv]
    unfold icmpMessage
    omega
  have hsum := sum16_icmpMessage m icmp h8
  have hlt := byteBehind_lt m icmp len
  have hmod := onesSum_mod (icmpMessage m icmp (2 * ((len + 1) / 2)))
  have hzero := onesSum_eq_zero_iff (icmpMessage m icmp (2 * ((len + 1) / 2)))
  have hle := onesSum_le (icmpMessage m icmp (2 * ((len + 1) / 2)))
  rw [verifies_iff, hput, hstored]
  omega

/-- The last step of the translation of an echo message. -/
theorem Frame.nat64L4To4_icmp {m m' : Buffer} {ip4 : ℕ} (h : nat64L4To4 ipprotoIcmpv6 m ip4 = some m') :
    ∃ t, m' = dpCalculateIcmpChecksum (((m.put (ip4 + 9) [ipprotoIcmp]).put (ip4 + 21) [0]).put (ip4 + 20) [t])
      (ip4 + 20) (be16 m (ip4 + 2) - (m ip4).toNat % 16 * 4) := by
  have hlen : ∀ t : UInt8, be16 (((m.put (ip4 + 9) [ipprotoIcmp]).put (ip4 + 21) [0]).put (ip4 + 20) [t]) (ip4 + 2) =
      be16 m (ip4 + 2) := fun t => by
    rw [be16_put_outside (by omega), be16_put_outside (by omega), be16_put_outside (by omega)]
  have hihl : ∀ t : UInt8, ((m.put (ip4 + 9) [ipprotoIcmp]).put (ip4 + 21) [0]).put (ip4 + 20) [t] ip4 =
      m ip4 := fun t => by
    rw [put_outside (by omega), put_outside (by omega), put_outside (by omega)]
  unfold nat64L4To4 at h
  rw [if_neg (by decide), if_neg (by decide), if_pos rfl] at h
  dsimp only at h
  split at h
  · rw [hlen, hihl, Option.some.injEq] at h
    exact ⟨_, h.symm⟩
  · split at h
    · rw [hlen, hihl, Option.some.injEq] at h
      exact ⟨_, h.symm⟩
    · cases h

/-- After NAT64 the message verifies if the byte behind the packet was zero or not read. -/
theorem Frame.verifies_nat64 {f g : Frame} {natIp : Ip4} (hg : f.dpNatChgIpv6ToIpv4Hdr ipprotoIcmpv6 natIp = some g)
    (hlow : 62 ≤ f.len) (hhigh : f.len ≤ 65535) :
    Verifies g.l4OfIpv4 ↔ f.len % 2 = 0 ∨ f.mem (f.off + f.len) = 0 := by
  unfold dpNatChgIpv6ToIpv4Hdr at hg
  rw [if_neg (by omega)] at hg
  obtain ⟨m', hm', rfl⟩ := Option.map_eq_some_iff.mp hg
  obtain ⟨t, rfl⟩ := nat64L4To4_icmp hm'
  rw [setupIpv4Hdr_len f natIp hhigh, setupIpv4Hdr_version] at *
  have hlen : f.len - 34 - (0x45 : UInt8).toNat % 16 * 4 = f.len - 54 := by
    have : (0x45 : UInt8).toNat = 69 := rfl
    omega
  have hbehind := setupIpv4Hdr_l4 f natIp (f.len - 54)
  rw [hlen]
  change Verifies ((dpCalculateIcmpChecksum _ (f.off + 54) (f.len - 54)).slice (f.off + 20 + 14 + 20)
    (f.len - 20 - 34)) ↔ _
  rw [show f.off + 20 + 14 + 20 = f.off + 54 by omega, show f.len - 20 - 34 = f.len - 54 by omega,
    verifies_dpCalculateIcmpChecksum (by omega) (by omega), byteBehind_eq_zero_iff, put_outside (by simp; omega),
    put_outside (by simp; omega), put_outside (by simp; omega), hbehind,
    show f.off + 54 + (f.len - 54) = f.off + f.len by omega, show (f.len - 54) % 2 = f.len % 2 by omega]

end Computed

/-- **Computed checksums.** For every message of 8 to 65515 bytes the 32 bits of the sum are enough; the checksum is the
one of the message exactly if the length is even or the byte behind the message is zero, and it depends on the message
alone exactly if the length is even. An echo message translated by NAT64 verifies under the same condition. -/
theorem icmp_checksum_computed (m : Buffer) (icmp len : ℕ) (h8 : 8 ≤ len) (hlen : len ≤ 65515) :
    (CksumOfMessage m icmp len ↔ len % 2 = 0 ∨ m (icmp + len) = 0) ∧
    (CksumWithin m icmp len ↔ len % 2 = 0) ∧
    (∀ k ≤ (len + 1) / 2, icmpAccumulator m icmp k < 2 ^ 32) ∧
    ∀ (f g : Frame) (natIp : Ip4), f.dpNatChgIpv6ToIpv4Hdr ipprotoIcmpv6 natIp = some g → 62 ≤ f.len → f.len ≤ 65535 →
      (Verifies g.l4OfIpv4 ↔ f.len % 2 = 0 ∨ f.mem (f.off + f.len) = 0) := by
  refine ⟨?_, cksumWithin_iff h8 hlen, fun k hk => ?_, fun f g natIp hg hlow hhigh => ?_⟩
  · rw [cksumOfMessage_iff h8 hlen, byteBehind_eq_zero_iff]
  · have hle := icmpAccumulator_le m icmp k
    omega
  · exact Frame.verifies_nat64 hg hlow hhigh

/-- An echo request of 10 bytes in memory, with some bytes behind it. -/
def pingBytes : Buffer := fun i => ([8, 0, 0, 0, 0, 1, 0, 2, 0x61, 0x62, 0x63] : List UInt8).getD i 0

/-- All 10 bytes, and not the one behind them, are in the checksum. -/
theorem icmp_checksum_computed_even : CksumOfMessage pingBytes 0 10 ∧ CksumWithin pingBytes 0 10 := by
  obtain ⟨hmessage, hwithin, -⟩ := icmp_checksum_computed pingBytes 0 10 (by decide) (by decide)
  exact ⟨hmessage.mpr (.inl rfl), hwithin.mpr rfl⟩

/-- An ICMPv6 echo request with one byte of payload to 1.2.3.4 through NAT64, and a byte behind it. -/
def nat64Echo (behind : UInt8) : Frame where
  mem i := ([0x66, 0x66, 0, 0, 0, 1, 0x66, 0x77, 0, 0, 0, 2, 0x86, 0xdd, 0x60, 0, 0, 0, 0, 9, 58, 64] ++
    [0xfd, 0, 0, 0, 0, 0, 0, 0, 0, 0, 0, 0, 0, 0, 0, 1] ++ nat64Prefix ++ [1, 2, 3, 4] ++
    [128, 0, 0xab, 0xcd, 0, 1, 0, 2, 0x61, behind] : List UInt8).getD i 0
  off := 0
  len := 63

/-- The first 9 bytes of the request have a checksum that counts the tenth, and the translated packet does not
verify. -/
theorem icmp_checksum_computed_odd :
    be16 (dpCalculateIcmpChecksum pingBytes 0 9) 2 = 0x969a ∧ 65535 - onesSum (icmpMessage pingBytes 0 9) = 0x96fc ∧
      ((nat64Echo 0x62).dpNatChgIpv6ToIpv4Hdr ipprotoIcmpv6 0x0a0b0c0d).map (fun g => decide (Verifies g.l4OfIpv4)) =
        some false ∧
      ((nat64Echo 0).dpNatChgIpv6ToIpv4Hdr ipprotoIcmpv6 0x0a0b0c0d).map (fun g => decide (Verifies g.l4OfIpv4)) =
        some true := by
  decide

end Dpservice
