import Dpservice.L4Header
import Dpservice.Lib.Checksum

/-!
# ICMP errors for translated flows

An ICMP error for a flow behind network NAT quotes a packet as the NAT has sent it. The DNAT node puts address and port
of the VM into the quoted packet. It takes the checksum of the quoted header from the first packet of the flow, and it
does not touch the checksum of the ICMP message.

- `Frame.dpProcessIpv4Snat`: what the first packet of a flow leaves for this (`NatFlow`);
- `Frame.dnatIcmpErr`: the branch of the DNAT node;
- `icmp_error_iff`: when the packet that it makes is valid again.
-/

namespace Dpservice

/-- What the flow keeps for ICMP errors: the source of its first packet, as sent by the VM and as translated, and the
header checksum of that packet. -/
structure NatFlow where
  ownIp : Ip4
  ownPort : UInt16
  natIp : Ip4
  natPort : UInt16
  icmpErrIpCksum : UInt16
  deriving DecidableEq, Repr

namespace Frame

variable (f : Frame)

def hdrChecksum : ℕ := be16 f.mem (f.l3 + 10)

/-! ## The quoted packet -/

def icmpMsg : List UInt8 := f.mem.slice f.afterHdr (f.totalLength - 20)

/-- `icmp_hdr + 1`, the quoted IPv4 header. -/
abbrev quoted : ℕ := f.afterHdr + 8

def quotedIhl : ℕ := (f.mem f.quoted).toNat % 16
def quotedProto : UInt8 := f.mem (f.quoted + 9)
def quotedCksum : ℕ := be16 f.mem (f.quoted + 10)
def quotedSrc : List UInt8 := f.mem.slice (f.quoted + 12) 4
def quotedSrcPort : ℕ := be16 f.mem (f.quoted + 4 * f.quotedIhl)
def quotedDstPort : ℕ := be16 f.mem (f.quoted + 4 * f.quotedIhl + 2)

/-- The quoted header with its options. -/
def quotedHdr : List UInt8 := f.mem.slice f.quoted (4 * f.quotedIhl)

/-- The message is an error that quotes TCP or UDP. -/
def quotesPorts : Bool :=
  f.mem f.afterHdr == icmpTypeError && (f.quotedProto == ipprotoTcp || f.quotedProto == ipprotoUdp)

/-! ## The nodes -/

/-- `dp_nat_chg_ip`: the checksums that the hardware computes are cleared. -/
def dpNatChgIp (l4Type : UInt8) : Frame :=
  let m := f.mem.put (f.l3 + 10) [0, 0]
  { f with
    mem := if l4Type = ipprotoTcp then m.put (f.afterHdr + 16) [0, 0]
      else if l4Type = ipprotoUdp then m.put (f.afterHdr + 6) [0, 0]
      else m }

/-- `dp_process_ipv4_snat` for the first TCP or UDP packet of a flow behind network NAT. -/
def dpProcessIpv4Snat (l4Type : UInt8) (natIp : Ip4) (natPort : UInt16) : Frame × NatFlow :=
  let g : Frame := { f with mem := f.mem.put (f.l3 + 12) (be32Bytes natIp.toNat) }
  let g := g.dpChangeL4HdrPort .src natPort
  let flow : NatFlow := {
    ownIp := BitVec.ofNat 32 (be32 f.mem (f.l3 + 12)), ownPort := UInt16.ofNat (be16 f.mem f.afterHdr)
    natIp := natIp, natPort := natPort, icmpErrIpCksum := UInt16.ofNat g.hdrChecksum }
  (g.dpNatChgIp l4Type, flow)

def dpChangeIcmpErrL4SrcPort (new : UInt16) : Frame :=
  if f.quotesPorts then { f with mem := f.mem.put (f.quoted + 4 * f.quotedIhl) (be16Bytes new.toNat) } else f

/-- The DNAT node for an ICMP error of a flow behind network NAT; `none` where it drops the packet. -/
def dnatIcmpErr (flow : NatFlow) : Option Frame :=
  let g : Frame := { f with mem := f.mem.put (f.l3 + 16) (be32Bytes flow.ownIp.toNat) }
  -- the ports stay zero where the error does not quote TCP or UDP
  if !g.quotesPorts || g.quotedSrcPort = 0 || g.quotedDstPort = 0 then none
  else
    let m := g.mem.put (g.quoted + 12) (be32Bytes flow.ownIp.toNat)
    let m := m.put (g.quoted + 10) (be16Bytes flow.icmpErrIpCksum.toNat)
    let g : Frame := { g with mem := m }
    some ((g.dpChangeIcmpErrL4SrcPort flow.ownPort).dpNatChgIp ipprotoIcmp)

end Frame

/-! ## Validity -/

/-- An ICMP error with valid checksums, without options, that quotes a packet of the flow as the NAT has sent it. -/
structure QuotesFlow (flow : NatFlow) (f : Frame) : Prop where
  type : f.mem f.afterHdr = icmpTypeError
  code : f.mem (f.afterHdr + 1) ∈ [icmpCodeProtoUnreachable, icmpCodePortUnreachable, icmpCodeFragmentNeeded]
  proto : f.quotedProto = ipprotoTcp ∨ f.quotedProto = ipprotoUdp
  ihl : f.ihl = 5
  quotedIhl : 5 ≤ f.quotedIhl
  /-- The message holds the quoted header and the ports behind it. -/
  len : 8 + 4 * f.quotedIhl + 4 + 20 ≤ f.totalLength
  src : f.quotedSrc = be32Bytes flow.natIp.toNat
  srcPort : f.quotedSrcPort = flow.natPort.toNat
  icmpOk : CksumOk f.icmpMsg
  hdrOk : CksumOk f.quotedHdr

/-- The packet that the DNAT node makes quotes the VM, with valid checksums. -/
def IcmpErrOk (flow : NatFlow) (f : Frame) : Prop :=
  ∀ g, f.dnatIcmpErr flow = some g →
    g.quotedSrc = be32Bytes flow.ownIp.toNat ∧ g.quotedSrcPort = flow.ownPort.toNat ∧
      CksumOk g.icmpMsg ∧ CksumOk g.quotedHdr

section

open Buffer Frame

variable {flow : NatFlow} {f g : Frame}

/-- The memory after the DNAT node has rewritten the destination, and source and checksum of the quoted header. -/
def quotedHdrMem (flow : NatFlow) (f : Frame) : Buffer :=
  ((f.mem.put (f.l3 + 16) (be32Bytes flow.ownIp.toNat)).put (f.l3 + 40) (be32Bytes flow.ownIp.toNat)).put
    (f.l3 + 38) (be16Bytes flow.icmpErrIpCksum.toNat)

/-- The memory of the packet that leaves the DNAT node: also the quoted port is rewritten, and the outer checksum
cleared. -/
def icmpErrMem (flow : NatFlow) (f : Frame) : Buffer :=
  ((quotedHdrMem flow f).put (f.l3 + 28 + 4 * f.quotedIhl) (be16Bytes flow.ownPort.toNat)).put (f.l3 + 10) [0, 0]

theorem quotedHdrMem_outside {i : ℕ} (hi : i < 16 ∨ (20 ≤ i ∧ i < 38) ∨ 44 ≤ i) :
    quotedHdrMem flow f (f.l3 + i) = f.mem (f.l3 + i) := by
  unfold quotedHdrMem
  rw [put_outside (by simp; omega), put_outside (by simp; omega), put_outside (by simp; omega)]

theorem icmpErrMem_outside (h : 5 ≤ f.quotedIhl) {i : ℕ} (hi : i < 10 ∨ (20 ≤ i ∧ i < 38)) :
    icmpErrMem flow f (f.l3 + i) = f.mem (f.l3 + i) := by
  unfold icmpErrMem
  rw [put_outside (by simp; omega), put_outside (by omega), quotedHdrMem_outside (by omega)]

theorem quotesPorts_congr {m : Buffer} (h20 : m (f.l3 + 20) = f.mem (f.l3 + 20))
    (h37 : m (f.l3 + 37) = f.mem (f.l3 + 37)) : ({ f with mem := m } : Frame).quotesPorts = f.quotesPorts := by
  show (m (f.l3 + 20) == _ && (m (f.l3 + 37) == _ || m (f.l3 + 37) == _)) = _
  rw [h20, h37]
  rfl

theorem quotedIhl_congr {m : Buffer} (h28 : m (f.l3 + 28) = f.mem (f.l3 + 28)) :
    ({ f with mem := m } : Frame).quotedIhl = f.quotedIhl := by
  show (m (f.l3 + 28)).toNat % 16 = _
  rw [h28]
  rfl

/-- Writing the destination of the outer header changes nothing of the message. -/
theorem quotedPorts_dst {bs : List UInt8} (hbs : bs.length = 4) :
    ({ f with mem := f.mem.put (f.l3 + 16) bs } : Frame).quotesPorts = f.quotesPorts ∧
      ({ f with mem := f.mem.put (f.l3 + 16) bs } : Frame).quotedIhl = f.quotedIhl ∧
      ({ f with mem := f.mem.put (f.l3 + 16) bs } : Frame).quotedSrcPort = f.quotedSrcPort ∧
      ({ f with mem := f.mem.put (f.l3 + 16) bs } : Frame).quotedDstPort = f.quotedDstPort := by
  have hihl : ({ f with mem := f.mem.put (f.l3 + 16) bs } : Frame).quotedIhl = f.quotedIhl :=
    quotedIhl_congr (put_outside (by omega))
  refine ⟨quotesPorts_congr (put_outside (by omega)) (put_outside (by omega)), hihl, ?_, ?_⟩
  · unfold quotedSrcPort
    rw [hihl]
    exact be16_put_outside (by show _ ∨ _ ≤ f.l3 + 28 + _; omega)
  · unfold quotedDstPort
    rw [hihl]
    exact be16_put_outside (by show _ ∨ _ ≤ f.l3 + 28 + _ + 2; omega)

/-- What the node makes of an error that it does not drop. -/
theorem dnatIcmpErr_eq (h : QuotesFlow flow f) :
    f.dnatIcmpErr flow = if flow.natPort = 0 ∨ f.quotedDstPort = 0 then none
      else some { f with mem := icmpErrMem flow f } := by
  have hports : f.quotesPorts = true := by
    unfold quotesPorts
    rw [h.type]
    obtain hp | hp := h.proto
    · rw [hp]
      decide
    · rw [hp]
      decide
  obtain ⟨hq, hihl, hsrc, hdst⟩ := quotedPorts_dst (f := f) (length_be32Bytes flow.ownIp.toNat)
  have hzero : f.quotedSrcPort = 0 ↔ flow.natPort = 0 := by
    rw [h.srcPort]
    exact ⟨fun h0 => UInt16.toNat_inj.mp h0, fun h0 => by rw [h0]; rfl⟩
  unfold dnatIcmpErr
  simp only [hq, hsrc, hdst, hports, hzero, Bool.not_true, Bool.false_or, Bool.or_eq_true, decide_eq_true_eq]
  split
  · rfl
  · have hq' : ({ f with mem := quotedHdrMem flow f } : Frame).quotesPorts = _ :=
      quotesPorts_congr (quotedHdrMem_outside (by omega)) (quotedHdrMem_outside (by omega))
    have hihl' : ({ f with mem := quotedHdrMem flow f } : Frame).quotedIhl = _ :=
      quotedIhl_congr (quotedHdrMem_outside (by omega))
    show some ((dpChangeIcmpErrL4SrcPort { f with mem := quotedHdrMem flow f } _).dpNatChgIp _) = _
    unfold dpChangeIcmpErrL4SrcPort
    rw [if_pos (hq'.trans hports), hihl']
    rfl

/-! ### Sums -/

/-- The sum of the message, or of the quoted header, after address and checksum are rewritten. -/
theorem sum16_quotedHdrMem (h : QuotesFlow flow f) {i n : ℕ} (hi : i = 20 ∨ i = 28) (hn : 44 ≤ i + n) :
    sum16 ((quotedHdrMem flow f).slice (f.l3 + i) n) + (sum16 (be32Bytes flow.natIp.toNat) + f.quotedCksum) =
      sum16 (f.mem.slice (f.l3 + i) n) + (sum16 (be32Bytes flow.ownIp.toNat) + flow.icmpErrIpCksum.toNat) := by
  have hck := sum16_be16Bytes flow.icmpErrIpCksum.toNat_lt
  have hsrc : sum16 ((f.mem.put (f.l3 + 16) (be32Bytes flow.ownIp.toNat)).slice (f.l3 + 40) 4) =
      sum16 (be32Bytes flow.natIp.toNat) := by
    rw [slice_put_outside (by simp), ← h.src]
    rfl
  have hold : sum16 (((f.mem.put (f.l3 + 16) (be32Bytes flow.ownIp.toNat)).put (f.l3 + 40)
      (be32Bytes flow.ownIp.toNat)).slice (f.l3 + 38) 2) = f.quotedCksum := by
    rw [slice_put_outside (by simp), slice_put_outside (by simp), sum16_slice_two]
    rfl
  have hmem : (f.mem.put (f.l3 + 16) (be32Bytes flow.ownIp.toNat)).slice (f.l3 + i) n = f.mem.slice (f.l3 + i) n :=
    slice_put_outside (by simp; omega)
  have h₁ := sum16_put (f.mem.put (f.l3 + 16) (be32Bytes flow.ownIp.toNat)) (f.l3 + i) (be32Bytes flow.ownIp.toNat)
    (i := 40 - i) (n := n) (by omega) (by simp) (by simp; omega)
  have h₂ := sum16_put ((f.mem.put (f.l3 + 16) (be32Bytes flow.ownIp.toNat)).put (f.l3 + 40)
    (be32Bytes flow.ownIp.toNat)) (f.l3 + i) (be16Bytes flow.icmpErrIpCksum.toNat)
    (i := 38 - i) (n := n) (by omega) (by simp) (by simp; omega)
  rw [show f.l3 + i + (40 - i) = f.l3 + 40 by omega, length_be32Bytes, hsrc, hmem] at h₁
  rw [show f.l3 + i + (38 - i) = f.l3 + 38 by omega, length_be16Bytes, hold, hck] at h₂
  unfold quotedHdrMem
  omega

/-- The sum of the message that leaves the node. -/
theorem sum16_icmpErrMem (h : QuotesFlow flow f) {n : ℕ} (hn : 12 + 4 * f.quotedIhl ≤ n) :
    sum16 ((icmpErrMem flow f).slice (f.l3 + 20) n) + flow.natPort.toNat =
      sum16 ((quotedHdrMem flow f).slice (f.l3 + 20) n) + flow.ownPort.toNat := by
  have hihl := h.quotedIhl
  have hold : sum16 ((quotedHdrMem flow f).slice (f.l3 + 28 + 4 * f.quotedIhl) 2) = flow.natPort.toNat := by
    rw [sum16_slice_two, ← h.srcPort]
    exact be16_congr (by rw [Nat.add_assoc]; exact quotedHdrMem_outside (by omega))
      (by rw [Nat.add_assoc, Nat.add_assoc]; exact quotedHdrMem_outside (by omega))
  have hput := sum16_put (quotedHdrMem flow f) (f.l3 + 20) (be16Bytes flow.ownPort.toNat)
    (i := 8 + 4 * f.quotedIhl) (n := n) (by omega) (by simp) (by simp; omega)
  rw [← Nat.add_assoc, length_be16Bytes, hold, sum16_be16Bytes flow.ownPort.toNat_lt] at hput
  unfold icmpErrMem
  rw [slice_put_outside (by simp)]
  exact hput

/-- The packet that leaves the node quotes address and port of the VM. -/
theorem quoted_icmpErrMem (flow : NatFlow) (h : 5 ≤ f.quotedIhl) :
    ({ f with mem := icmpErrMem flow f } : Frame).quotedIhl = f.quotedIhl ∧
      ({ f with mem := icmpErrMem flow f } : Frame).totalLength = f.totalLength ∧
      ({ f with mem := icmpErrMem flow f } : Frame).quotedSrc = be32Bytes flow.ownIp.toNat ∧
      ({ f with mem := icmpErrMem flow f } : Frame).quotedSrcPort = flow.ownPort.toNat := by
  have hihl : ({ f with mem := icmpErrMem flow f } : Frame).quotedIhl = f.quotedIhl :=
    quotedIhl_congr (icmpErrMem_outside h (by omega))
  refine ⟨hihl, ?_, ?_, ?_⟩
  · exact be16_congr (icmpErrMem_outside h (i := 2) (by omega)) (icmpErrMem_outside h (i := 3) (by omega))
  · show (icmpErrMem flow f).slice (f.l3 + 40) 4 = _
    unfold icmpErrMem quotedHdrMem
    rw [slice_put_outside (by simp), slice_put_outside (by omega), slice_put_outside (by simp), slice_put (by simp)]
  · unfold quotedSrcPort
    rw [hihl]
    show be16 (icmpErrMem flow f) (f.l3 + 28 + 4 * f.quotedIhl) = _
    unfold icmpErrMem
    rw [be16_put_outside (by simp; omega), be16_put flow.ownPort.toNat_lt]

/-- When both checksums are valid again: the checksum of the first packet fits the quoted header, and the ports are the
same for the checksum. -/
theorem cksumOk_icmpErrMem_iff (h : QuotesFlow flow f) :
    CksumOk ({ f with mem := icmpErrMem flow f } : Frame).icmpMsg ∧
        CksumOk ({ f with mem := icmpErrMem flow f } : Frame).quotedHdr ↔
      (sum16 (be32Bytes flow.ownIp.toNat) + flow.icmpErrIpCksum.toNat) % 65535 =
          (sum16 (be32Bytes flow.natIp.toNat) + f.quotedCksum) % 65535 ∧
        flow.ownPort.toNat % 65535 = flow.natPort.toNat % 65535 := by
  have hihl := h.quotedIhl
  have hlen := h.len
  have htotal : f.totalLength < 65536 := be16_lt ..
  obtain ⟨hihl', htotal', -, -⟩ := quoted_icmpErrMem flow hihl
  have hmsg : ({ f with mem := icmpErrMem flow f } : Frame).icmpMsg =
      (icmpErrMem flow f).slice (f.l3 + 20) (f.totalLength - 20) := by
    unfold icmpMsg
    rw [htotal']
  have hhdr : ({ f with mem := icmpErrMem flow f } : Frame).quotedHdr =
      (icmpErrMem flow f).slice (f.l3 + 28) (4 * f.quotedIhl) := by
    unfold quotedHdr
    rw [hihl']
  have htype : f.mem (f.l3 + 20) ≠ 0 := by
    rw [show f.mem (f.l3 + 20) = _ from h.type]
    decide
  have hfirst : f.mem (f.l3 + 28) ≠ 0 := by
    intro hzero
    have : f.quotedIhl = 0 := by
      unfold quotedIhl
      rw [show f.mem f.quoted = 0 from hzero]
      rfl
    omega
  have hsum := (cksumOk_slice_iff (a := f.l3 + 20) (n := f.totalLength - 20) (by omega) htype (by omega)).mp h.icmpOk
  have hsum' := (cksumOk_slice_iff (a := f.l3 + 28) (by omega) hfirst (by omega)).mp h.hdrOk
  have houtside : (icmpErrMem flow f).slice (f.l3 + 28) (4 * f.quotedIhl) =
      (quotedHdrMem flow f).slice (f.l3 + 28) (4 * f.quotedIhl) := by
    unfold icmpErrMem
    rw [slice_put_outside (by simp), slice_put_outside (by omega)]
  have hport := sum16_icmpErrMem h (n := f.totalLength - 20) (by omega)
  have hmsgSum := sum16_quotedHdrMem h (i := 20) (n := f.totalLength - 20) (by omega) (by omega)
  have hhdrSum := sum16_quotedHdrMem h (i := 28) (n := 4 * f.quotedIhl) (by omega) (by omega)
  rw [hmsg, hhdr, cksumOk_slice_iff (by omega) (by rwa [icmpErrMem_outside hihl (by omega)]) (by omega),
    cksumOk_slice_iff (by omega) (by rwa [icmpErrMem_outside hihl (by omega)]) (by omega), houtside]
  omega

/-- The checksum that the flow keeps is that of its first packet, as the VM has sent it. -/
theorem icmpErrIpCksum_eq (first : Frame) (l4Type : UInt8) (natIp : Ip4) (natPort : UInt16) :
    (first.dpProcessIpv4Snat l4Type natIp natPort).2.icmpErrIpCksum.toNat = first.hdrChecksum := by
  show (UInt16.ofNat (be16 ((first.mem.put (first.l3 + 12) _).put (first.l3 + 20) _) (first.l3 + 10))).toNat = _
  rw [be16_put_outside (by simp), be16_put_outside (by simp), UInt16.toNat_ofNat_of_lt' (be16_lt ..)]
  rfl

/-- **ICMP errors**: an error that quotes a packet of a translated flow quotes the VM after the DNAT node. Its checksums
are valid exactly if the node drops it (a quoted port is zero), or if the header checksum of the first packet of the
flow fits the quoted one and the translated port has the same checksum as that of the VM. -/
theorem icmp_error_iff (first f : Frame) (l4Type : UInt8) (natIp : Ip4) (natPort : UInt16) {flow : NatFlow}
    (hflow : flow = (first.dpProcessIpv4Snat l4Type natIp natPort).2) (h : QuotesFlow flow f) :
    IcmpErrOk flow f ↔ natPort = 0 ∨ f.quotedDstPort = 0 ∨
      ((sum16 (be32Bytes flow.ownIp.toNat) + first.hdrChecksum) % 65535 =
          (sum16 (be32Bytes natIp.toNat) + f.quotedCksum) % 65535 ∧
        flow.ownPort.toNat % 65535 = natPort.toNat % 65535) := by
  have hck : flow.icmpErrIpCksum.toNat = first.hdrChecksum := by
    rw [hflow, icmpErrIpCksum_eq]
  have hip : flow.natIp = natIp := by rw [hflow]; rfl
  have hport : flow.natPort = natPort := by rw [hflow]; rfl
  have hiff := cksumOk_icmpErrMem_iff h
  rw [hck, hip, hport] at hiff
  obtain ⟨-, -, hsrc, hsrcPort⟩ := quoted_icmpErrMem flow h.quotedIhl
  unfold IcmpErrOk
  rw [dnatIcmpErr_eq h, hport]
  by_cases hdrop : natPort = 0 ∨ f.quotedDstPort = 0
  · rw [if_pos hdrop]
    exact iff_of_true (fun g hg => by cases hg) (hdrop.imp_right .inl)
  · rw [if_neg hdrop]
    constructor
    · intro hok
      exact .inr (.inr (hiff.mp (hok _ rfl).2.2))
    · rintro hcond g hg
      obtain rfl := Option.some.inj hg
      exact ⟨hsrc, hsrcPort, hiff.mpr ((or_assoc.mpr hcond).resolve_left hdrop)⟩

end

/-- The first packet of a flow: UDP from 10.0.0.1, port 4660, to 1.2.3.4, port 53. -/
def firstUdp : Frame where
  mem i := ([0x66, 0, 0, 0, 0, 1, 0x66, 0x77, 0, 0, 0, 2, 0x08, 0x00] ++
    [0x45, 0, 0, 28, 0, 0, 0, 0, 64, 17, 108, 203, 10, 0, 0, 1, 1, 2, 3, 4] ++
    [0x12, 0x34, 0, 53, 0, 8, 0, 0] : List UInt8).getD i 0
  off := 0
  len := 42

/-- An ICMP error that quotes the packet after its source became 192.0.2.1, with the given checksums. -/
def quotingUdp (icmpCksum : List UInt8) (ttl : UInt8) (cksum port : List UInt8) : Frame where
  mem i := ([0x66, 0, 0, 0, 0, 1, 0x66, 0x77, 0, 0, 0, 2, 0x08, 0x00] ++
    [0x45, 0, 0, 56, 0, 0, 0, 0, 64, 1, 0, 0, 1, 2, 3, 4, 192, 0, 2, 1] ++ [3, 3] ++ icmpCksum ++ [0, 0, 0, 0] ++
    [0x45, 0, 0, 28, 0, 0, 0, 0, ttl, 17] ++ cksum ++ [192, 0, 2, 1, 1, 2, 3, 4] ++ port ++
    [0, 53, 0, 8, 0, 0] : List UInt8).getD i 0
  off := 0
  len := 70

/-- The flow whose source port stays the same, and an error for its first packet. -/
theorem icmp_error_same_port :
    QuotesFlow (firstUdp.dpProcessIpv4Snat ipprotoUdp 0xc0000201 4660).2
        (quotingUdp [234, 139] 64 [180, 202] [0x12, 0x34]) ∧
      IcmpErrOk (firstUdp.dpProcessIpv4Snat ipprotoUdp 0xc0000201 4660).2
        (quotingUdp [234, 139] 64 [180, 202] [0x12, 0x34]) := by
  have h : QuotesFlow (firstUdp.dpProcessIpv4Snat ipprotoUdp 0xc0000201 4660).2
      (quotingUdp [234, 139] 64 [180, 202] [0x12, 0x34]) := by
    constructor <;> decide
  exact ⟨h, (icmp_error_iff firstUdp _ ipprotoUdp 0xc0000201 4660 rfl h).mpr (.inr (.inr (by decide)))⟩

/-- The flow got port 1024, and the error quotes the packet as it has arrived, four hops later: neither checksum is
valid after the DNAT node. -/
theorem icmp_error_next_port :
    QuotesFlow (firstUdp.dpProcessIpv4Snat ipprotoUdp 0xc0000201 1024).2
        (quotingUdp [248, 191] 60 [184, 202] [4, 0]) ∧
      ((quotingUdp [248, 191] 60 [184, 202] [4, 0]).dnatIcmpErr
          (firstUdp.dpProcessIpv4Snat ipprotoUdp 0xc0000201 1024).2).any
        (fun g => g.quotedSrc = [10, 0, 0, 1] && g.quotedSrcPort = 4660 && !decide (CksumOk g.icmpMsg) &&
          !decide (CksumOk g.quotedHdr)) = true := by
  refine ⟨?_, by decide⟩
  constructor <;> decide

end Dpservice
