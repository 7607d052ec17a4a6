import Dpservice.Frame
import Dpservice.Firewall
import Dpservice.Lib.OnesComplement

/-!
# Where layer-4 headers are read

Every part of the service takes the layer-4 header of an IPv4 packet to start 20 bytes after the IPv4 header
(`ipv4_hdr + 1`), whatever header length and fragment offset say.

- `Frame.conntrackAt`, `Frame.virtsvcKeyAt`, `Frame.changePortAt`, `Frame.changeIdentAt`: the four uses with the place
  of the header as an argument, and the source's functions as these at byte 20;
- `L4Ok`: they behave as with the real header, and take a fragment without one for what it is;
- `l4_header_iff`: this holds for packets without options that are not later fragments, and for protocols that the
  service does not handle.
-/

namespace Dpservice

namespace Frame

variable (f : Frame)

/-! ## The header at some place -/

/-- The place that the IPv4 header gives for the layer-4 header. -/
def l4 : ℕ := f.l3 + 4 * f.ihl

/-- `ipv4_hdr + 1`. -/
abbrev afterHdr : ℕ := f.l3 + 20

def ipv4Hdr : L3Hdr :=
  .ipv4 (BitVec.ofNat 32 (be32 f.mem (f.l3 + 12))) (BitVec.ofNat 32 (be32 f.mem (f.l3 + 16))) f.nextProtoId

def l4HdrAt (a : ℕ) : L4Hdr where
  srcPort := UInt16.ofNat (be16 f.mem a)
  dstPort := UInt16.ofNat (be16 f.mem (a + 2))
  tcpFin := (f.mem (a + 13)).toNat.testBit 0
  tcpSyn := (f.mem (a + 13)).toNat.testBit 1
  tcpRst := (f.mem (a + 13)).toNat.testBit 2
  tcpAck := (f.mem (a + 13)).toNat.testBit 4
  icmpType := f.mem a
  icmpCode := f.mem (a + 1)
  icmpIdent := UInt16.ofNat (be16 f.mem (a + 4))

/-- `dp_get_icmp_err_ip_hdr`: the header quoted by the ICMP message, and its ports. -/
def errHdrAt (a : ℕ) : IcmpErrHdr where
  src := BitVec.ofNat 32 (be32 f.mem (a + 20))
  dst := BitVec.ofNat 32 (be32 f.mem (a + 24))
  proto := f.mem (a + 17)
  srcPort := UInt16.ofNat (be16 f.mem (a + 8 + 4 * ((f.mem (a + 8)).toNat % 16)))
  dstPort := UInt16.ofNat (be16 f.mem (a + 8 + 4 * ((f.mem (a + 8)).toNat % 16) + 2))

/-- What the conntrack node extracts from a packet with its layer-4 header at `a`; `none` where it drops the packet. -/
def conntrackAt (p : PortId) (df : DpFlow) (a : ℕ) : Option Mbuf :=
  ((df.extractL3 f.ipv4Hdr).extractL4 (f.l4HdrAt a)).map fun df =>
    { port := p, l3 := f.ipv4Hdr, l4 := f.l4HdrAt a, errHdr := some (f.errHdrAt a), df := df }

/-- The key that `get_outgoing_virtsvc` looks up for a packet with its layer-4 header at `a`: protocol, destination and
destination port. -/
def virtsvcKeyAt (a : ℕ) : Option (UInt8 × Ip4 × UInt16) :=
  if f.nextProtoId = ipprotoTcp ∨ f.nextProtoId = ipprotoUdp then
    some (f.nextProtoId, BitVec.ofNat 32 (be32 f.mem (f.l3 + 16)), UInt16.ofNat (be16 f.mem (a + 2)))
  else none

/-- Which port is rewritten: `DP_L4_PORT_DIR_SRC` or `DP_L4_PORT_DIR_DST`. -/
inductive PortDir where
  | src | dst
  deriving DecidableEq, Repr

/-- The port rewritten in a header at `a`; TCP and UDP headers start alike. -/
def changePortAt (a : ℕ) (dir : PortDir) (new : UInt16) : Frame :=
  { f with
    mem := f.mem.put (match dir with
      | .src => a
      | .dst => a + 2) (be16Bytes new.toNat) }

/-- The identifier rewritten in an ICMP header at `a`, and the checksum updated for it. -/
def changeIdentAt (a : ℕ) (new : UInt16) : Frame :=
  { f with mem := updateWord f.mem a 4 (be16Bytes new.toNat) }

/-! ## The source -/

/-- The conntrack node: `dp_extract_ipv4_header` and `dp_extract_l4_header`. -/
def conntrack (p : PortId) (df : DpFlow) : Option Mbuf := f.conntrackAt p df f.afterHdr

/-- The lookup of `get_outgoing_virtsvc`. -/
def virtsvcKey : Option (UInt8 × Ip4 × UInt16) := f.virtsvcKeyAt f.afterHdr

def dpChangeL4HdrPort (dir : PortDir) (new : UInt16) : Frame := f.changePortAt f.afterHdr dir new

def dpChangeIcmpIdentifier (new : UInt16) : Frame := f.changeIdentAt f.afterHdr new

/-- The protocols whose packets the conntrack node lets pass. -/
def handled : Bool := f.nextProtoId == ipprotoTcp || f.nextProtoId == ipprotoUdp || isIcmp f.nextProtoId

end Frame

/-- The layer-4 header is read and rewritten where it is, and a fragment that has none is neither matched nor
rewritten. -/
structure L4Ok (f : Frame) : Prop where
  fragment : f.fragmentOffset ≠ 0 → (∀ p df, f.conntrack p df = none) ∧ f.virtsvcKey = none
  flowKey : f.fragmentOffset = 0 → ∀ p df cf c buf, (f.conntrack p df).map (dpBuildFlowKey cf c buf) =
    (f.conntrackAt p df f.l4).map (dpBuildFlowKey cf c buf)
  firewall : f.fragmentOffset = 0 → ∀ p df inPort outPort,
    (f.conntrack p df).map (fun m => dpGetFirewallAction m.df inPort outPort) =
      (f.conntrackAt p df f.l4).map fun m => dpGetFirewallAction m.df inPort outPort
  virtsvc : f.fragmentOffset = 0 → f.virtsvcKey = f.virtsvcKeyAt f.l4
  port : f.fragmentOffset = 0 → f.handled = true → f.nextProtoId ≠ ipprotoIcmp →
    ∀ dir new, f.dpChangeL4HdrPort dir new = f.changePortAt f.l4 dir new
  ident : f.fragmentOffset = 0 → f.nextProtoId = ipprotoIcmp →
    ∀ new, f.dpChangeIcmpIdentifier new = f.changeIdentAt f.l4 new

section

open Buffer Frame

variable {f : Frame}

/-- Packets of other protocols are dropped before their ports are looked at. -/
theorem conntrackAt_eq_none_iff (p : PortId) (df : DpFlow) (a : ℕ) : f.conntrackAt p df a = none ↔
    f.handled = false := by
  unfold conntrackAt handled DpFlow.extractL4 DpFlow.extractL3 ipv4Hdr
  dsimp only
  by_cases ht : f.nextProtoId = ipprotoTcp
  · simp [ht]
  · by_cases hu : f.nextProtoId = ipprotoUdp
    · simp [hu]
    · by_cases hi : isIcmp f.nextProtoId <;> simp [ht, hu, hi]

/-- Some byte is not this one. -/
theorem exists_high_ne (b : UInt8) : ∃ new : UInt16, UInt8.ofNat (new.toNat / 256) ≠ b := by
  by_cases hb : b = 0
  · exact ⟨256, by rw [hb]; decide⟩
  · exact ⟨0, fun h => hb (by rw [← h]; decide)⟩

/-- Rewriting a port at two places is only the same if they are one place. -/
theorem eq_of_changePortAt {a b : ℕ} (hab : a = b ∨ a + 2 ≤ b ∨ b + 2 ≤ a)
    (h : ∀ new, f.changePortAt a .src new = f.changePortAt b .src new) : a = b := by
  obtain hab | hab := hab
  · exact hab
  · obtain ⟨new, hnew⟩ := exists_high_ne (f.mem a)
    have hleft : (f.changePortAt a .src new).mem a = UInt8.ofNat (new.toNat / 256) := put_head ..
    have hright : (f.changePortAt b .src new).mem a = f.mem a := put_outside (by simp; omega)
    rw [h new, hright] at hleft
    exact absurd hleft.symm hnew

/-- The same for the identifier. -/
theorem eq_of_changeIdentAt {a b : ℕ} (hab : a = b ∨ a + 4 ≤ b ∨ b + 4 ≤ a)
    (h : ∀ new, f.changeIdentAt a new = f.changeIdentAt b new) : a = b := by
  obtain hab | hab := hab
  · exact hab
  · obtain ⟨new, hnew⟩ := exists_high_ne (f.mem (a + 4))
    have hleft : (f.changeIdentAt a new).mem (a + 4) = UInt8.ofNat (new.toNat / 256) :=
      (put_outside (by simp)).trans (put_head ..)
    have hright : (f.changeIdentAt b new).mem (a + 4) = f.mem (a + 4) :=
      (put_outside (by simp; omega)).trans (put_outside (by simp; omega))
    rw [h new, hright] at hleft
    exact absurd hleft.symm hnew

/-- **The layer-4 header is read and rewritten in its place exactly in packets without options that are not later
fragments, and in packets of protocols that are dropped.** -/
theorem l4_header_iff (f : Frame) : L4Ok f ↔ (f.handled = true → f.ihl = 5 ∧ f.fragmentOffset = 0) := by
  constructor
  · intro h hhandled
    have hfirst : f.fragmentOffset = 0 := by
      by_contra hne
      have hdrop := (h.fragment hne).1 0 {}
      rw [conntrack, conntrackAt_eq_none_iff, hhandled] at hdrop
      cases hdrop
    have hwords : f.afterHdr = f.l4 ∨ f.afterHdr + 4 ≤ f.l4 ∨ f.l4 + 4 ≤ f.afterHdr := by
      unfold afterHdr l4
      omega
    have hplace : f.afterHdr = f.l4 := by
      by_cases hicmp : f.nextProtoId = ipprotoIcmp
      · exact eq_of_changeIdentAt hwords (h.ident hfirst hicmp)
      · exact eq_of_changePortAt (by omega) (h.port hfirst hhandled hicmp .src)
    refine ⟨?_, hfirst⟩
    unfold afterHdr l4 at hplace
    omega
  · intro h
    cases hhandled : f.handled with
    | true =>
      obtain ⟨hihl, hfirst⟩ := h hhandled
      have hplace : f.l4 = f.afterHdr := by unfold l4; rw [hihl]
      refine ⟨fun hne => absurd hfirst hne, fun _ => ?_, fun _ => ?_, fun _ => ?_, fun _ _ _ => ?_, fun _ _ => ?_⟩
      all_goals
        rw [hplace]
        intros
        rfl
    | false =>
      have hnone : ∀ p df a, f.conntrackAt p df a = none := fun p df a => (conntrackAt_eq_none_iff p df a).mpr hhandled
      have hproto : ¬ (f.nextProtoId = ipprotoTcp ∨ f.nextProtoId = ipprotoUdp) := by
        rintro (ht | hu)
        · simp [handled, ht] at hhandled
        · simp [handled, hu] at hhandled
      have hkey : ∀ a, f.virtsvcKeyAt a = none := fun a => if_neg hproto
      refine ⟨fun _ => ⟨fun p df => hnone .., hkey _⟩, fun _ p df cf c buf => ?_, fun _ p df i o => ?_, fun _ => ?_,
        fun _ hh => ?_, fun _ hicmp => ?_⟩
      · rw [conntrack, hnone, hnone]
      · rw [conntrack, hnone, hnone]
      · rw [virtsvcKey, hkey, hkey]
      · rw [hhandled] at hh
        cases hh
      · simp [handled, hicmp, isIcmp] at hhandled

end

/-- A TCP packet to port 80 from port 4660 with one word of IP options, and what a fragment offset makes of it. -/
def optionsSyn (frag : UInt8) : Frame where
  mem i := ([0x66, 0, 0, 0, 0, 1, 0x66, 0x77, 0, 0, 0, 2, 0x08, 0x00] ++
    [0x46, 0, 0, 44, 0, 1, 0, frag, 64, 6, 0, 0, 10, 0, 0, 1, 1, 2, 3, 4] ++ [1, 1, 1, 0] ++
    [0x12, 0x34, 0, 80, 0, 0, 0, 1, 0, 0, 0, 0, 0x50, 2, 0xff, 0xff, 0xab, 0xcd, 0, 0] : List UInt8).getD i 0
  off := 0
  len := 58

/-- The options are taken for the ports: source port 257 and destination port 256; also in a later fragment, which has
no ports at all. -/
theorem l4_header_options : (optionsSyn 0).fragmentOffset = 0 ∧ (optionsSyn 0).ihl = 6 ∧
    ((optionsSyn 0).l4HdrAt (optionsSyn 0).l4).srcPort = 4660 ∧
    ((optionsSyn 0).l4HdrAt (optionsSyn 0).l4).dstPort = 80 ∧
    ((optionsSyn 0).conntrack 2 { l3Type := .ipv4 }).map (fun m => (m.df.srcPort, m.df.dstPort)) = some (257, 256) ∧
    (optionsSyn 9).fragmentOffset = 9 ∧
    ((optionsSyn 9).conntrack 2 { l3Type := .ipv4 }).map (fun m => (m.df.srcPort, m.df.dstPort)) = some (257, 256) := by
  decide

end Dpservice
