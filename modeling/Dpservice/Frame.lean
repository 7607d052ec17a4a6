import Dpservice.Lib.Memory
import Dpservice.FlowKey

/-!
# Packets as bytes

A `Frame` is the memory of an mbuf with the place and the length of its data. The fields of the headers are read at the
offsets they have in `struct rte_ether_hdr`, `struct rte_ipv4_hdr` and `struct rte_ipv6_hdr`.
-/

namespace Dpservice

/-- The data of an mbuf: `len` bytes from `off` on (`rte_pktmbuf_mtod`, `rte_pktmbuf_data_len`). -/
structure Frame where
  mem : Buffer
  off : ℕ
  len : ℕ

namespace Frame

variable (f : Frame)

/-- `dp_get_ipv4_hdr` or `dp_get_ipv6_hdr`. -/
abbrev l3 : ℕ := f.off + 14

/-! ## Ethernet -/

def dstMac : List UInt8 := f.mem.slice f.off 6
def srcMac : List UInt8 := f.mem.slice (f.off + 6) 6
def etherType : ℕ := be16 f.mem (f.off + 12)

/-! ## IPv4 -/

def versionIhl : UInt8 := f.mem f.l3
/-- The header length in words. -/
def ihl : ℕ := f.versionIhl.toNat % 16
def typeOfService : UInt8 := f.mem (f.l3 + 1)
def totalLength : ℕ := be16 f.mem (f.l3 + 2)
/-- `rte_ipv4_hdr::fragment_offset` without its flags. -/
def fragmentOffset : ℕ := be16 f.mem (f.l3 + 6) % 8192
def timeToLive : UInt8 := f.mem (f.l3 + 8)
def nextProtoId : UInt8 := f.mem (f.l3 + 9)
def srcAddr4 : List UInt8 := f.mem.slice (f.l3 + 12) 4
def dstAddr4 : List UInt8 := f.mem.slice (f.l3 + 16) 4

/-- What follows an IPv4 header without options. -/
def l4OfIpv4 : List UInt8 := f.mem.slice (f.l3 + 20) (f.len - 34)

/-! ## IPv6 -/

def ipVersion : ℕ := be32 f.mem f.l3 / 2 ^ 28
def trafficClass : ℕ := be32 f.mem f.l3 / 2 ^ 20 % 256
def payloadLen : ℕ := be16 f.mem (f.l3 + 4)
def proto : UInt8 := f.mem (f.l3 + 6)
def hopLimits : UInt8 := f.mem (f.l3 + 7)
def srcAddr6 : List UInt8 := f.mem.slice (f.l3 + 8) 16
def dstAddr6 : List UInt8 := f.mem.slice (f.l3 + 24) 16

/-- What follows an IPv6 header. -/
def l4OfIpv6 : List UInt8 := f.mem.slice (f.l3 + 40) (f.len - 54)

end Frame

end Dpservice
