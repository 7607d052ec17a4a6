import Dpservice.Lib.Table
import Dpservice.Lib.Run
import Dpservice.Lib.Lpm
import Dpservice.Lib.Ownership
import Dpservice.Lib.Tally
import Dpservice.Lib.Inverse
import Dpservice.Lib.Buffer
import Dpservice.Lib.Memory
import Dpservice.Lib.RoundRobin
import Dpservice.Lib.Scan
import Dpservice.Types
import Dpservice.Config
import Dpservice.Vnf
import Dpservice.Route
import Dpservice.NatConf
import Dpservice.Lb
import Dpservice.Grpc
import Dpservice.FlowKey
import Dpservice.NatPort
import Dpservice.Flow
import Dpservice.Cntrack
import Dpservice.Offload
import Dpservice.Nodes
import Dpservice.Service
import Dpservice.Effect
import Dpservice.NodeEffect
import Dpservice.Tracking
import Dpservice.FlowTable
import Dpservice.FlowCache
import Dpservice.NatTable
import Dpservice.NatReply
import Dpservice.NatAccount
import Dpservice.Refs
import Dpservice.RefOffload
import Dpservice.RefNodes
import Dpservice.RefRemoval
import Dpservice.FlowRefs
import Dpservice.Ifaces
import Dpservice.Control
import Dpservice.VnfTables
import Dpservice.ServiceConfig
import Dpservice.LbTables
import Dpservice.LbTargets
import Dpservice.LbSelect
import Dpservice.LbPorts
import Dpservice.LbFlows
import Dpservice.VniCount
import Dpservice.NoOffload
import Dpservice.Ipc
import Dpservice.GrpcReply
import Dpservice.ReplyBytes
import Dpservice.NatAlloc
import Dpservice.Nat64Undo
import Dpservice.Underlay
import Dpservice.OffloadState
import Dpservice.TcpTracking
import Dpservice.Installs
import Dpservice.Virtsvc
import Dpservice.Lib.SearchTree
import Dpservice.VirtsvcLookup
import Dpservice.VirtsvcSlots
import Dpservice.VirtsvcIndices
import Dpservice.DhcpOptions
import Dpservice.Lib.Tlv
import Dpservice.Dhcp
import Dpservice.DhcpEncoding
import Dpservice.Dhcpv6Options
import Dpservice.Dhcpv6Reply
import Dpservice.Capture
import Dpservice.Dispatch
import Dpservice.JsonLog
import Dpservice.Walk
import Dpservice.PacketKeys
import Dpservice.Lib.Bytes
import Dpservice.Directions
import Dpservice.Sending
import Dpservice.NatForward
import Dpservice.RoundTrip
import Dpservice.Lib.Prefix
import Dpservice.Firewall
import Dpservice.FirewallMatch
import Dpservice.FirewallDecision
import Dpservice.FlowPasses
import Dpservice.RouteReset
import Dpservice.IfaceAtomic
import Dpservice.Prefixes
import Dpservice.NatRequests
import Dpservice.NatView
import Dpservice.NatCoherence
import Dpservice.NatConfined
import Dpservice.DnatTable
import Dpservice.Slots
import Dpservice.VniFrame
import Dpservice.StaleFlows
import Dpservice.Isolation
import Dpservice.Lib.Checksum
import Dpservice.Frame
import Dpservice.Nat64Header
import Dpservice.L4Header
import Dpservice.IcmpError
import Dpservice.Lib.OnesComplement
import Dpservice.IcmpChecksum
import Dpservice.Draining
