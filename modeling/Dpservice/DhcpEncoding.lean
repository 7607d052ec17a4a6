import Dpservice.Dhcp

/-!
# Options of DHCP answers

What a client reads in the options that `add_dhcp_options` has written.

- `decodeAnswer` splits the options up to END, which has to be the last byte, and reads their values (`readOption`; the
  classless routes by RFC 3442, `readRoutes`);
- `addDhcpDns` is how the configuration collects the name servers;
- `dhcp_answer_encoding`: a client reads what was meant, and the lengths in the headers are those of the packet.
-/

namespace Dpservice

/-! ## Reading options -/

structure ClasslessRoute where
  width : ℕ
  dest : Ip4
  router : Ip4
  deriving DecidableEq, Repr

/-- The options of an answer, with their values. -/
inductive DhcpOpt where
  | messageType (t : UInt8)
  | ipLeaseTime (secs : ℕ)
  | serverId (addr : Ip4)
  | classlessRoute (routes : List ClasslessRoute)
  | subnetMask (mask : Ip4)
  | interfaceMtu (mtu : ℕ)
  | router (addr : Ip4)
  | dns (addrs : List Ip4)
  deriving DecidableEq, Repr

/-- An address in network byte order. -/
def readAddr : List UInt8 → Option Ip4
  | [a, b, c, d] => some (BitVec.ofNat 32 (((a.toNat * 256 + b.toNat) * 256 + c.toNat) * 256 + d.toNat))
  | _ => none

/-- Addresses one after the other. -/
def readAddrs : List UInt8 → Option (List Ip4)
  | [] => some []
  | a :: b :: c :: d :: rest => do
    let addr ← readAddr [a, b, c, d]
    let addrs ← readAddrs rest
    return addr :: addrs
  | _ => none

/-- Routes: the width of the destination, its significant octets, and the router. -/
def readRoutes (bs : List UInt8) : Option (List ClasslessRoute) :=
  match bs with
  | [] => some []
  | w :: rest =>
    let k := (w.toNat + 7) / 8
    if 32 < w.toNat ∨ rest.length < k + 4 then none
    else do
      let dest ← readAddr (rest.take k ++ List.replicate (4 - k) 0)
      let router ← readAddr ((rest.drop k).take 4)
      let routes ← readRoutes (rest.drop (k + 4))
      return ⟨w.toNat, dest, router⟩ :: routes
termination_by bs.length
decreasing_by
  rw [List.length_drop, List.length_cons]
  omega

/-- A number in network byte order. -/
def readNumber (bs : List UInt8) : ℕ := bs.foldl (fun n b => n * 256 + b.toNat) 0

def readOption (o : UInt8 × List UInt8) : Option DhcpOpt :=
  if o.1 = dhcpOptMessageType then if o.2.length = 1 then some (.messageType (o.2.headD 0)) else none
  else if o.1 = dhcpOptIpLeaseTime then if o.2.length = 4 then some (.ipLeaseTime (readNumber o.2)) else none
  else if o.1 = dhcpOptServerId then (readAddr o.2).map .serverId
  else if o.1 = dhcpOptClasslessRoute then (readRoutes o.2).map .classlessRoute
  else if o.1 = dhcpOptSubnetMask then (readAddr o.2).map .subnetMask
  else if o.1 = dhcpOptInterfaceMtu then if o.2.length = 2 then some (.interfaceMtu (readNumber o.2)) else none
  else if o.1 = dhcpOptRouter then (readAddr o.2).map .router
  else if o.1 = dhcpOptDns then (readAddrs o.2).map .dns
  else none

/-- The options of an answer; `none` if they are malformed or END is not the last byte. -/
def decodeAnswer (options : List UInt8) : Option (List DhcpOpt) :=
  let (os, left) := dhcpFormat.walk options
  if left = some [dhcpOptEnd] then os.mapM readOption else none

/-! ## What is meant -/

/-- `add_dhcp_dns`, behind the addresses that were configured before. -/
def addDhcpDns (dns : List UInt8) (addr : Ip4) : Option (List UInt8) :=
  if 255 < dns.length + 4 then none else some (dns ++ addr.octets)

/-- The routes that an answer should have. -/
def meantRoutes (cf : DhcpConf) : List ClasslessRoute :=
  [⟨16, 0xa9fe0000, 0⟩, ⟨0, 0, cf.serverIp⟩] ++ if cf.virtsvc then [⟨24, 0xa9fe0100, cf.serverIp⟩] else []

/-- The options that an answer should have. -/
def meantOptions (cf : DhcpConf) (addrs : List Ip4) (t : UInt8) (pxe : PxeMode) : List DhcpOpt :=
  [.messageType t, .ipLeaseTime 0xffffffff, .serverId cf.serverIp, .classlessRoute (meantRoutes cf),
    .subnetMask 0xffffffff, .interfaceMtu cf.ifaceMtu.toNat] ++
  (if pxe ≠ .none then [.router cf.serverIp] else []) ++ if addrs ≠ [] then [.dns addrs] else []

section Encoding

variable {cf : DhcpConf} {addrs : List Ip4} {dns : List UInt8}

@[simp] theorem readAddr_octets (a : Ip4) : readAddr a.octets = some a := by
  have hlt := a.isLt
  change some (BitVec.ofNat 32 _) = _
  congr 1
  apply BitVec.eq_of_toNat_eq
  simp only [BitVec.toNat_ofNat, UInt8.toNat_ofNat', BitVec.toNat_ushiftRight, Nat.shiftRight_eq_div_pow]
  omega

theorem readAddrs_octets (addrs : List Ip4) : readAddrs (addrs.flatMap Ip4.octets) = some addrs := by
  induction addrs with
  | nil => rfl
  | cons a addrs ih =>
    obtain ⟨b₁, b₂, b₃, b₄, hoctets⟩ : ∃ b₁ b₂ b₃ b₄, a.octets = [b₁, b₂, b₃, b₄] := ⟨_, _, _, _, rfl⟩
    have hread := readAddr_octets a
    rw [hoctets] at hread
    rw [List.flatMap_cons, hoctets]
    simp only [List.cons_append, List.nil_append, readAddrs, hread, ih, Option.bind_eq_bind, Option.bind_some]
    rfl

/-- The name servers that the configuration accepts. -/
theorem foldlM_addDhcpDns : ∀ {addrs : List Ip4} {dns dns' : List UInt8}, addrs.foldlM addDhcpDns dns = some dns' →
    dns' = dns ++ addrs.flatMap Ip4.octets
  | [], dns, dns', h => by
    cases h
    exact (List.append_nil dns).symm
  | a :: addrs, dns, dns', h => by
    rw [List.foldlM_cons] at h
    obtain ⟨next, hnext, hrest⟩ := Option.bind_eq_some_iff.mp h
    unfold addDhcpDns at hnext
    split at hnext
    · cases hnext
    · cases hnext
      rw [foldlM_addDhcpDns hrest, List.append_assoc, List.flatMap_cons]

/-- The routes are read as RFC 3442 says. -/
theorem readRoutes_classlessRoute (cf : DhcpConf) : readRoutes (classlessRoute cf) = some (meantRoutes cf) := by
  obtain ⟨b₁, b₂, b₃, b₄, hoctets⟩ : ∃ b₁ b₂ b₃ b₄, cf.serverIp.octets = [b₁, b₂, b₃, b₄] := ⟨_, _, _, _, rfl⟩
  have hread := readAddr_octets cf.serverIp
  rw [hoctets] at hread
  unfold classlessRoute meantRoutes
  rw [hoctets]
  cases cf.virtsvc with
  | false =>
    simp [readRoutes, readAddr]
    exact Option.some.inj hread
  | true =>
    simp [readRoutes, readAddr]
    exact Option.some.inj hread

theorem answerOptions_fit (cf : DhcpConf) (t : UInt8) (pxe : PxeMode) :
    ∀ o ∈ answerOptions cf t pxe, dhcpFormat.Fits o.1 o.2.length := by
  have hdns := cf.dns_length
  have hroute : (classlessRoute cf).length ≤ 255 := by
    rw [length_classlessRoute]
    split <;> omega
  have hfits : ∀ {t : UInt8} {n : ℕ}, ¬(t = dhcpOptPad ∨ t = dhcpOptEnd) → n ≤ 255 → dhcpFormat.Fits t n :=
    fun ht hn => ⟨ht, hn⟩
  intro o ho
  obtain ho | ho := List.mem_append.mp ho
  · obtain ho | ho := List.mem_append.mp ho
    · simp only [List.mem_cons, List.not_mem_nil, or_false] at ho
      obtain rfl | rfl | rfl | rfl | rfl | rfl := ho
      · exact hfits (t := dhcpOptMessageType) (by decide) (by simp)
      · exact hfits (t := dhcpOptIpLeaseTime) (by decide) (by simp)
      · exact hfits (t := dhcpOptServerId) (by decide) (by simp)
      · exact hfits (t := dhcpOptClasslessRoute) (by decide) hroute
      · exact hfits (t := dhcpOptSubnetMask) (by decide) (by simp)
      · exact hfits (t := dhcpOptInterfaceMtu) (by decide) (by simp)
    · split at ho
      · obtain rfl := List.mem_singleton.mp ho
        exact hfits (t := dhcpOptRouter) (by decide) (by simp)
      · cases ho
  · split at ho
    · obtain rfl := List.mem_singleton.mp ho
      exact hfits (t := dhcpOptDns) (by decide) hdns
    · cases ho

theorem readNumber_mtu (mtu : UInt16) :
    readNumber [UInt8.ofNat (mtu.toNat / 256), UInt8.ofNat mtu.toNat] = mtu.toNat := by
  have hlt := mtu.toNat_lt
  simp only [readNumber, List.foldl_cons, List.foldl_nil, UInt8.toNat_ofNat']
  omega

theorem mapM_readOption (hdns : cf.dns = addrs.flatMap Ip4.octets) (t : UInt8) (pxe : PxeMode) :
    (answerOptions cf t pxe).mapM readOption = some (meantOptions cf addrs t pxe) := by
  have hempty : cf.dns = [] ↔ addrs = [] := by
    rw [hdns]
    cases addrs with
    | nil => simp
    | cons a addrs => simp [Ip4.octets]
  have hserver : readOption (dhcpOptServerId, cf.serverIp.octets) = some (.serverId cf.serverIp) := by
    change (readAddr cf.serverIp.octets).map _ = _
    rw [readAddr_octets, Option.map_some]
  have hroutes : readOption (dhcpOptClasslessRoute, classlessRoute cf) = some (.classlessRoute (meantRoutes cf)) := by
    change (readRoutes (classlessRoute cf)).map _ = _
    rw [readRoutes_classlessRoute, Option.map_some]
  have hmtu : readOption (dhcpOptInterfaceMtu, [UInt8.ofNat (cf.ifaceMtu.toNat / 256), UInt8.ofNat cf.ifaceMtu.toNat]) =
      some (.interfaceMtu cf.ifaceMtu.toNat) := by
    change some (DhcpOpt.interfaceMtu (readNumber _)) = _
    rw [readNumber_mtu]
  have hrouter : readOption (dhcpOptRouter, cf.serverIp.octets) = some (.router cf.serverIp) := by
    change (readAddr cf.serverIp.octets).map _ = _
    rw [readAddr_octets, Option.map_some]
  have hnames : readOption (dhcpOptDns, cf.dns) = some (.dns addrs) := by
    change (readAddrs cf.dns).map _ = _
    rw [hdns, readAddrs_octets, Option.map_some]
  have htype : readOption (dhcpOptMessageType, [t]) = some (.messageType t) := rfl
  have hlease : readOption (dhcpOptIpLeaseTime, [255, 255, 255, 255]) = some (.ipLeaseTime 0xffffffff) := rfl
  have hmask : readOption (dhcpOptSubnetMask, [255, 255, 255, 255]) = some (.subnetMask 0xffffffff) := rfl
  refine mapM_append_some (mapM_append_some ?_ ?_) ?_
  · exact mapM_cons_some htype (mapM_cons_some hlease (mapM_cons_some hserver
      (mapM_cons_some hroutes (mapM_cons_some hmask (mapM_cons_some hmtu rfl)))))
  · split
    · exact mapM_cons_some hrouter rfl
    · rfl
  · by_cases hnone : addrs = []
    · rw [if_neg (not_not.mpr (hempty.mpr hnone)), if_neg (not_not.mpr hnone)]
      rfl
    · rw [if_pos (mt hempty.mp hnone), if_pos hnone]
      exact mapM_cons_some hnames rfl

/-- **Answers of the `dhcp` node.** Whatever name servers the configuration accepts, the options fit and are read as
they were meant, END is their last byte, and all lengths are those of the packet. -/
theorem dhcp_answer_encoding (cf : DhcpConf) (addrs : List Ip4) (hdns : addrs.foldlM addDhcpDns [] = some cf.dns)
    (t : UInt8) (pxe : PxeMode) :
    ∃ options, addDhcpOptions cf t pxe = some options ∧ options.length < dhcpMaxOptionsLen ∧
      decodeAnswer options = some (meantOptions cf addrs t pxe) ∧ options.getLast? = some dhcpOptEnd ∧
      ∀ port m, ∃ m', dhcpReply cf port t pxe m = some m' ∧ m'.options = options ∧
        m'.totalLength.toNat = 20 + 8 + dhcpHdrSize + options.length ∧
        m'.dgramLen.toNat = 8 + dhcpHdrSize + options.length ∧
        m'.pktLen = 14 + 20 + 8 + dhcpHdrSize + options.length ∧ m'.dataLen.toNat = m'.pktLen := by
  have hmeant := mapM_readOption (by rw [foldlM_addDhcpDns hdns, List.nil_append]) t pxe
  set body := (answerOptions cf t pxe).flatMap dhcpFormat.encode with hbody
  have hlen : (body ++ [dhcpOptEnd]).length = answerLength cf pxe := by
    rw [List.length_append]
    exact length_answerOptions cf t pxe
  have hle := answerLength_le cf pxe
  have hdecode : dhcpFormat.walk (body ++ [dhcpOptEnd]) = (answerOptions cf t pxe, some [dhcpOptEnd]) := by
    have hstop : dhcpFormat.walk [dhcpOptEnd] = ([], some [dhcpOptEnd]) := TlvFormat.walk_stop rfl
    rw [hbody, TlvFormat.walk_encode _ (answerOptions_fit cf t pxe), hstop, List.append_nil]
  refine ⟨body ++ [dhcpOptEnd], addDhcpOptions_eq cf t pxe, ?_, ?_, List.getLast?_concat, fun port m => ?_⟩
  · rw [hlen, show dhcpMaxOptionsLen = 1218 from rfl]
    omega
  · unfold decodeAnswer
    rw [hdecode]
    dsimp only
    rw [if_pos rfl, hmeant]
  · obtain ⟨m', hm', -, hoptions, hlen', htotal, hdgram, hpkt, hdata⟩ := dhcpReply_eq cf port t pxe m
    refine ⟨m', hm', hoptions, ?_⟩
    rw [hlen, htotal, hdgram, hpkt, hdata, dhcpHdrSize]
    simp only [UInt16.toNat_ofNat']
    exact ⟨by omega, by omega, trivial, by omega⟩

/-- With two name servers. -/
theorem dhcp_answer_encoding_two :
    ∃ options, addDhcpOptions ⟨0xa9fe0001, 1500, [8, 8, 8, 8, 1, 1, 1, 1], by decide, false⟩ dhcpOffer .none =
    some options ∧ decodeAnswer options = some [.messageType 2, .ipLeaseTime 0xffffffff, .serverId 0xa9fe0001,
        .classlessRoute [⟨16, 0xa9fe0000, 0⟩, ⟨0, 0, 0xa9fe0001⟩], .subnetMask 0xffffffff, .interfaceMtu 1500,
        .dns [0x08080808, 0x01010101]] := by
  obtain ⟨options, hadd, -, hdecode, -⟩ := dhcp_answer_encoding
    ⟨0xa9fe0001, 1500, [8, 8, 8, 8, 1, 1, 1, 1], by decide, false⟩ [0x08080808, 0x01010101] (by decide) dhcpOffer .none
  exact ⟨options, hadd, hdecode⟩

end Encoding

end Dpservice
