import Dpservice.DhcpOptions
import Dpservice.Lib.Scan
import Dpservice.Lib.Tlv
import Dpservice.Types

/-!
# The `dhcp` node

The node rewrites a DHCP request into its answer. Its PXE mode is a static variable, which requests set and nothing ever
sets back.

- `dhcpNode` is the model; `addDhcpOptions_eq` says which options an answer has, and that they always fit.
- `historyMode`: the mode that a history of requests leaves, as the last one that was set (`modeAfter_eq`).
- `dhcp_independent`: when the answer to a request does not depend on the requests before it.
-/

namespace Dpservice

/-! ## Answers -/

abbrev dpBootpSrvPort : UInt16 := 67
abbrev dpBootpCliPort : UInt16 := 68
abbrev dpBootpRequest : UInt8 := 1
abbrev dpBootpReply : UInt8 := 2
abbrev dhcpDiscover : UInt8 := 1
abbrev dhcpOffer : UInt8 := 2
abbrev dhcpRequest : UInt8 := 3
abbrev dhcpAck : UInt8 := 5
abbrev dhcpMagicCookie : BitVec 32 := 0x63825363
abbrev dhcpOptSubnetMask : UInt8 := 1
abbrev dhcpOptRouter : UInt8 := 3
abbrev dhcpOptDns : UInt8 := 6
abbrev dhcpOptInterfaceMtu : UInt8 := 26
abbrev dhcpOptIpLeaseTime : UInt8 := 51
abbrev dhcpOptServerId : UInt8 := 54
abbrev dhcpOptClasslessRoute : UInt8 := 121

/-- The size of `struct dp_dhcp_header` up to its options. -/
abbrev dhcpHdrSize : ℕ := 240

abbrev dhcpMaxOptionsLen : ℕ := 1500 - 14 - 20 - 8 - dhcpHdrSize

/-- What the node takes from the configuration. -/
structure DhcpConf where
  serverIp : Ip4
  ifaceMtu : UInt16
  /-- The addresses of the name servers, one after the other. -/
  dns : List UInt8
  /-- `add_dhcp_dns` keeps the length in a byte. -/
  dns_length : dns.length ≤ 255
  /-- The service is built with `ENABLE_VIRTSVC`. -/
  virtsvc : Bool

/-- A port and the configuration of its interface. -/
structure DhcpPort where
  ownMac : BitVec 48
  ownIp : Ip4
  pxeIp : Ip4
  /-- The path of the boot file. -/
  pxeStr : List UInt8

/-- What the node reads and writes of a packet. -/
structure DhcpPkt where
  ethDst : BitVec 48
  ethSrc : BitVec 48
  ipSrc : Ip4
  ipDst : Ip4
  totalLength : UInt16
  hdrChecksum : UInt16
  srcPort : UInt16
  dstPort : UInt16
  dgramLen : UInt16
  dgramCksum : UInt16
  op : UInt8
  yiaddr : Ip4
  siaddr : Ip4
  giaddr : Ip4
  /-- The first six bytes of the field. -/
  chaddr : BitVec 48
  file : List UInt8
  magic : BitVec 32
  options : List UInt8
  /-- `rte_mbuf::pkt_len`. -/
  pktLen : ℕ := 0
  /-- `rte_mbuf::data_len`. -/
  dataLen : UInt16 := 0
  /-- The packet ends before the options. -/
  short : Bool := false
  deriving DecidableEq, Repr

/-- The bytes of an address in network byte order. -/
def Ip4.octets (a : Ip4) : List UInt8 :=
  [24, 16, 8, 0].map fun s => UInt8.ofNat ((a >>> s).toNat % 256)

/-- `classless_route`: link-local addresses have no router, all others are behind the gateway, and so are virtual
services. -/
def classlessRoute (cf : DhcpConf) : List UInt8 :=
  [16, 169, 254, 0, 0, 0, 0, 0] ++ cf.serverIp.octets ++
    if cf.virtsvc then [24, 169, 254, 1] ++ cf.serverIp.octets else []

/-- `add_dhcp_option`, behind what was written before. -/
def addDhcpOption (pos : List UInt8) (opt : UInt8) (value : List UInt8) : Option (List UInt8) :=
  if dhcpMaxOptionsLen ≤ pos.length + 2 + value.length then none
  else some (pos ++ opt :: UInt8.ofNat value.length :: value)

def addDhcpOptions (cf : DhcpConf) (msgType : UInt8) (pxe : PxeMode) : Option (List UInt8) := do
  let pos ← addDhcpOption [] dhcpOptMessageType [msgType]
  let pos ← addDhcpOption pos dhcpOptIpLeaseTime [255, 255, 255, 255]
  let pos ← addDhcpOption pos dhcpOptServerId cf.serverIp.octets
  let pos ← addDhcpOption pos dhcpOptClasslessRoute (classlessRoute cf)
  let pos ← addDhcpOption pos dhcpOptSubnetMask [255, 255, 255, 255]
  let pos ← addDhcpOption pos dhcpOptInterfaceMtu [UInt8.ofNat (cf.ifaceMtu.toNat / 256), UInt8.ofNat cf.ifaceMtu.toNat]
  let pos ← (if pxe ≠ .none then addDhcpOption pos dhcpOptRouter cf.serverIp.octets else some pos)
  let pos ← (if cf.dns ≠ [] then addDhcpOption pos dhcpOptDns cf.dns else some pos)
  if dhcpMaxOptionsLen ≤ pos.length then none else some (pos ++ [dhcpOptEnd])

def pxeTftpPath : List UInt8 :=
  asciiBytes ['i', 'p', 'x', 'e', '/', 'x', '8', '6', '_', '6', '4', '/', 'i', 'p', 'x', 'e', '.', 'n', 'e', 'w']

def inetNtop (a : Ip4) : List UInt8 :=
  asciiBytes ((a.octets.map fun b => Nat.toDigits 10 b.toNat).intersperse ['.']).flatten

/-- `snprintf` into a field of 128 bytes: the rest of the field stays. -/
def snprintfFile (file text : List UInt8) : List UInt8 :=
  let written := text.take 127 ++ [0]
  written ++ file.drop written.length

/-- The packet is rewritten and sent back; `none` is a drop. -/
def dhcpReply (cf : DhcpConf) (port : DhcpPort) (responseType : UInt8) (pxe : PxeMode) (m : DhcpPkt) : Option DhcpPkt :=
  let m := { m with
    ethDst := m.ethSrc, ethSrc := port.ownMac, ipSrc := cf.serverIp,
    dstPort := dpBootpCliPort, srcPort := dpBootpSrvPort, op := dpBootpReply, magic := dhcpMagicCookie,
    yiaddr := port.ownIp, giaddr := cf.serverIp, chaddr := m.ethSrc }
  let pxePkt (path : List UInt8) := { m with
    ethDst := BitVec.allOnes 48, ipDst := BitVec.allOnes 32, siaddr := port.pxeIp, file := snprintfFile m.file path }
  let m :=
    match pxe with
    | .none => { m with ipDst := port.ownIp, siaddr := cf.serverIp }
    | .tftp => pxePkt pxeTftpPath
    | .http => pxePkt (asciiBytes ['h', 't', 't', 'p', ':', '/', '/'] ++ inetNtop port.pxeIp ++ port.pxeStr)
  match addDhcpOptions cf responseType pxe with
  | none => none
  | some options =>
    let headerSize := dhcpHdrSize + options.length
    let pktLen := 14 + 20 + 8 + headerSize
    if 65535 < pktLen then none
    else some { m with
      hdrChecksum := 0, totalLength := UInt16.ofNat (20 + 8 + headerSize), dgramLen := UInt16.ofNat (8 + headerSize),
      dgramCksum := 0, options := options, pktLen := pktLen, dataLen := UInt16.ofNat pktLen }

/-- The `dhcp` node: the PXE mode afterwards, and the answer. The byte behind the packet is given separately. -/
def dhcpNode (cf : DhcpConf) (port : DhcpPort) (behind : UInt8) (pxe : PxeMode) (m : DhcpPkt) :
    PxeMode × Option DhcpPkt :=
  if m.short then (pxe, none)
  else if port.ownIp = 0 then (pxe, none)
  else if m.op ≠ dpBootpRequest then (pxe, none)
  else
    match parseOptions m.options 0 none pxe with
    | (none, pxe) => (pxe, none)
    | (some t, pxe) =>
      let msgType := t.getD behind
      if msgType = dhcpDiscover then (pxe, dhcpReply cf port dhcpOffer pxe m)
      else if msgType = dhcpRequest then (pxe, dhcpReply cf port dhcpAck pxe m)
      else (pxe, none)

section Answers

variable {cf : DhcpConf} {port : DhcpPort} {pos value : List UInt8} {opt t : UInt8} {pxe pxe' : PxeMode} {m : DhcpPkt}

@[simp] theorem Ip4.length_octets (a : Ip4) : a.octets.length = 4 := rfl

/-- How options are written: PAD and END have no length. -/
def dhcpFormat : TlvFormat UInt8 where
  readHead
    | t :: n :: rest => if t = dhcpOptPad ∨ t = dhcpOptEnd then none else some (t, n.toNat, rest)
    | _ => none
  writeHead t n := [t, UInt8.ofNat n]
  Fits t n := ¬(t = dhcpOptPad ∨ t = dhcpOptEnd) ∧ n ≤ 255
  read_write := by
    intro t n rest ⟨ht, hn⟩
    have hlen : (UInt8.ofNat n).toNat = n := by
      rw [UInt8.toNat_ofNat', Nat.mod_eq_of_lt (by omega)]
    simp only [List.cons_append, List.nil_append, if_neg ht, hlen]
  read_shorter := by
    intro bs t n rest h
    split at h
    next t' n' rest' =>
      split at h
      · cases h
      · obtain ⟨-, -, rfl⟩ := h
        simp only [List.length_cons]
        omega
    next => cases h

def answerOptions (cf : DhcpConf) (t : UInt8) (pxe : PxeMode) : List (UInt8 × List UInt8) :=
  [(dhcpOptMessageType, [t]), (dhcpOptIpLeaseTime, [255, 255, 255, 255]), (dhcpOptServerId, cf.serverIp.octets),
    (dhcpOptClasslessRoute, classlessRoute cf), (dhcpOptSubnetMask, [255, 255, 255, 255]),
    (dhcpOptInterfaceMtu, [UInt8.ofNat (cf.ifaceMtu.toNat / 256), UInt8.ofNat cf.ifaceMtu.toNat])] ++
  (if pxe ≠ .none then [(dhcpOptRouter, cf.serverIp.octets)] else []) ++
  if cf.dns ≠ [] then [(dhcpOptDns, cf.dns)] else []

/-- The number of bytes that the options of an answer take. -/
def answerLength (cf : DhcpConf) (pxe : PxeMode) : ℕ :=
  (if cf.virtsvc then 48 else 40) + (if pxe = .none then 0 else 6) + if cf.dns = [] then 0 else 2 + cf.dns.length

theorem length_classlessRoute (cf : DhcpConf) : (classlessRoute cf).length = if cf.virtsvc then 20 else 12 := by
  cases h : cf.virtsvc <;> simp [classlessRoute, h]

theorem length_answerOptions (cf : DhcpConf) (t : UInt8) (pxe : PxeMode) :
    ((answerOptions cf t pxe).flatMap dhcpFormat.encode).length + 1 = answerLength cf pxe := by
  unfold answerOptions answerLength
  split_ifs <;> simp_all [TlvFormat.encode, dhcpFormat, length_classlessRoute] <;> omega

theorem answerLength_le (cf : DhcpConf) (pxe : PxeMode) : answerLength cf pxe ≤ 311 := by
  have hdns := cf.dns_length
  unfold answerLength
  split_ifs <;> omega

/-- Options are added one after the other as long as they fit. -/
theorem foldlM_addDhcpOption (os : List (UInt8 × List UInt8)) :
    ∀ pos : List UInt8, pos.length + (os.flatMap dhcpFormat.encode).length < dhcpMaxOptionsLen →
      os.foldlM (fun pos o => addDhcpOption pos o.1 o.2) pos = some (pos ++ os.flatMap dhcpFormat.encode) := by
  induction os with
  | nil =>
    intro pos _
    rw [List.foldlM_nil, List.flatMap_nil, List.append_nil]
    rfl
  | cons o os ih =>
    intro pos hlen
    have hone : (dhcpFormat.encode o).length = 2 + o.2.length := by
      rw [TlvFormat.encode, List.length_append]
      rfl
    rw [List.flatMap_cons, List.length_append, hone] at hlen
    have hadd : addDhcpOption pos o.1 o.2 = some (pos ++ dhcpFormat.encode o) := if_neg (by omega)
    rw [List.foldlM_cons, hadd, Option.bind_eq_bind, Option.bind_some, ih _ (by rw [List.length_append, hone]; omega),
      List.flatMap_cons, List.append_assoc]

/-- **The options of an answer**, and END; they fit. -/
theorem addDhcpOptions_eq (cf : DhcpConf) (t : UInt8) (pxe : PxeMode) :
    addDhcpOptions cf t pxe = some ((answerOptions cf t pxe).flatMap dhcpFormat.encode ++ [dhcpOptEnd]) := by
  have hfold : addDhcpOptions cf t pxe =
      ((answerOptions cf t pxe).foldlM (fun pos o => addDhcpOption pos o.1 o.2) []).bind
      fun pos => if dhcpMaxOptionsLen ≤ pos.length then none else some (pos ++ [dhcpOptEnd]) := by
    unfold addDhcpOptions answerOptions
    by_cases hpxe : pxe = .none <;> by_cases hdns : cf.dns = [] <;>
      simp [hpxe, hdns, List.foldlM_cons, List.foldlM_nil, Option.bind_assoc]
  have hlen := length_answerOptions cf t pxe
  have hle := answerLength_le cf pxe
  have hroom : ((answerOptions cf t pxe).flatMap dhcpFormat.encode).length < dhcpMaxOptionsLen := by
    rw [show dhcpMaxOptionsLen = 1218 from rfl]
    omega
  rw [hfold, foldlM_addDhcpOption _ _ (by rwa [List.length_nil, Nat.zero_add]), Option.bind_some, List.nil_append,
    if_neg (not_le.mpr hroom)]

def bootFile (port : DhcpPort) (file : List UInt8) : PxeMode → List UInt8
  | .none => file
  | .tftp => snprintfFile file pxeTftpPath
  | .http => snprintfFile file (asciiBytes ['h', 't', 't', 'p', ':', '/', '/'] ++ inetNtop port.pxeIp ++ port.pxeStr)

/-- There is an answer, with the boot file and the options of the mode, and its lengths are those of the options. -/
theorem dhcpReply_eq (cf : DhcpConf) (port : DhcpPort) (t : UInt8) (pxe : PxeMode) (m : DhcpPkt) :
    ∃ m', dhcpReply cf port t pxe m = some m' ∧ m'.file = bootFile port m.file pxe ∧
      m'.options = (answerOptions cf t pxe).flatMap dhcpFormat.encode ++ [dhcpOptEnd] ∧
      m'.options.length = answerLength cf pxe ∧ m'.totalLength = UInt16.ofNat (268 + answerLength cf pxe) ∧
      m'.dgramLen = UInt16.ofNat (248 + answerLength cf pxe) ∧ m'.pktLen = 282 + answerLength cf pxe ∧
      m'.dataLen = UInt16.ofNat (282 + answerLength cf pxe) := by
  have hlen : ((answerOptions cf t pxe).flatMap dhcpFormat.encode ++ [dhcpOptEnd]).length = answerLength cf pxe := by
    rw [List.length_append]
    exact length_answerOptions cf t pxe
  have hsmall : ¬65535 < 14 + 20 + 8 + (dhcpHdrSize + answerLength cf pxe) := by
    have := answerLength_le cf pxe
    rw [dhcpHdrSize]
    omega
  unfold dhcpReply
  dsimp only
  rw [addDhcpOptions_eq]
  dsimp only
  rw [hlen, if_neg hsmall]
  refine ⟨_, rfl, ?_, rfl, hlen, ?_⟩
  · cases pxe <;> rfl
  · simp only [dhcpHdrSize, ← Nat.add_assoc, Nat.reduceAdd, and_self]

/-- **Different modes give different answers.** -/
theorem dhcpReply_inj (h : dhcpReply cf port t pxe m = dhcpReply cf port t pxe' m) : pxe = pxe' := by
  obtain ⟨m₁, h₁, hfile₁, -, hlen₁, -⟩ := dhcpReply_eq cf port t pxe m
  obtain ⟨m₂, h₂, hfile₂, -, hlen₂, -⟩ := dhcpReply_eq cf port t pxe' m
  rw [h₁, h₂, Option.some.injEq] at h
  subst h
  rw [hlen₁] at hlen₂
  rw [hfile₁] at hfile₂
  have hhead : ∀ {file a b : List UInt8} {x y : UInt8},
      snprintfFile file (x :: a) = snprintfFile file (y :: b) → x = y :=
    fun h => (List.cons.inj h).1
  cases pxe <;> cases pxe' <;> simp [answerLength] at hlen₂ <;> first | rfl | exact absurd (hhead hfile₂) (by decide)

end Answers

/-! ## The mode -/

def optMode (h : List UInt8) : Option PxeMode :=
  if optTruncated h then none
  else if optType h = dhcpOptUserClass then if optValue h = userClassInfCompStr then some .http else none
  else if optType h = dhcpOptVendorClassId then
    if vndClassIdCompStr.length ≤ (optValue h).length ∧ memmem (optValue h) vndClassIdCompStr then some .tftp else none
  else none

/-- The last mode that the options set. -/
def modeSet (options : List UInt8) : Option PxeMode := ((codeHeads 0 options).filterMap optMode).getLast?

/-- The message type that the loop finds. -/
def typeFound (options : List UInt8) : Option (Option UInt8) :=
  if (codeHeads 0 options).any optTruncated then none else lastTypeByte (codeHeads 0 options)

/-- A request that has come in, the port it came from, and the byte behind it. -/
structure DhcpEvent where
  port : DhcpPort
  m : DhcpPkt
  behind : UInt8

/-- The options of a packet are looked at. -/
def Parsed (port : DhcpPort) (m : DhcpPkt) : Prop := m.short = false ∧ port.ownIp ≠ 0 ∧ m.op = dpBootpRequest

instance (port : DhcpPort) (m : DhcpPkt) : Decidable (Parsed port m) := inferInstanceAs (Decidable (_ ∧ _))

def modeAfter (cf : DhcpConf) (es : List DhcpEvent) : PxeMode :=
  es.foldl (fun pxe e => (dhcpNode cf e.port e.behind pxe e.m).1) .none

/-- The last mode that the requests set. -/
def historyMode (es : List DhcpEvent) : PxeMode :=
  (es.filterMap fun e => if Parsed e.port e.m then modeSet e.m.options else none).getLast?.getD .none

section Mode

variable {cf : DhcpConf} {port : DhcpPort} {behind : UInt8} {pxe : PxeMode} {m : DhcpPkt} {heads : List (List UInt8)}

theorem pxeOf_eq (heads : List (List UInt8)) (pxe : PxeMode) :
    pxeOf heads pxe = (heads.filterMap optMode).getLast?.getD pxe := by
  have hone : ∀ pxe h,
      (if optTruncated h then pxe else pxeAfter (optType h) (optValue h) pxe) = (optMode h).getD pxe := by
    intro pxe h
    unfold optMode pxeAfter
    split_ifs <;> rfl
  rw [pxeOf, ← foldl_getD]
  simp only [hone]

/-- What the loop makes of the options: the type does not depend on the mode. -/
theorem parseOptions_found (options : List UInt8) (pxe : PxeMode) :
    parseOptions options 0 none pxe = (typeFound options, (modeSet options).getD pxe) := by
  rw [parseOptions_eq, follow_eq (codeHeads_pairwise 0 options), Option.or_none, pxeOf_eq]
  rfl

def dhcpAnswer (cf : DhcpConf) (port : DhcpPort) (behind : UInt8) (pxe : PxeMode) (m : DhcpPkt) : Option DhcpPkt :=
  (typeFound m.options).bind fun t =>
    if t.getD behind = dhcpDiscover then dhcpReply cf port dhcpOffer pxe m
    else if t.getD behind = dhcpRequest then dhcpReply cf port dhcpAck pxe m
    else none

theorem dhcpNode_eq (cf : DhcpConf) (port : DhcpPort) (behind : UInt8) (pxe : PxeMode) (m : DhcpPkt) :
    dhcpNode cf port behind pxe m =
      if Parsed port m then
        ((modeSet m.options).getD pxe, dhcpAnswer cf port behind ((modeSet m.options).getD pxe) m)
      else (pxe, none) := by
  unfold dhcpNode
  by_cases hp : Parsed port m
  · rw [if_pos hp, if_neg (by simp [hp.1]), if_neg hp.2.1, if_neg (not_not.mpr hp.2.2), parseOptions_found]
    unfold dhcpAnswer
    cases typeFound m.options with
    | none => rfl
    | some t =>
      dsimp only [Option.bind_some]
      split
      · rfl
      · split <;> rfl
  · rw [if_neg hp]
    unfold Parsed at hp
    split
    · rfl
    · split
      · rfl
      · split
        · rfl
        · simp_all

/-- **The mode after a history is the last one that was set.** -/
theorem modeAfter_eq (cf : DhcpConf) (es : List DhcpEvent) : modeAfter cf es = historyMode es := by
  have hone : ∀ pxe (e : DhcpEvent), (dhcpNode cf e.port e.behind pxe e.m).1 =
      (if Parsed e.port e.m then modeSet e.m.options else none).getD pxe := by
    intro pxe e
    rw [dhcpNode_eq]
    split <;> rfl
  rw [modeAfter, historyMode, ← foldl_getD]
  simp only [hone]

end Mode

/-! ## Independence of other clients -/

/-- After both histories the request gets the same answer, whatever byte is behind it. -/
def AnsweredAlike (cf : DhcpConf) (es₁ es₂ : List DhcpEvent) (port : DhcpPort) (m : DhcpPkt) : Prop :=
  ∀ b₁ b₂, (dhcpNode cf port b₁ (modeAfter cf es₁) m).2 = (dhcpNode cf port b₂ (modeAfter cf es₂) m).2

/-- The request is not answered at all, or sets the mode itself, or comes after the same mode; and its message type is
not the byte behind it. -/
def HistoryFree (es₁ es₂ : List DhcpEvent) (port : DhcpPort) (m : DhcpPkt) : Prop :=
  ¬Parsed port m ∨ typeFound m.options = none ∨ ∃ t, typeFound m.options = some (some t) ∧
    (t ≠ dhcpDiscover ∧ t ≠ dhcpRequest ∨ modeSet m.options ≠ none ∨ historyMode es₁ = historyMode es₂)

section Independence

variable {cf : DhcpConf} {port : DhcpPort} {behind t : UInt8} {pxe pxe' : PxeMode} {m : DhcpPkt}

theorem dhcpAnswer_known (h : typeFound m.options = some (some t)) : dhcpAnswer cf port behind pxe m =
    if t = dhcpDiscover then dhcpReply cf port dhcpOffer pxe m
    else if t = dhcpRequest then dhcpReply cf port dhcpAck pxe m else none := by
  rw [dhcpAnswer, h, Option.bind_some, Option.getD_some]

/-- A message type that is answered shows the mode. -/
theorem mode_of_answer (hf : typeFound m.options = some (some t)) (ht : t = dhcpDiscover ∨ t = dhcpRequest)
    (h : dhcpAnswer cf port behind pxe m = dhcpAnswer cf port behind pxe' m) : pxe = pxe' := by
  rw [dhcpAnswer_known hf, dhcpAnswer_known hf] at h
  split at h
  · exact dhcpReply_inj h
  next hne =>
    rw [if_pos (ht.resolve_left hne), if_pos (ht.resolve_left hne)] at h
    exact dhcpReply_inj h

/-- **DHCP answers and other clients**: after two histories a request is answered alike exactly in these cases. -/
theorem dhcp_independent (cf : DhcpConf) (es₁ es₂ : List DhcpEvent) (port : DhcpPort) (m : DhcpPkt) :
    AnsweredAlike cf es₁ es₂ port m ↔ HistoryFree es₁ es₂ port m := by
  unfold AnsweredAlike HistoryFree
  rw [modeAfter_eq, modeAfter_eq]
  by_cases hp : Parsed port m
  · simp only [dhcpNode_eq, if_pos hp]
    constructor
    · intro h
      refine .inr ?_
      rcases hf : typeFound m.options with _ | _ | t
      · exact .inl rfl
      · have h10 := h dhcpDiscover 0
        obtain ⟨m', hm', -⟩ := dhcpReply_eq cf port dhcpOffer ((modeSet m.options).getD (historyMode es₁)) m
        simp only [dhcpAnswer, hf, Option.bind_some, Option.getD_none, if_true, hm'] at h10
        rw [if_neg (by decide), if_neg (by decide)] at h10
        cases h10
      · refine .inr ⟨t, rfl, ?_⟩
        by_cases ht : t = dhcpDiscover ∨ t = dhcpRequest
        · refine .inr ?_
          have hmode := mode_of_answer hf ht (h 0 0)
          cases hset : modeSet m.options with
          | none =>
            rw [hset] at hmode
            exact .inr hmode
          | some mode => exact .inl (Option.some_ne_none mode)
        · exact .inl (not_or.mp ht)
    · rintro (hno | hno | ⟨t, hf, hcase⟩) b₁ b₂
      · exact absurd hp hno
      · rw [dhcpAnswer, dhcpAnswer, hno, Option.bind_none, Option.bind_none]
      · rw [dhcpAnswer_known hf, dhcpAnswer_known hf]
        rcases hcase with ⟨h1, h3⟩ | hset | hmode
        · rw [if_neg h1, if_neg h1, if_neg h3, if_neg h3]
        · obtain ⟨mode, hset⟩ := Option.ne_none_iff_exists'.mp hset
          rw [hset, Option.getD_some, Option.getD_some]
        · rw [hmode]
  · simp only [dhcpNode_eq, if_neg hp]
    exact iff_of_true (fun _ _ => trivial) (.inl hp)

end Independence

/-- A gateway, and no name servers. -/
def smallDhcpConf : DhcpConf := ⟨0xa9fe0001, 1500, [], by decide, true⟩

/-- A VM that could boot from a server. -/
def dhcpVm : DhcpPort := ⟨2, 7, 9, [47, 98]⟩

def dhcpDiscovery (options : List UInt8) : DhcpPkt where
  ethDst := BitVec.allOnes 48
  ethSrc := 3
  ipSrc := 0
  ipDst := BitVec.allOnes 32
  totalLength := 0
  hdrChecksum := 0
  srcPort := 68
  dstPort := 67
  dgramLen := 0
  dgramCksum := 0
  op := dpBootpRequest
  yiaddr := 0
  siaddr := 0
  giaddr := 0
  chaddr := 3
  file := List.replicate 128 0
  magic := dhcpMagicCookie
  options := options

/-- After another client has booted over the network, a DISCOVER is answered with its boot server. -/
theorem dhcp_independent_pxe :
    (dhcpNode smallDhcpConf dhcpVm 0 (modeAfter smallDhcpConf []) (dhcpDiscovery [53, 1, 1, 255])).2.map
        (fun m => (m.siaddr, m.ipDst)) = some (0xa9fe0001, 7) ∧
      (dhcpNode smallDhcpConf dhcpVm 0 (modeAfter smallDhcpConf
        [⟨dhcpVm, dhcpDiscovery [53, 1, 1, 77, 4, 105, 80, 88, 69, 255], 0⟩]) (dhcpDiscovery [53, 1, 1, 255])).2.map
        (fun m => (m.siaddr, m.ipDst)) = some (9, BitVec.allOnes 32) := by
  decide +kernel

end Dpservice
