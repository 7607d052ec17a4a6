import Dpservice.Dhcp
import Dpservice.Dhcpv6Options

/-!
# Options of DHCPv6 replies

`generate_reply_options` writes the options of a reply over those of the request, through a pointer that it moves on,
and computes their length before.

- `generateReplyOptions` gives this length, the new length of the packet's options, and the writes;
- `decodeReply` reads the options of a reply (`readReplyOpt`), `sentOptions` is what the request says, `meantReply` what
  the reply should have;
- `ReplyRight`: the bytes are as many as was said, were all written, and are read as they should;
- `dhcpv6_reply_iff`: so it is if the request was read right and has no rapid commit, for which the pointer is not
  moved.
-/

namespace Dpservice

namespace Dhcpv6

/-! ## The reply -/

/-- What the node takes from the configuration. -/
structure ReplyConf where
  /-- The addresses of the name servers, one after the other. -/
  dns : List UInt8
  /-- `add_dhcpv6_dns` keeps the length in a byte. -/
  dns_length : dns.length ≤ 255

/-- What the node takes from the interface. -/
structure ReplyPort where
  dhcpIpv6 : List UInt8
  dhcpIpv6_length : dhcpIpv6.length = 16
  /-- The address of the PXE server, as `inet_ntop` writes it. -/
  pxeIp : List UInt8
  pxeIp_length : pxeIp.length < 46
  /-- The text in `pxe_str`, which has `DP_IFACE_PXE_MAX_LEN` bytes. -/
  pxeStr : List UInt8
  pxeStr_length : pxeStr.length < 32

/-- A request, when its direction has been switched. -/
structure Request where
  /-- The memory from the options on. -/
  options : Buffer
  optionsLen : ℕ
  /-- What the packet can grow by. -/
  tailroom : ℕ
  ethDst : List UInt8
  ethDst_length : ethDst.length = 6

def optSid (q : Request) : List UInt8 :=
  be16Bytes optServerid ++ be16Bytes 10 ++ be16Bytes 3 ++ be16Bytes 0xabcd ++ q.ethDst

def optCid (reply : ReplyOptions) : List UInt8 :=
  match reply.cid with
  | none => []
  | some id => be16Bytes optClientid ++ be16Bytes id.length ++ id

/-- `opt_iana`, of `opt_iana_len` bytes: an address without end, and in it the status. -/
def optIana (port : ReplyPort) (reply : ReplyOptions) : List UInt8 :=
  match reply.iaid with
  | none => []
  | some iaid =>
    be16Bytes optIaNa ++ be16Bytes 46 ++ iaid ++ List.replicate 8 255 ++
      (be16Bytes optIaaddr ++ be16Bytes 30 ++ port.dhcpIpv6 ++ List.replicate 8 255 ++
        (be16Bytes optStatusCode ++ be16Bytes 2 ++ be16Bytes 0))

def optRapid (reply : ReplyOptions) : List UInt8 :=
  if reply.rapid then be16Bytes optRapidCommit ++ be16Bytes 0 else []

/-- What `dp_fill_boot_file_option` prints. -/
def bootFileUrl (port : ReplyPort) : PxeMode → List UInt8
  | .none => []
  | .tftp => asciiBytes ['t', 'f', 't', 'p', ':', '/', '/', '['] ++ port.pxeIp ++ asciiBytes [']', '/'] ++ pxeTftpPath
  | .http => asciiBytes ['h', 't', 't', 'p', ':', '/', '/', '['] ++ port.pxeIp ++ asciiBytes [']', '/'] ++ port.pxeStr

/-- `boot_file_url`, of `opt_boot_file_len` bytes: the length is that of the text, of which 95 bytes are kept. -/
def optBootFileUrl (port : ReplyPort) (mode : PxeMode) : List UInt8 :=
  if mode = .none then []
  else
    let url := bootFileUrl port mode
    be16Bytes optBootFile ++ be16Bytes url.length ++ (url.take 95 ++ [0]).take url.length

def resizePacket (q : Request) (delta : ℤ) : Option ℕ :=
  if 0 < delta then if 65535 < delta ∨ q.tailroom < delta then none else some (q.optionsLen + delta).toNat
  else if delta < 0 then if delta < -65535 ∨ q.optionsLen < -delta then none else some (q.optionsLen + delta).toNat
  else some q.optionsLen

def replyWrites (cf : ReplyConf) (port : ReplyPort) (q : Request) (reply : ReplyOptions) : List Write :=
  let ws := store 0 (optSid q)
  let p := (optSid q).length
  let ws := ws ++ store p (optCid reply)
  let p := p + (optCid reply).length
  let ws := ws ++ store p (optIana port reply)
  let p := p + (optIana port reply).length
  -- the pointer is not moved
  let ws := ws ++ store p (optRapid reply)
  let ws := ws ++ store p (be16Bytes optDns)
  let p := p + 2
  let ws := ws ++ store p (be16Bytes cf.dns.length)
  let p := p + 2
  let ws := ws ++ store p cf.dns
  let p := p + cf.dns.length
  ws ++ store p (optBootFileUrl port reply.pxeMode)

def replyOptionsLen (cf : ReplyConf) (port : ReplyPort) (q : Request) (reply : ReplyOptions) : ℕ :=
  (optSid q).length + (optCid reply).length + (optIana port reply).length + (optRapid reply).length +
    (4 + cf.dns.length) + (optBootFileUrl port reply.pxeMode).length

/-- `generate_reply_options`: the returned length, the length of the options in the packet, and the writes. -/
def generateReplyOptions (cf : ReplyConf) (port : ReplyPort) (q : Request) : Option (ℕ × ℕ × List Write) := do
  let reply ← ((parseOptions q.optionsLen 0 {}).run q.options).1
  let n := replyOptionsLen cf port q reply
  let newLen ← resizePacket q (n - q.optionsLen)
  return (n, newLen, replyWrites cf port q reply)

/-! ## Reading the reply -/

/-- The options of a reply. -/
inductive ReplyOpt where
  | serverId (duid : List UInt8)
  | clientId (id : List UInt8)
  | iaNa (iaid addr : List UInt8)
  | rapidCommit
  | dns (addrs : List UInt8)
  | bootFileUrl (url : List UInt8)
  deriving DecidableEq, Repr

/-- An IA_NA with one address, both without end, and the status that this is a success. -/
def readIaNa (value : List UInt8) : Option ReplyOpt :=
  match dhcpv6Format.walk (value.drop 12) with
  | ([(5, ia)], some []) =>
    if dhcpv6Format.walk (ia.drop 24) = ([(13, [0, 0])], some []) ∧ (value.drop 4).take 8 = List.replicate 8 255 ∧
        (ia.drop 16).take 8 = List.replicate 8 255 then
      some (.iaNa (value.take 4) (ia.take 16))
    else none
  | _ => none

def readReplyOpt (o : ℕ × List UInt8) : Option ReplyOpt :=
  if o.1 = optServerid then some (.serverId o.2)
  else if o.1 = optClientid then some (.clientId o.2)
  else if o.1 = optIaNa then readIaNa o.2
  else if o.1 = optRapidCommit then if o.2 = [] then some .rapidCommit else none
  else if o.1 = optDns then some (.dns o.2)
  else if o.1 = optBootFile then some (.bootFileUrl o.2)
  else none

/-- The options of a reply; `none` if they are malformed. -/
def decodeReply (bs : List UInt8) : Option (List ReplyOpt) :=
  if (dhcpv6Format.walk bs).2 = some [] then (dhcpv6Format.walk bs).1.mapM readReplyOpt else none

/-- What a request says, by its complete options. -/
def sentOptions (q : Request) : ReplyOptions :=
  (dhcpv6Format.walk (q.options.slice 0 q.optionsLen)).1.foldl (fun r o => ((meantUse o.1 o.2).apply r).getD r) {}

def meantReply (cf : ReplyConf) (port : ReplyPort) (q : Request) (sent : ReplyOptions) : List ReplyOpt :=
  [.serverId (be16Bytes 3 ++ be16Bytes 0xabcd ++ q.ethDst)] ++ (sent.cid.toList.map .clientId) ++
    (sent.iaid.toList.map (.iaNa · port.dhcpIpv6)) ++ (if sent.rapid then [.rapidCommit] else []) ++ [.dns cf.dns] ++
    if sent.pxeMode = .none then [] else [.bootFileUrl (bootFileUrl port sent.pxeMode)]

/-- The reply has the length that was computed, all its options were written, and they are what they should be. -/
structure ReplyRight (cf : ReplyConf) (port : ReplyPort) (q : Request) (n newLen : ℕ) (ws : List Write) : Prop where
  length : newLen = n
  written : ∀ a < n, Written ws a
  decodes : decodeReply ((writeAll ws q.options).slice 0 n) = some (meantReply cf port q (sentOptions q))

/-! ## What was recorded -/

section Recorded

open Reader

variable {m : Buffer} {len i : ℕ} {r r' : ReplyOptions}

/-- A client id and an `iaid` of the sizes that `parse_options` lets pass. -/
structure WellSized (r : ReplyOptions) : Prop where
  cid : ∀ id ∈ r.cid, id.length ≤ 128
  iaid : ∀ iaid ∈ r.iaid, iaid.length = 4

theorem WellSized.init : WellSized {} := ⟨by rintro _ ⟨⟩, by rintro _ ⟨⟩⟩

/-- An option keeps the sizes. -/
theorem WellSized.use (c n : ℕ) (hr : WellSized r) (h : ((useOption i c n).run m).apply r = some r') :
    WellSized r' := by
  by_cases hv : c = optVendorClass
  · subst hv
    rw [run_useOption_vendor] at h
    split at h
    · cases h; exact ⟨hr.cid, hr.iaid⟩
    · cases h; exact hr
  · by_cases hu : c = optUserClass
    · subst hu
      rw [run_useOption_user] at h
      split at h
      · cases h; exact ⟨hr.cid, hr.iaid⟩
      · cases h; exact hr
    · rw [(useOption_plain hv hu le_rfl).2] at h
      unfold meantUse at h
      rw [Buffer.length_slice, if_neg hv, if_neg hu] at h
      split at h
      · split at h
        · cases h
        next hlong =>
          cases h
          refine ⟨fun id hid => ?_, hr.iaid⟩
          cases hid
          rw [Buffer.length_slice]
          omega
      · split at h
        · split at h
          · cases h
          next hshort =>
            cases h
            refine ⟨hr.cid, fun iaid hid => ?_⟩
            cases hid
            rw [Buffer.take_slice (by omega), Buffer.length_slice]
        · split at h
          · split at h
            · cases h
            · cases h; exact ⟨hr.cid, hr.iaid⟩
          · cases h; exact hr

/-- The loop records well-sized options. -/
theorem WellSized.parse (hr : WellSized r) (h : ((parseOptions len i r).run m).1 = some r') : WellSized r' := by
  induction hd : len - i using Nat.strong_induction_on generalizing i r with
  | _ d ih =>
    subst hd
    by_cases hi : i + 4 < len
    · rw [run_parseOptions hi] at h
      split at h
      · cases h
      · unfold afterOption at h
        split at h
        · cases h
        next next hnext =>
          exact ih _ (by omega) (hr.use _ _ hnext) h rfl
    · rw [parseOptions_stop (by omega)] at h
      cases h
      exact hr

end Recorded

/-! ## The bytes of the reply -/

section Bytes

variable {cf : ReplyConf} {port : ReplyPort} {q : Request} {r : ReplyOptions}

theorem encode_eq (t : ℕ) (v : List UInt8) : dhcpv6Format.encode (t, v) = be16Bytes t ++ be16Bytes v.length ++ v := rfl

@[simp] theorem length_encode (o : ℕ × List UInt8) : (dhcpv6Format.encode o).length = 4 + o.2.length := by
  rw [show o = (o.1, o.2) from rfl, encode_eq, List.length_append, List.length_append, length_be16Bytes,
    length_be16Bytes]

def iaNaValue (port : ReplyPort) (iaid : List UInt8) : List UInt8 :=
  iaid ++ List.replicate 8 255 ++
    dhcpv6Format.encode (optIaaddr, port.dhcpIpv6 ++ List.replicate 8 255 ++
      dhcpv6Format.encode (optStatusCode, [0, 0]))

def rawReply (cf : ReplyConf) (port : ReplyPort) (q : Request) (r : ReplyOptions) : List (ℕ × List UInt8) :=
  [(optServerid, be16Bytes 3 ++ be16Bytes 0xabcd ++ q.ethDst)] ++ (r.cid.toList.map (optClientid, ·)) ++
    (r.iaid.toList.map fun iaid => (optIaNa, iaNaValue port iaid)) ++ [(optDns, cf.dns)] ++
    if r.pxeMode = .none then [] else [(optBootFile, bootFileUrl port r.pxeMode)]

theorem optSid_eq (q : Request) :
    optSid q = dhcpv6Format.encode (optServerid, be16Bytes 3 ++ be16Bytes 0xabcd ++ q.ethDst) := by
  have hlen : (be16Bytes 3 ++ be16Bytes 0xabcd ++ q.ethDst).length = 10 := by
    rw [List.length_append, q.ethDst_length]
    rfl
  rw [encode_eq, hlen]
  simp only [optSid, List.append_assoc]

theorem optCid_eq (r : ReplyOptions) : optCid r = (r.cid.toList.map (optClientid, ·)).flatMap dhcpv6Format.encode := by
  unfold optCid
  cases r.cid with
  | none => rfl
  | some id => exact (List.append_nil _).symm

theorem length_iaNaValue {iaid : List UInt8} (h : iaid.length = 4) : (iaNaValue port iaid).length = 46 := by
  simp [iaNaValue, h, port.dhcpIpv6_length]

theorem optIana_eq (hr : WellSized r) :
    optIana port r = (r.iaid.toList.map fun iaid => (optIaNa, iaNaValue port iaid)).flatMap dhcpv6Format.encode := by
  unfold optIana
  cases hi : r.iaid with
  | none => rfl
  | some iaid =>
    have hlen : (iaNaValue port iaid).length = 46 := length_iaNaValue (hr.iaid iaid hi)
    have haddr :
        (port.dhcpIpv6 ++ List.replicate 8 255 ++ dhcpv6Format.encode (optStatusCode, [0, 0])).length = 30 := by
      simp [port.dhcpIpv6_length]
    have hone : dhcpv6Format.encode (optIaNa, iaNaValue port iaid) = be16Bytes optIaNa ++ be16Bytes 46 ++
        iaNaValue port iaid := by rw [encode_eq, hlen]
    simp only [Option.toList_some, List.map_cons, List.map_nil, List.flatMap_cons, List.flatMap_nil,
      List.append_nil, hone]
    unfold iaNaValue
    rw [encode_eq optIaaddr, haddr, encode_eq optStatusCode]
    simp only [List.append_assoc]
    rfl

theorem length_bootFileUrl (port : ReplyPort) (mode : PxeMode) : (bootFileUrl port mode).length ≤ 95 := by
  have h₁ := port.pxeIp_length
  have h₂ := port.pxeStr_length
  cases mode <;> simp [bootFileUrl, asciiBytes, pxeTftpPath] <;> omega

theorem optBootFileUrl_eq (port : ReplyPort) (mode : PxeMode) : optBootFileUrl port mode =
    (if mode = .none then [] else [(optBootFile, bootFileUrl port mode)]).flatMap dhcpv6Format.encode := by
  unfold optBootFileUrl
  split
  · rfl
  · have hle := length_bootFileUrl port mode
    dsimp only
    rw [List.take_of_length_le hle, List.take_left]
    exact (List.append_nil _).symm

/-- Without a rapid commit the options are written one behind the other. -/
theorem replyWrites_eq (hrapid : r.rapid = false) : replyWrites cf port q r =
    storeAll 0 [optSid q, optCid r, optIana port r, be16Bytes optDns, be16Bytes cf.dns.length, cf.dns,
      optBootFileUrl port r.pxeMode] := by
  have hnone : ∀ p, store p (optRapid r) = [] := by
    intro p
    rw [optRapid, hrapid]
    rfl
  unfold replyWrites
  simp only [hnone, storeAll, List.append_nil, List.append_assoc, length_be16Bytes, Nat.zero_add]

/-- The bytes of a reply are its options. -/
theorem replyBytes_eq (hr : WellSized r) : [optSid q, optCid r, optIana port r, be16Bytes optDns,
    be16Bytes cf.dns.length, cf.dns, optBootFileUrl port r.pxeMode].flatten =
      (rawReply cf port q r).flatMap dhcpv6Format.encode := by
  unfold rawReply
  rw [optSid_eq, optCid_eq, optIana_eq hr, optBootFileUrl_eq]
  simp only [List.flatMap_append, List.flatMap_singleton, List.flatten_cons, List.flatten_nil, List.append_nil,
    List.append_assoc, encode_eq optDns]

theorem replyOptionsLen_eq (hrapid : r.rapid = false) : replyOptionsLen cf port q r =
    [optSid q, optCid r, optIana port r, be16Bytes optDns, be16Bytes cf.dns.length, cf.dns,
      optBootFileUrl port r.pxeMode].flatten.length := by
  have hnone : optRapid r = [] := by
    rw [optRapid, hrapid]
    rfl
  unfold replyOptionsLen
  rw [hnone]
  simp only [List.flatten_cons, List.flatten_nil, List.append_nil, List.length_append, List.length_nil,
    length_be16Bytes]
  omega

/-- With one, the last bytes of the reply are not written. -/
theorem not_written_last (cf : ReplyConf) (port : ReplyPort) (q : Request) (hrapid : r.rapid = true) :
    ∃ a < replyOptionsLen cf port q r, ¬Written (replyWrites cf port q r) a := by
  have hfour : (optRapid r).length = 4 := by
    rw [optRapid, hrapid]
    rfl
  refine ⟨replyOptionsLen cf port q r - 1, by unfold replyOptionsLen; omega, ?_⟩
  unfold replyWrites replyOptionsLen
  simp only [written_append, written_store, length_be16Bytes, hfour]
  omega

/-- The options fit their length fields. -/
theorem rawReply_fits (hr : WellSized r) : ∀ o ∈ rawReply cf port q r, dhcpv6Format.Fits o.1 o.2.length := by
  have hdns := cf.dns_length
  have hurl := length_bootFileUrl port r.pxeMode
  have hfits : ∀ {t : ℕ} {v : List UInt8}, t < 65536 → v.length < 65536 → dhcpv6Format.Fits (t, v).1 (t, v).2.length :=
    fun ht hv => ⟨ht, hv⟩
  intro o ho
  unfold rawReply at ho
  simp only [List.mem_append, List.mem_singleton, List.mem_map, Option.mem_toList] at ho
  obtain (((rfl | ⟨id, hid, rfl⟩) | ⟨iaid, hid, rfl⟩) | rfl) | ho := ho
  · exact hfits (by decide) (by simp [q.ethDst_length])
  · exact hfits (by decide) (Nat.lt_of_le_of_lt (hr.cid id hid) (by decide))
  · exact hfits (by decide) (by rw [length_iaNaValue (hr.iaid iaid hid)]; decide)
  · exact hfits (by decide) (Nat.lt_of_le_of_lt hdns (by decide))
  · split at ho
    · cases ho
    · obtain rfl := List.mem_singleton.mp ho
      exact hfits (by decide) (Nat.lt_of_le_of_lt hurl (by decide))

theorem readIaNa_iaNaValue {iaid : List UInt8} (h : iaid.length = 4) :
    readIaNa (iaNaValue port iaid) = some (.iaNa iaid port.dhcpIpv6) := by
  have haddr := port.dhcpIpv6_length
  set status := dhcpv6Format.encode (optStatusCode, [0, 0]) with hstatus
  set ia := port.dhcpIpv6 ++ List.replicate 8 255 ++ status with hia
  have hstatuswalk : dhcpv6Format.walk status = ([(optStatusCode, [0, 0])], some []) :=
    TlvFormat.walk_encode_single ⟨by decide, by decide⟩ rfl
  have hialen : ia.length < 65536 := by simp [hia, hstatus, haddr]
  have hiawalk : dhcpv6Format.walk (dhcpv6Format.encode (optIaaddr, ia)) = ([(optIaaddr, ia)], some []) :=
    TlvFormat.walk_encode_single ⟨Nat.lt_of_lt_of_le (show 5 < 6 by decide) (by decide), hialen⟩ rfl
  have hdrop : (iaNaValue port iaid).drop 12 = dhcpv6Format.encode (optIaaddr, ia) :=
    List.drop_left' (by simp [h])
  have hdrop' : ia.drop 24 = status := List.drop_left' (by simp [haddr])
  have hiaid : (iaNaValue port iaid).take 4 = iaid := by
    unfold iaNaValue
    rw [List.append_assoc, List.take_left' h]
  have htimes : ((iaNaValue port iaid).drop 4).take 8 = List.replicate 8 255 := by
    unfold iaNaValue
    rw [List.append_assoc, List.drop_left' h, List.take_left' (by simp)]
  have haddress : ia.take 16 = port.dhcpIpv6 := by rw [hia, List.append_assoc, List.take_left' haddr]
  have hlifetimes : (ia.drop 16).take 8 = List.replicate 8 255 := by
    rw [hia, List.append_assoc, List.drop_left' haddr, List.take_left' (by simp)]
  unfold readIaNa
  rw [hdrop, hiawalk]
  change (if dhcpv6Format.walk (ia.drop 24) = _ ∧ _ ∧ _ then _ else _) = _
  rw [hdrop', if_pos ⟨hstatuswalk, htimes, hlifetimes⟩, hiaid, haddress]

/-- The options are read back as they were meant. -/
theorem decodeReply_rawReply (hr : WellSized r) (hrapid : r.rapid = false) :
    decodeReply ((rawReply cf port q r).flatMap dhcpv6Format.encode) = some (meantReply cf port q r) := by
  have hwalk := TlvFormat.walk_encode (rawReply cf port q r) (rawReply_fits hr) []
  have hnil : dhcpv6Format.walk [] = ([], some []) := TlvFormat.walk_stop rfl
  rw [hnil, List.append_nil, List.append_nil] at hwalk
  have hnone : (if r.rapid then [ReplyOpt.rapidCommit] else []) = [] := by rw [hrapid]; rfl
  unfold decodeReply
  rw [hwalk, if_pos rfl]
  unfold rawReply meantReply
  rw [hnone, List.append_nil]
  refine mapM_append_some (mapM_append_some (mapM_append_some (mapM_append_some rfl ?_) ?_) rfl) ?_
  · cases r.cid with
    | none => rfl
    | some id => rfl
  · cases hi : r.iaid with
    | none => rfl
    | some iaid => exact mapM_cons_some (readIaNa_iaNaValue (hr.iaid iaid hi)) rfl
  · split
    · rfl
    · rfl

def ReplyOpt.cid? : ReplyOpt → Option (List UInt8)
  | clientId id => some id
  | _ => none

def ReplyOpt.iaid? : ReplyOpt → Option (List UInt8)
  | iaNa iaid _ => some iaid
  | _ => none

def ReplyOpt.isRapid : ReplyOpt → Bool
  | rapidCommit => true
  | _ => false

/-- The first letter, if the option is a boot file. -/
def ReplyOpt.urlHead? : ReplyOpt → Option UInt8
  | bootFileUrl url => url.head?
  | _ => none

/-- The first letter of the boot file of a mode. -/
def pxeLetter : PxeMode → Option UInt8
  | .none => none
  | .tftp => some 116
  | .http => some 104

/-- A reply shows what was recorded. -/
theorem meantReply_inj {s : ReplyOptions} (h : meantReply cf port q r = meantReply cf port q s) : r = s := by
  have hcid : ∀ r, (meantReply cf port q r).findSome? ReplyOpt.cid? = r.cid := by
    rintro ⟨_ | _, _ | _, _ | _, _ | _ | _⟩ <;> rfl
  have hiaid : ∀ r, (meantReply cf port q r).findSome? ReplyOpt.iaid? = r.iaid := by
    rintro ⟨_ | _, _ | _, _ | _, _ | _ | _⟩ <;> rfl
  have hrapid : ∀ r, (meantReply cf port q r).any ReplyOpt.isRapid = r.rapid := by
    rintro ⟨_ | _, _ | _, _ | _, _ | _ | _⟩ <;> rfl
  have hpxe : ∀ r, (meantReply cf port q r).findSome? ReplyOpt.urlHead? = pxeLetter r.pxeMode := by
    rintro ⟨_ | _, _ | _, _ | _, _ | _ | _⟩ <;> rfl
  have hletter : pxeLetter r.pxeMode = pxeLetter s.pxeMode := by rw [← hpxe, h, hpxe]
  have hmode : r.pxeMode = s.pxeMode := by
    revert hletter
    cases r.pxeMode <;> cases s.pxeMode <;> decide
  have h₁ : r.cid = s.cid := by rw [← hcid, h, hcid]
  have h₂ : r.iaid = s.iaid := by rw [← hiaid, h, hiaid]
  have h₃ : r.rapid = s.rapid := by rw [← hrapid, h, hrapid]
  cases r
  cases s
  simp_all

end Bytes

/-- The length after resizing. -/
theorem resizePacket_eq {q : Request} {n newLen : ℕ} (h : resizePacket q (n - q.optionsLen) = some newLen) :
    newLen = n := by
  unfold resizePacket at h
  split_ifs at h with hgrow hroom hshrink htrim
  · cases h
    omega
  · cases h
    omega
  · cases h
    omega

/-- **DHCPv6 replies**: the options of a reply are right if the request was read right, and has no rapid commit. -/
theorem dhcpv6_reply_iff {cf : ReplyConf} {port : ReplyPort} {q : Request} {n newLen : ℕ} {ws : List Write}
    (h : generateReplyOptions cf port q = some (n, newLen, ws)) :
    ReplyRight cf port q n newLen ws ↔
      ((parseOptions q.optionsLen 0 {}).run q.options).1 = some (sentOptions q) ∧ (sentOptions q).rapid = false := by
  unfold generateReplyOptions at h
  obtain ⟨r, hparse, h⟩ := Option.bind_eq_some_iff.mp h
  obtain ⟨newLen', hresize, h⟩ := Option.bind_eq_some_iff.mp h
  cases h
  have hr : WellSized r := WellSized.init.parse hparse
  have hlen := resizePacket_eq hresize
  rw [hparse, Option.some.injEq]
  constructor
  · intro hright
    have hrapid : r.rapid = false := by
      by_contra htrue
      obtain ⟨a, ha, hnot⟩ := not_written_last cf port q (Bool.eq_true_of_not_eq_false htrue)
      exact hnot (hright.written a ha)
    have hdecode := hright.decodes
    rw [replyWrites_eq hrapid, replyOptionsLen_eq hrapid, slice_storeAll, replyBytes_eq hr,
      decodeReply_rawReply hr hrapid, Option.some.injEq] at hdecode
    have heq := meantReply_inj hdecode
    exact ⟨heq, heq ▸ hrapid⟩
  · rintro ⟨heq, hrapid⟩
    rw [← heq] at hrapid
    refine ⟨hlen, fun a ha => ?_, ?_⟩
    · rw [replyWrites_eq hrapid, written_storeAll, ← replyOptionsLen_eq hrapid]
      omega
    · rw [replyWrites_eq hrapid, replyOptionsLen_eq hrapid, slice_storeAll, replyBytes_eq hr,
        decodeReply_rawReply hr hrapid, heq]

/-- An interface that can boot from a server. -/
def smallPort : ReplyPort :=
  ⟨[0xfd, 0, 0, 0, 0, 0, 0, 0, 0, 0, 0, 0, 0, 0, 0, 1], rfl, asciiBytes [':', ':', '1'], by decide, [98], by decide⟩

def requestOf (options : List UInt8) : Request := ⟨bytesAt options, options.length, 200, [2, 0, 0, 0, 0, 1], rfl⟩

/-- The reply to a request with a client id and an IA_NA. -/
theorem dhcpv6_reply_iff_plain : ∃ n newLen ws,
    generateReplyOptions ⟨[], by decide⟩ smallPort
      (requestOf [0, 1, 0, 2, 7, 8, 0, 3, 0, 12, 1, 2, 3, 4, 0, 0, 0, 0, 0, 0, 0, 0]) = some (n, newLen, ws) ∧
    ReplyRight ⟨[], by decide⟩ smallPort
      (requestOf [0, 1, 0, 2, 7, 8, 0, 3, 0, 12, 1, 2, 3, 4, 0, 0, 0, 0, 0, 0, 0, 0]) n newLen ws := by
  obtain ⟨⟨n, newLen, ws⟩, h⟩ := Option.isSome_iff_exists.mp (show (generateReplyOptions ⟨[], by decide⟩ smallPort
    (requestOf [0, 1, 0, 2, 7, 8, 0, 3, 0, 12, 1, 2, 3, 4, 0, 0, 0, 0, 0, 0, 0, 0])).isSome = true by decide +kernel)
  exact ⟨n, newLen, ws, h, (dhcpv6_reply_iff h).mpr (by decide +kernel)⟩

/-- A request with a rapid commit and a client id: the reply has 27 bytes, of which the last four are what was in the
packet before; there is no rapid commit in the others. -/
theorem dhcpv6_reply_rapid :
    (generateReplyOptions ⟨[], by decide⟩ smallPort (requestOf [0, 14, 0, 0, 0, 1, 0, 1, 7])).map (fun x =>
      (x.1, x.2.2.all fun w => w.off + w.bytes.length ≤ 23)) = some (27, true) ∧
    (generateReplyOptions ⟨[], by decide⟩ smallPort (requestOf [0, 14, 0, 0, 0, 1, 0, 1, 7])).map (fun x =>
      (decodeReply ((writeAll x.2.2 (bytesAt [0, 14, 0, 0, 0, 1, 0, 1, 7])).slice 0 23),
        decodeReply ((writeAll x.2.2 (bytesAt [0, 14, 0, 0, 0, 1, 0, 1, 7])).slice 0 27))) =
      some (some [.serverId [0, 3, 171, 205, 2, 0, 0, 0, 0, 1], .clientId [7], .dns []], none) := by
  decide +kernel

end Dhcpv6

end Dpservice
