import Dpservice.DhcpOptions
import Dpservice.Lib.Memory
import Dpservice.Lib.Tlv

/-!
# Options of DHCPv6 requests

`parse_options` of the `dhcpv6` node goes through the options of a request, which are `len` bytes in the memory of the
packet; what is behind them is there, too. The loop is a program that reads bytes (`Reader`), so that it can be said
where it reads.

- `useOption`: what the loop makes of one option, `parseOptions`: the loop; `Seen` are the options it has come to;
- the reference: `dhcpv6Format` splits the bytes, `meantUse` is what an option means by its value, `refParse` the
  result;
- `ParsesExactly`: the loop comes to the options of the reference, takes them for what they are, has its result, and
  reads nothing behind the options;
- `ExactFrom`, `dhcpv6_parse_iff`: for which bytes this is so.
-/

namespace Dpservice

namespace Dhcpv6

/-! ## The loop -/

abbrev optClientid : ℕ := 1
abbrev optServerid : ℕ := 2
abbrev optIaNa : ℕ := 3
abbrev optIaaddr : ℕ := 5
abbrev optStatusCode : ℕ := 13
abbrev optRapidCommit : ℕ := 14
abbrev optUserClass : ℕ := 15
abbrev optVendorClass : ℕ := 16
abbrev optDns : ℕ := 23
abbrev optBootFile : ℕ := 59

abbrev vndClassIdLen : ℕ := 20

abbrev userClassInfLen : ℕ := 4

/-- What `parse_options` fills in of `struct dp_dhcpv6_reply_options`; the boot file belongs to the PXE mode. -/
structure ReplyOptions where
  /-- The client id, if `opt_cid_len` is not zero. -/
  cid : Option (List UInt8) := none
  /-- The `iaid`, if `opt_iana_len` is not zero. -/
  iaid : Option (List UInt8) := none
  /-- `opt_rapid_len` is not zero. -/
  rapid : Bool := false
  pxeMode : PxeMode := .none
  deriving DecidableEq, Repr

/-- What an option is taken for. -/
inductive OptionUse where
  | malformed
  | clientId (id : List UInt8)
  | iaNa (iaid : List UInt8)
  | rapidCommit
  | bootFile (mode : PxeMode)
  | ignored
  deriving DecidableEq, Repr

/-- The options of the reply after an option of the request; `none` is an error. -/
def OptionUse.apply (reply : ReplyOptions) : OptionUse → Option ReplyOptions
  | malformed => none
  | clientId id => some { reply with cid := some id }
  | iaNa iaid => some { reply with iaid := some iaid }
  | rapidCommit => some { reply with rapid := true }
  | bootFile mode => some { reply with pxeMode := mode }
  | ignored => some reply

def useOption (i opCode opLen : ℕ) : Reader OptionUse :=
  if opCode = optClientid then
    if 128 < opLen then pure .malformed
    else do
      let id ← Reader.readBytes (i + 4) opLen
      pure (.clientId id)
  else if opCode = optIaNa then
    if opLen < 12 then pure .malformed
    else do
      let iaid ← Reader.readBytes (i + 4) 4
      pure (.iaNa iaid)
  else if opCode = optRapidCommit then
    if opLen ≠ 0 then pure .malformed else pure .rapidCommit
  else if opCode = optVendorClass then do
    -- the length is compared as it is in memory
    let opqDataLen ← Reader.le16 (i + 8)
    if vndClassIdLen ≤ opqDataLen then do
      let data ← Reader.readBytes (i + 10) opLen
      pure (if memmem data vndClassIdCompStr then .bootFile .tftp else .ignored)
    else pure .ignored
  else if opCode = optUserClass then do
    let subOptLen ← Reader.be16 (i + 4)
    if subOptLen = userClassInfLen then do
      let data ← Reader.readBytes (i + 6) userClassInfLen
      pure (if data = userClassInfCompStr then .bootFile .http else .ignored)
    else pure .ignored
  else pure .ignored

/-- An option that the loop has come to. -/
structure Seen where
  opCode : ℕ
  opLen : ℕ
  taken : OptionUse
  deriving DecidableEq, Repr

/-- `parse_options` from index `i` on: the options for the reply, or an error, and the options that it has seen. -/
def parseOptions (len i : ℕ) (reply : ReplyOptions) : Reader (Option ReplyOptions × List Seen) :=
  if i + 4 < len then do
    let opCode ← Reader.be16 i
    let opLen ← Reader.be16 (i + 2)
    if len < i + opLen then pure (none, [])
    else do
      let taken ← useOption i opCode opLen
      match taken.apply reply with
      | none => pure (none, [⟨opCode, opLen, taken⟩])
      | some reply => do
        let (result, seen) ← parseOptions len (i + 4 + opLen) reply
        pure (result, ⟨opCode, opLen, taken⟩ :: seen)
  else pure (some reply, [])
termination_by len - i

/-! ## The reference -/

/-- How options are written: two bytes for the code, two for the length. -/
def dhcpv6Format : TlvFormat ℕ where
  readHead
    | a :: b :: c :: d :: rest => some (a.toNat * 256 + b.toNat, c.toNat * 256 + d.toNat, rest)
    | _ => none
  writeHead t n := be16Bytes t ++ be16Bytes n
  Fits t n := t < 65536 ∧ n < 65536
  read_write := by
    intro t n rest ⟨ht, hn⟩
    change some ((UInt8.ofNat (t / 256)).toNat * 256 + (UInt8.ofNat t).toNat,
      (UInt8.ofNat (n / 256)).toNat * 256 + (UInt8.ofNat n).toNat, rest) = _
    simp only [UInt8.toNat_ofNat']
    congr 2
    · omega
    · congr 1
      omega
  read_shorter := by
    intro bs t n rest h
    split at h
    next =>
      obtain ⟨-, -, rfl⟩ := h
      simp only [List.length_cons]
      omega
    next => cases h

/-- The first of the data items in a value, each of which has its length in front. -/
def firstItem : List UInt8 → Option (List UInt8)
  | a :: b :: rest =>
    let n := a.toNat * 256 + b.toNat
    if rest.length < n then none else some (rest.take n)
  | _ => none

def meantUse (opCode : ℕ) (value : List UInt8) : OptionUse :=
  if opCode = optClientid then if 128 < value.length then .malformed else .clientId value
  else if opCode = optIaNa then if value.length < 12 then .malformed else .iaNa (value.take 4)
  else if opCode = optRapidCommit then if value ≠ [] then .malformed else .rapidCommit
  else if opCode = optVendorClass then
    -- behind the enterprise number
    if (firstItem (value.drop 4)).any (memmem · vndClassIdCompStr) then .bootFile .tftp else .ignored
  else if opCode = optUserClass then
    if firstItem value = some userClassInfCompStr then .bootFile .http else .ignored
  else .ignored

/-- The options are gone through in order, up to an error; an option that is cut off is one. -/
def follow (reply : ReplyOptions) : List (ℕ × List UInt8) → Option (List UInt8) → Option ReplyOptions × List Seen
  | [], left => (left.map fun _ => reply, [])
  | (opCode, value) :: os, left =>
    let s : Seen := ⟨opCode, value.length, meantUse opCode value⟩
    match s.taken.apply reply with
    | none => (none, [s])
    | some reply => ((follow reply os left).1, s :: (follow reply os left).2)

/-- What should be made of the options. -/
def refParse (reply : ReplyOptions) (bs : List UInt8) : Option ReplyOptions × List Seen :=
  follow reply (dhcpv6Format.walk bs).1 (dhcpv6Format.walk bs).2

/-- The loop does what it should with the options of a request, and reads nothing behind them. -/
def ParsesExactly (m : Buffer) (len : ℕ) : Prop :=
  (parseOptions len 0 {}).Within (· < len) m ∧ (parseOptions len 0 {}).run m = refParse {} (m.slice 0 len)

/-! ## When it does -/

/-- A client id that is too long, an IA_NA that is too short, or a rapid commit that is not empty. -/
def Malformed (opCode opLen : ℕ) : Prop :=
  (opCode = optClientid ∧ 128 < opLen) ∨ (opCode = optIaNa ∧ opLen < 12) ∨ (opCode = optRapidCommit ∧ opLen ≠ 0)

instance (opCode opLen : ℕ) : Decidable (Malformed opCode opLen) := inferInstanceAs (Decidable (_ ∨ _))

/-- A vendor class at `i`: its inner length is in the packet, and so are the `opLen` bytes behind it if it is at least
20 with its bytes exchanged; and the text is found there exactly if it is in the first item. -/
def VendorOk (m : Buffer) (len i opLen : ℕ) : Prop :=
  i + 10 ≤ len ∧ (vndClassIdLen ≤ le16 m (i + 8) → i + 10 + opLen ≤ len) ∧
    (vndClassIdLen ≤ le16 m (i + 8) ∧ memmem (m.slice (i + 10) opLen) vndClassIdCompStr = true ↔
      6 + be16 m (i + 8) ≤ opLen ∧ memmem (m.slice (i + 10) (be16 m (i + 8))) vndClassIdCompStr = true)

/-- A user class at `i`: its inner length is in the packet; if this is 4, so are four bytes, and if these are the text,
they belong to the option. -/
def UserOk (m : Buffer) (len i opLen : ℕ) : Prop :=
  i + 6 ≤ len ∧ (be16 m (i + 4) = userClassInfLen →
    i + 10 ≤ len ∧ (m.slice (i + 6) userClassInfLen = userClassInfCompStr → 6 ≤ opLen))

/-- From `i` on: no option has its header as the last four bytes; an option whose length is more than what is left
without its header is also longer than what is left with it; and classes are as above. -/
def ExactFrom (m : Buffer) (len i : ℕ) : Prop :=
  if len < i + 4 then True
  else if len = i + 4 then False
  else
    let opCode := be16 m i
    let opLen := be16 m (i + 2)
    if len < i + opLen then True
    else if len < i + 4 + opLen then False
    else if Malformed opCode opLen then True
    else
      (opCode = optVendorClass → VendorOk m len i opLen) ∧ (opCode = optUserClass → UserOk m len i opLen) ∧
        ExactFrom m len (i + 4 + opLen)
termination_by len - i

section One

open Reader

variable {m : Buffer} {len i n : ℕ}

theorem firstItem_slice (m : Buffer) (a k : ℕ) :
    firstItem (m.slice a k) = if 2 + be16 m a ≤ k then some (m.slice (a + 2) (be16 m a)) else none := by
  match k with
  | 0 => rw [Buffer.slice_zero, if_neg (by omega)]; rfl
  | 1 => rw [Buffer.slice_succ, Buffer.slice_zero, if_neg (by omega)]; rfl
  | k + 2 =>
    rw [Buffer.slice_succ, Buffer.slice_succ]
    change (if (m.slice (a + 2) k).length < be16 m a then none else some ((m.slice (a + 2) k).take (be16 m a))) = _
    rw [Buffer.length_slice]
    by_cases h : k < be16 m a
    · rw [if_pos h, if_neg (by omega)]
    · rw [if_neg h, if_pos (by omega), Buffer.take_slice (by omega)]

theorem within_slice (S : ℕ → Prop) (a k : ℕ) (hS : ∀ b, S b ↔ b < len) :
    (readBytes a k).Within S m ↔ k = 0 ∨ a + k ≤ len := by
  rw [within_readBytes_iff]
  simp only [hS]
  constructor
  · intro h
    by_cases hk : k = 0
    · exact .inl hk
    · have := h (k - 1) (by omega)
      omega
  · rintro (rfl | hk) j hj
    · omega
    · omega

/-- Two conditions for the same of two values. -/
theorem ite_eq_ite_iff {α : Type*} {p q : Prop} [Decidable p] [Decidable q] {x y : α} (hne : x ≠ y) :
    (if p then x else y) = (if q then x else y) ↔ (p ↔ q) := by
  by_cases hp : p <;> by_cases hq : q <;> simp [hp, hq, hne, hne.symm]

theorem useOption_vendor : useOption i optVendorClass n = (do
    let opqDataLen ← Reader.le16 (i + 8)
    if vndClassIdLen ≤ opqDataLen then do
      let data ← readBytes (i + 10) n
      pure (if memmem data vndClassIdCompStr then .bootFile .tftp else .ignored)
    else pure .ignored) := rfl

theorem useOption_user : useOption i optUserClass n = (do
    let subOptLen ← Reader.be16 (i + 4)
    if subOptLen = userClassInfLen then do
      let data ← readBytes (i + 6) userClassInfLen
      pure (if data = userClassInfCompStr then .bootFile .http else .ignored)
    else pure .ignored) := rfl

/-- What the loop makes of a vendor class. -/
theorem run_useOption_vendor : (useOption i optVendorClass n).run m =
    if vndClassIdLen ≤ Dpservice.le16 m (i + 8) ∧ memmem (m.slice (i + 10) n) vndClassIdCompStr = true then
      .bootFile .tftp
    else .ignored := by
  rw [useOption_vendor, run_bind, run_le16]
  by_cases h : vndClassIdLen ≤ Dpservice.le16 m (i + 8)
  · rw [if_pos h, run_bind, run_readBytes]
    simp only [h, true_and]
    rfl
  · rw [if_neg h, if_neg fun hc => h hc.1]
    rfl

theorem run_useOption_user : (useOption i optUserClass n).run m =
    if Dpservice.be16 m (i + 4) = userClassInfLen ∧ m.slice (i + 6) userClassInfLen = userClassInfCompStr then
      .bootFile .http
    else .ignored := by
  rw [useOption_user, run_bind, run_be16]
  by_cases h : Dpservice.be16 m (i + 4) = userClassInfLen
  · rw [if_pos h, run_bind, run_readBytes]
    simp only [h, true_and]
    rfl
  · rw [if_neg h, if_neg fun hc => h hc.1]
    rfl

theorem within_useOption_vendor (h : i + 4 + n ≤ len) : (useOption i optVendorClass n).Within (· < len) m ↔
    i + 10 ≤ len ∧ (vndClassIdLen ≤ Dpservice.le16 m (i + 8) → i + 10 + n ≤ len) := by
  rw [useOption_vendor, within_bind, within_le16, run_le16]
  by_cases hl : vndClassIdLen ≤ Dpservice.le16 m (i + 8)
  · rw [if_pos hl, within_bind, within_pure, and_true, within_slice _ _ _ fun _ => Iff.rfl]
    omega
  · rw [if_neg hl, within_pure, and_true]
    exact ⟨fun ⟨_, hb⟩ => ⟨hb, fun hc => absurd hc hl⟩, fun ⟨hb, _⟩ => ⟨by omega, by omega⟩⟩

theorem within_useOption_user : (useOption i optUserClass n).Within (· < len) m ↔
    i + 6 ≤ len ∧ (Dpservice.be16 m (i + 4) = userClassInfLen → i + 10 ≤ len) := by
  rw [useOption_user, within_bind, within_be16, run_be16]
  by_cases hl : Dpservice.be16 m (i + 4) = userClassInfLen
  · rw [if_pos hl, within_bind, within_pure, and_true, within_slice _ _ _ fun _ => Iff.rfl]
    exact ⟨fun ⟨⟨_, hb⟩, hc⟩ => ⟨hb, fun _ => hc.resolve_left (by decide)⟩,
      fun ⟨hb, hc⟩ => ⟨⟨Nat.lt_of_succ_lt hb, hb⟩, .inr (hc hl)⟩⟩
  · rw [if_neg hl, within_pure, and_true]
    exact ⟨fun ⟨_, hb⟩ => ⟨hb, fun hc => absurd hc hl⟩, fun ⟨hb, _⟩ => ⟨Nat.lt_of_succ_lt hb, hb⟩⟩

theorem meantUse_vendor : meantUse optVendorClass (m.slice (i + 4) n) =
    if 6 + be16 m (i + 8) ≤ n ∧ memmem (m.slice (i + 10) (be16 m (i + 8))) vndClassIdCompStr = true then .bootFile .tftp
    else .ignored := by
  change (if (firstItem ((m.slice (i + 4) n).drop 4)).any (memmem · vndClassIdCompStr) then _ else _) = _
  rw [Buffer.drop_slice, firstItem_slice]
  change (if Option.any _ (if 2 + be16 m (i + 8) ≤ n - 4 then some (m.slice (i + 10) (be16 m (i + 8))) else none) then _
    else _) = _
  by_cases h : 6 + be16 m (i + 8) ≤ n
  · rw [if_pos (show 2 + be16 m (i + 8) ≤ n - 4 by omega)]
    simp only [h, true_and, Option.any_some]
  · rw [if_neg (show ¬2 + be16 m (i + 8) ≤ n - 4 by omega)]
    simp only [h, false_and, Option.any_none, if_false]
    rfl

theorem meantUse_user : meantUse optUserClass (m.slice (i + 4) n) =
    if be16 m (i + 4) = userClassInfLen ∧ m.slice (i + 6) userClassInfLen = userClassInfCompStr ∧ 6 ≤ n then
      .bootFile .http
    else .ignored := by
  change (if firstItem (m.slice (i + 4) n) = some userClassInfCompStr then _ else _) = _
  have hiff : firstItem (m.slice (i + 4) n) = some userClassInfCompStr ↔
      be16 m (i + 4) = userClassInfLen ∧ m.slice (i + 6) userClassInfLen = userClassInfCompStr ∧ 6 ≤ n := by
    rw [firstItem_slice]
    constructor
    · intro h
      split at h
      next hn =>
        have htext := Option.some.inj h
        have hlen : be16 m (i + 4) = userClassInfLen := by
          have := congrArg List.length htext
          rwa [Buffer.length_slice] at this
        rw [hlen] at htext hn
        exact ⟨hlen, htext, hn⟩
      next => cases h
    · rintro ⟨hlen, htext, hn⟩
      rw [hlen, if_pos (show 2 + 4 ≤ n from hn)]
      exact congrArg some htext
  simp only [hiff]

/-- All other options are read as they are meant. -/
theorem useOption_plain {c : ℕ} (hv : c ≠ optVendorClass) (hu : c ≠ optUserClass) (h : i + 4 + n ≤ len) :
    (useOption i c n).Within (· < len) m ∧ (useOption i c n).run m = meantUse c (m.slice (i + 4) n) := by
  unfold useOption meantUse
  rw [Buffer.length_slice]
  by_cases h₁ : c = optClientid
  · simp only [if_pos h₁]
    by_cases hlong : 128 < n
    · simp only [if_pos hlong]
      exact ⟨trivial, rfl⟩
    · simp only [if_neg hlong]
      refine ⟨within_bind.mpr ⟨within_readBytes n fun j hj => by omega, trivial⟩, ?_⟩
      rw [run_bind, run_readBytes]
      rfl
  · simp only [if_neg h₁]
    by_cases h₂ : c = optIaNa
    · simp only [if_pos h₂]
      by_cases hshort : n < 12
      · simp only [if_pos hshort]
        exact ⟨trivial, rfl⟩
      · simp only [if_neg hshort]
        refine ⟨within_bind.mpr ⟨within_readBytes 4 fun j hj => by omega, trivial⟩, ?_⟩
        rw [run_bind, run_readBytes, Buffer.take_slice (by omega)]
        rfl
    · simp only [if_neg h₂, if_neg hv, if_neg hu]
      by_cases h₃ : c = optRapidCommit
      · have hempty : m.slice (i + 4) n ≠ [] ↔ n ≠ 0 := by
          rw [Ne, ← List.length_eq_zero_iff, Buffer.length_slice]
        simp only [if_pos h₃, hempty]
        split
        · exact ⟨trivial, rfl⟩
        · exact ⟨trivial, rfl⟩
      · simp only [if_neg h₃]
        exact ⟨trivial, rfl⟩

/-- The classes are the options that can be misread. -/
theorem useOption_iff (c : ℕ) (h : i + 4 + n ≤ len) :
    ((useOption i c n).Within (· < len) m ∧ (useOption i c n).run m = meantUse c (m.slice (i + 4) n)) ↔
      (c = optVendorClass → VendorOk m len i n) ∧ (c = optUserClass → UserOk m len i n) := by
  by_cases hv : c = optVendorClass
  · subst hv
    rw [within_useOption_vendor h, run_useOption_vendor, meantUse_vendor, ite_eq_ite_iff (by decide), and_assoc]
    exact ⟨fun hok => ⟨fun _ => hok, nofun⟩, fun hok => hok.1 rfl⟩
  · by_cases hu : c = optUserClass
    · subst hu
      rw [within_useOption_user, run_useOption_user, meantUse_user, ite_eq_ite_iff (by decide)]
      unfold UserOk
      constructor
      · rintro ⟨⟨hlen, hin⟩, hiff⟩
        exact ⟨nofun, fun _ => ⟨hlen, fun hl => ⟨hin hl, fun ht => (hiff.mp ⟨hl, ht⟩).2.2⟩⟩⟩
      · rintro ⟨-, hok⟩
        obtain ⟨hlen, hin⟩ := hok rfl
        exact ⟨⟨hlen, fun hl => (hin hl).1⟩, fun ⟨hl, ht⟩ => ⟨hl, ht, (hin hl).2 ht⟩, fun ⟨hl, ht, _⟩ => ⟨hl, ht⟩⟩
    · exact iff_of_true (useOption_plain hv hu h) ⟨fun hc => absurd hc hv, fun hc => absurd hc hu⟩

theorem apply_eq_none_iff {u : OptionUse} {reply : ReplyOptions} : u.apply reply = none ↔ u = .malformed := by
  cases u <;> simp [OptionUse.apply]

/-- Which options are malformed. -/
theorem meantUse_eq_malformed_iff (c : ℕ) (value : List UInt8) : meantUse c value = .malformed ↔
    Malformed c value.length := by
  have hnil : value ≠ [] ↔ value.length ≠ 0 := by rw [Ne, Ne, List.length_eq_zero_iff]
  unfold meantUse Malformed
  simp only [hnil]
  split_ifs <;> simp_all

end One

section Loop

open Reader

variable {m : Buffer} {len i k : ℕ} {reply : ReplyOptions}

theorem readHead_slice (m : Buffer) (a : ℕ) (hk : 4 ≤ k) :
    dhcpv6Format.readHead (m.slice a k) = some (be16 m a, be16 m (a + 2), m.slice (a + 4) (k - 4)) := by
  obtain ⟨j, rfl⟩ : ∃ j, k = j + 4 := ⟨k - 4, by omega⟩
  rw [Buffer.slice_succ, Buffer.slice_succ, Buffer.slice_succ, Buffer.slice_succ]
  rfl

theorem readHead_short (m : Buffer) (a : ℕ) (hk : k < 4) : dhcpv6Format.readHead (m.slice a k) = none := by
  match k, hk with
  | 0, _ => rfl
  | 1, _ => rfl
  | 2, _ => rfl
  | 3, _ => rfl

theorem refParse_stop (hk : k < 4) : refParse reply (m.slice i k) = (some reply, []) := by
  unfold refParse
  rw [TlvFormat.walk_stop (readHead_short m i hk)]
  rfl

theorem refParse_cut (hk : 4 ≤ k) (hn : k - 4 < be16 m (i + 2)) : refParse reply (m.slice i k) = (none, []) := by
  unfold refParse
  rw [TlvFormat.walk_cut (readHead_slice m i hk) (by rwa [Buffer.length_slice])]
  rfl

/-- After an option: an error, or what comes of the rest. -/
def afterOption (s : Seen) (reply : ReplyOptions) (rest : ReplyOptions → Option ReplyOptions × List Seen) :
    Option ReplyOptions × List Seen :=
  match s.taken.apply reply with
  | none => (none, [s])
  | some r => ((rest r).1, s :: (rest r).2)

theorem afterOption_ne (s : Seen) (reply : ReplyOptions) (rest : ReplyOptions → Option ReplyOptions × List Seen)
    (x : Option ReplyOptions) : afterOption s reply rest ≠ (x, []) := by
  intro h
  refine absurd (congrArg Prod.snd h) ?_
  unfold afterOption
  split
  · exact List.cons_ne_nil _ _
  · exact List.cons_ne_nil _ _

/-- The same option has to be followed by the same. -/
theorem afterOption_eq_iff {s s' : Seen} {rest rest' : ReplyOptions → Option ReplyOptions × List Seen} :
    afterOption s reply rest = afterOption s' reply rest' ↔ s = s' ∧ ∀ r, s.taken.apply reply = some r →
    rest r = rest' r := by
  have hseen : ∀ (s : Seen) rest, (afterOption s reply rest).2.head? = some s := by
    intro s rest
    unfold afterOption
    split <;> rfl
  constructor
  · intro h
    obtain rfl : s = s' := by
      have := congrArg (fun x => x.2.head?) h
      simpa only [hseen, Option.some.injEq] using this
    refine ⟨rfl, fun r hr => ?_⟩
    unfold afterOption at h
    rw [hr] at h
    dsimp only at h
    obtain ⟨hfst, hsnd⟩ := Prod.mk.inj h
    exact Prod.ext hfst (List.cons.inj hsnd).2
  · rintro ⟨rfl, h⟩
    unfold afterOption
    cases hr : s.taken.apply reply with
    | none => rfl
    | some r =>
      dsimp only
      rw [h r hr]

def meantSeen (m : Buffer) (i : ℕ) : Seen :=
  ⟨be16 m i, be16 m (i + 2), meantUse (be16 m i) (m.slice (i + 4) (be16 m (i + 2)))⟩

/-- The reference takes an option. -/
theorem refParse_option (hk : 4 + be16 m (i + 2) ≤ k) : refParse reply (m.slice i k) =
    afterOption (meantSeen m i) reply fun r =>
      refParse r (m.slice (i + 4 + be16 m (i + 2)) (k - (4 + be16 m (i + 2)))) := by
  unfold refParse
  rw [TlvFormat.walk_option (readHead_slice m i (by omega)) (by rw [Buffer.length_slice]; omega),
    Buffer.take_slice (by omega), Buffer.drop_slice, Nat.sub_sub, follow, Buffer.length_slice]
  rfl

theorem parseOptions_stop (h : len ≤ i + 4) : parseOptions len i reply = pure (some reply, []) := by
  rw [parseOptions, if_neg (by omega)]

def takenSeen (m : Buffer) (i : ℕ) : Seen :=
  ⟨be16 m i, be16 m (i + 2), (useOption i (be16 m i) (be16 m (i + 2))).run m⟩

/-- The loop at an option: what comes of it. -/
theorem run_parseOptions (h : i + 4 < len) : (parseOptions len i reply).run m =
    if len < i + be16 m (i + 2) then (none, [])
    else afterOption (takenSeen m i) reply fun r => (parseOptions len (i + 4 + be16 m (i + 2)) r).run m := by
  rw [parseOptions, if_pos h, run_bind, run_be16, run_bind, run_be16]
  split
  · rfl
  · rw [run_bind]
    unfold afterOption takenSeen
    dsimp only
    split
    · rfl
    · rw [run_bind]
      rfl

/-- The loop at an option: what is read. -/
theorem within_parseOptions (h : i + 4 < len) : (parseOptions len i reply).Within (· < len) m ↔
    len < i + be16 m (i + 2) ∨ (useOption i (be16 m i) (be16 m (i + 2))).Within (· < len) m ∧
      ∀ r, (takenSeen m i).taken.apply reply = some r →
        (parseOptions len (i + 4 + be16 m (i + 2)) r).Within (· < len) m := by
  rw [parseOptions, if_pos h, within_bind, within_be16, run_be16, within_bind, within_be16, run_be16]
  have hhead : ((· < len) i ∧ (· < len) (i + 1)) ∧ (· < len) (i + 2) ∧ (· < len) (i + 2 + 1) :=
    ⟨⟨by omega, by omega⟩, by omega, by omega⟩
  rw [and_iff_right hhead.1, and_iff_right hhead.2]
  by_cases hcut : len < i + be16 m (i + 2)
  · rw [if_pos hcut]
    exact iff_of_true trivial (.inl hcut)
  · rw [if_neg hcut, within_bind, or_iff_right hcut]
    refine and_congr_right fun _ => ?_
    unfold takenSeen
    dsimp only
    cases ((useOption i (be16 m i) (be16 m (i + 2))).run m).apply reply with
    | none => exact iff_of_true trivial nofun
    | some r =>
      dsimp only
      rw [within_bind]
      exact ⟨fun hw r' hr => Option.some.inj hr ▸ hw.1, fun hw => ⟨hw r rfl, trivial⟩⟩

/-- A complete option: it has to be taken for what it is, and the rest has to be right. -/
theorem complete_iff {n : ℕ} (hn : n = be16 m (i + 2)) (h : i + 4 + n ≤ len)
    (hrest : ∀ r, ((parseOptions len (i + 4 + n) r).Within (· < len) m ∧
      (parseOptions len (i + 4 + n) r).run m = refParse r (m.slice (i + 4 + n) (len - (i + 4 + n)))) ↔
        ExactFrom m len (i + 4 + n)) :
    (((useOption i (be16 m i) n).Within (· < len) m ∧ ∀ r, (takenSeen m i).taken.apply reply = some r →
        (parseOptions len (i + 4 + n) r).Within (· < len) m) ∧
      afterOption (takenSeen m i) reply (fun r => (parseOptions len (i + 4 + n) r).run m) =
        afterOption (meantSeen m i) reply fun r => refParse r (m.slice (i + 4 + n) (len - (i + 4 + n)))) ↔
    if Malformed (be16 m i) n then True
    else (be16 m i = optVendorClass → VendorOk m len i n) ∧ (be16 m i = optUserClass → UserOk m len i n) ∧
      ExactFrom m len (i + 4 + n) := by
  have hsame : takenSeen m i = meantSeen m i ↔
      (useOption i (be16 m i) n).run m = meantUse (be16 m i) (m.slice (i + 4) n) := by
    unfold takenSeen meantSeen
    rw [← hn, Seen.mk.injEq, and_iff_right rfl, and_iff_right rfl]
  have hmal : (meantSeen m i).taken.apply reply = none ↔ Malformed (be16 m i) n := by
    rw [apply_eq_none_iff, meantSeen, meantUse_eq_malformed_iff, Buffer.length_slice, hn]
  have huse := useOption_iff (m := m) (be16 m i) h
  rw [afterOption_eq_iff, hsame]
  have htaken : (takenSeen m i).taken = (useOption i (be16 m i) n).run m := by rw [takenSeen, ← hn]
  have hmeant : (meantSeen m i).taken = meantUse (be16 m i) (m.slice (i + 4) n) := by rw [meantSeen, ← hn]
  by_cases hM : Malformed (be16 m i) n
  · rw [if_pos hM]
    obtain ⟨hW, heq⟩ := huse.mpr ⟨fun hc => absurd (hc ▸ hM) (by simp [Malformed]),
      fun hc => absurd (hc ▸ hM) (by simp [Malformed])⟩
    have hnone : (takenSeen m i).taken.apply reply = none := by rw [htaken, heq, ← hmeant, hmal.mpr hM]
    rw [hnone]
    exact iff_of_true ⟨⟨hW, nofun⟩, heq, nofun⟩ trivial
  · rw [if_neg hM]
    refine Iff.trans ?_ ((and_congr_left' huse).trans and_assoc)
    constructor
    · rintro ⟨⟨hW, hwithin⟩, heq, hrun⟩
      obtain ⟨r, hr⟩ := Option.ne_none_iff_exists'.mp (mt hmal.mp hM)
      have hr' : (takenSeen m i).taken.apply reply = some r := by rw [htaken, heq, ← hmeant, hr]
      exact ⟨⟨hW, heq⟩, (hrest r).mp ⟨hwithin r hr', hrun r hr'⟩⟩
    · rintro ⟨⟨hW, heq⟩, hexact⟩
      exact ⟨⟨hW, fun r _ => ((hrest r).mpr hexact).1⟩, heq, fun r _ => ((hrest r).mpr hexact).2⟩

/-- The loop from an option on, against the reference. -/
theorem parseOptions_iff (m : Buffer) (len i : ℕ) (reply : ReplyOptions) (hi : i ≤ len) :
    ((parseOptions len i reply).Within (· < len) m ∧
      (parseOptions len i reply).run m = refParse reply (m.slice i (len - i))) ↔ ExactFrom m len i := by
  induction hd : len - i using Nat.strong_induction_on generalizing i reply with
  | _ d ih =>
    subst hd
    unfold ExactFrom
    by_cases hshort : len < i + 4
    · rw [if_pos hshort, parseOptions_stop (by omega), refParse_stop (by omega)]
      exact iff_of_true ⟨trivial, rfl⟩ trivial
    · rw [if_neg hshort]
      set n := be16 m (i + 2) with hn
      by_cases hlast : len = i + 4
      · -- the loop has stopped, although there is a header
        rw [if_pos hlast, parseOptions_stop (by omega), iff_false]
        rintro ⟨-, hrun⟩
        by_cases hzero : n = 0
        · rw [refParse_option (by omega)] at hrun
          exact afterOption_ne _ _ _ _ hrun.symm
        · rw [refParse_cut (by omega) (by omega)] at hrun
          cases hrun
      · rw [if_neg hlast, within_parseOptions (by omega), run_parseOptions (by omega), ← hn]
        dsimp only
        by_cases hlong : len < i + n
        · rw [if_pos hlong, if_pos hlong, refParse_cut (by omega) (by omega)]
          exact iff_of_true ⟨.inl hlong, rfl⟩ trivial
        · rw [if_neg hlong, if_neg hlong, or_iff_right hlong]
          by_cases hcut : len < i + 4 + n
          · -- the loop has not noticed that the option is cut off
            rw [if_pos hcut, refParse_cut (by omega) (by omega), iff_false]
            exact fun ⟨_, hrun⟩ => afterOption_ne _ _ _ _ hrun
          · rw [if_neg hcut, refParse_option (by omega), ← hn, Nat.sub_sub, ← Nat.add_assoc]
            exact complete_iff hn (by omega) fun r => ih (len - (i + 4 + n)) (by omega) (i + 4 + n) r (by omega) rfl

/-- **DHCPv6 options**: the bytes for which the loop is right. -/
theorem dhcpv6_parse_iff (m : Buffer) (len : ℕ) : ParsesExactly m len ↔ ExactFrom m len 0 :=
  parseOptions_iff m len 0 {} (Nat.zero_le len)

end Loop

/-- Memory that starts with these bytes. -/
def bytesAt (bs : List UInt8) : Buffer := fun i => bs.getD i 0

/-- A vendor class with 14 bytes of data, which are the beginning of the text. -/
def vendorStart : List UInt8 := [0, 16, 0, 20, 0, 0, 1, 87, 0, 14] ++ vndClassIdCompStr.take 14

/-- A rapid commit at the end is not seen; a client id whose last four bytes are behind the packet is accepted with
these; and bytes behind the packet complete the text in a vendor class. -/
theorem dhcpv6_parse_misreads :
    (parseOptions 4 0 {}).run (bytesAt [0, 14, 0, 0]) = (some {}, []) ∧
    refParse {} ((bytesAt [0, 14, 0, 0]).slice 0 4) = (some { rapid := true }, [⟨14, 0, .rapidCommit⟩]) ∧
    ((parseOptions 8 0 {}).run (bytesAt [0, 1, 0, 8, 1, 2, 3, 4, 5, 6, 7, 8])).1 =
      some { cid := some [1, 2, 3, 4, 5, 6, 7, 8] } ∧
    (refParse {} ((bytesAt [0, 1, 0, 8, 1, 2, 3, 4, 5, 6, 7, 8]).slice 0 8)).1 = none ∧
    ((parseOptions 24 0 {}).run (bytesAt (vendorStart ++ vndClassIdCompStr.drop 14))).1 = some { pxeMode := .tftp } ∧
    ((parseOptions 24 0 {}).run (bytesAt vendorStart)).1 = some {} := by
  decide +kernel

end Dhcpv6

end Dpservice
