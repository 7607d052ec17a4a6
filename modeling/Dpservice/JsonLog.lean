import Dpservice.Lib.Bytes
import Dpservice.Lib.Run
import Mathlib.Algebra.GroupWithZero.Nat
import Mathlib.Data.List.Infix

/-!
# Messages in JSON logs

`json_escape` copies a message into a buffer, so that it can stand between the quotes of a JSON string. `char` is
signed, so a byte from `0x80` on is less than `0x20`.

- `jsonEscape` is the loop of the source, `unescapeJson` reads the body of a JSON string.
- `jsonEscape_eq`: the loop writes the escapes (`escapeByte`) of the longest part of the message that fits (`fitting`).
- `unescapeJson_escapes`: the escapes of bytes below `0x80` are read back; no other byte has an escape that can be read
  (`unescapeJson_bad`).
- `json_escape_iff`: when the result is right.
-/

set_option maxRecDepth 20000

namespace Dpservice

/-! ## The loop -/

/-- A string in memory, without its terminator. -/
structure CString where
  bytes : List UInt8
  /-- A string ends with its first zero. -/
  noNul : 0 ∉ bytes

abbrev asciiBackslash : UInt8 := 92
abbrev asciiQuote : UInt8 := 34

/-- The last two digits of the escape of a byte: `hi` is its arithmetic shift, `lo` its low half. -/
def escapeDigits (c : UInt8) : List UInt8 :=
  let hi : UInt8 := (c.toInt8 >>> (4 : Int8)).toUInt8
  let lo := c &&& 0xf
  [48 + hi, if 10 ≤ lo then 97 + (lo - 10) else 48 + lo]

/-- The loop of `json_escape`, behind what was written before; `break` where an escape does not fit. -/
def jsonEscapeLoop (bufsize : ℕ) : List UInt8 → List UInt8 → List UInt8
  | [], buf => buf
  | c :: input, buf =>
    if c.toInt8 < 0x20 then
      if bufsize ≤ buf.length + 6 then buf
      else jsonEscapeLoop bufsize input (buf ++ asciiBackslash :: 117 :: 48 :: 48 :: escapeDigits c)
    else if c = asciiBackslash ∨ c = asciiQuote then
      if bufsize ≤ buf.length + 2 then buf else jsonEscapeLoop bufsize input (buf ++ [asciiBackslash, c])
    else
      if bufsize ≤ buf.length + 1 then buf else jsonEscapeLoop bufsize input (buf ++ [c])

/-- `json_escape`: all the bytes that are written, with the terminator. -/
def jsonEscape (message : CString) (bufsize : ℕ) : List UInt8 := jsonEscapeLoop bufsize message.bytes [] ++ [0]

/-! ## JSON strings -/

def hexValue (d : UInt8) : Option ℕ :=
  if 48 ≤ d ∧ d ≤ 57 then some (d.toNat - 48)
  else if 97 ≤ d ∧ d ≤ 102 then some (d.toNat - 87)
  else if 65 ≤ d ∧ d ≤ 70 then some (d.toNat - 55)
  else none

/-- The UTF-8 bytes of a code point below `0x10000`. -/
def utf8Bytes (n : ℕ) : List UInt8 :=
  if n < 0x80 then [UInt8.ofNat n]
  else if n < 0x800 then [UInt8.ofNat (0xc0 + n / 64), UInt8.ofNat (0x80 + n % 64)]
  else [UInt8.ofNat (0xe0 + n / 4096), UInt8.ofNat (0x80 + n / 64 % 64), UInt8.ofNat (0x80 + n % 64)]

/-- The byte that a two-character escape stands for. -/
def shortEscape (e : UInt8) : Option UInt8 :=
  if e = 34 ∨ e = 47 ∨ e = 92 then some e
  else if e = 98 then some 8
  else if e = 102 then some 12
  else if e = 110 then some 10
  else if e = 114 then some 13
  else if e = 116 then some 9
  else none

/-- The code point of four hexadecimal digits. -/
def hexCode (a b c d : UInt8) : Option ℕ := do
  return (((← hexValue a) * 16 + (← hexValue b)) * 16 + (← hexValue c)) * 16 + (← hexValue d)

/-- What the body of a JSON string stands for; `none` if it has a control character, a quote that is not escaped, or a
backslash that does not start an escape. -/
def unescapeJson : List UInt8 → Option (List UInt8)
  | [] => some []
  | 92 :: 117 :: a :: b :: c :: d :: rest => do
    let n ← hexCode a b c d
    let s ← unescapeJson rest
    return utf8Bytes n ++ s
  | 92 :: e :: rest => do
    let c ← shortEscape e
    let s ← unescapeJson rest
    return c :: s
  | c :: rest => if c < 0x20 ∨ c = 34 ∨ c = 92 then none else (c :: ·) <$> unescapeJson rest

/-- The message is escaped into a buffer of this size: what is written fits and is a JSON string, which stands for the
beginning of the message, and for all of it if the buffer is large enough for any message of this length. -/
def EscapesRight (message : CString) (bufsize : ℕ) : Prop :=
  ∃ out, jsonEscape message bufsize = out ++ [0] ∧ out.length + 1 ≤ bufsize ∧ (∀ b ∈ out, 0x20 ≤ b) ∧
    ∃ s, unescapeJson out = some s ∧ s <+: message.bytes ∧ (6 * message.bytes.length < bufsize → s = message.bytes)

/-! ## What is written -/

/-- What the loop writes for a byte. -/
def escapeByte (c : UInt8) : List UInt8 :=
  if c.toInt8 < 0x20 then asciiBackslash :: 117 :: 48 :: 48 :: escapeDigits c
  else if c = asciiBackslash ∨ c = asciiQuote then [asciiBackslash, c]
  else [c]

/-- How many bytes the escape of a byte takes. -/
def escapeSize (c : UInt8) : ℕ :=
  if c < 0x20 ∨ 0x80 ≤ c then 6 else if c = asciiBackslash ∨ c = asciiQuote then 2 else 1

/-- How many bytes a message takes. -/
def escapedSize (cs : List UInt8) : ℕ := (cs.map escapeSize).sum

/-- The longest part of a message that takes less than `room` bytes. -/
def fitting : ℕ → List UInt8 → List UInt8
  | _, [] => []
  | room, c :: cs => if room ≤ escapeSize c then [] else c :: fitting (room - escapeSize c) cs

section Loop

variable {bufsize room : ℕ} {c : UInt8} {cs p : List UInt8}

/-- Bytes from `0x80` on are negative. -/
theorem toInt8_lt_iff (c : UInt8) : c.toInt8 < 0x20 ↔ c < 0x20 ∨ 0x80 ≤ c :=
  forall_byte (P := fun c => c.toInt8 < 0x20 ↔ c < 0x20 ∨ 0x80 ≤ c) (by decide) c

theorem length_escapeByte (c : UInt8) : (escapeByte c).length = escapeSize c := by
  unfold escapeByte escapeSize
  simp only [toInt8_lt_iff]
  split_ifs <;> rfl

theorem escapeSize_le (c : UInt8) : escapeSize c ≤ 6 := by
  unfold escapeSize
  split_ifs <;> omega

/-- One turn of the loop, whatever the byte is. -/
theorem jsonEscapeLoop_cons (bufsize : ℕ) (c : UInt8) (input buf : List UInt8) :
    jsonEscapeLoop bufsize (c :: input) buf =
      if bufsize ≤ buf.length + escapeSize c then buf else jsonEscapeLoop bufsize input (buf ++ escapeByte c) := by
  rw [jsonEscapeLoop, ← length_escapeByte]
  unfold escapeByte
  split_ifs <;> first | rfl | contradiction

theorem jsonEscapeLoop_eq (bufsize : ℕ) (input buf : List UInt8) :
    jsonEscapeLoop bufsize input buf = buf ++ (fitting (bufsize - buf.length) input).flatMap escapeByte := by
  induction input generalizing buf with
  | nil => simp [jsonEscapeLoop, fitting]
  | cons c input ih =>
    have hroom : bufsize - (buf ++ escapeByte c).length = bufsize - buf.length - escapeSize c := by
      rw [List.length_append, length_escapeByte, Nat.sub_sub]
    rw [jsonEscapeLoop_cons, fitting]
    by_cases hfit : bufsize ≤ buf.length + escapeSize c
    · rw [if_pos hfit, if_pos (by omega), List.flatMap_nil, List.append_nil]
    · rw [if_neg hfit, if_neg (by omega), ih, hroom, List.flatMap_cons, List.append_assoc]

/-- **The loop writes the escapes of the part that fits.** -/
theorem jsonEscape_eq (message : CString) (bufsize : ℕ) :
    jsonEscape message bufsize = (fitting bufsize message.bytes).flatMap escapeByte ++ [0] := by
  rw [jsonEscape, jsonEscapeLoop_eq, List.nil_append, List.length_nil, Nat.sub_zero]

theorem length_flatMap_escapeByte (cs : List UInt8) : (cs.flatMap escapeByte).length = escapedSize cs := by
  rw [List.length_flatMap, escapedSize]
  simp only [length_escapeByte]

theorem escapedSize_le (cs : List UInt8) : escapedSize cs ≤ 6 * cs.length := by
  induction cs with
  | nil => rfl
  | cons c cs ih =>
    have hc := escapeSize_le c
    simp only [escapedSize, List.map_cons, List.sum_cons, List.length_cons] at ih ⊢
    omega

/-- The parts of a message that fit are the parts of the longest one. -/
theorem prefix_fitting_iff (hroom : 0 < room) : p <+: fitting room cs ↔ p <+: cs ∧ escapedSize p < room := by
  induction cs generalizing room p with
  | nil =>
    rw [fitting, List.prefix_nil]
    exact ⟨fun h => ⟨h, by rw [h]; exact hroom⟩, And.left⟩
  | cons c cs ih =>
    cases p with
    | nil => exact iff_of_true (List.nil_prefix) ⟨List.nil_prefix, hroom⟩
    | cons b p =>
      have hsize : escapedSize (b :: p) = escapeSize b + escapedSize p := by simp [escapedSize]
      rw [fitting, hsize, List.cons_prefix_cons]
      by_cases hfit : room ≤ escapeSize c
      · rw [if_pos hfit]
        refine iff_of_false (by simp) fun ⟨⟨hb, _⟩, hlt⟩ => ?_
        rw [hb] at hlt
        omega
      · rw [if_neg hfit, List.cons_prefix_cons, ih (by omega), and_assoc]
        refine and_congr_right fun hb => and_congr_right fun _ => ?_
        rw [hb]
        omega

theorem fitting_spec (hroom : 0 < room) : fitting room cs <+: cs ∧ escapedSize (fitting room cs) < room :=
  (prefix_fitting_iff hroom).mp (List.prefix_refl _)

/-- A message that fits is written whole. -/
theorem fitting_eq_self (h : escapedSize cs < room) : fitting room cs = cs := by
  have hroom : 0 < room := by omega
  exact ((fitting_spec hroom).1.eq_of_length_le
    ((prefix_fitting_iff hroom).mpr ⟨List.prefix_refl _, h⟩).length_le)

end Loop

/-! ## Reading it back -/

/-- The code point that the digits of a byte give. -/
def escapeCode (c : UInt8) : Option ℕ :=
  match escapeDigits c with
  | [hi, lo] => hexCode 48 48 hi lo
  | _ => none

section Unescape

variable {c : UInt8} {rest cs : List UInt8}

/-- Four digits, as the loop writes them. -/
theorem unescapeJson_unicode (c : UInt8) (rest : List UInt8) :
    unescapeJson (asciiBackslash :: 117 :: 48 :: 48 :: escapeDigits c ++ rest) =
      ((escapeCode c).map utf8Bytes).bind fun s => (s ++ ·) <$> unescapeJson rest := by
  unfold escapeCode escapeDigits
  simp only [List.cons_append, List.nil_append]
  rw [unescapeJson]
  generalize hexCode 48 48 _ _ = code
  cases code <;> cases unescapeJson rest <;> rfl

/-- The escape of a control character is four digits that give it. -/
theorem escapeCode_control (h : c < 0x20) : (escapeCode c).map utf8Bytes = some [c] :=
  forall_byte (P := fun c => c < 0x20 → (escapeCode c).map utf8Bytes = some [c]) (by decide) c h

/-- The third digit of a negative byte is between `(` and `/`. -/
theorem escapeCode_negative (h : 0x80 ≤ c) : escapeCode c = none :=
  forall_byte (P := fun c => 0x80 ≤ c → escapeCode c = none) (by decide) c h

/-- A backslash before itself or a quote. -/
theorem unescapeJson_short (h : c = asciiBackslash ∨ c = asciiQuote) (rest : List UInt8) :
    unescapeJson (asciiBackslash :: c :: rest) = (c :: ·) <$> unescapeJson rest := by
  have hne : c ≠ 117 := by rcases h with rfl | rfl <;> decide
  have hc : shortEscape c = some c := by rcases h with rfl | rfl <;> rfl
  rw [unescapeJson]
  · rw [hc]
    cases unescapeJson rest <;> rfl
  · intro a b d e rest' heq
    exact absurd heq hne

/-- A byte that stands for itself. -/
theorem unescapeJson_raw (hcontrol : ¬c < 0x20) (hesc : ¬(c = asciiBackslash ∨ c = asciiQuote)) (rest : List UInt8) :
    unescapeJson (c :: rest) = (c :: ·) <$> unescapeJson rest := by
  rw [unescapeJson]
  · rw [if_neg]
    rintro (h | h | h)
    · exact hcontrol h
    · exact hesc (.inr h)
    · exact hesc (.inl h)
  · intro a b d e rest' heq
    exact absurd (.inl heq) hesc
  · intro a rest' heq
    exact absurd (.inl heq) hesc

theorem unescapeJson_good (h : c < 0x80) (rest : List UInt8) :
    unescapeJson (escapeByte c ++ rest) = (c :: ·) <$> unescapeJson rest := by
  have hle : ¬0x80 ≤ c := UInt8.not_le.mpr h
  unfold escapeByte
  simp only [toInt8_lt_iff, hle, or_false]
  by_cases hcontrol : c < 0x20
  · rw [if_pos hcontrol, unescapeJson_unicode, escapeCode_control hcontrol]
    rfl
  · rw [if_neg hcontrol]
    by_cases hesc : c = asciiBackslash ∨ c = asciiQuote
    · rw [if_pos hesc]
      exact unescapeJson_short hesc rest
    · rw [if_neg hesc]
      exact unescapeJson_raw hcontrol hesc rest

/-- A byte from `0x80` on has no escape that can be read. -/
theorem unescapeJson_bad (h : 0x80 ≤ c) (rest : List UInt8) : unescapeJson (escapeByte c ++ rest) = none := by
  unfold escapeByte
  rw [if_pos ((toInt8_lt_iff c).mpr (.inr h)), unescapeJson_unicode, escapeCode_negative h]
  rfl

/-- **What is written can be read back exactly if all its bytes are below `0x80`.** -/
theorem unescapeJson_escapes (cs : List UInt8) :
    unescapeJson (cs.flatMap escapeByte) = if ∀ c ∈ cs, c < 0x80 then some cs else none := by
  induction cs with
  | nil => exact (if_pos (fun c hc => absurd hc List.not_mem_nil)).symm
  | cons c cs ih =>
    rw [List.flatMap_cons]
    by_cases hc : c < 0x80
    · rw [unescapeJson_good hc, ih]
      simp only [List.forall_mem_cons, hc, true_and]
      split <;> rfl
    · rw [unescapeJson_bad (UInt8.not_lt.mp hc), if_neg fun h => hc (h c List.mem_cons_self)]

/-- Nothing that is written is a control character. -/
theorem le_of_mem_escapeByte {b : UInt8} (h : b ∈ escapeByte c) : 0x20 ≤ b := by
  have hall : (escapeByte c).all (0x20 ≤ ·) = true :=
    forall_byte (P := fun c => (escapeByte c).all (0x20 ≤ ·) = true) (by decide) c
  exact of_decide_eq_true (List.all_eq_true.mp hall b h)

end Unescape

/-- **Log messages**: a message is escaped right exactly if every part of it that fits into the buffer has only bytes
below `0x80`. -/
theorem json_escape_iff (message : CString) {bufsize : ℕ} (h : 1 ≤ bufsize) :
    EscapesRight message bufsize ↔
      ∀ p, p <+: message.bytes → escapedSize p < bufsize → ∀ c ∈ p, c < 0x80 := by
  set written := fitting bufsize message.bytes with hwritten
  obtain ⟨hpre, hsize⟩ : written <+: message.bytes ∧ escapedSize written < bufsize := fitting_spec h
  have heq := jsonEscape_eq message bufsize
  constructor
  · rintro ⟨out, hout, -, -, s, hs, -⟩ p hp hfit c hc
    obtain rfl : out = written.flatMap escapeByte := List.append_cancel_right (hout.symm.trans heq)
    rw [unescapeJson_escapes] at hs
    have hgood : ∀ c ∈ written, c < 0x80 := by
      by_contra hbad
      rw [if_neg hbad] at hs
      cases hs
    exact hgood c (((prefix_fitting_iff h).mpr ⟨hp, hfit⟩).subset hc)
  · intro hgood
    refine ⟨written.flatMap escapeByte, heq, ?_, fun b hb => ?_, written, ?_, hpre, fun hlarge => ?_⟩
    · rw [length_flatMap_escapeByte]
      exact hsize
    · obtain ⟨c, -, hb⟩ := List.mem_flatMap.mp hb
      exact le_of_mem_escapeByte hb
    · rw [unescapeJson_escapes, if_pos (hgood written hpre hsize)]
    · exact fitting_eq_self ((escapedSize_le _).trans_lt hlarge)

/-- A quote and a line break, into a buffer that has room for the quote. -/
def quotedLine : CString := ⟨[34, 10], by decide⟩

/-- The line break is left out where it does not fit. -/
theorem json_escape_iff_cut : jsonEscape quotedLine 8 = [92, 34, 0] ∧ EscapesRight quotedLine 8 := by
  refine ⟨by decide, (json_escape_iff quotedLine (by decide)).mpr fun p hp _ c hc => ?_⟩
  have hall : ∀ c ∈ quotedLine.bytes, c < 0x80 := by decide
  exact hall c (hp.subset hc)

def utf8Message : CString := ⟨[0xc3, 0xa9], by decide⟩

/-- A message in UTF-8 is written as escapes that no reader of JSON accepts. -/
theorem json_escape_utf8 : jsonEscape utf8Message 100 = [92, 117, 48, 48, 44, 51, 92, 117, 48, 48, 42, 57, 0] ∧
    unescapeJson [92, 117, 48, 48, 44, 51, 92, 117, 48, 48, 42, 57] = none := by
  decide

end Dpservice
