import Mathlib.Data.List.Infix
import Mathlib.Tactic.Ring

/-!
# Options of DHCP requests

`parse_options` of the `dhcp` node goes through the options of a request. What is left of the options at index `i` is a
list here; the option that starts at `i` is known by this list.

- `parseOptions` is the loop of the source. After a PAD it skips the length of the last option once more.
- The reference: `refHeads` splits the options, `refParse` reads message type and PXE mode off them.
- `codeHeads` are the options that the loop comes to, `parseOptions_eq` says that they decide its result, and
  `codeHeads_eq_iff` for which options they are those of the reference.
- `parse_options_iff`: when the loop is right.
-/

namespace Dpservice

/-! ## The loop -/

abbrev dhcpOptPad : UInt8 := 0
abbrev dhcpOptMessageType : UInt8 := 53
abbrev dhcpOptVendorClassId : UInt8 := 60
abbrev dhcpOptUserClass : UInt8 := 77
abbrev dhcpOptEnd : UInt8 := 255

def asciiBytes (cs : List Char) : List UInt8 := cs.map fun c => UInt8.ofNat c.toNat

def userClassInfCompStr : List UInt8 := asciiBytes ['i', 'P', 'X', 'E']

def vndClassIdCompStr : List UInt8 :=
  asciiBytes ['P', 'X', 'E', 'C', 'l', 'i', 'e', 'n', 't', ':', 'A', 'r', 'c', 'h', ':', '0', '0', '0', '0', '7']

inductive PxeMode where
  | none | tftp | http
  deriving DecidableEq, Repr

def memmem (bytes text : List UInt8) : Bool := bytes.tails.any text.isPrefixOf

def pxeAfter (opType : UInt8) (value : List UInt8) (pxe : PxeMode) : PxeMode :=
  if opType = dhcpOptUserClass then if value = userClassInfCompStr then .http else pxe
  else if opType = dhcpOptVendorClassId then
    if vndClassIdCompStr.length ≤ value.length ∧ memmem value vndClassIdCompStr then .tftp else pxe
  else pxe

/-- The loop of `parse_options`: the message type, `none` on errors, and the PXE mode. A message type of `some none` is
the byte behind the options. -/
def parseOptions (rest : List UInt8) (opLen : ℕ) (msgType : Option (Option UInt8)) (pxe : PxeMode) :
    Option (Option UInt8) × PxeMode :=
  match rest with
  | [] => (msgType, pxe)
  | opType :: rest =>
    -- `continue` adds the length of the last option
    if opType = dhcpOptPad then parseOptions (rest.drop opLen) opLen msgType pxe
    else if opType = dhcpOptEnd then (msgType, pxe)
    else
      match rest with
      | [] => (none, pxe)
      | opLen :: rest =>
        if rest.length < opLen.toNat then (none, pxe)
        else
          let msgType := if opType = dhcpOptMessageType then some rest.head? else msgType
          parseOptions (rest.drop opLen.toNat) opLen.toNat msgType (pxeAfter opType (rest.take opLen.toNat) pxe)
termination_by rest.length
decreasing_by
  all_goals
    simp only [List.length_cons, List.length_drop]
    omega

/-! ## The reference -/

section Heads

/-- The type of the option that starts here. -/
def optType (h : List UInt8) : UInt8 := h.headD 0

/-- The option is cut off by the end of the options. -/
def optTruncated : List UInt8 → Bool
  | _ :: len :: value => value.length < len.toNat
  | _ => true

def optLen (h : List UInt8) : ℕ := (h.getD 1 0).toNat

def optValue (h : List UInt8) : List UInt8 := (h.drop 2).take (optLen h)

/-- What comes after the option. -/
def optRest (h : List UInt8) : List UInt8 := (h.drop 2).drop (optLen h)

theorem length_optRest {b : UInt8} {rest : List UInt8} : (optRest (b :: rest)).length < (b :: rest).length := by
  simp only [optRest, List.length_drop, List.length_cons]
  omega

/-- The options: PAD is one byte, END stops, every other option has a type, a length and a value. -/
def refHeads (rest : List UInt8) : List (List UInt8) :=
  match rest with
  | [] => []
  | b :: rest =>
    if b = dhcpOptPad then refHeads rest
    else if b = dhcpOptEnd then []
    else (b :: rest) :: if optTruncated (b :: rest) then [] else refHeads (optRest (b :: rest))
termination_by rest.length
decreasing_by
  · exact Nat.lt_succ_self _
  · exact length_optRest

/-- The options that the loop comes to. -/
def codeHeads (opLen : ℕ) (rest : List UInt8) : List (List UInt8) :=
  match rest with
  | [] => []
  | b :: rest =>
    if b = dhcpOptPad then codeHeads opLen (rest.drop opLen)
    else if b = dhcpOptEnd then []
    else (b :: rest) :: if optTruncated (b :: rest) then [] else codeHeads (optLen (b :: rest)) (optRest (b :: rest))
termination_by rest.length
decreasing_by
  · rw [List.length_drop, List.length_cons]
    omega
  · exact length_optRest

end Heads

/-- The first bytes of the MESSAGE_TYPE options that are not empty. -/
def typeValues (heads : List (List UInt8)) : List UInt8 :=
  (heads.filter fun h => optType h = dhcpOptMessageType).filterMap fun h => (optValue h).head?

def pxeOf (heads : List (List UInt8)) (pxe : PxeMode) : PxeMode :=
  heads.foldl (fun pxe h => if optTruncated h then pxe else pxeAfter (optType h) (optValue h) pxe) pxe

/-- The reference: an error if an option is truncated or there is no message type. -/
def refParse (options : List UInt8) (pxe : PxeMode) : Option UInt8 × PxeMode :=
  let heads := refHeads options
  (if heads.any optTruncated then none else (typeValues heads).getLast?, pxeOf heads pxe)

/-- The loop comes to the same options as the reference, has the same result, and reads no byte behind the options. -/
def ParsesRight (options : List UInt8) (pxe : PxeMode) : Prop :=
  codeHeads 0 options = refHeads options ∧
    parseOptions options 0 none pxe = ((refParse options pxe).1.map some, (refParse options pxe).2)

/-! ## The options decide the result -/

/-- The result of the loop, from the options that it comes to. -/
def follow : List (List UInt8) → Option (Option UInt8) → PxeMode → Option (Option UInt8) × PxeMode
  | [], msgType, pxe => (msgType, pxe)
  | h :: hs, msgType, pxe =>
    if optTruncated h then (none, pxe)
    else
      follow hs (if optType h = dhcpOptMessageType then some (h.drop 2).head? else msgType)
        (pxeAfter (optType h) (optValue h) pxe)

section Follow

variable {heads : List (List UInt8)} {h : List UInt8} {msgType : Option (Option UInt8)} {pxe : PxeMode}

theorem parseOptions_eq (rest : List UInt8) (opLen : ℕ) (msgType : Option (Option UInt8)) (pxe : PxeMode) :
    parseOptions rest opLen msgType pxe = follow (codeHeads opLen rest) msgType pxe := by
  fun_induction parseOptions rest opLen msgType pxe with
  | case1 => rw [codeHeads, follow]
  | case2 opLen msgType pxe rest ih => rw [ih, codeHeads, if_pos rfl]
  | case3 opLen msgType pxe rest hpad => rw [codeHeads, if_neg (by decide), if_pos rfl, follow]
  | case4 opLen msgType pxe b hpad hend =>
    have htrunc : optTruncated [b] = true := rfl
    rw [codeHeads, if_neg hpad, if_neg hend, follow, if_pos htrunc]
  | case5 opLen msgType pxe b hpad hend len value hcut =>
    have htrunc : optTruncated (b :: len :: value) = true := decide_eq_true hcut
    rw [codeHeads, if_neg hpad, if_neg hend, follow, if_pos htrunc]
  | case6 opLen msgType pxe b hpad hend len value hcut msgType' ih =>
    have htrunc : optTruncated (b :: len :: value) = false := decide_eq_false hcut
    rw [ih, codeHeads, if_neg hpad, if_neg hend, follow, htrunc]
    rfl

/-- Only the last option that the loop comes to can be truncated. -/
theorem codeHeads_pairwise (opLen : ℕ) (options : List UInt8) :
    (codeHeads opLen options).Pairwise fun h _ => optTruncated h = false := by
  fun_induction codeHeads opLen options with
  | case1 => exact .nil
  | case2 opLen rest ih => exact ih
  | case3 opLen rest hpad => exact .nil
  | case4 opLen b rest hpad hend ih =>
    cases htrunc : optTruncated (b :: rest) with
    | true => exact List.pairwise_singleton ..
    | false => exact List.pairwise_cons.mpr ⟨fun _ _ => htrunc, ih⟩

/-- The byte behind the length of the last MESSAGE_TYPE option. -/
def lastTypeByte (heads : List (List UInt8)) : Option (Option UInt8) :=
  (heads.filter fun h => optType h = dhcpOptMessageType).getLast?.map fun h => (h.drop 2).head?

theorem lastTypeByte_cons (h : List UInt8) (heads : List (List UInt8)) :
    lastTypeByte (h :: heads) =
      (lastTypeByte heads).or (if optType h = dhcpOptMessageType then some (h.drop 2).head? else none) := by
  unfold lastTypeByte
  by_cases ht : optType h = dhcpOptMessageType
  · rw [List.filter_cons, if_pos (decide_eq_true ht), List.getLast?_cons, if_pos ht]
    cases (heads.filter fun h => optType h = dhcpOptMessageType).getLast? <;> rfl
  · rw [List.filter_cons, if_neg (by simpa using ht), if_neg ht, Option.or_none]

/-- **The result of the loop**, if only the last option can be truncated. -/
theorem follow_eq (hp : heads.Pairwise fun h _ => optTruncated h = false) :
    follow heads msgType pxe =
      (if heads.any optTruncated then none else (lastTypeByte heads).or msgType, pxeOf heads pxe) := by
  induction heads generalizing msgType pxe with
  | nil => rfl
  | cons h heads ih =>
    obtain ⟨hhead, hp⟩ := List.pairwise_cons.mp hp
    rw [follow, pxeOf, List.foldl_cons, List.any_cons]
    cases htrunc : optTruncated h with
    | true =>
      cases heads with
      | nil => simp
      | cons h' heads => simp [hhead h' List.mem_cons_self] at htrunc
    | false =>
      rw [if_neg Bool.false_ne_true, ih hp, lastTypeByte_cons, Option.or_assoc]
      congr 3
      split <;> rfl

end Follow

/-! ## Gaps between options -/

/-- From here on, every byte at a multiple of `len + 1` is a PAD, or comes after an END at such a place. -/
def OnlyPads (len : ℕ) (rest : List UInt8) : Prop :=
  ∀ k b, rest[k * (len + 1)]? = some b → b = dhcpOptPad ∨ ∃ j ≤ k, rest[j * (len + 1)]? = some dhcpOptEnd

/-- What may follow an option of this length: if there is another option, a multiple of `len + 1` PADs before it;
otherwise the places that the loop looks at are PADs. -/
def GapOk (len : ℕ) (rest : List UInt8) : Prop :=
  match rest.dropWhile (· = dhcpOptPad) with
  | [] => True
  | b :: _ => if b = dhcpOptEnd then OnlyPads len rest else len + 1 ∣ (rest.takeWhile (· = dhcpOptPad)).length

section Gaps

variable {len r : ℕ} {rest tail : List UInt8} {b : UInt8}

theorem codeHeads_pad (len : ℕ) (rest : List UInt8) :
    codeHeads len (dhcpOptPad :: rest) = codeHeads len (rest.drop len) := by
  rw [codeHeads, if_pos rfl]

theorem refHeads_pads (r : ℕ) (tail : List UInt8) : refHeads (List.replicate r dhcpOptPad ++ tail) = refHeads tail := by
  induction r with
  | zero => rfl
  | succ r ih => rw [List.replicate_succ, List.cons_append, refHeads, if_pos rfl, ih]

/-- A whole number of steps over PADs. -/
theorem codeHeads_steps (len k : ℕ) (tail : List UInt8) :
    codeHeads len (List.replicate (k * (len + 1)) dhcpOptPad ++ tail) = codeHeads len tail := by
  induction k with
  | zero => rw [Nat.zero_mul, List.replicate_zero, List.nil_append]
  | succ k ih =>
    have hsplit : List.replicate ((k + 1) * (len + 1)) dhcpOptPad =
        dhcpOptPad :: (List.replicate len dhcpOptPad ++ List.replicate (k * (len + 1)) dhcpOptPad) := by
      rw [← List.replicate_add, ← List.replicate_succ]
      congr 1
      ring
    rw [hsplit, List.cons_append, codeHeads_pad, List.append_assoc, List.drop_left' (List.length_replicate ..), ih]

/-- What remains of the PADs after whole steps is skipped together with the beginning of what follows. -/
theorem codeHeads_landing (hr : r % (len + 1) ≠ 0) :
    codeHeads len (List.replicate r dhcpOptPad ++ tail) = codeHeads len (tail.drop (len + 1 - r % (len + 1))) := by
  have hsplit : List.replicate r dhcpOptPad =
      List.replicate (r / (len + 1) * (len + 1)) dhcpOptPad ++ List.replicate (r % (len + 1)) dhcpOptPad := by
    rw [← List.replicate_add, Nat.div_add_mod']
  obtain ⟨k, hk⟩ := Nat.exists_eq_succ_of_ne_zero hr
  have hlt : r % (len + 1) < len + 1 := Nat.mod_lt r (Nat.succ_pos len)
  rw [hsplit, List.append_assoc, codeHeads_steps, hk, List.replicate_succ, List.cons_append, codeHeads_pad,
    List.drop_append, List.drop_eq_nil_of_le (by rw [List.length_replicate]; omega), List.nil_append,
    List.length_replicate]
  congr 2
  omega

/-- The options that the loop comes to are ahead of it. -/
theorem length_of_mem_codeHeads {h : List UInt8} (hh : h ∈ codeHeads len rest) : h.length ≤ rest.length := by
  fun_induction codeHeads len rest with
  | case1 => cases hh
  | case2 len rest ih =>
    have := ih hh
    rw [List.length_drop] at this
    rw [List.length_cons]
    omega
  | case3 => cases hh
  | case4 len b rest hpad hend ih =>
    rcases List.mem_cons.mp hh with rfl | hh
    · exact le_rfl
    · split at hh
      · cases hh
      · exact (ih hh).trans length_optRest.le

theorem getElem?_step (b : UInt8) (rest : List UInt8) (k : ℕ) :
    (b :: rest)[(k + 1) * (len + 1)]? = (rest.drop len)[k * (len + 1)]? := by
  have hidx : (k + 1) * (len + 1) = len + k * (len + 1) + 1 := by ring
  rw [hidx, List.getElem?_cons_succ, List.getElem?_drop]

/-- One step over a PAD. -/
theorem onlyPads_pad : OnlyPads len (dhcpOptPad :: rest) ↔ OnlyPads len (rest.drop len) := by
  constructor
  · intro h k b hb
    obtain hpad | ⟨j, hj, hend⟩ := h (k + 1) b (by rw [getElem?_step, hb])
    · exact .inl hpad
    · cases j with
      | zero =>
        rw [Nat.zero_mul, List.getElem?_cons_zero] at hend
        cases hend
      | succ j => exact .inr ⟨j, by omega, by rw [← getElem?_step dhcpOptPad, hend]⟩
  · intro h k b hb
    cases k with
    | zero =>
      rw [Nat.zero_mul, List.getElem?_cons_zero] at hb
      exact .inl (Option.some.inj hb).symm
    | succ k =>
      rw [getElem?_step] at hb
      obtain hpad | ⟨j, hj, hend⟩ := h k b hb
      · exact .inl hpad
      · exact .inr ⟨j + 1, by omega, by rw [getElem?_step, hend]⟩

/-- The loop comes to no option. -/
theorem codeHeads_eq_nil_iff (len : ℕ) (rest : List UInt8) : codeHeads len rest = [] ↔ OnlyPads len rest := by
  fun_induction codeHeads len rest with
  | case1 => exact iff_of_true rfl fun _ _ h => by simp at h
  | case2 len rest ih => rw [ih, onlyPads_pad]
  | case3 len rest hpad =>
    exact iff_of_true rfl fun _ _ _ => .inr ⟨0, Nat.zero_le _, by rw [Nat.zero_mul, List.getElem?_cons_zero]⟩
  | case4 len b rest hpad hend ih =>
    refine iff_of_false (List.cons_ne_nil _ _) fun h => ?_
    obtain hb | ⟨j, hj, hb⟩ := h 0 b (by rw [Nat.zero_mul, List.getElem?_cons_zero])
    · exact hpad hb
    · rw [Nat.le_zero.mp hj, Nat.zero_mul, List.getElem?_cons_zero] at hb
      exact hend (Option.some.inj hb)

/-- The PADs in front, and what follows them. -/
theorem exists_pads (rest : List UInt8) : (∃ r, rest = List.replicate r dhcpOptPad) ∨
    ∃ r b tail, rest = List.replicate r dhcpOptPad ++ b :: tail ∧ b ≠ dhcpOptPad := by
  induction rest with
  | nil => exact .inl ⟨0, rfl⟩
  | cons b rest ih =>
    by_cases hb : b = dhcpOptPad
    · subst hb
      obtain ⟨r, rfl⟩ | ⟨r, b, tail, rfl, hb⟩ := ih
      · exact .inl ⟨r + 1, List.replicate_succ.symm⟩
      · exact .inr ⟨r + 1, b, tail, by rw [List.replicate_succ, List.cons_append], hb⟩
    · exact .inr ⟨0, b, rest, rfl, hb⟩

theorem gapOk_pads (len r : ℕ) : GapOk len (List.replicate r dhcpOptPad) := by
  have hdrop : (List.replicate r dhcpOptPad).dropWhile (· = dhcpOptPad) = [] := by simp
  rw [GapOk, hdrop]
  trivial

theorem gapOk_iff (hpad : b ≠ dhcpOptPad) : GapOk len (List.replicate r dhcpOptPad ++ b :: tail) ↔
    if b = dhcpOptEnd then OnlyPads len (List.replicate r dhcpOptPad ++ b :: tail) else len + 1 ∣ r := by
  have hall : ∀ x ∈ List.replicate r dhcpOptPad, decide (x = dhcpOptPad) = true := by simp
  have hdrop : (List.replicate r dhcpOptPad ++ b :: tail).dropWhile (· = dhcpOptPad) = b :: tail := by
    rw [List.dropWhile_append_of_pos hall, List.dropWhile_cons_of_neg (by simpa using hpad)]
  have htake : (List.replicate r dhcpOptPad ++ b :: tail).takeWhile (· = dhcpOptPad) = List.replicate r dhcpOptPad := by
    rw [List.takeWhile_append_of_pos hall, List.takeWhile_cons_of_neg (by simpa using hpad), List.append_nil]
  rw [GapOk, hdrop, htake, List.length_replicate]

theorem codeHeads_option (hpad : b ≠ dhcpOptPad) (hend : b ≠ dhcpOptEnd) : codeHeads len (b :: rest) =
    (b :: rest) :: if optTruncated (b :: rest) then [] else codeHeads (optLen (b :: rest)) (optRest (b :: rest)) := by
  rw [codeHeads, if_neg hpad, if_neg hend]

theorem refHeads_option (hpad : b ≠ dhcpOptPad) (hend : b ≠ dhcpOptEnd) : refHeads (b :: rest) =
    (b :: rest) :: if optTruncated (b :: rest) then [] else refHeads (optRest (b :: rest)) := by
  rw [refHeads, if_neg hpad, if_neg hend]

/-- After a number of PADs that is no multiple, the loop misses the next option. -/
theorem codeHeads_misses (hr : ¬len + 1 ∣ r) (hs : List (List UInt8)) :
    codeHeads len (List.replicate r dhcpOptPad ++ b :: tail) ≠ (b :: tail) :: hs := by
  intro h
  have hmod : r % (len + 1) ≠ 0 := mt Nat.dvd_of_mod_eq_zero hr
  have hlt : r % (len + 1) < len + 1 := Nat.mod_lt r (Nat.succ_pos len)
  rw [codeHeads_landing hmod] at h
  have hlen := length_of_mem_codeHeads (h ▸ List.mem_cons_self)
  rw [List.length_drop, List.length_cons] at hlen
  omega

/-- **Which options the loop comes to**: those of the reference, if every gap between two of them allows it. -/
theorem codeHeads_eq_iff (len : ℕ) (rest : List UInt8) : codeHeads len rest = refHeads rest ↔
    GapOk len rest ∧ ∀ h ∈ refHeads rest, optTruncated h = false → GapOk (optLen h) (optRest h) := by
  obtain ⟨n, hn⟩ : ∃ n, rest.length = n := ⟨_, rfl⟩
  induction n using Nat.strong_induction_on generalizing len rest with
  | _ n ih =>
    obtain ⟨r, rfl⟩ | ⟨r, b, tail, rfl, hpad⟩ := exists_pads rest
    · have href : refHeads (List.replicate r dhcpOptPad) = [] := by
        have := refHeads_pads r []
        rwa [List.append_nil, refHeads] at this
      have hcode : codeHeads len (List.replicate r dhcpOptPad) = [] :=
        (codeHeads_eq_nil_iff len _).mpr fun k b hb => .inl (List.eq_of_mem_replicate (List.mem_of_getElem? hb))
      rw [href, hcode]
      exact iff_of_true rfl ⟨gapOk_pads len r, fun _ hh => absurd hh List.not_mem_nil⟩
    · rw [gapOk_iff hpad, refHeads_pads]
      by_cases hend : b = dhcpOptEnd
      · subst hend
        have href : refHeads (dhcpOptEnd :: tail) = [] := by rw [refHeads, if_neg (by decide), if_pos rfl]
        rw [if_pos rfl, href, codeHeads_eq_nil_iff]
        exact (and_iff_left fun _ hh => absurd hh List.not_mem_nil).symm
      · rw [if_neg hend, refHeads_option hpad hend, List.forall_mem_cons]
        by_cases hdvd : len + 1 ∣ r
        · obtain ⟨k, rfl⟩ := hdvd
          rw [Nat.mul_comm, codeHeads_steps, codeHeads_option hpad hend, List.cons.injEq,
            and_iff_right (Nat.dvd_mul_left ..), and_iff_right rfl]
          cases htrunc : optTruncated (b :: tail) with
          | true => simp
          | false =>
            have hlt : (optRest (b :: tail)).length < n := by
              have : (optRest (b :: tail)).length < (b :: tail).length := length_optRest
              rw [← hn, List.length_append]
              omega
            rw [if_neg Bool.false_ne_true, if_neg Bool.false_ne_true, ih _ hlt _ _ rfl]
            simp
        · exact iff_of_false (codeHeads_misses hdvd _) fun h => hdvd h.1

end Gaps

/-! ## When the loop is right -/

/-- If the last MESSAGE_TYPE option is empty, the byte that follows it is the value of the last one that is not. -/
def EmptyTypeOk (heads : List (List UInt8)) : Prop :=
  ∀ h ∈ (heads.filter fun h => optType h = dhcpOptMessageType).getLast?, optValue h = [] →
    ∃ b, (h.drop 2).head? = some b ∧ (typeValues heads).getLast? = some b

/-- The options that the loop parses like the reference. -/
structure OptionsOk (options : List UInt8) : Prop where
  gaps : ∀ h ∈ refHeads options, optTruncated h = false → GapOk (optLen h) (optRest h)
  types : (∀ h ∈ refHeads options, optTruncated h = false) → EmptyTypeOk (refHeads options)

section Right

variable {heads : List (List UInt8)} {options : List UInt8} {pxe : PxeMode}

/-- Before the first option the loop adds nothing after a PAD. -/
theorem gapOk_zero (rest : List UInt8) : GapOk 0 rest := by
  obtain ⟨r, rfl⟩ | ⟨r, b, tail, rfl, hpad⟩ := exists_pads rest
  · exact gapOk_pads 0 r
  · rw [gapOk_iff hpad]
    split
    next hend =>
      subst hend
      have hsteps := codeHeads_steps 0 r (dhcpOptEnd :: tail)
      rw [Nat.zero_add, Nat.mul_one] at hsteps
      rw [← codeHeads_eq_nil_iff, hsteps, codeHeads, if_neg (by decide), if_pos rfl]
    · exact one_dvd r

/-- The message types of loop and reference. -/
theorem lastTypeByte_eq_iff (heads : List (List UInt8)) :
    lastTypeByte heads = (typeValues heads).getLast?.map some ↔ EmptyTypeOk heads := by
  unfold EmptyTypeOk lastTypeByte typeValues
  generalize heads.filter (fun h => optType h = dhcpOptMessageType) = msgs
  cases hlast : msgs.getLast? with
  | none =>
    rw [List.getLast?_eq_none_iff.mp hlast]
    exact iff_of_true rfl fun _ hh => nomatch hh
  | some h =>
    obtain ⟨ms, rfl⟩ := List.getLast?_eq_some_iff.mp hlast
    have hforall : ∀ P : List UInt8 → Prop, (∀ h' ∈ some h, P h') ↔ P h := by simp
    rw [hforall, Option.map_some, List.filterMap_append]
    cases hvalue : optValue h with
    | nil =>
      have hone : [h].filterMap (fun h => (optValue h).head?) = [] := by simp [hvalue]
      rw [hone, List.append_nil]
      simp only [forall_const]
      cases (h.drop 2).head? <;> cases (ms.filterMap fun h => (optValue h).head?).getLast? <;> simp [eq_comm]
    | cons x xs =>
      have hone : [h].filterMap (fun h => (optValue h).head?) = [x] := by simp [hvalue]
      have hbyte : (h.drop 2).head? = some x := by
        rw [← List.take_append_drop (optLen h) (h.drop 2), ← optValue, hvalue]
        rfl
      rw [hone, List.getLast?_concat, hbyte]
      simp

/-- **Parsing the options of a DHCP request**: the loop is right exactly for these options. -/
theorem parse_options_iff (options : List UInt8) (pxe : PxeMode) : ParsesRight options pxe ↔ OptionsOk options := by
  have hheads := (codeHeads_eq_iff 0 options).trans (and_iff_right (gapOk_zero options))
  have hfollow : follow (codeHeads 0 options) none pxe = _ := follow_eq (codeHeads_pairwise 0 options)
  rw [Option.or_none] at hfollow
  unfold ParsesRight
  rw [parseOptions_eq]
  constructor
  · rintro ⟨heq, hres⟩
    refine ⟨hheads.mp heq, fun hwhole => (lastTypeByte_eq_iff _).mp ?_⟩
    have hany : (refHeads options).any optTruncated = false := by
      rw [List.any_eq_false]
      simpa using hwhole
    rw [hfollow, heq, refParse, Prod.mk.injEq] at hres
    simpa [hany] using hres.1
  · intro hok
    have heq := hheads.mpr hok.gaps
    refine ⟨heq, ?_⟩
    rw [hfollow, heq, refParse]
    cases hany : (refHeads options).any optTruncated with
    | true => rfl
    | false =>
      have hwhole : ∀ h ∈ refHeads options, optTruncated h = false := by
        rw [List.any_eq_false] at hany
        simpa using hany
      dsimp only
      rw [if_neg Bool.false_ne_true, if_neg Bool.false_ne_true, (lastTypeByte_eq_iff _).mpr (hok.types hwhole)]

/-- A host name, one PAD, and the message type: the loop skips the message type. An empty message type at the end: the
loop takes the byte behind the options. -/
theorem parse_options_skips :
    parseOptions [12, 1, 97, 0, 53, 1, 1, 255] 0 none .none = (none, .none) ∧
      refParse [12, 1, 97, 0, 53, 1, 1, 255] .none = (some 1, .none) ∧
      parseOptions [53, 0] 0 none .none = (some none, .none) := by
  decide +kernel

end Right

end Dpservice
