import Dpservice.Control
import Dpservice.Firewall

/-!
# The decision of the firewall

`Allowed` says when the firewall is meant to let a packet pass, in a way that does not depend on the order of the rules.
The decision is that, with two exceptions: the scan of the rules of the target counts egress rules without having a
counter, and the counter of egress rules is a 32-bit number.

- `dpIsMatchedInFwallList_eq`: what the scan of a list finds and counts, and where it follows the missing counter;
- `firewall_action_iff`: for which rules the decision is the intended one;
- `fwallOk_run`: the API only installs rules that accept, under different identifiers, on interfaces.
-/

namespace Dpservice

section Decision

variable {df : DpFlow} {dir : FwallDirection} {rules : List DpFwallRule} {inPort outPort : FwallPort}

def DpFwallRule.applies (df : DpFlow) (dir : FwallDirection) (rule : DpFwallRule) : Bool :=
  dir == rule.dir && dpIsRuleMatching rule df

/-- The rules that are scanned: those up to the first one that applies. -/
def scanned (df : DpFlow) (dir : FwallDirection) : List DpFwallRule → List DpFwallRule
  | [] => []
  | rule :: rules => if rule.applies df dir then [rule] else rule :: scanned df dir rules

def egressCount (rules : List DpFwallRule) : ℕ := rules.countP (·.dir == .egress)

/-- One step of the scan. -/
theorem dpIsMatchedInFwallList_cons (rule : DpFwallRule) (rules : List DpFwallRule) (count : Option UInt32) :
    dpIsMatchedInFwallList df dir (rule :: rules) count =
      (if rule.dir = .egress then count.map fun n => some (n + 1) else some count).bind fun count =>
        if rule.applies df dir then some (some rule, count) else dpIsMatchedInFwallList df dir rules count := by
  rw [dpIsMatchedInFwallList, DpFwallRule.applies]
  cases (if rule.dir = .egress then count.map fun n => some (n + 1) else some count) <;> rfl

/-- The egress rules that are scanned, rule by rule. -/
theorem egressCount_scanned_cons (rule : DpFwallRule) (rules : List DpFwallRule) :
    egressCount (scanned df dir (rule :: rules)) = (if rule.dir = .egress then 1 else 0) +
      if rule.applies df dir then 0 else egressCount (scanned df dir rules) := by
  rw [scanned]
  split <;> simp [egressCount, List.countP_cons, Nat.add_comm]

/-- **The scan finds the first rule that applies, and counts the egress rules on the way; without a counter it must not
meet one.** -/
theorem dpIsMatchedInFwallList_eq (rules : List DpFwallRule) (count : Option UInt32) :
    dpIsMatchedInFwallList df dir rules count =
      if count = none ∧ egressCount (scanned df dir rules) ≠ 0 then none
      else some (rules.find? (·.applies df dir),
        count.map (· + UInt32.ofNat (egressCount (scanned df dir rules)))) := by
  induction rules generalizing count with
  | nil => cases count <;> simp [dpIsMatchedInFwallList, scanned, egressCount]
  | cons rule rules ih =>
    rw [dpIsMatchedInFwallList_cons, egressCount_scanned_cons, List.find?_cons]
    by_cases hd : rule.dir = .egress
    · cases count with
      | none => simp [hd]
      | some n =>
        cases ha : rule.applies df dir with
        | true => simp [hd]
        | false => simp [hd, ih, UInt32.ofNat_add, UInt32.add_assoc]
    · cases ha : rule.applies df dir with
      | true => cases count <;> simp [hd]
      | false => simp [hd, ih]

/-! ## What is intended -/

/-- The egress rules let the packet out: there are none, or one of them matches. -/
def EgressAllowed (df : DpFlow) (rules : List DpFwallRule) : Prop :=
  (∀ rule ∈ rules, rule.dir ≠ .egress) ∨ ∃ rule ∈ rules, rule.dir = .egress ∧ dpIsRuleMatching rule df = true

def IngressAllowed (df : DpFlow) (rules : List DpFwallRule) : Prop :=
  ∃ rule ∈ rules, rule.dir = .ingress ∧ dpIsRuleMatching rule df = true

instance (df : DpFlow) (rules : List DpFwallRule) : Decidable (EgressAllowed df rules) :=
  inferInstanceAs (Decidable (_ ∨ _))

instance (df : DpFlow) (rules : List DpFwallRule) : Decidable (IngressAllowed df rules) :=
  inferInstanceAs (Decidable (∃ rule ∈ rules, _))

/-- The packet may pass from one port to the other. -/
def Allowed (df : DpFlow) (inPort outPort : FwallPort) : Prop :=
  (inPort.isPf = true ∨ EgressAllowed df inPort.fwallHead) ∧ (outPort.isPf = true ∨ IngressAllowed df outPort.fwallHead)

/-- There is a decision, and it is the intended one. -/
def Decides (df : DpFlow) (inPort outPort : FwallPort) : Prop :=
  ∃ action, dpGetFirewallAction df inPort outPort = some action ∧ (action = .accept ↔ Allowed df inPort outPort)

/-- The rules of a port are as the API makes them: all accept, and a physical port has none. -/
structure FwallPort.Ok (p : FwallPort) : Prop where
  accept : ∀ rule ∈ p.fwallHead, rule.action = .accept
  pf : p.isPf = true → p.fwallHead = []

/-- The same port with its rules in another order. -/
structure FwallPort.Reordered (p q : FwallPort) : Prop where
  isPf : q.isPf = p.isPf
  rules : q.fwallHead.Perm p.fwallHead

/-! ## Where the counter fails -/

/-- No egress rule matches, and there are so many that counting them ends at 0. -/
def EgressWraps (df : DpFlow) (rules : List DpFwallRule) : Prop :=
  ¬ EgressAllowed df rules ∧ 2 ^ 32 ∣ egressCount rules

/-- An egress rule has no matching ingress rule before it. -/
def EgressFirst (df : DpFlow) (rules : List DpFwallRule) : Prop :=
  ∃ before rule after, rules = before ++ rule :: after ∧ rule.dir = .egress ∧ ¬ IngressAllowed df before

/-- The rules of the target are looked at. -/
def ScansIngress (df : DpFlow) (inPort outPort : FwallPort) : Prop :=
  outPort.isPf = false ∧
    (inPort.isPf = true ∨ EgressAllowed df inPort.fwallHead ∨ EgressWraps df inPort.fwallHead)

/-- A counter that ends at 0 makes no difference. -/
def CounterHarmless (df : DpFlow) (inPort outPort : FwallPort) : Prop :=
  EgressWraps df inPort.fwallHead → outPort.isPf = false ∧ ¬ IngressAllowed df outPort.fwallHead

theorem applies_iff {rule : DpFwallRule} :
    rule.applies df dir = true ↔ rule.dir = dir ∧ dpIsRuleMatching rule df = true := by
  rw [DpFwallRule.applies, Bool.and_eq_true, beq_iff_eq, eq_comm]

/-- Where no rule applies, all of them are scanned. -/
theorem scanned_eq_self (h : ∀ rule ∈ rules, ¬ rule.applies df dir = true) : scanned df dir rules = rules := by
  induction rules with
  | nil => rfl
  | cons rule rules ih =>
    rw [scanned, if_neg (h rule List.mem_cons_self), ih fun r hr => h r (List.mem_cons_of_mem _ hr)]

/-- The scan for an ingress rule meets an egress rule exactly where none of the rules before it stops the scan. -/
theorem egressCount_scanned_ne_zero : egressCount (scanned df .ingress rules) ≠ 0 ↔ EgressFirst df rules := by
  induction rules with
  | nil => simp [scanned, egressCount, EgressFirst]
  | cons rule rules ih =>
    rw [egressCount_scanned_cons]
    by_cases hd : rule.dir = .egress
    · have hfirst : EgressFirst df (rule :: rules) := ⟨[], rule, rules, rfl, hd, by simp [IngressAllowed]⟩
      simp [hd, hfirst]
    · rw [if_neg hd, Nat.zero_add]
      have hcons : EgressFirst df (rule :: rules) ↔ ¬ rule.applies df .ingress = true ∧ EgressFirst df rules := by
        constructor
        · rintro ⟨before, r, after, heq, hr, hno⟩
          cases before with
          | nil =>
            obtain ⟨rfl, -⟩ := List.cons.inj heq
            exact absurd hr hd
          | cons b before =>
            obtain ⟨rfl, hrest⟩ := List.cons.inj heq
            refine ⟨fun ha => hno ⟨_, List.mem_cons_self, applies_iff.mp ha⟩, before, r, after, hrest, hr, ?_⟩
            rintro ⟨q, hq, hm⟩
            exact hno ⟨q, List.mem_cons_of_mem _ hq, hm⟩
        · rintro ⟨ha, before, r, after, rfl, hr, hno⟩
          refine ⟨rule :: before, r, after, rfl, hr, ?_⟩
          rintro ⟨q, hq, hm⟩
          obtain rfl | hq := List.mem_cons.mp hq
          · exact ha (applies_iff.mpr hm)
          · exact hno ⟨q, hq, hm⟩
      rw [hcons, ← ih]
      by_cases ha : rule.applies df .ingress = true
      · simp [ha]
      · simp [ha]

/-! ## The decision -/

/-- **The egress decision: it accepts where the rules allow the packet, and where counting them ends at 0.** -/
theorem dpGetEgressAction_spec (df : DpFlow) (hok : ∀ rule ∈ rules, rule.action = .accept) :
    ∃ action, dpGetEgressAction df rules = some action ∧
      (action = .accept ↔ EgressAllowed df rules ∨ EgressWraps df rules) := by
  unfold dpGetEgressAction
  rw [dpIsMatchedInFwallList_eq]
  simp only [reduceCtorEq, false_and, if_false]
  cases hfind : rules.find? (·.applies df .egress) with
  | some rule =>
    have hmem := List.mem_of_find?_eq_some hfind
    have happ := List.find?_some hfind
    exact ⟨_, rfl, iff_of_true (hok rule hmem) (.inl (.inr ⟨rule, hmem, applies_iff.mp happ⟩))⟩
  | none =>
    have hnone : ∀ rule ∈ rules, ¬ rule.applies df .egress = true := fun rule hr =>
      by simpa using List.find?_eq_none.mp hfind rule hr
    refine ⟨_, rfl, ?_⟩
    rw [scanned_eq_self hnone]
    have hno : EgressAllowed df rules ↔ egressCount rules = 0 := by
      rw [egressCount, List.countP_eq_zero]
      constructor
      · rintro (h | ⟨rule, hr, hm⟩)
        · simpa using h
        · exact absurd (applies_iff.mpr hm) (hnone rule hr)
      · intro h
        exact .inl (by simpa using h)
    have hzero : (0 : UInt32) + UInt32.ofNat (egressCount rules) = 0 ↔ 2 ^ 32 ∣ egressCount rules := by
      rw [UInt32.zero_add, ← UInt32.toNat_inj, UInt32.toNat_ofNat, Nat.dvd_iff_mod_eq_zero]
      rfl
    have hite : (if (some 0).map (· + UInt32.ofNat (egressCount rules)) = some 0 then FwallAction.accept else .drop) =
        .accept ↔ 2 ^ 32 ∣ egressCount rules := by
      rw [← hzero]
      simp
    rw [hite, EgressWraps, hno]
    constructor
    · intro hdvd
      by_cases hc : egressCount rules = 0
      · exact .inl hc
      · exact .inr ⟨hc, hdvd⟩
    · rintro (h | h)
      · rw [h]
        exact dvd_zero _
      · exact h.2

/-- **The ingress decision, with no counter at hand.** -/
theorem ingress_scan (df : DpFlow) (hok : ∀ rule ∈ rules, rule.action = .accept) :
    (EgressFirst df rules ∧ dpIsMatchedInFwallList df .ingress rules none = none) ∨
      (¬ EgressFirst df rules ∧ IngressAllowed df rules ∧
        ∃ rule, dpIsMatchedInFwallList df .ingress rules none = some (some rule, none) ∧ rule.action = .accept) ∨
      (¬ EgressFirst df rules ∧ ¬ IngressAllowed df rules ∧
        dpIsMatchedInFwallList df .ingress rules none = some (none, none)) := by
  rw [dpIsMatchedInFwallList_eq]
  by_cases hf : EgressFirst df rules
  · exact .inl ⟨hf, if_pos ⟨rfl, egressCount_scanned_ne_zero.mpr hf⟩⟩
  · rw [if_neg fun h => hf (egressCount_scanned_ne_zero.mp h.2)]
    refine .inr ?_
    cases hfind : rules.find? (·.applies df .ingress) with
    | some rule =>
      have hmem := List.mem_of_find?_eq_some hfind
      exact .inl ⟨hf, ⟨rule, hmem, applies_iff.mp (List.find?_some hfind)⟩, rule, rfl, hok rule hmem⟩
    | none =>
      refine .inr ⟨hf, ?_, rfl⟩
      rintro ⟨rule, hr, hm⟩
      exact absurd (applies_iff.mpr hm) (by simpa using List.find?_eq_none.mp hfind rule hr)

/-- **The decision on any rules that the API can make.** -/
theorem dpGetFirewallAction_spec (df : DpFlow) (hin : inPort.Ok) (hout : outPort.Ok) :
    (ScansIngress df inPort outPort ∧ EgressFirst df outPort.fwallHead ∧ dpGetFirewallAction df inPort outPort = none) ∨
      (¬ (ScansIngress df inPort outPort ∧ EgressFirst df outPort.fwallHead) ∧
        ∃ action, dpGetFirewallAction df inPort outPort = some action ∧ (action = .accept ↔
          (inPort.isPf = true ∨ EgressAllowed df inPort.fwallHead ∨ EgressWraps df inPort.fwallHead) ∧
          (outPort.isPf = true ∨ IngressAllowed df outPort.fwallHead))) := by
  obtain ⟨action, hact, hiff⟩ := dpGetEgressAction_spec df hin.accept
  unfold dpGetFirewallAction ScansIngress
  cases hpo : outPort.isPf with
  | true =>
    refine .inr ⟨by simp, action, hact, ?_⟩
    cases hpi : inPort.isPf with
    | true =>
      have hnil : EgressAllowed df inPort.fwallHead := .inl (by simp [hin.pf hpi])
      simp [hiff, hnil]
    | false => simp [hiff]
  | false =>
    have hegress : (if inPort.isPf then some FwallAction.accept else dpGetEgressAction df inPort.fwallHead) =
        some (if inPort.isPf then .accept else action) := by
      rw [hact]
      cases inPort.isPf <;> rfl
    have hacc : (if inPort.isPf then FwallAction.accept else action) = .accept ↔
        (inPort.isPf = true ∨ EgressAllowed df inPort.fwallHead ∨ EgressWraps df inPort.fwallHead) := by
      cases inPort.isPf <;> simp [hiff]
    simp only [Bool.false_eq_true, if_false, hegress, true_and, false_or, ← hacc]
    cases (if inPort.isPf then FwallAction.accept else action) with
    | drop => exact .inr ⟨by simp, .drop, rfl, by simp⟩
    | accept =>
      obtain ⟨hf, h⟩ | ⟨hf, hi, rule, h, ha⟩ | ⟨hf, hi, h⟩ := ingress_scan df hout.accept
      · exact .inl ⟨rfl, hf, by rw [h]⟩
      · exact .inr ⟨fun h => hf h.2, .accept, by rw [h]; simp [ha], by simp [hi]⟩
      · exact .inr ⟨fun h => hf h.2, .drop, by rw [h], by simp [hi]⟩

/-- For which rules there is a decision and it is the intended one. -/
theorem decides_iff (hin : inPort.Ok) (hout : outPort.Ok) :
    Decides df inPort outPort ↔
      CounterHarmless df inPort outPort ∧ (ScansIngress df inPort outPort → ¬ EgressFirst df outPort.fwallHead) := by
  unfold Decides
  obtain ⟨hs, hf, h⟩ | ⟨hno, action, h, hiff⟩ := dpGetFirewallAction_spec df hin hout
  · simp [h, hs, hf]
  · have hscan : ScansIngress df inPort outPort → ¬ EgressFirst df outPort.fwallHead := fun hs hf => hno ⟨hs, hf⟩
    have hpf : EgressWraps df inPort.fwallHead → inPort.isPf = false := by
      intro hw
      cases hp : inPort.isPf with
      | false => rfl
      | true => exact absurd (.inl (by simp [hin.pf hp])) hw.1
    simp only [h, Option.some.injEq, exists_eq_left', hiff, Allowed, iff_true_intro hscan, and_true, CounterHarmless]
    cases hpi : inPort.isPf with
    | true =>
      have hw : ¬ EgressWraps df inPort.fwallHead := fun hw => by simp [hpf hw] at hpi
      simp [hw]
    | false =>
      by_cases hw : EgressWraps df inPort.fwallHead
      · have ha := hw.1
        cases hpo : outPort.isPf <;> simp [hw, ha]
      · simp [hw]

/-! ## The order of the rules -/

variable {inPort' outPort' : FwallPort}

theorem FwallPort.Ok.reordered (h : inPort.Ok) (hr : inPort.Reordered inPort') : inPort'.Ok :=
  ⟨fun rule hm => h.accept rule (hr.rules.mem_iff.mp hm), fun hp => by
    have hnil := h.pf (hr.isPf ▸ hp)
    exact List.Perm.eq_nil (hnil ▸ hr.rules)⟩

theorem EgressAllowed.perm {rules' : List DpFwallRule} (h : rules'.Perm rules) :
    EgressAllowed df rules' ↔ EgressAllowed df rules := by
  simp only [EgressAllowed, h.mem_iff]

theorem IngressAllowed.perm {rules' : List DpFwallRule} (h : rules'.Perm rules) :
    IngressAllowed df rules' ↔ IngressAllowed df rules := by
  simp only [IngressAllowed, h.mem_iff]

theorem EgressWraps.perm {rules' : List DpFwallRule} (h : rules'.Perm rules) :
    EgressWraps df rules' ↔ EgressWraps df rules := by
  rw [EgressWraps, EgressWraps, EgressAllowed.perm h, egressCount, h.countP_eq]
  rfl

section Reordered

variable (hri : inPort.Reordered inPort') (hro : outPort.Reordered outPort')
include hri hro

theorem Allowed.reordered : Allowed df inPort' outPort' ↔ Allowed df inPort outPort := by
  rw [Allowed, Allowed, hri.isPf, hro.isPf, EgressAllowed.perm hri.rules, IngressAllowed.perm hro.rules]

theorem ScansIngress.reordered : ScansIngress df inPort' outPort' ↔ ScansIngress df inPort outPort := by
  rw [ScansIngress, ScansIngress, hri.isPf, hro.isPf, EgressAllowed.perm hri.rules, EgressWraps.perm hri.rules]

theorem CounterHarmless.reordered : CounterHarmless df inPort' outPort' ↔ CounterHarmless df inPort outPort := by
  rw [CounterHarmless, CounterHarmless, hro.isPf, EgressWraps.perm hri.rules, IngressAllowed.perm hro.rules]

end Reordered

/-- **Where there is a decision as intended, and where there is one for every order of the rules.** -/
theorem firewall_action_iff (hin : inPort.Ok) (hout : outPort.Ok) :
    (Decides df inPort outPort ↔
      CounterHarmless df inPort outPort ∧ (ScansIngress df inPort outPort → ¬ EgressFirst df outPort.fwallHead)) ∧
    ((∀ inPort' outPort', inPort.Reordered inPort' → outPort.Reordered outPort' → Decides df inPort' outPort' ∧
        dpGetFirewallAction df inPort' outPort' = dpGetFirewallAction df inPort outPort) ↔
      CounterHarmless df inPort outPort ∧
        (ScansIngress df inPort outPort → ∀ rule ∈ outPort.fwallHead, rule.dir ≠ .egress)) := by
  refine ⟨decides_iff hin hout, fun h => ?_, fun ⟨hw, hno⟩ => ?_⟩
  · have hself := (decides_iff hin hout).mp (h inPort outPort ⟨rfl, .refl _⟩ ⟨rfl, .refl _⟩).1
    refine ⟨hself.1, fun hs rule hr hd => ?_⟩
    have hre : outPort.Reordered { outPort with fwallHead := rule :: outPort.fwallHead.erase rule } :=
      ⟨rfl, (List.perm_cons_erase hr).symm⟩
    have hsame : inPort.Reordered inPort := ⟨rfl, .refl _⟩
    have hd' := (decides_iff hin (hout.reordered hre)).mp (h _ _ hsame hre).1
    exact hd'.2 ((ScansIngress.reordered hsame hre).mpr hs) ⟨[], rule, _, rfl, hd, by simp [IngressAllowed]⟩
  · have hdec : ∀ in' out', inPort.Reordered in' → outPort.Reordered out' → Decides df in' out' := by
      intro in' out' hri hro
      refine (decides_iff (hin.reordered hri) (hout.reordered hro)).mpr ⟨(CounterHarmless.reordered hri hro).mpr hw, ?_⟩
      rintro hs ⟨before, rule, after, heq, hd, -⟩
      have hmem : rule ∈ out'.fwallHead := by simp [heq]
      exact hno ((ScansIngress.reordered hri hro).mp hs) rule (hro.rules.mem_iff.mp hmem) hd
    intro in' out' hri hro
    refine ⟨hdec in' out' hri hro, ?_⟩
    obtain ⟨a, ha, hai⟩ := hdec in' out' hri hro
    obtain ⟨b, hb, hbi⟩ := hdec inPort outPort ⟨rfl, .refl _⟩ ⟨rfl, .refl _⟩
    rw [Allowed.reordered hri hro, ← hbi] at hai
    rw [ha, hb]
    cases a <;> cases b <;> simp_all

def openRule (id : UInt8) (dir : FwallDirection) : DpFwallRule where
  ruleId := [id]
  srcIp := .v4 0
  destIp := .v4 0
  srcMask := .ofIp4 0
  destMask := .ofIp4 0
  priority := 1000
  protocol := fwallMatchAnyProtocol
  filter := ⟨fwallMatchAny, fwallMatchAny, fwallMatchAny, fwallMatchAny⟩
  action := .accept
  dir := dir

def plainQuery : DpFlow :=
  { l3Type := .ipv4, srcAddr := 0x0a000001, dstAddr := 0x0a000002, l4Type := ipprotoUdp, srcPort := 1000,
    dstPort := 53 }

def ifacePort (rules : List DpFwallRule) : FwallPort := ⟨false, rules⟩

theorem firewall_action_open :
    dpGetFirewallAction plainQuery (ifacePort [openRule 1 .egress]) (ifacePort [openRule 2 .ingress]) = some .accept ∧
    Allowed plainQuery (ifacePort [openRule 1 .egress]) (ifacePort [openRule 2 .ingress]) := by
  have hin : (ifacePort [openRule 1 .egress]).Ok := ⟨by decide, by decide⟩
  have hout : (ifacePort [openRule 2 .ingress]).Ok := ⟨by decide, by decide⟩
  have hacc : dpGetFirewallAction plainQuery (ifacePort [openRule 1 .egress]) (ifacePort [openRule 2 .ingress]) =
      some .accept := by decide
  have hegress : EgressAllowed plainQuery [openRule 1 .egress] := by decide
  obtain ⟨hdec, -⟩ := (firewall_action_iff hin hout).2.mpr
    ⟨fun hw => absurd hegress hw.1, fun _ => by decide⟩ _ _ ⟨rfl, .refl _⟩ ⟨rfl, .refl _⟩
  obtain ⟨action, hact, hiff⟩ := hdec
  cases hacc.symm.trans hact
  exact ⟨hacc, hiff.mp rfl⟩

/-- An egress rule of the target in front of the ingress rule that matches. -/
theorem firewall_action_egress_first :
    (ifacePort []).Ok ∧ (ifacePort [openRule 1 .egress, openRule 2 .ingress]).Ok ∧
    Allowed plainQuery (ifacePort []) (ifacePort [openRule 1 .egress, openRule 2 .ingress]) ∧
    dpGetFirewallAction plainQuery (ifacePort []) (ifacePort [openRule 2 .ingress, openRule 1 .egress]) = some .accept ∧
    dpGetFirewallAction plainQuery (ifacePort []) (ifacePort [openRule 1 .egress, openRule 2 .ingress]) = none :=
  ⟨⟨by decide, by decide⟩, ⟨by decide, by decide⟩, ⟨.inr (by decide), .inr (by decide)⟩, by decide, by decide⟩

end Decision

/-! ## The rules that the API makes -/

/-- The control plane with the rules of each port. -/
structure FwallCtl where
  ctl : Ctl
  rules : FwallTbl

/-- What changes rules: a request of the control plane, or one for a rule of an interface. -/
inductive FwallEvent where
  | request (call : Call)
  | createFirewallRule (iface : Id64) (rule : DpFwallRule) (alloc : Bool)
  | deleteFirewallRule (iface : Id64) (id : List UInt8)

/-- The rules after a request: `dp_setup_iface` starts with an empty list, `dp_delete_iface` frees it. -/
def fwallAfter (cf : Conf) (c : Config) (rules : FwallTbl) : Request → FwallTbl
  | .createInterface pciName .. =>
    match cf.dpGetPortByName pciName with
    | some p => if (c.port p).allocated then rules else Function.update rules p []
    | none => rules
  | .deleteInterface id =>
    match c.ifaceIdTable id with
    | some p => Function.update rules p []
    | none => rules
  | _ => rules

def FwallCtl.init (cf : Conf) : FwallCtl := ⟨Ctl.init cf, fun _ => []⟩

def fwallStep (cf : Conf) (s : FwallCtl) : FwallEvent → Option FwallCtl
  | .request call => (ctlStep cf s.ctl call).map fun ctl => ⟨ctl, fwallAfter cf s.ctl.cfg s.rules call.1⟩
  | .createFirewallRule iface rule alloc =>
    some { s with rules := (s.rules.dpProcessCreateFwrule (s.ctl.cfg.ifaceIdTable iface) rule alloc).2 }
  | .deleteFirewallRule iface id =>
    some { s with rules := (s.rules.dpProcessDeleteFwrule (s.ctl.cfg.ifaceIdTable iface) id).2 }

/-- The rules of a list all accept and have different identifiers. -/
structure FwallRulesOk (rules : List DpFwallRule) : Prop where
  accept : ∀ rule ∈ rules, rule.action = .accept
  ids : (rules.map (·.ruleId)).Nodup

/-- The rules of every port are in order, and physical ports have none. -/
structure FwallOk (cf : Conf) (s : FwallCtl) : Prop where
  ports : PortsOk cf s.ctl.cfg
  rules : ∀ p, FwallRulesOk (s.rules p)
  pf : ∀ p, cf.isPf p = true → s.rules p = []

section Requests

variable {cf : Conf} {s s' : FwallCtl} {rules : List DpFwallRule} {rule : DpFwallRule} {p : PortId}

theorem FwallRulesOk.nil : FwallRulesOk [] := ⟨fun _ h => absurd h List.not_mem_nil, List.nodup_nil⟩

theorem FwallRulesOk.append (h : FwallRulesOk rules) (hid : FwallTbl.dpGetFirewallRule rules rule.ruleId = none)
    (hact : rule.action ≠ .drop) : FwallRulesOk (rules ++ [rule]) := by
  refine ⟨fun r hr => ?_, ?_⟩
  · obtain hr | hr := List.mem_append.mp hr
    · exact h.accept r hr
    · rw [List.mem_singleton.mp hr]
      cases ha : rule.action with
      | drop => exact absurd ha hact
      | accept => rfl
  · rw [List.map_append, List.map_singleton, List.nodup_append]
    refine ⟨h.ids, List.nodup_singleton _, fun x hx y hy heq => ?_⟩
    obtain ⟨r, hr, rfl⟩ := List.mem_map.mp hx
    rw [List.mem_singleton.mp hy] at heq
    exact List.find?_eq_none.mp hid r hr (beq_iff_eq.mpr heq)

theorem FwallRulesOk.eraseP (h : FwallRulesOk rules) (q : DpFwallRule → Bool) : FwallRulesOk (rules.eraseP q) :=
  ⟨fun r hr => h.accept r (List.mem_of_mem_eraseP hr), h.ids.sublist (List.eraseP_sublist.map _)⟩

/-- Only the rules of one port change, and it is not a physical one. -/
theorem FwallOk.update {ctl : Ctl} (h : FwallOk cf s) (hports : PortsOk cf ctl.cfg) (hr : FwallRulesOk rules)
    (hpf : cf.isPf p = true → rules = []) : FwallOk cf ⟨ctl, Function.update s.rules p rules⟩ := by
  refine ⟨hports, fun q => ?_, fun q hq => ?_⟩
  · by_cases hqp : q = p
    · subst hqp
      simpa using hr
    · simpa [hqp] using h.rules q
  · by_cases hqp : q = p
    · subst hqp
      simpa using hpf hq
    · simpa [hqp] using h.pf q hq

/-- An interface is not on a physical port. -/
theorem PortsOk.iface_not_pf {c : Config} {id : Id64} (h : PortsOk cf c) (hp : c.ifaceIdTable id = some p) :
    cf.isPf p = false := (h.ready (h.mapped.mp hp).1).2.1

theorem FwallOk.createRule (h : FwallOk cf s) (iface : Id64) (rule : DpFwallRule) (alloc : Bool) :
    FwallOk cf { s with rules := (s.rules.dpProcessCreateFwrule (s.ctl.cfg.ifaceIdTable iface) rule alloc).2 } := by
  unfold FwallTbl.dpProcessCreateFwrule
  split
  next => exact h
  next p hp =>
    split
    next => exact h
    next hid =>
      split
      next => exact h
      next hact =>
        split
        next => exact h
        next =>
          have hnone : FwallTbl.dpGetFirewallRule (s.rules p) rule.ruleId = none := by simpa using hid
          have hpf := h.ports.iface_not_pf hp
          exact h.update h.ports ((h.rules p).append hnone hact) (fun ht => by simp [hpf] at ht)

theorem FwallOk.deleteRule (h : FwallOk cf s) (iface : Id64) (id : List UInt8) :
    FwallOk cf { s with rules := (s.rules.dpProcessDeleteFwrule (s.ctl.cfg.ifaceIdTable iface) id).2 } := by
  unfold FwallTbl.dpProcessDeleteFwrule FwallTbl.dpDeleteFirewallRule
  split
  next => exact h
  next p hp =>
    split
    next => exact h
    next rules hdel =>
      split at hdel
      next =>
        cases hdel
        exact h.update h.ports ((h.rules p).eraseP _) (fun ht => by simp [h.pf p ht])
      next => cases hdel

theorem FwallOk.request {call : Call} {ctl : Ctl} (h : FwallOk cf s) (hc : ctlStep cf s.ctl call = some ctl) :
    FwallOk cf ⟨ctl, fwallAfter cf s.ctl.cfg s.rules call.1⟩ := by
  obtain ⟨o, ho, hcfg, -⟩ := ctlStep_eq hc
  have hports : PortsOk cf ctl.cfg := hcfg ▸ h.ports.request ho
  have hsame : FwallOk cf ⟨ctl, s.rules⟩ := ⟨hports, h.rules, h.pf⟩
  have hclear : ∀ p, FwallOk cf ⟨ctl, Function.update s.rules p []⟩ := fun p => h.update hports .nil fun _ => rfl
  unfold fwallAfter
  split
  · split
    · split
      · exact hsame
      · exact hclear _
    · exact hsame
  · split
    · exact hclear _
    · exact hsame
  · exact hsame

/-- **Whatever the requests, all rules accept, the rules of a port have different identifiers, and physical ports have
none.** -/
theorem fwallOk_run {es : List FwallEvent} (h : run (fwallStep cf) (FwallCtl.init cf) es = some s) : FwallOk cf s := by
  have hinit : FwallOk cf (FwallCtl.init cf) := ⟨.init cf, fun _ => .nil, fun _ _ => rfl⟩
  refine run_invariant (I := FwallOk cf) (P := fun _ _ => True) ?_ hinit (along_true _ _) h
  intro s ev s' hs _ hstep
  cases ev with
  | request call =>
    obtain ⟨ctl, hc, rfl⟩ := Option.map_eq_some_iff.mp hstep
    exact hs.request hc
  | createFirewallRule iface rule alloc =>
    cases hstep
    exact hs.createRule iface rule alloc
  | deleteFirewallRule iface id =>
    cases hstep
    exact hs.deleteRule iface id

/-- The rules of a port that the decision looks at are in order in every reachable state. -/
theorem fwallPort_ok_run {es : List FwallEvent} (h : run (fwallStep cf) (FwallCtl.init cf) es = some s) (p : PortId) :
    FwallPort.Ok ⟨cf.isPf p, s.rules p⟩ :=
  ⟨((fwallOk_run h).rules p).accept, (fwallOk_run h).pf p⟩

end Requests

end Dpservice
