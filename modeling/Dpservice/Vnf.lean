import Dpservice.Config

/-!
# Virtual network functions

`handleTbl` maps an underlay address to what it stands for, `valueTbl` maps that back to an underlay address.

- `dpDelVnf_handle` and `dpAddVnf_handle` say what deleting and adding do to the first table;
- `dpCreateVnfRoute_cases` gives the three ways a creation can end, for both tables;
- a creation that is undone (`dpCreateVnfRoute_undo`) or whose second insertion fails deletes whatever `valueTbl` had
  for the same value before.
-/

namespace Dpservice

/-- `dp_delete_vnf_value`; `false` when the value is not there. -/
def dpDeleteVnfValue (s : VnfState) (v : Vnf) : Bool × VnfState :=
  match s.valueTbl v with
  | none => (false, s)
  | some _ => (true, { s with valueTbl := s.valueTbl.del v })

/-- `dp_del_vnf`; an error is `notFound` (the handle is missing) or `vnfDelete` (only the value is). -/
def dpDelVnf (s : VnfState) (ul : Ip6) : Option Ret × VnfState :=
  match s.handleTbl ul with
  | none => (some .notFound, s)
  | some v =>
    match dpDeleteVnfValue { s with handleTbl := s.handleTbl.del ul } v with
    | (true, s) => (none, s)
    | (false, s) => (some .vnfDelete, s)

/-- `dp_add_vnf`; the result says whether it succeeded. -/
def dpAddVnf (e : Env) (s : VnfState) (ul : Ip6) (v : Vnf) : Bool × VnfState :=
  if (s.handleTbl ul).isSome || !e.ok .vnfHandleAdd then (false, s)
  else if e.ok .vnfValueAdd then
    (true, { s with handleTbl := s.handleTbl.add ul v, valueTbl := s.valueTbl.add v ul })
  else (false, (dpDelVnf { s with handleTbl := s.handleTbl.add ul v } ul).2)

def dpVnfLbprefixExists (s : VnfState) (p : PortId) (vni : Vni) (pfx : IpAddr) (length : UInt8) : Bool :=
  (s.valueTbl { type := .lbAliasPfx, vni := vni, portId := p, pfx := pfx, length := length }).isSome

def dpDelVnfByValue (s : VnfState) (v : Vnf) : Option Ret × VnfState :=
  match s.valueTbl v with
  | none => (some .notFound, s)
  | some ul => dpDelVnf s ul

/-- `dp_generate_underlay_ipv6`: the host part of the own underlay address, a random byte and a counter. -/
def dpGenerateUnderlayIpv6 (cf : Conf) (e : Env) (s : VnfState) : Ip6 × VnfState :=
  let start := if s.pfxCounter = 0 then e.randStart.toUInt32 else s.pfxCounter
  let counter := start + 1
  let host := cf.underlayIp.extractLsb' 64 64
  (host ++ (0 : BitVec 24) ++ e.randByte.toBitVec ++ counter.toBitVec, { s with pfxCounter := counter })

def dpCreateVnfRoute (cf : Conf) (e : Env) (s : VnfState) (v : Vnf) : Bool × Ip6 × VnfState :=
  let r := dpGenerateUnderlayIpv6 cf e s
  let a := dpAddVnf e r.2 r.1 v
  (a.1, r.1, a.2)

/-! ## What the operations change -/

/-- Deleting a VNF removes its handle and no other. -/
theorem dpDelVnf_handle (s : VnfState) (ul : Ip6) : (dpDelVnf s ul).2.handleTbl = s.handleTbl.del ul := by
  unfold dpDelVnf dpDeleteVnfValue
  cases h : s.handleTbl ul with
  | none => exact (Table.del_of_none h).symm
  | some v =>
    dsimp only
    cases s.valueTbl v <;> rfl

/-- The underlay address of the next VNF is taken, or the handle table refuses it. -/
def vnfRefused (cf : Conf) (e : Env) (s : VnfState) : Bool :=
  (s.handleTbl (dpGenerateUnderlayIpv6 cf e s).1).isSome || !e.ok .vnfHandleAdd

theorem dpDelVnf_value (s : VnfState) (ul : Ip6) :
    (dpDelVnf s ul).2.valueTbl = match s.handleTbl ul with
      | none => s.valueTbl
      | some v => s.valueTbl.del v := by
  unfold dpDelVnf dpDeleteVnfValue
  cases h : s.handleTbl ul with
  | none => rfl
  | some v =>
    dsimp only
    cases hv : s.valueTbl v with
    | none => exact (Table.del_of_none hv).symm
    | some _ => rfl

/-- The ways an addition ends: refused, both insertions done, or the second one failed. -/
theorem dpAddVnf_cases (e : Env) (s : VnfState) (ul : Ip6) (v : Vnf) :
    (((s.handleTbl ul).isSome || !e.ok .vnfHandleAdd) = true ∧ dpAddVnf e s ul v = (false, s)) ∨
      (((s.handleTbl ul).isSome || !e.ok .vnfHandleAdd) = false ∧ e.ok .vnfValueAdd = true ∧ s.handleTbl ul = none ∧
        dpAddVnf e s ul v = (true, { s with handleTbl := s.handleTbl.add ul v, valueTbl := s.valueTbl.add v ul })) ∨
      (((s.handleTbl ul).isSome || !e.ok .vnfHandleAdd) = false ∧ e.ok .vnfValueAdd = false ∧ s.handleTbl ul = none ∧
        dpAddVnf e s ul v = (false, (dpDelVnf { s with handleTbl := s.handleTbl.add ul v } ul).2)) := by
  unfold dpAddVnf
  by_cases href : ((s.handleTbl ul).isSome || !e.ok .vnfHandleAdd) = true
  · exact .inl ⟨href, if_pos href⟩
  · rw [if_neg href]
    have hrefused := Bool.eq_false_iff.mpr href
    have hfree : s.handleTbl ul = none := by
      rw [Bool.or_eq_false_iff] at hrefused
      exact Option.isSome_eq_false_iff.mp hrefused.1 |> Option.isNone_iff_eq_none.mp
    by_cases hv : e.ok .vnfValueAdd = true
    · exact .inr (.inl ⟨hrefused, hv, hfree, if_pos hv⟩)
    · exact .inr (.inr ⟨hrefused, Bool.eq_false_iff.mpr hv, hfree, if_neg hv⟩)

/-- A creation is refused, or it adds to both tables, or it loses the old entry of the value table. -/
theorem dpCreateVnfRoute_cases (cf : Conf) (e : Env) (s : VnfState) (v : Vnf) :
    (vnfRefused cf e s = true ∧ (dpCreateVnfRoute cf e s v).1 = false ∧
        (dpCreateVnfRoute cf e s v).2.2.handleTbl = s.handleTbl ∧
        (dpCreateVnfRoute cf e s v).2.2.valueTbl = s.valueTbl) ∨
      (vnfRefused cf e s = false ∧ e.ok .vnfValueAdd = true ∧ (dpCreateVnfRoute cf e s v).1 = true ∧
        s.handleTbl (dpCreateVnfRoute cf e s v).2.1 = none ∧
        (dpCreateVnfRoute cf e s v).2.2.handleTbl = s.handleTbl.add (dpCreateVnfRoute cf e s v).2.1 v ∧
        (dpCreateVnfRoute cf e s v).2.2.valueTbl = s.valueTbl.add v (dpCreateVnfRoute cf e s v).2.1) ∨
      (vnfRefused cf e s = false ∧ e.ok .vnfValueAdd = false ∧ (dpCreateVnfRoute cf e s v).1 = false ∧
        (dpCreateVnfRoute cf e s v).2.2.handleTbl = s.handleTbl ∧
        (dpCreateVnfRoute cf e s v).2.2.valueTbl = s.valueTbl.del v) := by
  have hr : dpCreateVnfRoute cf e s v =
      ((dpAddVnf e (dpGenerateUnderlayIpv6 cf e s).2 (dpGenerateUnderlayIpv6 cf e s).1 v).1,
        (dpGenerateUnderlayIpv6 cf e s).1,
        (dpAddVnf e (dpGenerateUnderlayIpv6 cf e s).2 (dpGenerateUnderlayIpv6 cf e s).1 v).2) := rfl
  rcases dpAddVnf_cases e (dpGenerateUnderlayIpv6 cf e s).2 (dpGenerateUnderlayIpv6 cf e s).1 v with
    ⟨href, h⟩ | ⟨href, hv, hfree, h⟩ | ⟨href, hv, hfree, h⟩
  · rw [hr, h]
    exact .inl ⟨href, rfl, rfl, rfl⟩
  · rw [hr, h]
    exact .inr (.inl ⟨href, hv, rfl, hfree, rfl, rfl⟩)
  · rw [hr, h]
    refine .inr (.inr ⟨href, hv, rfl, ?_, ?_⟩)
    · exact (dpDelVnf_handle ..).trans ((Table.del_add ..).trans (Table.del_of_none hfree))
    · refine (dpDelVnf_value ..).trans ?_
      dsimp only
      rw [Table.add_self]
      rfl

/-- A successful creation adds one handle under the new address. -/
theorem dpCreateVnfRoute_made {cf : Conf} {e : Env} {s : VnfState} {v : Vnf}
    (h : (dpCreateVnfRoute cf e s v).1 = true) :
    (dpCreateVnfRoute cf e s v).2.2.handleTbl = s.handleTbl.add (dpCreateVnfRoute cf e s v).2.1 v ∧
      s.handleTbl (dpCreateVnfRoute cf e s v).2.1 = none := by
  obtain ⟨-, hf, -⟩ | ⟨-, -, -, hfree, hh, -⟩ | ⟨-, -, hf, -⟩ := dpCreateVnfRoute_cases cf e s v
  · cases hf.symm.trans h
  · exact ⟨hh, hfree⟩
  · cases hf.symm.trans h

/-- A failed one leaves the handles as they were. -/
theorem dpCreateVnfRoute_failed {cf : Conf} {e : Env} {s : VnfState} {v : Vnf}
    (h : (dpCreateVnfRoute cf e s v).1 = false) : (dpCreateVnfRoute cf e s v).2.2.handleTbl = s.handleTbl := by
  obtain ⟨-, -, hh, -⟩ | ⟨-, -, ht, -⟩ | ⟨-, -, -, hh, -⟩ := dpCreateVnfRoute_cases cf e s v
  · exact hh
  · cases ht.symm.trans h
  · exact hh

/-- A creation that is undone keeps the handles and deletes the entry of its value. -/
theorem dpCreateVnfRoute_undo {cf : Conf} {e : Env} {s : VnfState} {v : Vnf}
    (h : (dpCreateVnfRoute cf e s v).1 = true) :
    (dpDelVnf (dpCreateVnfRoute cf e s v).2.2 (dpCreateVnfRoute cf e s v).2.1).2.handleTbl = s.handleTbl ∧
      (dpDelVnf (dpCreateVnfRoute cf e s v).2.2 (dpCreateVnfRoute cf e s v).2.1).2.valueTbl = s.valueTbl.del v := by
  rcases dpCreateVnfRoute_cases cf e s v with ⟨-, hf, -⟩ | ⟨-, -, -, hfree, hh, hv⟩ | ⟨-, -, hf, -⟩
  · rw [h] at hf
    cases hf
  · rw [dpDelVnf_handle, dpDelVnf_value, hh, hv, Table.add_self]
    exact ⟨(Table.del_add ..).trans (Table.del_of_none hfree), Table.del_add ..⟩
  · rw [h] at hf
    cases hf

end Dpservice
