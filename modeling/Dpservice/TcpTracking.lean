import Mathlib.Algebra.Ring.Parity
import Mathlib.Data.List.DropRight
import Dpservice.Lib.Scan
import Dpservice.OffloadState

/-!
# Tracking TCP connections

A TCP flow is in state ESTABLISHED, with a timeout of a day, when its packets have made a connection: one with SYN, a
later one with SYN and ACK, a later one with ACK. RST and FIN end it.

- `Handshake` says that a list of packets makes a connection; the state of the machine is the part of it that is still
  awaited (`TcpState.awaits`).
- FIN leads from ESTABLISHED to FINWAIT, where no SYN is noticed: of connections that follow one another, each ended by
  one FIN, every second one is missed (`finishedInRow`).
- `tcpFollows_run`: in every run, the state of every flow is what the headers of its packets say; `tcp_tracking` is what
  follows for the timeout.
-/

namespace Dpservice

/-! ## Connections -/

/-- The packets make a connection. -/
def Handshake (l : List L4Hdr) : Prop :=
  ∃ syn synack ack, [syn, synack, ack].Sublist l ∧ syn.tcpSyn = true ∧
    (synack.tcpSyn = true ∧ synack.tcpAck = true) ∧ ack.tcpAck = true

/-- A packet that ends a connection. -/
def ends (h : L4Hdr) : Bool := h.tcpRst || h.tcpFin

/-- The packets after the last one that ends a connection. -/
def currentPart (l : List L4Hdr) : List L4Hdr := l.rtakeWhile fun h => !ends h

/-- What makes a connection, in this order. -/
def handshakeTests : List (L4Hdr → Bool) := [(·.tcpSyn), fun h => h.tcpSyn && h.tcpAck, (·.tcpAck)]

theorem handshake_iff {l : List L4Hdr} : Handshake l ↔ awaited handshakeTests l = [] := by
  rw [awaited_eq_nil]
  constructor
  · rintro ⟨syn, synack, ack, hl, h₁, ⟨h₂, h₂'⟩, h₃⟩
    exact ⟨_, hl, .cons h₁ (.cons (by simp [h₂, h₂']) (.cons h₃ .nil))⟩
  · rintro ⟨l', hl, h⟩
    cases h with
    | cons h₁ h =>
      cases h with
      | cons h₂ h =>
        cases h with
        | cons h₃ h =>
          cases h
          exact ⟨_, _, _, hl, h₁, by simpa using h₂, h₃⟩

instance (l : List L4Hdr) : Decidable (Handshake l) :=
  decidable_of_iff ((awaited handshakeTests l).isEmpty = true) (List.isEmpty_iff.trans handshake_iff.symm)

/-- How many connections in a row, each ended by a FIN, come before the current part; the newest packet is the first. -/
def finishedRev : List L4Hdr → ℕ
  | [] => 0
  | h :: older =>
    if h.tcpRst then 0
    else if h.tcpFin then if Handshake (currentPart older.reverse) then finishedRev older + 1 else 0
    else finishedRev older

/-- How many connections in a row, each ended by a FIN and none by RST, come before the current part. -/
def finishedInRow (l : List L4Hdr) : ℕ := finishedRev l.reverse

section Parts

variable {l : List L4Hdr} {h : L4Hdr}

@[simp] theorem finishedInRow_nil : finishedInRow [] = 0 := rfl

theorem finishedInRow_concat : finishedInRow (l ++ [h]) =
    if h.tcpRst then 0
    else if h.tcpFin then if Handshake (currentPart l) then finishedInRow l + 1 else 0
    else finishedInRow l := by
  rw [finishedInRow, List.reverse_concat, finishedRev, List.reverse_reverse]
  rfl

@[simp] theorem currentPart_nil : currentPart [] = [] := rfl

theorem currentPart_ends (he : ends h = true) : currentPart (l ++ [h]) = [] := by
  rw [currentPart, List.rtakeWhile_concat, if_neg (by simp [he])]

theorem currentPart_goes (he : ends h = false) : currentPart (l ++ [h]) = currentPart l ++ [h] := by
  rw [currentPart, List.rtakeWhile_concat, if_pos (by simp [he])]
  rfl

end Parts

/-! ## The states -/

def TcpState.awaits : TcpState → List (L4Hdr → Bool)
  | .newSyn => [fun h => h.tcpSyn && h.tcpAck, (·.tcpAck)]
  | .newSynack => [(·.tcpAck)]
  | .established => []
  | .none | .rstFin | .finwait => handshakeTests

theorem awaits_eq_nil {s : TcpState} : s.awaits = [] ↔ s = .established := by
  cases s <;> simp [TcpState.awaits, handshakeTests]

/-- The state after these packets: FINWAIT after an odd number of connections that FIN ended, else what is awaited after
the current part. -/
def TcpFollows (l : List L4Hdr) (s : TcpState) : Prop :=
  if Odd (finishedInRow l) then s = .finwait
  else s ≠ .finwait ∧ s.awaits = awaited handshakeTests (currentPart l)

section States

variable {l : List L4Hdr} {h : L4Hdr} {s : TcpState}

theorem TcpFollows.init : TcpFollows [] .none := by
  rw [TcpFollows, if_neg (by simp)]
  exact ⟨nofun, rfl⟩

/-- A connection is established where the current part makes one and an even number went before. -/
theorem TcpFollows.established (hs : TcpFollows l s) :
    s = .established ↔ Handshake (currentPart l) ∧ ¬Odd (finishedInRow l) := by
  unfold TcpFollows at hs
  split at hs
  next hodd =>
    rw [hs]
    exact iff_of_false nofun fun h => h.2 hodd
  next hodd =>
    rw [← awaits_eq_nil, hs.2, ← handshake_iff]
    exact (and_iff_left hodd).symm

/-- A packet that ends nothing. -/
theorem dpCntrackTcpState_goes (he : ends h = false) (hs : s ≠ .finwait) :
    dpCntrackTcpState s h ≠ .finwait ∧ (dpCntrackTcpState s h).awaits = await s.awaits h := by
  obtain ⟨hrst, hfin⟩ : h.tcpRst = false ∧ h.tcpFin = false := by simpa [ends] using he
  simp only [dpCntrackTcpState, hrst, hfin, Bool.false_eq_true, if_false]
  cases s with
  | finwait => exact absurd rfl hs
  | none | rstFin => cases hsyn : h.tcpSyn <;> simp [TcpState.awaits, handshakeTests, await, hsyn]
  | newSyn => cases hsyn : h.tcpSyn && h.tcpAck <;> simp [TcpState.awaits, await, hsyn]
  | newSynack => cases hack : h.tcpAck <;> simp [TcpState.awaits, await, hack]
  | established => simp [TcpState.awaits, await]

/-- **One packet.** -/
theorem TcpFollows.packet (hs : TcpFollows l s) (h : L4Hdr) : TcpFollows (l ++ [h]) (dpCntrackTcpState s h) := by
  have hfresh : ∀ {n}, finishedInRow (l ++ [h]) = n → ¬Odd n → ends h = true → dpCntrackTcpState s h = .rstFin →
      TcpFollows (l ++ [h]) (dpCntrackTcpState s h) := by
    intro n hn hodd he hst
    rw [TcpFollows, hn, if_neg hodd, hst, currentPart_ends he]
    exact ⟨nofun, rfl⟩
  cases hrst : h.tcpRst with
  | true =>
    refine hfresh (n := 0) ?_ (by simp) (by simp [ends, hrst]) (by simp [dpCntrackTcpState, hrst])
    simp [finishedInRow_concat, hrst]
  | false =>
    cases hfin : h.tcpFin with
    | true =>
      have he : ends h = true := by simp [ends, hfin]
      by_cases hest : s = .established
      · obtain ⟨hhand, hodd⟩ := hs.established.mp hest
        have hcount : finishedInRow (l ++ [h]) = finishedInRow l + 1 := by
          simp [finishedInRow_concat, hrst, hfin, hhand]
        rw [TcpFollows, hcount, if_pos (Nat.odd_add_one.mpr hodd)]
        simp [dpCntrackTcpState, hrst, hfin, hest]
      · have hst : dpCntrackTcpState s h = .rstFin := by simp [dpCntrackTcpState, hrst, hfin, hest]
        refine hfresh (n := if Handshake (currentPart l) then finishedInRow l + 1 else 0) ?_ ?_ he hst
        · simp [finishedInRow_concat, hrst, hfin]
        · split
          next hhand =>
            have hodd : Odd (finishedInRow l) := by
              by_contra hodd
              exact hest (hs.established.mpr ⟨hhand, hodd⟩)
            exact fun h => Nat.odd_add_one.mp h hodd
          · simp
    | false =>
      have he : ends h = false := by simp [ends, hrst, hfin]
      unfold TcpFollows at hs ⊢
      have hcount : finishedInRow (l ++ [h]) = finishedInRow l := by simp [finishedInRow_concat, hrst, hfin]
      rw [hcount, currentPart_goes he, awaited_concat]
      split at hs
      next hodd =>
        rw [if_pos hodd, hs]
        simp [dpCntrackTcpState, hrst, hfin]
      next hodd =>
        rw [if_neg hodd, ← hs.2]
        exact dpCntrackTcpState_goes he hs.1

end States

/-! ## Whole runs -/

/-- A service, and the headers of the tracked packets of every flow since it was made. -/
structure TcpRun where
  svc : Service
  seen : ℕ → List L4Hdr := fun _ => []

/-- The flow and the header of the packet that connection tracking handles in a step. -/
def handledTcp (cf : Conf) (s : Service) : Event → Option (ℕ × L4Hdr)
  | .walk i e =>
    match s.inflight[i]? with
    | some (.conntrack, m) =>
      match runNode cf e s.cfg s.dpl m .conntrack with
      | none => none
      | some (_, m', _) => if tracksTcp m'.df then m'.df.conntrack.map fun f => (f, m.l4) else none
    | _ => none
  | _ => none

/-- Note a handled packet. -/
def noteTcp (seen : ℕ → List L4Hdr) : Option (ℕ × L4Hdr) → ℕ → List L4Hdr
  | none => seen
  | some (f, h) => Function.update seen f (seen f ++ [h])

def tcpStep (cf : Conf) (r : TcpRun) (ev : Event) : Option TcpRun :=
  (step cf r.svc ev).map fun s => { svc := s, seen := noteTcp r.seen (handledTcp cf r.svc ev) }

/-- The TCP state follows from the packets, the timeout from the TCP state. -/
def TcpOk (cf : Conf) (l : List L4Hdr) (t : TcpState × UInt32) : Prop := TcpFollows l t.1 ∧ t.2 = tcpTimeout cf t.1

/-- The flows are tracked right, and no packet of a flow that has yet to be made was noted. -/
structure TcpTracked (cf : Conf) (r : TcpRun) : Prop where
  tracked : Tracked r.svc
  fresh : ∀ f, r.svc.dpl.nextFlow ≤ f → r.seen f = []
  flows : ∀ f fv, r.svc.dpl.flows f = some fv → TcpOk cf (r.seen f) fv.tcp

section Run

variable {cf : Conf} {r r' : TcpRun} {s' : Service} {ev : Event} {es : List Event} {l : List L4Hdr} {h : L4Hdr}
  {df : DpFlow} {t : TcpState × UInt32} {d d' : Dataplane}

theorem TcpOk.init : TcpOk cf [] (.none, cf.flowTimeout) := ⟨.init, rfl⟩

/-- A handled packet. -/
theorem TcpOk.after (ht : TcpOk cf l t) : TcpOk cf (if tracksTcp df then l ++ [h] else l) (tcpAfter cf df h t) := by
  unfold tcpAfter
  split
  · exact ⟨ht.1.packet h, rfl⟩
  · exact ht

/-- Every flow was there before, in the same TCP state and with the same timeout. -/
def TcpKept (d d' : Dataplane) : Prop := ∀ f fv', d'.flows f = some fv' → ∃ fv, d.flows f = some fv ∧ fv'.tcp = fv.tcp

theorem OffKept.tcp (h : OffKept d d') : TcpKept d d' := by
  intro f fv' hf'
  obtain ⟨fv, hf, hu⟩ := h f fv' hf'
  exact ⟨fv, hf, hu.tcp⟩

/-- Connection tracking apart, nodes do not care about TCP. -/
theorem NodeOff.tcp {e : Env} {c : Config} {n n' : Node} {m m' : Mbuf} (h : NodeOff cf e c d n m d' m' n')
    (hn : n ≠ .conntrack) : TcpKept d d' := by
  cases h with
  | cls _ hk _ => exact hk.tcp
  | conntrack heq _ _ _ => exact absurd heq hn
  | other _ _ hk _ => exact hk.tcp
  | snat _ _ hoff _ =>
    cases hoff with
    | kept hk => exact hk.tcp
    | nat f fv fv' r hturn _ _ hflows _ _ _ htcp =>
      intro g gv hg
      rw [hflows, Table.add_eq_some] at hg
      obtain ⟨rfl, rfl⟩ | ⟨-, hg⟩ := hg
      · exact ⟨fv, (natTurn_inv hturn).2.2.1, htcp⟩
      · exact ⟨gv, hg, rfl⟩

/-- Where nothing is noted and TCP sees no change of the flows, they are tracked right. -/
theorem TcpTracked.kept (ht : TcpTracked cf r) (hs : step cf r.svc ev = some s') (hk : TcpKept r.svc.dpl s'.dpl) :
    TcpTracked cf { svc := s', seen := r.seen } where
  tracked := ht.tracked.step hs
  fresh f hf := ht.fresh f (Nat.le_trans (step_nextFlow ht.tracked hs) hf)
  flows f fv' hf' := by
    obtain ⟨fv, hf, hu⟩ := hk f fv' hf'
    rw [hu]
    exact ht.flows f fv hf

/-- Connection tracking handles a packet. -/
theorem TcpTracked.conntrack {i : ℕ} {e : Env} {m m' : Mbuf} {n' : Node} (ht : TcpTracked cf r)
    (hs : step cf r.svc (.walk i e) = some s') (hi : r.svc.inflight[i]? = some (.conntrack, m))
    (hr : runNode cf e r.svc.cfg r.svc.dpl m .conntrack = some (s'.dpl, m', n'))
    (hoff : ConntrackOff cf e r.svc.cfg r.svc.dpl m s'.dpl m') :
    TcpTracked cf { svc := s', seen := noteTcp r.seen (handledTcp cf r.svc (.walk i e)) } := by
  have hseen : handledTcp cf r.svc (.walk i e) =
      if tracksTcp m'.df then m'.df.conntrack.map fun f => (f, m.l4) else none := by
    simp only [handledTcp, hi, hr]
  have hb' := (ht.tracked.step hs).base
  have hnote : ∀ {f fv₀ fv}, m'.df.conntrack = some f → r.svc.dpl.flows.add f fv = s'.dpl.flows →
      fv.tcp = tcpAfter cf m'.df m.l4 fv₀ → TcpOk cf (r.seen f) fv₀ →
      TcpTracked cf { svc := s', seen := noteTcp r.seen (handledTcp cf r.svc (.walk i e)) } := by
    intro f t fv hc hflows htcp hok
    have hnoted : noteTcp r.seen (handledTcp cf r.svc (.walk i e)) =
        Function.update r.seen f (if tracksTcp m'.df then r.seen f ++ [m.l4] else r.seen f) := by
      rw [hseen, hc]
      split
      · rfl
      · exact (Function.update_eq_self f r.seen).symm
    have hlt : f < s'.dpl.nextFlow := hb'.live_lt f fv (by rw [← hflows]; exact Table.add_self ..)
    rw [hnoted]
    refine ⟨ht.tracked.step hs, fun g hg => ?_, fun g gv hg => ?_⟩ <;> dsimp only
    · have hne : g ≠ f := fun heq => absurd hlt (Nat.not_lt.mpr (heq ▸ hg))
      rw [Function.update_of_ne hne]
      exact ht.fresh g (Nat.le_trans (step_nextFlow ht.tracked hs) hg)
    · change s'.dpl.flows g = some gv at hg
      rw [← hflows, Table.add_eq_some] at hg
      obtain ⟨rfl, rfl⟩ | ⟨hne, hg⟩ := hg
      · rw [Function.update_self, htcp]
        exact hok.after
      · rw [Function.update_of_ne hne]
        exact ht.flows g gv hg
  cases hoff with
  | kept hk hc =>
    have hnone : handledTcp cf r.svc (.walk i e) = none := by
      rw [hseen, hc]
      exact ite_self _
    rw [hnone]
    exact ht.kept hs hk.tcp
  | known f fv df _ hf hflows hc _ _ htcp =>
    refine hnote hc hflows.symm ?_ (ht.flows f fv hf)
    rw [advance_tcp, tcpAfter, tcpAfter, htcp]
  | made fv hflows _ hc _ htcp =>
    refine hnote hc hflows.symm htcp ?_
    rw [ht.fresh _ (Nat.le_refl _)]
    exact .init

/-- **One step.** -/
theorem TcpTracked.step (ht : TcpTracked cf r) (h : tcpStep cf r ev = some r') : TcpTracked cf r' := by
  obtain ⟨s', hs, rfl⟩ := Option.map_eq_some_iff.mp h
  have hquiet : (∀ i e, ev ≠ .walk i e) → OffKept r.svc.dpl s'.dpl := by
    intro hne
    obtain ⟨i, e, -, -, -, -, heq, -⟩ | ⟨-, hk, -⟩ := step_off ht.tracked hs
    · exact absurd heq (hne i e)
    · exact hk
  cases ev with
  | rx m => exact ht.kept hs (hquiet nofun).tcp
  | request q e order => exact ht.kept hs (hquiet nofun).tcp
  | flowAging e ctxs order => exact ht.kept hs (hquiet nofun).tcp
  | walk i e =>
    obtain ⟨n, m, m', n', hi, hr, -⟩ := step_walk hs
    have hok := ht.tracked.pkts _ (List.mem_of_getElem? hi)
    by_cases hn : n = .conntrack
    · subst hn
      exact ht.conntrack hs hi hr ((conntrackNode_cases hr).off hok)
    · have hnone : handledTcp cf r.svc (.walk i e) = none := by
        simp only [handledTcp, hi]
        split
        next heq =>
          cases heq
          exact absurd rfl hn
        · rfl
      rw [hnone]
      exact ht.kept hs ((runNode_off hok hr).tcp hn)

/-- **In every run, the TCP state of every flow follows from the packets of the flow.** -/
theorem tcpTracked_run (h : run (tcpStep cf) { svc := Service.init cf } es = some r) : TcpTracked cf r := by
  refine run_invariant (P := fun _ _ => True) (fun _ _ _ ht _ hs => ht.step hs) ?_ (along_true _ _) h
  exact ⟨.init cf, fun _ _ => rfl, fun _ _ hf => by cases hf⟩

end Run

/-- The flow is established, with a timeout of a day, exactly if the packets after the last RST or FIN make a
connection, and otherwise its timeout is the default. -/
def TrackedRight (cf : Conf) (l : List L4Hdr) (fv : FlowValue) : Prop :=
  (fv.tcpState = .established ∧ fv.timeoutValue = tcpExtendedTimeout ↔ Handshake (currentPart l)) ∧
    (¬Handshake (currentPart l) → fv.timeoutValue = cf.flowTimeout)

/-- **TCP connections are tracked right where an even number of connections in a row ended by FIN before the current
one**, and only there: every second one of them is missed. -/
theorem tcp_tracking {cf : Conf} {es : List Event} {r : TcpRun} {f : ℕ} {fv : FlowValue}
    (h : run (tcpStep cf) { svc := Service.init cf } es = some r) (hf : r.svc.dpl.flows f = some fv) :
    TrackedRight cf (r.seen f) fv ↔ (Handshake (currentPart (r.seen f)) → Even (finishedInRow (r.seen f))) := by
  obtain ⟨hst, htime⟩ := (tcpTracked_run h).flows f fv hf
  replace htime : fv.timeoutValue = tcpTimeout cf fv.tcpState := htime
  have hest : fv.tcpState = .established ∧ fv.timeoutValue = tcpExtendedTimeout ↔
      Handshake (currentPart (r.seen f)) ∧ ¬Odd (finishedInRow (r.seen f)) := by
    rw [← TcpFollows.established hst]
    exact and_iff_left_of_imp fun heq => htime.trans (if_pos heq)
  rw [TrackedRight, hest, Nat.not_odd_iff_even]
  constructor
  · intro hright hhand
    exact (hright.1.mpr hhand).2
  · intro heven
    refine ⟨⟨And.left, fun hhand => ⟨hhand, heven hhand⟩⟩, fun hno => ?_⟩
    rw [htime, tcpTimeout, if_neg]
    exact fun heq => hno (hst.established.mp heq).1

/-- Packets of a TCP connection of interface 7; each one is tracked before the next one comes. -/
def conversation (l : List L4Hdr) : List Event :=
  requests smallSetup ++ l.zipIdx.flatMap fun p => [.rx { tcpPacket with l4 := p.1 }, .walk p.2 {}, .walk p.2 {}]

/-- A packet of the connection with the given flags. -/
def segment (syn ack fin : Bool) : L4Hdr :=
  { srcPort := 1000, dstPort := 80, tcpSyn := syn, tcpAck := ack, tcpFin := fin }

/-- SYN, SYN and ACK, ACK. -/
def opening : List L4Hdr := [segment true false false, segment true true false, segment false true false]

theorem tcp_tracking_opening :
    ∃ r fv, run (tcpStep smallConf) { svc := Service.init smallConf } (conversation opening) =
    some r ∧ r.svc.dpl.flows 0 = some fv ∧ r.seen 0 = opening ∧ TrackedRight smallConf opening fv := by
  obtain ⟨r, hr, hflow, hseen⟩ : ∃ r,
      run (tcpStep smallConf) { svc := Service.init smallConf } (conversation opening) = some r ∧
      (r.svc.dpl.flows 0).isSome = true ∧ r.seen 0 = opening := by decide +kernel
  obtain ⟨fv, hf⟩ := Option.isSome_iff_exists.mp hflow
  have hright := tcp_tracking hr hf
  rw [hseen] at hright
  exact ⟨r, fv, hr, hf, hseen, hright.mpr (by decide)⟩

/-- A connection is made, ended by a FIN and made again: it is missed. -/
theorem tcp_tracking_reopened : ∃ r fv, run (tcpStep smallConf) { svc := Service.init smallConf }
      (conversation (opening ++ [segment false true true] ++ opening)) = some r ∧ r.svc.dpl.flows 0 = some fv ∧
    r.seen 0 = opening ++ [segment false true true] ++ opening ∧ Handshake (currentPart (r.seen 0)) ∧
    fv.tcpState = .finwait ∧ fv.timeoutValue = 30 := by
  obtain ⟨r, hr, hseen, fv, hf, hstate, htimeout⟩ : ∃ r, run (tcpStep smallConf) { svc := Service.init smallConf }
      (conversation (opening ++ [segment false true true] ++ opening)) = some r ∧
      r.seen 0 = opening ++ [segment false true true] ++ opening ∧
      ∃ fv, r.svc.dpl.flows 0 = some fv ∧ fv.tcpState = .finwait ∧ fv.timeoutValue = 30 := by decide +kernel
  refine ⟨r, fv, hr, hf, hseen, ?_, hstate, htimeout⟩
  rw [hseen]
  decide

end Dpservice
