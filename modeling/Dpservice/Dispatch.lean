import Mathlib.Data.Int.Notation
import Mathlib.Data.List.Basic
import Mathlib.Logic.Function.Basic

/-!
# Bursts of packets

A node of the graph gets its packets in bursts. `dp_foreach_graph_packet` asks a callback for the next node of every
packet. If the node names a next node that most packets go to, the packets are not enqueued one by one: those that go
there are copied later, in runs, to the cells behind the stream of that node.

- `dpForeachGraphPacket` is the model, with the cells behind the stream as memory of any content.
- `trail`: what the callback chooses for the packets, in order.
- `InFlight`: where the packets are that the loop has seen; `InFlight.turn` is one turn, `InFlight.loop` all of them.
- `burst_dispatch`: with and without speculation every packet goes once, in order, to the node that was chosen for it.
-/

namespace Dpservice

/-- `rte_edge_t`. -/
abbrev Edge := UInt16

/-! ## The loops -/

section Loops

variable {σ α : Type*}

/-- `rte_node_enqueue_x1`: the packet is the last one of the stream. -/
def rteNodeEnqueueX1 (streams : Edge → List α) (next : Edge) (pkt : α) : Edge → List α :=
  Function.update streams next (streams next ++ [pkt])

/-- `rte_node_next_stream_put`: the first cells behind the stream belong to it. -/
def rteNodeNextStreamPut (streams : Edge → List α) (next : Edge) (cells : ℕ → α) (held : UInt16) : Edge → List α :=
  Function.update streams next (streams next ++ (List.range held.toNat).map cells)

def rteNodeNextStreamMove (streams : Edge → List α) (next : Edge) (objs : ℕ → α) (nbObjs : UInt16) : Edge → List α :=
  Function.update streams next (streams next ++ (List.range nbObjs.toNat).map objs)

def copyPackets (cells : ℕ → α) (toNext : ℕ) (objs : ℕ → α) (start n : ℕ) : ℕ → α :=
  fun k => if toNext ≤ k ∧ k < toNext + n then objs (start + (k - toNext)) else cells k

/-- The variables of the loop with speculation. -/
structure BurstState (σ α : Type*) where
  /-- Everything that the callback reads and writes. -/
  world : σ
  streams : Edge → List α
  /-- The cells behind the stream of the speculated node. -/
  cells : ℕ → α
  /-- `from`, as an index of the burst. -/
  start : ℕ
  /-- `to_next`, as an index of the cells. -/
  toNext : ℕ
  lastSpec : UInt16
  held : UInt16

/-- One turn of the loop with speculation. -/
def speculativeTurn (getNextIndex : σ → α → σ × Edge) (spec : Edge) (objs : ℕ → α) (i : ℕ) (b : BurstState σ α) :
    BurstState σ α :=
  let next := getNextIndex b.world (objs i)
  if next.2 ≠ spec then
    let start := b.start + b.lastSpec.toNat
    { world := next.1
      streams := rteNodeEnqueueX1 b.streams next.2 (objs start)
      cells := copyPackets b.cells b.toNext objs b.start b.lastSpec.toNat
      start := start + 1
      toNext := b.toNext + b.lastSpec.toNat
      lastSpec := 0
      held := b.held + b.lastSpec }
  else { b with world := next.1, lastSpec := b.lastSpec + 1 }

/-- The first `n` turns of the loop with speculation. -/
def speculativeLoop (getNextIndex : σ → α → σ × Edge) (spec : Edge) (objs : ℕ → α) (b : BurstState σ α) :
    ℕ → BurstState σ α
  | 0 => b
  | i + 1 => speculativeTurn getNextIndex spec objs i (speculativeLoop getNextIndex spec objs b i)

/-- What is left to do behind the loop. -/
def flushBurst (spec : Edge) (objs : ℕ → α) (nbObjs : UInt16) (b : BurstState σ α) : σ × (Edge → List α) :=
  if b.lastSpec = nbObjs then (b.world, rteNodeNextStreamMove b.streams spec objs nbObjs)
  else
    let cells := copyPackets b.cells b.toNext objs b.start b.lastSpec.toNat
    (b.world, rteNodeNextStreamPut b.streams spec cells (b.held + b.lastSpec))

/-- The first `n` turns of the loop that enqueues packets one by one. -/
def plainLoop (getNextIndex : σ → α → σ × Edge) (objs : ℕ → α) (world : σ) (streams : Edge → List α) :
    ℕ → σ × (Edge → List α)
  | 0 => (world, streams)
  | i + 1 =>
    let before := plainLoop getNextIndex objs world streams i
    let next := getNextIndex before.1 (objs i)
    (next.1, rteNodeEnqueueX1 before.2 next.2 (objs i))

/-- `dp_foreach_graph_packet`: what the callback leaves, and the streams. A negative node is
`DP_GRAPH_NO_SPECULATED_NODE`. -/
def dpForeachGraphPacket (getNextIndex : σ → α → σ × Edge) (objs : ℕ → α) (nbObjs : UInt16) (speculatedNode : ℤ)
    (world : σ) (streams : Edge → List α) (cells : ℕ → α) : σ × (Edge → List α) :=
  if 0 ≤ speculatedNode then
    let spec := UInt16.ofNat speculatedNode.toNat
    flushBurst spec objs nbObjs
      (speculativeLoop getNextIndex spec objs ⟨world, streams, cells, 0, 0, 0, 0⟩ nbObjs.toNat)
  else plainLoop getNextIndex objs world streams nbObjs.toNat

end Loops

/-! ## What is chosen -/

section Dispatch

variable {σ α : Type*} (getNextIndex : σ → α → σ × Edge) (objs : ℕ → α) (world : σ)

/-- What the callback leaves after the first packets, and what it has chosen for them. -/
def trail : ℕ → σ × List (α × Edge)
  | 0 => (world, [])
  | i + 1 =>
    let before := trail i
    let next := getNextIndex before.1 (objs i)
    (next.1, before.2 ++ [(objs i, next.2)])

/-- The packets that a node was chosen for. -/
def sentTo (next : Edge) (n : ℕ) : List α :=
  ((trail getNextIndex objs world n).2.filter (·.2 = next)).map Prod.fst

/-- The callback's answer for the next packet. -/
def chosenEdge (i : ℕ) : σ × Edge := getNextIndex (trail getNextIndex objs world i).1 (objs i)

variable {getNextIndex objs world} {streams : Edge → List α} {cells : ℕ → α} {spec e : Edge} {i n : ℕ}
  {b : BurstState σ α}

theorem sentTo_succ : sentTo getNextIndex objs world e (i + 1) = sentTo getNextIndex objs world e i ++
    if (chosenEdge getNextIndex objs world i).2 = e then [objs i] else [] := by
  have hchosen : (trail getNextIndex objs world (i + 1)).2 =
      (trail getNextIndex objs world i).2 ++ [(objs i, (chosenEdge getNextIndex objs world i).2)] := rfl
  rw [sentTo, hchosen, List.filter_append, List.map_append, sentTo]
  by_cases h : (chosenEdge getNextIndex objs world i).2 = e <;> simp [h]

theorem rteNodeEnqueueX1_apply (streams : Edge → List α) (next : Edge) (pkt : α) (e : Edge) :
    rteNodeEnqueueX1 streams next pkt e = streams e ++ if next = e then [pkt] else [] := by
  by_cases h : next = e
  · subst h
    simp [rteNodeEnqueueX1]
  · rw [rteNodeEnqueueX1, Function.update_of_ne (Ne.symm h), if_neg h, List.append_nil]

/-- The loop that enqueues packets one by one. -/
theorem plainLoop_eq (n : ℕ) : plainLoop getNextIndex objs world streams n =
    ((trail getNextIndex objs world n).1, fun e => streams e ++ sentTo getNextIndex objs world e n) := by
  induction n with
  | zero => simp [plainLoop, trail, sentTo]
  | succ n ih =>
    rw [plainLoop, ih]
    refine Prod.ext rfl (funext fun e => ?_)
    change rteNodeEnqueueX1 _ (chosenEdge getNextIndex objs world n).2 (objs n) e = _
    rw [rteNodeEnqueueX1_apply]
    dsimp only
    rw [sentTo_succ, List.append_assoc]

/-! ## Speculation -/

theorem range_copyPackets (cells : ℕ → α) (k : ℕ) (objs : ℕ → α) (start n : ℕ) :
    (List.range (k + n)).map (copyPackets cells k objs start n) =
      (List.range k).map cells ++ (List.range n).map fun j => objs (start + j) := by
  rw [List.range_add, List.map_append, List.map_map]
  refine congrArg₂ _ (List.map_congr_left fun j hj => ?_) (List.map_congr_left fun j hj => ?_)
  · exact if_neg fun h => absurd (List.mem_range.mp hj) (by omega)
  · have hj := List.mem_range.mp hj
    simp only [Function.comp_apply, copyPackets]
    rw [if_pos ⟨by omega, by omega⟩, Nat.add_sub_cancel_left]

/-- Where the first `i` packets of the burst are. -/
structure InFlight (getNextIndex : σ → α → σ × Edge) (objs : ℕ → α) (world : σ) (streams : Edge → List α) (spec : Edge)
    (i : ℕ) (b : BurstState σ α) : Prop where
  after : b.world = (trail getNextIndex objs world i).1
  /-- The packets from `from` on wait to be copied. -/
  waiting : b.start + b.lastSpec.toNat = i
  /-- The packets before are copied to the cells, or enqueued. -/
  copied : b.toNext = b.held.toNat ∧ b.held.toNat ≤ b.start
  speculated : sentTo getNextIndex objs world spec i =
    (List.range b.held.toNat).map b.cells ++ (List.range b.lastSpec.toNat).map fun j => objs (b.start + j)
  others : ∀ e, b.streams e = streams e ++ if e = spec then [] else sentTo getNextIndex objs world e i

/-- The counters of the loop do not overflow. -/
theorem InFlight.held_add (h : InFlight getNextIndex objs world streams spec i b) (hi : i < 65536) :
    (b.held + b.lastSpec).toNat = b.held.toNat + b.lastSpec.toNat := by
  have hwaiting := h.waiting
  have hcopied := h.copied.2
  rw [UInt16.toNat_add, Nat.mod_eq_of_lt (by omega)]

/-- The waiting packets, copied behind the others. -/
theorem InFlight.flush (h : InFlight getNextIndex objs world streams spec i b) (hi : i < 65536) :
    (List.range (b.held + b.lastSpec).toNat).map (copyPackets b.cells b.toNext objs b.start b.lastSpec.toNat) =
      sentTo getNextIndex objs world spec i := by
  rw [h.held_add hi, h.copied.1, range_copyPackets, h.speculated]

theorem InFlight.turn (h : InFlight getNextIndex objs world streams spec i b) (hi : i < 65535) :
    InFlight getNextIndex objs world streams spec (i + 1) (speculativeTurn getNextIndex spec objs i b) := by
  have hadd := h.held_add (by omega)
  have hwaiting := h.waiting
  unfold speculativeTurn
  rw [h.after]
  change InFlight getNextIndex objs world streams spec (i + 1)
    (if (chosenEdge getNextIndex objs world i).2 ≠ spec then _ else _)
  split
  next hne =>
    refine ⟨rfl, ?_, ⟨?_, ?_⟩, ?_, fun e => ?_⟩
    · simp only [UInt16.toNat_zero]
      omega
    · rw [hadd, h.copied.1]
    · rw [hadd]
      have := h.copied.2
      dsimp only
      omega
    · rw [sentTo_succ, if_neg hne, List.append_nil, ← h.flush (by omega)]
      simp
    · change rteNodeEnqueueX1 b.streams (chosenEdge getNextIndex objs world i).2
        (objs (b.start + b.lastSpec.toNat)) e = _
      rw [hwaiting, rteNodeEnqueueX1_apply, h.others, sentTo_succ]
      by_cases he : e = spec
      · rw [if_pos he, if_pos he, if_neg (he ▸ hne), List.append_nil]
      · rw [if_neg he, if_neg he, List.append_assoc]
  next heq =>
    have heq : (chosenEdge getNextIndex objs world i).2 = spec := not_not.mp heq
    have hlast : (b.lastSpec + 1).toNat = b.lastSpec.toNat + 1 := by
      rw [UInt16.toNat_add, UInt16.toNat_one, Nat.mod_eq_of_lt (by omega)]
    refine ⟨rfl, ?_, h.copied, ?_, fun e => ?_⟩
    · dsimp only
      rw [hlast]
      omega
    · dsimp only
      rw [sentTo_succ, if_pos heq, h.speculated, hlast, List.range_succ, List.map_append, List.append_assoc,
        List.map_singleton, hwaiting]
    · dsimp only
      rw [h.others, sentTo_succ]
      by_cases he : e = spec
      · rw [if_pos he, if_pos he]
      · rw [if_neg he, if_neg he, if_neg fun h => he (h.symm.trans heq), List.append_nil]

theorem InFlight.loop (hn : n < 65536) : InFlight getNextIndex objs world streams spec n
    (speculativeLoop getNextIndex spec objs ⟨world, streams, cells, 0, 0, 0, 0⟩ n) := by
  induction n with
  | zero => exact ⟨rfl, rfl, ⟨rfl, Nat.le_refl 0⟩, rfl, fun e => by simp [speculativeLoop, sentTo, trail]⟩
  | succ n ih => exact (ih (by omega)).turn (by omega)

/-- Behind the loop the packets that were held are handed over. -/
theorem InFlight.flushBurst_eq {nbObjs : UInt16} (h : InFlight getNextIndex objs world streams spec nbObjs.toNat b) :
    flushBurst spec objs nbObjs b =
      ((trail getNextIndex objs world nbObjs.toNat).1,
        fun e => streams e ++ sentTo getNextIndex objs world e nbObjs.toNat) := by
  have hspec : ∀ (handed : List α), handed = sentTo getNextIndex objs world spec nbObjs.toNat →
      Function.update b.streams spec (b.streams spec ++ handed) =
        fun e => streams e ++ sentTo getNextIndex objs world e nbObjs.toNat := by
    rintro handed rfl
    funext e
    by_cases he : e = spec
    · subst he
      rw [Function.update_self, h.others, if_pos rfl, List.append_nil]
    · rw [Function.update_of_ne he, h.others, if_neg he]
  unfold flushBurst
  split
  next hall =>
    have hwaiting := h.waiting
    have hcopied := h.copied.2
    rw [hall] at hwaiting
    have hstart : b.start = 0 := by omega
    have hheld : b.held.toNat = 0 := by omega
    refine Prod.ext h.after (hspec _ ?_)
    rw [h.speculated, hheld, hall, hstart]
    simp
  next => exact Prod.ext h.after (hspec _ (h.flush nbObjs.toNat_lt))

end Dispatch

/-- **Bursts**: with and without a speculated node, every packet of the burst goes once, in the order of the burst, to
the node that the callback has chosen for it. -/
theorem burst_dispatch {σ α : Type*} (getNextIndex : σ → α → σ × Edge) (objs : ℕ → α) (nbObjs : UInt16)
    (speculatedNode : ℤ) (world : σ) (streams : Edge → List α) (cells : ℕ → α) :
    dpForeachGraphPacket getNextIndex objs nbObjs speculatedNode world streams cells =
        dpForeachGraphPacket getNextIndex objs nbObjs (-1) world streams cells ∧
      dpForeachGraphPacket getNextIndex objs nbObjs speculatedNode world streams cells =
        ((trail getNextIndex objs world nbObjs.toNat).1,
          fun e => streams e ++ sentTo getNextIndex objs world e nbObjs.toNat) := by
  have hall : ∀ node, dpForeachGraphPacket getNextIndex objs nbObjs node world streams cells =
      ((trail getNextIndex objs world nbObjs.toNat).1,
        fun e => streams e ++ sentTo getNextIndex objs world e nbObjs.toNat) := by
    intro node
    unfold dpForeachGraphPacket
    split
    · exact (InFlight.loop nbObjs.toNat_lt).flushBurst_eq
    · exact plainLoop_eq nbObjs.toNat
  exact ⟨(hall _).trans (hall _).symm, hall _⟩

end Dpservice
