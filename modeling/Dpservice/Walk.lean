import Dpservice.Service

/-!
# One packet at a time

A packet that is received and passes its nodes before anything else happens. `nodeStep` is one node of its way, and
`run (nodeStep cf c)` the way through several: `run_walks` and `walks_run` translate between such a run and a run of
the whole service, whatever other packets are in flight.
-/

namespace Dpservice

/-- The packet, its next node and the flow state. -/
abbrev OnWay := Dataplane × Mbuf × Node

/-- A packet is processed by its node and stays in the graph. -/
def nodeStep (cf : Conf) (c : Config) (x : OnWay) (e : Env) : Option OnWay :=
  (runNode cf e c x.1 x.2.1 x.2.2).filter fun y => !y.2.2.leaves

/-- The `i`-th packet in flight passes a node for each environment. -/
def walks (i : ℕ) (es : List Env) : List Event := es.map (.walk i)

/-- `m` is received, passes its nodes and is sent as `m₁`; afterwards the state is `s₁`. -/
def Sends (cf : Conf) (s : Service) (m m₁ : Mbuf) (s₁ : Service) : Prop :=
  ∃ es e s', run (step cf) s (.rx m :: walks s.inflight.length es) = some s' ∧
    s'.inflight[s.inflight.length]? = some (.tx, m₁) ∧ step cf s' (.walk s.inflight.length e) = some s₁

section Walk

variable {cf : Conf} {c : Config} {d d' : Dataplane} {m m' : Mbuf} {n n' : Node} {e : Env} {es : List Env}
  {fl : List (Node × Mbuf)} {s s' : Service} {x y : OnWay}

theorem nodeStep_eq_some : nodeStep cf c x e = some y ↔
    runNode cf e c x.1 x.2.1 x.2.2 = some y ∧ y.2.2.leaves = false := by
  simp [nodeStep, Option.filter_eq_some_iff]

/-- The way of a packet starts with its node. -/
theorem run_node (h : runNode cf e c d m n = some (d', m', n')) (hl : n'.leaves = false) :
    run (nodeStep cf c) (d, m, n) (e :: es) = run (nodeStep cf c) (d', m', n') es :=
  run_cons (nodeStep_eq_some.mpr ⟨h, hl⟩)

theorem run_node_inv (h : run (nodeStep cf c) (d, m, n) (e :: es) = some y) : ∃ d' m' n',
    runNode cf e c d m n = some (d', m', n') ∧ n'.leaves = false ∧ run (nodeStep cf c) (d', m', n') es = some y := by
  rw [run] at h
  obtain ⟨⟨d', m', n'⟩, hs, hrun⟩ := Option.bind_eq_some_iff.mp h
  obtain ⟨hnode, hl⟩ := nodeStep_eq_some.mp hs
  exact ⟨d', m', n', hnode, hl, hrun⟩

/-- The last packet in flight is processed. -/
theorem step_last : step cf ⟨c, d, fl ++ [(n, m)]⟩ (.walk fl.length e) = (runNode cf e c d m n).map fun y =>
    ⟨c, y.1, if y.2.2.leaves then fl else fl ++ [(y.2.2, y.2.1)]⟩ := by
  unfold step
  dsimp only
  rw [List.getElem?_concat_length]
  dsimp only
  cases runNode cf e c d m n with
  | none => rfl
  | some y =>
    obtain ⟨d', m', n'⟩ := y
    have herase : (fl ++ [(n, m)]).eraseIdx fl.length = fl := by
      rw [List.eraseIdx_append_of_length_le (Nat.le_refl _)]
      simp
    have hset : (fl ++ [(n, m)]).set fl.length (n', m') = fl ++ [(n', m')] := by
      rw [List.set_append_right _ _ (Nat.le_refl _)]
      simp
    simp only [Option.map_some, herase, hset]

/-- A packet that is still there after a run has been processed by its nodes. -/
theorem run_walks {es : List Env} {d : Dataplane} {m : Mbuf} {n : Node}
    (h : run (step cf) ⟨c, d, fl ++ [(n, m)]⟩ (walks fl.length es) = some s')
    (hi : s'.inflight[fl.length]? = some (n', m')) :
    ∃ d', s' = ⟨c, d', fl ++ [(n', m')]⟩ ∧ run (nodeStep cf c) (d, m, n) es = some (d', m', n') := by
  induction es generalizing d m n with
  | nil =>
    cases h
    rw [List.getElem?_concat_length, Option.some.injEq, Prod.mk.injEq] at hi
    obtain ⟨rfl, rfl⟩ := hi
    exact ⟨d, rfl, rfl⟩
  | cons e es ih =>
    rw [walks, List.map_cons, run, step_last] at h
    obtain ⟨s₁, hs, hrun⟩ := Option.bind_eq_some_iff.mp h
    obtain ⟨⟨d₁, m₁, n₁⟩, hnode, rfl⟩ := Option.map_eq_some_iff.mp hs
    cases hl : n₁.leaves with
    | true =>
      -- the packet has left, so it can be neither processed nor found again
      simp only [hl, if_true] at hrun
      cases es with
      | nil =>
        cases hrun
        simp at hi
      | cons e' es =>
        simp [run, step] at hrun
    | false =>
      simp only [hl, Bool.false_eq_true, if_false] at hrun
      obtain ⟨d', hs', hrun'⟩ := ih hrun
      refine ⟨d', hs', ?_⟩
      rw [run_node hnode hl]
      exact hrun'

/-- The way of a packet as a run of the service. -/
theorem walks_run (h : run (nodeStep cf c) (d, m, n) es = some (d', m', n')) :
    run (step cf) ⟨c, d, fl ++ [(n, m)]⟩ (walks fl.length es) = some ⟨c, d', fl ++ [(n', m')]⟩ := by
  induction es generalizing d m n with
  | nil =>
    cases h
    rfl
  | cons e es ih =>
    obtain ⟨d₁, m₁, n₁, hnode, hl, hrun⟩ := run_node_inv h
    rw [walks, List.map_cons, run, step_last, hnode, Option.map_some, Option.bind_some]
    simp only [hl, Bool.false_eq_true, if_false]
    exact ih hrun

theorem step_rx (h : (s.cfg.port m.port).allocated = true) :
    step cf s (.rx m) = some ⟨s.cfg, s.dpl, s.inflight ++ [(.cls, { m with isRecirc := false })]⟩ := by
  simp [step, h]

/-- The way of a packet that is sent. -/
theorem Sends.way {m₁ : Mbuf} {s₁ : Service} (h : Sends cf s m m₁ s₁) :
    (s.cfg.port m.port).allocated = true ∧ ∃ es e d₁,
      run (nodeStep cf s.cfg) (s.dpl, { m with isRecirc := false }, .cls) es = some (d₁, m₁, .tx) ∧
      txNode cf e s.cfg d₁ m₁ = some s₁.dpl ∧ s₁.cfg = s.cfg ∧ s₁.inflight = s.inflight := by
  obtain ⟨es, e, s', hrun, hi, hstep⟩ := h
  rw [run] at hrun
  obtain ⟨s₀, hrx, hrun⟩ := Option.bind_eq_some_iff.mp hrun
  have hal : (s.cfg.port m.port).allocated = true := by
    by_contra hal
    simp [step, hal] at hrx
  rw [step_rx hal] at hrx
  cases hrx
  obtain ⟨d₁, rfl, hway⟩ := run_walks hrun hi
  rw [step_last] at hstep
  obtain ⟨⟨d₂, m₂, n₂⟩, hnode, rfl⟩ := Option.map_eq_some_iff.mp hstep
  obtain ⟨d₃, htx, heq⟩ := Option.map_eq_some_iff.mp hnode
  cases heq
  exact ⟨hal, es, e, d₁, hway, htx, rfl, rfl⟩

end Walk

end Dpservice
