import Mathlib.Tactic.Common

/-!
# Runs of a partial step function

`step s e = some s'` says that event `e` leads from `s` to `s'`; where it is `none` the event is not enabled, or the
program has no defined behaviour there. `run step s es` is the state after the events `es`, and `Along step P s es`
says that every step of that run satisfies `P` in the state before it. An invariant kept by every step that satisfies
`P` holds after every run along which `P` holds (`run_invariant`; `run_total` where the steps are also defined).
`foldlM_invariant` and `foldlM_total` are the same rules for a loop.
-/

namespace Dpservice

/-- Quantifiers over the members of a list or the value of an option are decided by these, never by all values of the
type. -/
instance (priority := 2000) decidableForallMem {α : Type*} (P : α → Prop) [DecidablePred P] (l : List α) :
    Decidable (∀ a ∈ l, P a) := List.decidableBAll P l

instance (priority := 2000) decidableForallMemOption {α : Type*} (P : α → Prop) [DecidablePred P] (o : Option α) :
    Decidable (∀ a ∈ o, P a) := Option.decidableForallMem o

instance (priority := 2000) decidableImp (p q : Prop) [Decidable p] [Decidable q] : Decidable (p → q) :=
  instDecidableForall

instance (priority := 2000) decidableExistsSome {α : Type*} (o : Option α) (P : α → Prop) [DecidablePred P] :
    Decidable (∃ a, o = some a ∧ P a) := inferInstanceAs (Decidable (∃ a ∈ o, P a))

/-- The result of a partial function, from what is checked of it. -/
theorem exists_some_imp {α : Type*} {o : Option α} {P Q : α → Prop} (h : ∃ a, o = some a ∧ P a)
    (hq : ∀ a, o = some a → P a → Q a) : ∃ a, o = some a ∧ Q a := by
  obtain ⟨a, ha, hp⟩ := h
  exact ⟨a, ha, hq a ha hp⟩

theorem exists_some_of {α : Type*} {o : Option α} {Q : α → Prop} (h : o.isSome = true) (hq : ∀ a, o = some a → Q a) :
    ∃ a, o = some a ∧ Q a := by
  obtain ⟨a, ha⟩ := Option.isSome_iff_exists.mp h
  exact ⟨a, ha, hq a ha⟩

variable {σ ε : Type*}

/-- The state after a list of events. -/
def run (step : σ → ε → Option σ) : σ → List ε → Option σ
  | s, [] => some s
  | s, e :: es => (step s e).bind fun s' => run step s' es

/-- Every step of a run satisfies `P`. -/
def Along (step : σ → ε → Option σ) (P : σ → ε → Prop) : σ → List ε → Prop
  | _, [] => True
  | s, e :: es => P s e ∧ ∀ s' ∈ step s e, Along step P s' es

variable {step : σ → ε → Option σ} {P Q : σ → ε → Prop} {I : σ → Prop} {s s' : σ} {e : ε} {es : List ε}

@[simp] theorem run_nil : run step s [] = some s := rfl

theorem run_cons (h : step s e = some s') : run step s (e :: es) = run step s' es := by
  simp [run, h]

theorem run_append (s : σ) (es es' : List ε) :
    run step s (es ++ es') = (run step s es).bind fun s' => run step s' es' := by
  induction es generalizing s with
  | nil => rfl
  | cons e es ih =>
    rw [List.cons_append, run, run, Option.bind_assoc]
    exact congrArg (Option.bind (step s e)) (funext ih)

@[simp] theorem along_nil : Along step P s [] := trivial

theorem along_cons (h : step s e = some s') : Along step P s (e :: es) ↔ P s e ∧ Along step P s' es := by
  simp [Along, h]

/-- A run of two parts. -/
theorem along_append {es' : List ε} (h : run step s es = some s') :
    Along step P s (es ++ es') ↔ Along step P s es ∧ Along step P s' es' := by
  induction es generalizing s with
  | nil =>
    cases h
    exact (and_iff_right trivial).symm
  | cons e es ih =>
    obtain ⟨s₁, hs, hr⟩ := Option.bind_eq_some_iff.mp h
    rw [List.cons_append, along_cons hs, along_cons hs, ih hr, and_assoc]

instance Along.decidable [∀ s e, Decidable (P s e)] : ∀ (s : σ) (es : List ε), Decidable (Along step P s es)
  | _, [] => .isTrue trivial
  | s, e :: es =>
    have : ∀ s', Decidable (Along step P s' es) := fun s' => Along.decidable s' es
    inferInstanceAs (Decidable (P s e ∧ ∀ s' ∈ step s e, Along step P s' es))

/-- An invariant of the steps that satisfy `P` is an invariant of the runs that do. -/
theorem run_invariant (hstep : ∀ s e s', I s → P s e → step s e = some s' → I s') :
    ∀ {es : List ε} {s s' : σ}, I s → Along step P s es → run step s es = some s' → I s'
  | [], s, s', hI, _, hr => by
    simp only [run_nil, Option.some.injEq] at hr
    exact hr ▸ hI
  | e :: es, s, s', hI, ha, hr => by
    cases hs : step s e with
    | none => simp [run, hs] at hr
    | some s₁ =>
      rw [run_cons hs] at hr
      rw [along_cons hs] at ha
      exact run_invariant hstep (hstep s e s₁ hI ha.1 hs) ha.2 hr

/-- Where every step that satisfies `P` is defined and keeps an invariant, so is every run. -/
theorem run_total (hstep : ∀ s e, I s → P s e → ∃ s', step s e = some s' ∧ I s') :
    ∀ {es : List ε} {s : σ}, I s → Along step P s es → ∃ s', run step s es = some s' ∧ I s'
  | [], s, hI, _ => ⟨s, rfl, hI⟩
  | e :: es, s, hI, ha => by
    obtain ⟨s₁, hs, h₁⟩ := hstep s e hI ha.1
    rw [run_cons hs]
    exact run_total hstep h₁ (ha.2 s₁ hs)

theorem along_true (s : σ) (es : List ε) : Along step (fun _ _ => True) s es := by
  induction es generalizing s with
  | nil => trivial
  | cons e es ih => exact ⟨trivial, fun s' _ => ih s'⟩

/-- What all events satisfy, every step satisfies. -/
theorem along_of_forall {Q : ε → Prop} (h : ∀ e ∈ es, Q e) (s : σ) : Along step (fun _ e => Q e) s es := by
  induction es generalizing s with
  | nil => trivial
  | cons e es ih =>
    exact ⟨h e List.mem_cons_self, fun s' _ => ih (fun e he => h e (List.mem_cons_of_mem _ he)) s'⟩

/-- What each round of a loop that may fail preserves, the loop preserves. -/
theorem foldlM_invariant :
    ∀ {es : List ε} {s s' : σ}, (∀ e ∈ es, ∀ s s', I s → step s e = some s' → I s') →
      I s → es.foldlM step s = some s' → I s'
  | [], s, s', _, hI, h => by
    simp only [List.foldlM_nil, Option.pure_def, Option.some.injEq] at h
    exact h ▸ hI
  | e :: es, s, s', hstep, hI, h => by
    rw [List.foldlM_cons, Option.bind_eq_bind, Option.bind_eq_some_iff] at h
    obtain ⟨s₁, hs, hr⟩ := h
    have h₁ : I s₁ := hstep e List.mem_cons_self s s₁ hI hs
    exact foldlM_invariant (fun e he => hstep e (List.mem_cons_of_mem _ he)) h₁ hr

/-- A loop whose every round is defined is defined. -/
theorem foldlM_total (hstep : ∀ s e, I s → P s e → ∃ s', step s e = some s' ∧ I s') :
    ∀ {es : List ε} {s : σ}, I s → Along step P s es → ∃ s', es.foldlM step s = some s' ∧ I s'
  | [], s, hI, _ => ⟨s, rfl, hI⟩
  | e :: es, s, hI, ha => by
    obtain ⟨s₁, hs, h₁⟩ := hstep s e hI ha.1
    obtain ⟨s', hr, h'⟩ := foldlM_total hstep h₁ (ha.2 s₁ hs)
    exact ⟨s', by rw [List.foldlM_cons, hs]; exact hr, h'⟩

theorem Along.mono (h : ∀ s e, P s e → Q s e) :
    ∀ {es : List ε} {s : σ}, Along step P s es → Along step Q s es
  | [], _, _ => trivial
  | _ :: _, _, ha => ⟨h _ _ ha.1, fun s' hs => (ha.2 s' hs).mono h⟩

/-- A condition on the steps that follows from another one and an invariant of the steps that satisfy it. -/
theorem Along.of_invariant (hstep : ∀ s e s', I s → P s e → step s e = some s' → I s')
    (hPQ : ∀ s e, I s → P s e → Q s e) :
    ∀ {es : List ε} {s : σ}, I s → Along step P s es → Along step Q s es
  | [], _, _, _ => trivial
  | e :: _, s, hI, ha => ⟨hPQ s e hI ha.1, fun s' hs => (ha.2 s' hs).of_invariant hstep hPQ (hstep s e s' hI ha.1 hs)⟩

end Dpservice
